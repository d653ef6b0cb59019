/-
Module: ArcRelay.Library.ProgramRuns
Purpose: Runs of a single program against a world that answers as it likes, and what every call
  of every run satisfies.
Trusted boundary: none
-/
import ArcRelay.Library.Program

namespace ArcRelay

/-- A call of a program together with what it was answered. -/
structure Exchange (Op : Type) (Answer : Op → Type) where
  op : Op
  answer : Answer op

namespace Program

variable {Op First Second Failure : Type} {Answer : Op → Type}

/-- Carry out every call by a program over other calls. -/
def interpret {Lower : Type} {LowerAnswer : Lower → Type}
    (handler : (op : Op) → Program Lower LowerAnswer (Answer op)) :
    Program Op Answer First → Program Lower LowerAnswer First
  | .done value => .done value
  | .call op next => handler op >>= fun answer => (next answer).interpret handler

/-!
A run is a path through the program's tree.  It may stop anywhere: a run that stops at a call
is one whose call is still pending, or whose task was dropped there.
-/

/-- The calls a program made, oldest first, and what it still has to do. -/
inductive Run : Program Op Answer First → List (Exchange Op Answer) →
    Program Op Answer First → Prop where
  | here (program : Program Op Answer First) : Run program [] program
  | call {op : Op} {next : Answer op → Program Op Answer First} {answer : Answer op}
      {made : List (Exchange Op Answer)} {last : Program Op Answer First}
      (later : Run (next answer) made last) : Run (.call op next) (⟨op, answer⟩ :: made) last

variable {program last : Program Op Answer First} {made : List (Exchange Op Answer)}

/-- The first exchange of a run is the program's own first call. -/
theorem Run.cons {op : Op} {answer : Answer op} (run : Run program (⟨op, answer⟩ :: made) last) :
    ∃ next, program = .call op next ∧ Run (next answer) made last := by
  cases run with
  | call later => exact ⟨_, rfl, later⟩

/-- A program that makes one call and ends has made it or is still at it. -/
theorem Run.of_call_done {op : Op} {result : Answer op → First}
    (run : Run (.call op fun answer => .done (result answer)) made last) :
    (made = [] ∧ last = .call op fun answer => .done (result answer)) ∨
      ∃ answer, made = [⟨op, answer⟩] ∧ last = .done (result answer) := by
  cases run with
  | here => exact .inl ⟨rfl, rfl⟩
  | call later =>
      cases later with
      | here => exact .inr ⟨_, rfl, rfl⟩

/-- A run of two programs in sequence that ends is a run of the first followed by one of the
second. -/
theorem Run.of_bind {rest : First → Program Op Answer Second} {result : Second}
    (run : Run (program >>= rest) made (.done result)) :
    ∃ value first second, made = first ++ second ∧ Run program first (.done value) ∧
      Run (rest value) second (.done result) := by
  induction program generalizing made with
  | done value => exact ⟨value, [], made, rfl, .here _, run⟩
  | call _ _ ih =>
      cases run with
      | call later =>
          obtain ⟨value, first, second, rfl, head, tail⟩ := ih _ later
          exact ⟨value, _, second, rfl, .call head, tail⟩

theorem Run.bind {rest : First → Program Op Answer Second} {later : List (Exchange Op Answer)}
    {value : First} {last : Program Op Answer Second} (head : Run program made (.done value))
    (tail : Run (rest value) later last) :
    Run (program >>= rest) (made ++ later) last := by
  generalize ended : (.done value : Program Op Answer First) = finish at head
  induction head with
  | here =>
      subst ended
      exact tail
  | call _ ih => exact .call (ih ended)

/-- A run of one call that ends. -/
theorem Run.of_ask {op : Op} {result : Answer op}
    (run : Run (ask op : Program Op Answer (Answer op)) made (.done result)) :
    made = [⟨op, result⟩] := by
  cases run with
  | call later =>
      cases later with
      | here => rfl

/-- Whatever the world answers, every call made after the exchanges `made` satisfies `permitted`
of what was exchanged before it. -/
def Asks (permitted : List (Exchange Op Answer) → Op → Prop) :
    List (Exchange Op Answer) → Program Op Answer First → Prop
  | _, .done _ => True
  | made, .call op next =>
      permitted made op ∧ ∀ answer, (next answer).Asks permitted (made ++ [⟨op, answer⟩])

section Rules

variable {permitted : List (Exchange Op Answer) → Op → Prop} {made : List (Exchange Op Answer)}

@[simp] theorem asks_pure (value : First) :
    (pure value : Program Op Answer First).Asks permitted made := trivial

theorem asks_ask {op : Op} (allowed : permitted made op) :
    (ask op : Program Op Answer (Answer op)).Asks permitted made :=
  ⟨allowed, fun _ => trivial⟩

variable {program : Program Op Answer First}

/-- Sequencing: the second part may start after any exchanges of the first. -/
theorem asks_bind {rest : First → Program Op Answer Second} (head : program.Asks permitted made)
    (tail : ∀ value made, (rest value).Asks permitted made) :
    (program >>= rest).Asks permitted made := by
  induction program generalizing made with
  | done value => exact tail value made
  | call _ _ ih =>
      exact ⟨head.1, fun answer => ih answer (head.2 answer)⟩

/-- Sequencing of programs that can fail: after a failure nothing more is asked. -/
theorem asks_exceptT_bind {program : ExceptT Failure (Program Op Answer) First}
    {rest : First → ExceptT Failure (Program Op Answer) Second}
    (head : program.run.Asks permitted made)
    (tail : ∀ value made, (rest value).run.Asks permitted made) :
    (program >>= rest).run.Asks permitted made := by
  refine asks_bind head fun value made => ?_
  cases value with
  | error => exact asks_pure _
  | ok value => exact tail value made

theorem asks_exceptT_lift (asks : program.Asks permitted made) :
    (ExceptT.lift program : ExceptT Failure (Program Op Answer) First).run.Asks permitted made :=
  asks_bind asks fun _ _ => asks_pure _

@[simp] theorem asks_exceptT_throw (failure : Failure) :
    (throw failure : ExceptT Failure (Program Op Answer) First).run.Asks permitted made := trivial

@[simp] theorem asks_exceptT_pure (value : First) :
    (pure value : ExceptT Failure (Program Op Answer) First).run.Asks permitted made := trivial

/-- Along a run the calls still to come stay permitted. -/
theorem Run.asks {last : Program Op Answer First} {exchanged : List (Exchange Op Answer)}
    (run : Run program exchanged last) (asks : program.Asks permitted made) :
    last.Asks permitted (made ++ exchanged) := by
  induction run generalizing made with
  | here => simpa using asks
  | call _ ih =>
      simpa using ih (asks.2 _)

/-- The call at which a run stops was permitted. -/
theorem Run.call_permitted {exchanged : List (Exchange Op Answer)} {op : Op}
    {next : Answer op → Program Op Answer First} (run : Run program exchanged (.call op next))
    (asks : program.Asks permitted []) :
    permitted exchanged op :=
  (run.asks asks).1

end Rules

/-! ### What a program does and returns -/

/-- What a program may ask for, given the exchanges before, and what it may be answered. -/
structure Contract (Op : Type) (Answer : Op → Type) where
  permitted : List (Exchange Op Answer) → Op → Prop
  admits : (op : Op) → Answer op → Prop

/-- As long as its calls are answered as the contract admits, every call the program makes after
the exchanges `made` is permitted, and when it ends, everything exchanged and its result satisfy
`post`. -/
def Meets (contract : Contract Op Answer) (post : List (Exchange Op Answer) → First → Prop) :
    List (Exchange Op Answer) → Program Op Answer First → Prop
  | made, .done value => post made value
  | made, .call op next => contract.permitted made op ∧
      ∀ answer, contract.admits op answer → (next answer).Meets contract post (made ++ [⟨op, answer⟩])

section Contracts

variable {contract : Contract Op Answer} {made : List (Exchange Op Answer)}
  {post : List (Exchange Op Answer) → First → Prop}

theorem meets_mono {program : Program Op Answer First}
    {weaker : List (Exchange Op Answer) → First → Prop} (meets : program.Meets contract post made)
    (implied : ∀ made value, post made value → weaker made value) :
    program.Meets contract weaker made := by
  induction program generalizing made with
  | done value => exact implied made value meets
  | call _ _ ih =>
      exact ⟨meets.1, fun answer admitted => ih answer (meets.2 answer admitted)⟩

/-- Sequencing: the second part starts where the first part ends. -/
theorem meets_bind {program : Program Op Answer Second}
    {rest : Second → Program Op Answer First}
    (meets : program.Meets contract (fun made value => (rest value).Meets contract post made) made) :
    (program >>= rest).Meets contract post made := by
  induction program generalizing made with
  | done => exact meets
  | call _ _ ih =>
      exact ⟨meets.1, fun answer admitted => ih answer (meets.2 answer admitted)⟩

/-- Sequencing of programs that can fail: a failure ends the sequence. -/
theorem meets_exceptT_bind {code : ExceptT Failure (Program Op Answer) First}
    {rest : First → ExceptT Failure (Program Op Answer) Second}
    {post : List (Exchange Op Answer) → Except Failure Second → Prop}
    (first : code.run.Meets contract (fun made outcome =>
      match outcome with
      | .ok value => (rest value).run.Meets contract post made
      | .error failure => post made (.error failure)) made) :
    (code >>= rest).run.Meets contract post made := by
  refine meets_bind (meets_mono first fun made outcome went => ?_)
  cases outcome with
  | ok => exact went
  | error => exact went

/-- A run that was answered as admitted leaves a program that meets the same contract. -/
theorem Run.meets {program last : Program Op Answer First}
    {exchanged : List (Exchange Op Answer)} (run : Run program exchanged last)
    (admitted : ∀ exchange ∈ exchanged, contract.admits exchange.op exchange.answer)
    (meets : program.Meets contract post made) : last.Meets contract post (made ++ exchanged) := by
  induction run generalizing made with
  | here => simpa using meets
  | call _ ih =>
      simpa using ih (fun exchange member => admitted exchange (.tail _ member))
        (meets.2 _ (admitted _ (.head _)))

end Contracts

end Program

end ArcRelay
