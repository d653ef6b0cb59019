/-
Module: ArcRelay.Library.ProgramWorlds
Purpose: The world a program runs against: the run it gives when it answers by a rule, and what
  the exchanges of a run do to its state.
Trusted boundary: none
-/
import ArcRelay.Library.ProgramRuns

namespace ArcRelay

namespace Program

variable {Op Value : Type} {Answer : Op → Type}

/-- The exchanges of a program whose calls are answered by a rule, told the number of calls before,
and where the program gets with them; it stays at a call the rule does not answer. -/
def play (answers : Nat → (op : Op) → Option (Answer op)) :
    Nat → Program Op Answer Value → List (Exchange Op Answer) × Program Op Answer Value
  | _, .done value => ([], .done value)
  | count, .call op next =>
      match answers count op with
      | none => ([], .call op next)
      | some answer =>
          let played := (next answer).play answers (count + 1)
          (⟨op, answer⟩ :: played.1, played.2)

theorem run_play (answers : Nat → (op : Op) → Option (Answer op)) (count : Nat)
    (program : Program Op Answer Value) :
    Run program (program.play answers count).1 (program.play answers count).2 := by
  induction program generalizing count with
  | done => exact .here _
  | call op _ ih =>
      rw [play]
      cases answers count op with
      | none => exact .here _
      | some answer => exact .call (ih answer (count + 1))

/-- Everything played was answered by the rule. -/
theorem answered_of_mem_play {answers : Nat → (op : Op) → Option (Answer op)} {count : Nat}
    {program : Program Op Answer Value} {exchange : Exchange Op Answer}
    (member : exchange ∈ (program.play answers count).1) :
    ∃ place, answers place exchange.op = some exchange.answer := by
  induction program generalizing count with
  | done => cases member
  | call op next ih =>
      rw [play] at member
      cases rule : answers count op with
      | none =>
          rw [rule] at member
          cases member
      | some answer =>
          rw [rule] at member
          rcases List.mem_cons.mp member with rfl | later
          · exact ⟨count, rule⟩
          · exact ih answer later

/-- What a program returned, if it did. -/
def returned? : Program Op Answer Value → Option Value
  | .done value => some value
  | .call _ _ => none

theorem eq_done_of_returned? {program : Program Op Answer Value} {value : Value}
    (returned : program.returned? = some value) : program = .done value := by
  cases program with
  | done => rw [Option.some.inj returned]
  | call => cases returned

/-- A run past the point where its program returned has not gone anywhere. -/
theorem Run.of_done_append {program last : Program Op Answer Value} {value : Value}
    {made more : List (Exchange Op Answer)} (ended : Run program made (.done value))
    (run : Run program (made ++ more) last) : more = [] ∧ last = .done value := by
  induction made generalizing program with
  | nil =>
      cases ended with
      | here =>
          cases run with
          | here => exact ⟨rfl, rfl⟩
  | cons _ _ ih =>
      cases ended with
      | call later =>
          cases run with
          | call further => exact ih later further

end Program

section Worlds

variable {World Event : Type}

/-- The events, each served as `serves` tells, take the world from one state to another. -/
inductive Leads (serves : World → Event → World → Prop) : World → List Event → World → Prop where
  | nil (world : World) : Leads serves world [] world
  | cons {first middle last : World} {event : Event} {events : List Event}
      (served : serves first event middle) (later : Leads serves middle events last) :
      Leads serves first (event :: events) last

variable {serves : World → Event → World → Prop} {first middle last : World}

theorem Leads.append {events more : List Event} (head : Leads serves first events middle)
    (tail : Leads serves middle more last) : Leads serves first (events ++ more) last := by
  induction head with
  | nil => exact tail
  | cons served _ ih => exact .cons served (ih tail)

theorem leads_append_iff {events more : List Event} :
    Leads serves first (events ++ more) last ↔
      ∃ middle, Leads serves first events middle ∧ Leads serves middle more last := by
  constructor
  · intro leads
    induction events generalizing first with
    | nil => exact ⟨first, .nil first, leads⟩
    | cons _ _ ih =>
        cases leads with
        | cons served later =>
            obtain ⟨middle, head, tail⟩ := ih later
            exact ⟨middle, .cons served head, tail⟩
  · rintro ⟨middle, head, tail⟩
    exact head.append tail

/-- Events that each leave the world alone. -/
theorem Leads.eq_of_still {events : List Event} (leads : Leads serves first events last)
    (still : ∀ event ∈ events, ∀ first last, serves first event last → last = first) :
    last = first := by
  induction leads with
  | nil => rfl
  | cons served _ ih =>
      rw [List.forall_mem_cons] at still
      exact (ih still.2).trans (still.1 _ _ served)

/-- One sequence of events can stand for another: it leads wherever the other led. -/
def Replaces (serves : World → Event → World → Prop) (made kept : List Event) : Prop :=
  ∀ first last, Leads serves first made last → Leads serves first kept last

theorem Replaces.refl (made : List Event) : Replaces serves made made := fun _ _ leads => leads

theorem Replaces.append {made more kept rest : List Event} (head : Replaces serves made kept)
    (tail : Replaces serves more rest) : Replaces serves (made ++ more) (kept ++ rest) := by
  intro first last leads
  obtain ⟨middle, before, after⟩ := leads_append_iff.mp leads
  exact (head first middle before).append (tail middle last after)

theorem Replaces.flatMap {Item : Type} {made kept : Item → List Event} {items : List Item}
    (each : ∀ item ∈ items, Replaces serves (made item) (kept item)) :
    Replaces serves (items.flatMap made) (items.flatMap kept) := by
  induction items with
  | nil => exact .refl []
  | cons _ _ ih =>
      rw [List.flatMap_cons, List.flatMap_cons]
      rw [List.forall_mem_cons] at each
      exact each.1.append (ih each.2)

end Worlds

end ArcRelay
