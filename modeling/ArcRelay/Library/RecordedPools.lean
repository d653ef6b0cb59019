/-
Module: ArcRelay.Library.RecordedPools
Purpose: Pools of programs over one shared world that keep what every program exchanged, and the
  invariant rule that goes with them.
Trusted boundary: none
-/
import ArcRelay.Library.ProgramRuns

namespace ArcRelay

/-!
A call of a pool is a program that was started with some arrival and has exchanged something
with the world since.  The pool keeps these exchanges, so a statement about a call (that it met
no error, what it read) is a statement about its history.  The other half is `Follows`: the
history of a call is a run of its program.  What a single program does, whatever it is answered,
is proved about its tree alone; what the answers have in common is an invariant of the world and
the histories.
-/

/-- What a call was started with and what it has exchanged, oldest first. -/
structure History (Arrival Op : Type) (Answer : Op → Type) where
  arrival : Arrival
  made : List (Exchange Op Answer)

/-- The world, the histories of the calls in the order they arrived, what calls returned and
which calls were dropped before they could. -/
structure Recorded (World Arrival Op : Type) (Answer : Op → Type) (Result : Type) where
  world : World
  histories : List (History Arrival Op Answer)
  returned : List (Nat × Result)
  dropped : List Nat

section Recording

variable {World Oracle Arrival Op Result : Type} {Answer : Op → Type}

def History.extend (exchange : Exchange Op Answer) (history : History Arrival Op Answer) :
    History Arrival Op Answer :=
  { history with made := history.made ++ [exchange] }

def Recorded.start (world : World) : Recorded World Arrival Op Answer Result :=
  ⟨world, [], [], []⟩

/-- Calls are numbered as they arrive.  `perform` is the world's side of one exchange. -/
def recordedMachine (program : Arrival → Program Op Answer Result)
    (perform : Nat → Oracle → World → (op : Op) → Option (Answer op × World)) :
    Machine Nat Oracle Arrival (Recorded World Arrival Op Answer Result) Op Answer Result where
  exec task oracle state op :=
    (perform task oracle state.world op).map fun (answer, world) =>
      (answer, { state with
        world := world
        histories := state.histories.modify task (·.extend ⟨op, answer⟩) })
  finish task value state := { state with returned := (task, value) :: state.returned }
  cancel task state := some { state with dropped := task :: state.dropped }
  arrive arrival state :=
    some ({ state with histories := state.histories ++ [⟨arrival, []⟩] },
      some (state.histories.length, program arrival))

/-! ### Histories -/

variable {histories : List (History Arrival Op Answer)} {task : Nat}
    {history : History Arrival Op Answer}

/-- The history of a call after some call exchanged once more. -/
theorem getElem?_extend {other : Nat} {exchange : Exchange Op Answer}
    (found : (histories.modify task (·.extend exchange))[other]? = some history) :
    (other ≠ task ∧ histories[other]? = some history) ∨
      ∃ before, other = task ∧ histories[task]? = some before ∧
        history = before.extend exchange := by
  rw [List.getElem?_modify] at found
  by_cases same : task = other
  · subst other
    obtain ⟨before, present, rfl⟩ := Option.map_eq_some_iff.mp found
    exact .inr ⟨before, rfl, present, by simp⟩
  · obtain ⟨before, present, rfl⟩ := Option.map_eq_some_iff.mp found
    exact .inl ⟨Ne.symm same, by simpa [same] using present⟩

theorem getElem?_extend_self (present : histories[task]? = some history)
    (exchange : Exchange Op Answer) :
    (histories.modify task (·.extend exchange))[task]? = some (history.extend exchange) := by
  simp [present]

theorem getElem?_extend_of_ne {other : Nat} (different : other ≠ task)
    (histories : List (History Arrival Op Answer)) (exchange : Exchange Op Answer) :
    (histories.modify task (·.extend exchange))[other]? = histories[other]? := by
  simp [different.symm]

/-- A newly arrived call has exchanged nothing. -/
theorem getElem?_arrived {arrival : Arrival}
    (found : (histories ++ [⟨arrival, []⟩])[task]? = some history) :
    histories[task]? = some history ∨
      task = histories.length ∧ history = ⟨arrival, []⟩ := by
  by_cases old : task < histories.length
  · rw [List.getElem?_append_left old] at found
    exact .inl found
  · rw [List.getElem?_append_right (by omega), List.getElem?_singleton] at found
    split at found
    · exact .inr ⟨by omega, (Option.some.inj found).symm⟩
    · cases found

theorem getElem?_arrived_of_some (present : histories[task]? = some history) (arrival : Arrival) :
    (histories ++ [⟨arrival, []⟩])[task]? = some history := by
  rw [List.getElem?_append_left (List.getElem?_eq_some_iff.mp present).1]
  exact present

/-! ### Histories are runs -/

theorem Program.Run.snoc {program : Program Op Answer Result}
    {made : List (Exchange Op Answer)} {op : Op} {next : Answer op → Program Op Answer Result}
    (run : Program.Run program made (.call op next)) (answer : Answer op) :
    Program.Run program (made ++ [⟨op, answer⟩]) (next answer) := by
  generalize stopped : Program.call op next = last at run
  induction run with
  | here =>
      subst stopped
      exact .call (.here _)
  | call _ ih => exact .call (ih stopped)

variable (program : Arrival → Program Op Answer Result)

/-- The call's history is a run of its program that leaves `rest`. -/
def Left (histories : List (History Arrival Op Answer)) (task : Nat)
    (rest : Program Op Answer Result) : Prop :=
  ∃ history, histories[task]? = some history ∧
    Program.Run (program history.arrival) history.made rest

/-- Every history is a run of its program: up to what is left of a running call, to the end of a
call that returned, and to the exchange at which a call was dropped. -/
structure Follows
    (config : Config Nat (Recorded World Arrival Op Answer Result) Op Answer Result) : Prop where
  running : ∀ task rest, config.tasks task = some rest →
    Left program config.state.histories task rest
  returned : ∀ task value, (task, value) ∈ config.state.returned →
    config.tasks task = none ∧ Left program config.state.histories task (.done value)
  dropped : ∀ task, task ∈ config.state.dropped →
    config.tasks task = none ∧ ∃ op next, Left program config.state.histories task (.call op next)

variable {program}
variable {rest : Program Op Answer Result}

theorem Left.arrived (left : Left program histories task rest) (arrival : Arrival) :
    Left program (histories ++ [⟨arrival, []⟩]) task rest := by
  obtain ⟨history, present, run⟩ := left
  exact ⟨history, getElem?_arrived_of_some present arrival, run⟩

theorem Left.other {other : Nat} (left : Left program histories other rest)
    (different : other ≠ task) (exchange : Exchange Op Answer) :
    Left program (histories.modify task (·.extend exchange)) other rest := by
  obtain ⟨history, present, run⟩ := left
  exact ⟨history, (getElem?_extend_of_ne different histories exchange).trans present, run⟩

theorem Left.next {op : Op} {next : Answer op → Program Op Answer Result}
    (left : Left program histories task (.call op next)) (answer : Answer op) :
    Left program (histories.modify task (·.extend ⟨op, answer⟩)) task (next answer) := by
  obtain ⟨history, present, run⟩ := left
  exact ⟨history.extend ⟨op, answer⟩, getElem?_extend_self present _, run.snoc answer⟩

theorem Left.lt_length (left : Left program histories task rest) : task < histories.length := by
  obtain ⟨history, present, _⟩ := left
  exact (List.getElem?_eq_some_iff.mp present).1

variable {perform : Nat → Oracle → World → (op : Op) → Option (Answer op × World)}
variable {config next : Config Nat (Recorded World Arrival Op Answer Result) Op Answer Result}

theorem Config.set_tasks_none {Task State : Type} [DecidableEq Task]
    {config : Config Task State Op Answer Result} {other : Task}
    (ended : config.tasks other = none) (task : Task) (state : State) :
    (config.set task none state).tasks other = none := by
  by_cases same : other = task
  · subst other
    exact config.set_tasks_self task none state
  · rw [config.set_tasks_of_ne _ _ same]
    exact ended

theorem Follows.step (follows : Follows program config) {action : Action Nat Oracle Arrival}
    (stepped : (recordedMachine program perform).step config action = some next) :
    Follows program next := by
  cases action with
  | arrive arrival =>
      rcases Machine.step_arrive_iff.mp stepped with
        ⟨state, arrived, -⟩ | ⟨state, task, started, arrived, free, rfl⟩
      · simp [recordedMachine] at arrived
      simp only [recordedMachine] at arrived
      cases arrived
      -- The new number is past every call that returned or was dropped.
      have unused : ∀ {task rest}, Left program config.state.histories task rest →
          task ≠ config.state.histories.length := fun left => left.lt_length.ne
      refine ⟨fun task rest found => ?_, fun task value member => ?_, fun task member => ?_⟩
      · by_cases new : task = config.state.histories.length
        · subst task
          rw [Config.set_tasks_self] at found
          cases found
          exact ⟨⟨arrival, []⟩, by simp, .here _⟩
        · rw [config.set_tasks_of_ne _ _ new] at found
          exact (follows.running task rest found).arrived arrival
      · obtain ⟨ended, left⟩ := follows.returned task value member
        rw [config.set_tasks_of_ne _ _ (unused left)]
        exact ⟨ended, left.arrived arrival⟩
      · obtain ⟨ended, op, rest, left⟩ := follows.dropped task member
        rw [config.set_tasks_of_ne _ _ (unused left)]
        exact ⟨ended, op, rest, left.arrived arrival⟩
  | run task =>
      obtain ⟨op, rest, answer, state, found, executed, rfl⟩ := Machine.step_run_iff.mp stepped
      simp only [recordedMachine, Option.map_eq_some_iff, Prod.exists, Prod.mk.injEq] at executed
      obtain ⟨_, world, _, rfl, rfl⟩ := executed
      have stopped : ∀ {other}, config.tasks other = none → other ≠ task := by
        rintro other ended rfl
        simp [ended] at found
      refine ⟨fun other remaining started => ?_, fun other value member => ?_,
        fun other member => ?_⟩
      · by_cases same : other = task
        · subst other
          rw [Config.set_tasks_self] at started
          cases started
          exact (follows.running task _ found).next _
        · rw [config.set_tasks_of_ne _ _ same] at started
          exact (follows.running other remaining started).other same _
      · obtain ⟨ended, left⟩ := follows.returned other value member
        rw [config.set_tasks_of_ne _ _ (stopped ended)]
        exact ⟨ended, left.other (stopped ended) _⟩
      · obtain ⟨ended, otherOp, otherNext, left⟩ := follows.dropped other member
        rw [config.set_tasks_of_ne _ _ (stopped ended)]
        exact ⟨ended, otherOp, otherNext, left.other (stopped ended) _⟩
  | finish task =>
      obtain ⟨value, found, rfl⟩ := Machine.step_finish_iff.mp stepped
      refine ⟨fun other rest started => ?_, fun other result member => ?_, fun other member => ?_⟩
      · have different : other ≠ task := by
          rintro rfl
          simp at started
        rw [config.set_tasks_of_ne _ _ different] at started
        exact follows.running other rest started
      · rcases List.mem_cons.mp member with same | earlier
        · obtain ⟨rfl, rfl⟩ := Prod.mk.inj same
          exact ⟨config.set_tasks_self _ _ _, follows.running other _ found⟩
        · obtain ⟨ended, left⟩ := follows.returned other result earlier
          exact ⟨Config.set_tasks_none ended _ _, left⟩
      · obtain ⟨ended, op, rest, left⟩ := follows.dropped other member
        exact ⟨Config.set_tasks_none ended _ _, op, rest, left⟩
  | cancel task =>
      obtain ⟨op, rest, state, found, cancelled, rfl⟩ := Machine.step_cancel_iff.mp stepped
      simp only [recordedMachine, Option.some.injEq] at cancelled
      subst cancelled
      refine ⟨fun other remaining started => ?_, fun other result member => ?_,
        fun other member => ?_⟩
      · have different : other ≠ task := by
          rintro rfl
          simp at started
        rw [config.set_tasks_of_ne _ _ different] at started
        exact follows.running other remaining started
      · obtain ⟨ended, left⟩ := follows.returned other result member
        exact ⟨Config.set_tasks_none ended _ _, left⟩
      · rcases List.mem_cons.mp member with rfl | earlier
        · exact ⟨config.set_tasks_self _ _ _, op, rest, follows.running other _ found⟩
        · obtain ⟨ended, otherOp, otherNext, left⟩ := follows.dropped other earlier
          exact ⟨Config.set_tasks_none ended _ _, otherOp, otherNext, left⟩

/-- The invariant rule: what holds of a world without calls, does not mind arrivals, and survives
every exchange of a call that follows its program, holds in every configuration some
interleaving reaches. -/
theorem Recorded.invariant {holds : World → List (History Arrival Op Answer) → Prop}
    {world : World} (initially : holds world [])
    (arrives : ∀ world histories arrival, holds world histories →
      holds world (histories ++ [⟨arrival, []⟩]))
    (exchanges : ∀ world histories task history op next oracle answer after,
      holds world histories → histories[task]? = some history →
      Program.Run (program history.arrival) history.made (.call op next) →
      perform task oracle world op = some (answer, after) →
      holds after (histories.modify task (·.extend ⟨op, answer⟩)))
    (reachable : Reachable (recordedMachine program perform) (.start world) config) :
    Follows program config ∧ holds config.state.world config.state.histories := by
  induction reachable with
  | start =>
      refine ⟨⟨?_, ?_, ?_⟩, initially⟩ <;> simp [Config.start, Recorded.start]
  | @step _ _ action _ stepped ih =>
      obtain ⟨follows, held⟩ := ih
      refine ⟨follows.step stepped, ?_⟩
      cases action with
      | arrive arrival =>
          rcases Machine.step_arrive_iff.mp stepped with
            ⟨state, arrived, -⟩ | ⟨state, task, started, arrived, -, rfl⟩
          · simp [recordedMachine] at arrived
          simp only [recordedMachine] at arrived
          cases arrived
          exact arrives _ _ arrival held
      | run task oracle =>
          obtain ⟨op, rest, answer, state, found, executed, rfl⟩ :=
            Machine.step_run_iff.mp stepped
          simp only [recordedMachine, Option.map_eq_some_iff, Prod.exists,
            Prod.mk.injEq] at executed
          obtain ⟨_, after, performed, rfl, rfl⟩ := executed
          obtain ⟨history, present, run⟩ := follows.running task _ found
          exact exchanges _ _ task history op rest oracle _ after held present run performed
      | finish =>
          obtain ⟨value, found, rfl⟩ := Machine.step_finish_iff.mp stepped
          exact held
      | cancel =>
          obtain ⟨op, rest, state, found, cancelled, rfl⟩ := Machine.step_cancel_iff.mp stepped
          simp only [recordedMachine, Option.some.injEq] at cancelled
          subst cancelled
          exact held

end Recording

end ArcRelay
