/-
Module: ArcRelay.Library.Interference
Purpose: Pre- and postconditions for programs whose surroundings change at every suspension
  point, and the invariant rule for pools of them.
Trusted boundary: none
-/
import ArcRelay.Library.Program

namespace ArcRelay

/-!
Every task is verified alone, against what the others are allowed to do while it is
suspended (`rely`).  In return each of its own steps, and its cancellation wherever it may
strike, has to keep the invariant and stay within what the others rely on (`Allowed`).
-/

/-- An invariant of the shared state, and what each task relies on while it is suspended. -/
structure Discipline (Task State : Type) where
  invariant : State → Prop
  rely : Task → State → State → Prop

section Rules

variable {Task Oracle Arrival State Op Result First Second : Type} {Answer : Op → Type}
variable (machine : Machine Task Oracle Arrival State Op Answer Result)
variable (discipline : Discipline Task State) (task : Task)

/-- A step `task` may take. -/
def Discipline.Allowed (before after : State) : Prop :=
  discipline.invariant after ∧ ∀ other, other ≠ task → discipline.rely other before after

/-- What may happen while `task` is suspended. -/
def Discipline.Calm : State → State → Prop :=
  Relation.ReflTransGen fun before after =>
    discipline.rely task before after ∧ discipline.invariant after

/-- An assertion that survives whatever happens while `task` is suspended. -/
def Discipline.Stable (assertion : State → Prop) : Prop :=
  ∀ before after, discipline.invariant before → discipline.invariant after →
    discipline.rely task before after → assertion before → assertion after

variable {discipline task}

theorem Discipline.Stable.calm {assertion : State → Prop}
    (stable : discipline.Stable task assertion) {before after : State}
    (invariant : discipline.invariant before) (holds : assertion before)
    (calm : discipline.Calm task before after) :
    discipline.invariant after ∧ assertion after := by
  induction calm with
  | refl => exact ⟨invariant, holds⟩
  | tail _ step ih =>
      exact ⟨step.2, stable _ _ ih.1 step.2 step.1 ih.2⟩

variable (discipline task)

/-- The weakest precondition of a program of `task`: wherever it is suspended, its
cancellation is allowed, and so is each of its steps, down to the postcondition. -/
def Machine.wp : Program Op Answer First → (First → State → Prop) → State → Prop
  | .done value, post, state => post value state
  | .call op next, post, state =>
      ∀ resumed, discipline.Calm task state resumed → discipline.invariant resumed →
        (∀ after, machine.cancel task resumed = some after →
          discipline.Allowed task resumed after) ∧
        ∀ oracle answer after, machine.exec task oracle resumed op = some (answer, after) →
          discipline.Allowed task resumed after ∧ wp (next answer) post after

/-- From every state that satisfies the invariant and `pre`. -/
def Triple (pre : State → Prop) (program : Program Op Answer First)
    (post : First → State → Prop) : Prop :=
  ∀ state, discipline.invariant state → pre state →
    machine.wp discipline task program post state

variable {machine discipline task}
variable {program : Program Op Answer First} {state : State}

theorem Machine.wp_mono {strong weak : First → State → Prop}
    (weaken : ∀ value state, discipline.invariant state → strong value state → weak value state)
    (invariant : discipline.invariant state)
    (holds : machine.wp discipline task program strong state) :
    machine.wp discipline task program weak state := by
  induction program generalizing state with
  | done value => exact weaken value state invariant holds
  | call _ _ ih =>
      intro resumed calm resumedInvariant
      obtain ⟨cancelled, stepped⟩ := holds resumed calm resumedInvariant
      refine ⟨cancelled, fun oracle answer after executed => ?_⟩
      obtain ⟨allowed, rest⟩ := stepped oracle answer after executed
      exact ⟨allowed, ih answer allowed.1 rest⟩

theorem Machine.wp_bind {rest : First → Program Op Answer Second} {post : Second → State → Prop}
    (holds : machine.wp discipline task program
      (fun value => machine.wp discipline task (rest value) post) state) :
    machine.wp discipline task (program >>= rest) post state := by
  induction program generalizing state with
  | done => exact holds
  | call _ _ ih =>
      intro resumed calm invariant
      obtain ⟨cancelled, stepped⟩ := holds resumed calm invariant
      refine ⟨cancelled, fun oracle answer after executed => ?_⟩
      obtain ⟨allowed, follows⟩ := stepped oracle answer after executed
      exact ⟨allowed, ih answer follows⟩

variable {post : First → State → Prop}

/-- A suspended program does not notice what it relies on. -/
theorem Machine.wp_calm (stable : ∀ value, discipline.Stable task (post value)) {resumed : State}
    (invariant : discipline.invariant state) (calm : discipline.Calm task state resumed)
    (holds : machine.wp discipline task program post state) :
    machine.wp discipline task program post resumed := by
  cases program with
  | done value => exact ((stable value).calm invariant holds calm).2
  | call => exact fun later further => holds later (calm.trans further)

/-! ### Rules for triples -/

variable {pre : State → Prop}

theorem Triple.done {value : First}
    (holds : ∀ state, discipline.invariant state → pre state → post value state) :
    Triple machine discipline task pre (.done value) post :=
  holds

/-- One operation: its precondition survives the suspension, and from it both the
cancellation and the step are allowed. -/
theorem Triple.call {op : Op} {next : Answer op → Program Op Answer First}
    (between : Answer op → State → Prop) (stable : discipline.Stable task pre)
    (cancelled : ∀ state after, discipline.invariant state → pre state →
      machine.cancel task state = some after → discipline.Allowed task state after)
    (stepped : ∀ state oracle answer after, discipline.invariant state → pre state →
      machine.exec task oracle state op = some (answer, after) →
      discipline.Allowed task state after ∧ between answer after)
    (rest : ∀ answer, Triple machine discipline task (between answer) (next answer) post) :
    Triple machine discipline task pre (.call op next) post := by
  intro state invariant holds resumed calm resumedInvariant
  have kept := (stable.calm invariant holds calm).2
  refine ⟨fun after dropped => cancelled resumed after resumedInvariant kept dropped, ?_⟩
  intro oracle answer after executed
  obtain ⟨allowed, follows⟩ := stepped resumed oracle answer after resumedInvariant kept executed
  exact ⟨allowed, rest answer after allowed.1 follows⟩

theorem Triple.bind {rest : First → Program Op Answer Second} {post : Second → State → Prop}
    (between : First → State → Prop) (first : Triple machine discipline task pre program between)
    (second : ∀ value, Triple machine discipline task (between value) (rest value) post) :
    Triple machine discipline task pre (program >>= rest) post := by
  intro state invariant holds
  apply Machine.wp_bind
  exact Machine.wp_mono (fun value after afterInvariant => second value after afterInvariant)
    invariant (first state invariant holds)

theorem Triple.weaken {pre' : State → Prop} {post' : First → State → Prop}
    (triple : Triple machine discipline task pre program post)
    (before : ∀ state, discipline.invariant state → pre' state → pre state)
    (after : ∀ value state, discipline.invariant state → post value state → post' value state) :
    Triple machine discipline task pre' program post' :=
  fun state invariant holds =>
    Machine.wp_mono after invariant (triple state invariant (before state invariant holds))

/-- Name what the state shows before the program runs. -/
theorem Triple.observe {Observed : Type} (observe : State → Observed)
    (triple : ∀ observed, Triple machine discipline task
      (fun state => pre state ∧ observe state = observed) program post) :
    Triple machine discipline task pre program post :=
  fun state invariant holds => triple (observe state) state invariant ⟨holds, rfl⟩

/-! ### Whole pools -/

/-- The task may end here, whenever it gets to. -/
def Finishes (machine : Machine Task Oracle Arrival State Op Answer Result)
    (discipline : Discipline Task State) (task : Task) (value : Result) (state : State) : Prop :=
  ∀ resumed, discipline.Calm task state resumed → discipline.invariant resumed →
    discipline.Allowed task resumed (machine.finish task value resumed)

theorem Finishes.stable (value : Result) :
    discipline.Stable task (Finishes machine discipline task value) := by
  intro before after _ invariant rely finishes resumed calm resumedInvariant
  exact finishes resumed (calm.head ⟨rely, invariant⟩) resumedInvariant

theorem Finishes.of_stable {value : Result} {assertion : State → Prop}
    (stable : discipline.Stable task assertion)
    (allowed : ∀ state, discipline.invariant state → assertion state →
      discipline.Allowed task state (machine.finish task value state))
    (invariant : discipline.invariant state) (holds : assertion state) :
    Finishes machine discipline task value state := by
  intro resumed calm resumedInvariant
  exact allowed resumed resumedInvariant (stable.calm invariant holds calm).2

/-- Every kind of work that arrives is admitted within the rules and verified. -/
structure Verified (machine : Machine Task Oracle Arrival State Op Answer Result)
    (discipline : Discipline Task State) : Prop where
  event : ∀ state arrival after, discipline.invariant state →
    machine.arrive arrival state = some (after, none) →
      discipline.invariant after ∧ ∀ task, discipline.rely task state after
  work : ∀ state arrival after task program, discipline.invariant state →
    machine.arrive arrival state = some (after, some (task, program)) →
      discipline.Allowed task state after ∧
        machine.wp discipline task program (Finishes machine discipline task) after

variable [DecidableEq Task]

/-- The invariant, and what is left of every task is verified. -/
structure Running (machine : Machine Task Oracle Arrival State Op Answer Result)
    (discipline : Discipline Task State) (config : Config Task State Op Answer Result) :
    Prop where
  invariant : discipline.invariant config.state
  tasks : ∀ task program, config.tasks task = some program →
    machine.wp discipline task program (Finishes machine discipline task) config.state

variable {config : Config Task State Op Answer Result}

/-- A step of one task leaves the others verified. -/
theorem Running.set (running : Running machine discipline config) {task : Task}
    {program : Option (Program Op Answer Result)} {after : State}
    (allowed : discipline.Allowed task config.state after)
    (verified : ∀ rest, program = some rest →
      machine.wp discipline task rest (Finishes machine discipline task) after) :
    Running machine discipline (config.set task program after) := by
  refine ⟨allowed.1, fun other rest found => ?_⟩
  by_cases same : other = task
  · subst other
    rw [Config.set_tasks_self] at found
    exact verified rest found
  · rw [config.set_tasks_of_ne _ _ same] at found
    exact Machine.wp_calm Finishes.stable running.invariant
      (.single ⟨allowed.2 other same, allowed.1⟩) (running.tasks other rest found)

theorem Running.step (verified : Verified machine discipline)
    {next : Config Task State Op Answer Result} (running : Running machine discipline config)
    {action : Action Task Oracle Arrival} (stepped : machine.step config action = some next) :
    Running machine discipline next := by
  cases action with
  | arrive =>
      rcases Machine.step_arrive_iff.mp stepped with
        ⟨after, arrived, rfl⟩ | ⟨after, task, program, arrived, -, rfl⟩
      · obtain ⟨invariant, rely⟩ := verified.event _ _ _ running.invariant arrived
        exact ⟨invariant, fun task program found =>
          Machine.wp_calm Finishes.stable running.invariant
            (.single ⟨rely task, invariant⟩) (running.tasks task program found)⟩
      · obtain ⟨allowed, work⟩ := verified.work _ _ _ _ _ running.invariant arrived
        exact running.set allowed fun rest started => Option.some.inj started ▸ work
  | run task oracle =>
      obtain ⟨op, rest, answer, after, found, executed, rfl⟩ := Machine.step_run_iff.mp stepped
      obtain ⟨allowed, follows⟩ := (running.tasks task _ found config.state .refl
        running.invariant).2 oracle answer after executed
      exact running.set allowed fun rest resumed => Option.some.inj resumed ▸ follows
  | finish task =>
      obtain ⟨value, found, rfl⟩ := Machine.step_finish_iff.mp stepped
      have finishes := running.tasks task _ found
      exact running.set (finishes config.state .refl running.invariant) (by simp)
  | cancel task =>
      obtain ⟨op, rest, after, found, cancelled, rfl⟩ := Machine.step_cancel_iff.mp stepped
      have allowed := (running.tasks task _ found config.state .refl
        running.invariant).1 after cancelled
      exact running.set allowed (by simp)

/-- The invariant rule: it holds in every configuration some interleaving reaches. -/
theorem Verified.reachable (verified : Verified machine discipline) {initial : State}
    (start : discipline.invariant initial) (reachable : Reachable machine initial config) :
    Running machine discipline config := by
  induction reachable with
  | start => exact ⟨start, by simp [Config.start]⟩
  | step _ stepped ih => exact ih.step verified stepped

end Rules

end ArcRelay
