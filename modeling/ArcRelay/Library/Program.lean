/-
Module: ArcRelay.Library.Program
Purpose: Asynchronous programs that may be suspended, interleaved and cancelled at every
  operation they ask for, and pools of such programs over one shared state.
Trusted boundary: none
-/
import Mathlib

namespace ArcRelay

/-!
An asynchronous function runs from one suspension point to the next without being
interrupted.  A `Program` keeps exactly the suspension points: each `call` is one
uninterrupted stretch of work on the shared state, and whatever the other tasks do happens
between two calls.  A task that is dropped never performs its remaining calls.
-/

/-- A program over operations `Op`, each with its own type of answers. -/
inductive Program (Op : Type) (Answer : Op → Type) (Result : Type) where
  | done (value : Result)
  | call (op : Op) (next : Answer op → Program Op Answer Result)

namespace Program

variable {Op : Type} {Answer : Op → Type} {First Second : Type}

protected def bind : Program Op Answer First → (First → Program Op Answer Second) →
    Program Op Answer Second
  | .done value, rest => rest value
  | .call op next, rest => .call op fun answer => (next answer).bind rest

instance : Monad (Program Op Answer) where
  pure := .done
  bind := .bind

/-- The program that performs one operation. -/
def ask (op : Op) : Program Op Answer (Answer op) := .call op .done

end Program

/-! ### Pools of tasks -/

/-- How the tasks of a pool act on the shared state.  `exec` answers an operation, or is
`none` while the task has to wait; what the outside world decides comes from an oracle.
`finish` is the effect of a task that ran to its end, `cancel` that of a task dropped at a
suspension point, and `arrive` admits new work. -/
structure Machine (Task Oracle Arrival State Op : Type) (Answer : Op → Type)
    (Result : Type) where
  exec : Task → Oracle → State → (op : Op) → Option (Answer op × State)
  finish : Task → Result → State → State
  cancel : Task → State → Option State
  arrive : Arrival → State → Option (State × Option (Task × Program Op Answer Result))

/-- The shared state and what every task still has to do. -/
structure Config (Task State Op : Type) (Answer : Op → Type) (Result : Type) where
  state : State
  tasks : Task → Option (Program Op Answer Result)

/-- One step of a pool. -/
inductive Action (Task Oracle Arrival : Type) where
  | arrive (arrival : Arrival)
  | run (task : Task) (oracle : Oracle)
  | finish (task : Task)
  | cancel (task : Task)

section Pool

variable {Task Oracle Arrival State Op Result : Type} {Answer : Op → Type} [DecidableEq Task]

def Config.start (state : State) : Config Task State Op Answer Result :=
  ⟨state, fun _ => none⟩

variable (config : Config Task State Op Answer Result)

/-- The task's remaining program and the shared state after one of its steps. -/
def Config.set (task : Task) (program : Option (Program Op Answer Result)) (state : State) :
    Config Task State Op Answer Result :=
  ⟨state, Function.update config.tasks task program⟩

@[simp] theorem Config.set_state (task : Task)
    (program : Option (Program Op Answer Result)) (state : State) :
    (config.set task program state).state = state := rfl

@[simp] theorem Config.set_tasks_self (task : Task)
    (program : Option (Program Op Answer Result)) (state : State) :
    (config.set task program state).tasks task = program :=
  Function.update_self _ _ _

theorem Config.set_tasks_of_ne {task other : Task}
    (program : Option (Program Op Answer Result)) (state : State) (different : other ≠ task) :
    (config.set task program state).tasks other = config.tasks other :=
  Function.update_of_ne different _ _

def Machine.step (machine : Machine Task Oracle Arrival State Op Answer Result)
    (config : Config Task State Op Answer Result) :
    Action Task Oracle Arrival → Option (Config Task State Op Answer Result)
  | .arrive arrival =>
      match machine.arrive arrival config.state with
      | none => none
      | some (state, none) => some { config with state := state }
      | some (state, some (task, program)) =>
          match config.tasks task with
          | none => some (config.set task (some program) state)
          | some _ => none
  | .run task oracle =>
      match config.tasks task with
      | some (.call op next) =>
          match machine.exec task oracle config.state op with
          | some (answer, state) => some (config.set task (some (next answer)) state)
          | none => none
      | _ => none
  | .finish task =>
      match config.tasks task with
      | some (.done value) =>
          some (config.set task none (machine.finish task value config.state))
      | _ => none
  | .cancel task =>
      match config.tasks task with
      | some (.call _ _) => (machine.cancel task config.state).map (config.set task none)
      | _ => none

/-! ### What one step is -/

section Steps

variable {machine : Machine Task Oracle Arrival State Op Answer Result}
variable {config next : Config Task State Op Answer Result} {task : Task}

theorem Machine.step_arrive_iff {arrival : Arrival} :
    machine.step config (.arrive arrival) = some next ↔
      (∃ state, machine.arrive arrival config.state = some (state, none) ∧
        next = { config with state := state }) ∨
      ∃ state task program,
        machine.arrive arrival config.state = some (state, some (task, program)) ∧
          config.tasks task = none ∧ next = config.set task (some program) state := by
  rw [Machine.step]
  rcases arrived : machine.arrive arrival config.state with - | ⟨state, - | ⟨task, program⟩⟩
  · simp
  · simp [eq_comm]
  · cases free : config.tasks task with
    | some => simp [free]
    | none => simp [free, eq_comm]

theorem Machine.step_run_iff {oracle : Oracle} :
    machine.step config (.run task oracle) = some next ↔
      ∃ op rest answer state, config.tasks task = some (.call op rest) ∧
        machine.exec task oracle config.state op = some (answer, state) ∧
          next = config.set task (some (rest answer)) state := by
  rw [Machine.step]
  rcases found : config.tasks task with - | ⟨value⟩ | ⟨op, rest⟩
  · simp
  · simp
  · dsimp only
    constructor
    · intro stepped
      rcases executed : machine.exec task oracle config.state op with - | ⟨answer, state⟩
      · rw [executed] at stepped
        cases stepped
      · rw [executed] at stepped
        exact ⟨op, rest, answer, state, rfl, executed, (Option.some.inj stepped).symm⟩
    · rintro ⟨op', rest', answer, state, same, executed, rfl⟩
      cases same
      rw [executed]

theorem Machine.step_finish_iff :
    machine.step config (.finish task) = some next ↔
      ∃ value, config.tasks task = some (.done value) ∧
        next = config.set task none (machine.finish task value config.state) := by
  rw [Machine.step]
  rcases found : config.tasks task with - | ⟨value⟩ | ⟨op, rest⟩ <;> simp [eq_comm]

theorem Machine.step_cancel_iff :
    machine.step config (.cancel task) = some next ↔
      ∃ op rest state, config.tasks task = some (.call op rest) ∧
        machine.cancel task config.state = some state ∧ next = config.set task none state := by
  rw [Machine.step]
  rcases found : config.tasks task with - | ⟨value⟩ | ⟨op, rest⟩
  · simp
  · simp
  · simp [eq_comm]

end Steps

/-- The configurations some interleaving reaches. -/
inductive Reachable (machine : Machine Task Oracle Arrival State Op Answer Result)
    (initial : State) : Config Task State Op Answer Result → Prop where
  | start : Reachable machine initial (.start initial)
  | step {config next : Config Task State Op Answer Result}
      {action : Action Task Oracle Arrival} (earlier : Reachable machine initial config)
      (stepped : machine.step config action = some next) : Reachable machine initial next

/-- Play a list of actions, first to last. -/
def Machine.replay (machine : Machine Task Oracle Arrival State Op Answer Result) :
    Config Task State Op Answer Result → List (Action Task Oracle Arrival) →
      Option (Config Task State Op Answer Result)
  | config, [] => some config
  | config, action :: actions =>
      match machine.step config action with
      | none => none
      | some next => machine.replay next actions

theorem Reachable.replay {machine : Machine Task Oracle Arrival State Op Answer Result}
    {initial : State} {config last : Config Task State Op Answer Result}
    (reachable : Reachable machine initial config) {actions : List (Action Task Oracle Arrival)}
    (played : machine.replay config actions = some last) : Reachable machine initial last := by
  induction actions generalizing config with
  | nil =>
      simp only [Machine.replay, Option.some.injEq] at played
      exact played ▸ reachable
  | cons action _ ih =>
      rw [Machine.replay] at played
      cases stepped : machine.step config action with
      | none => simp [stepped] at played
      | some =>
          rw [stepped] at played
          exact ih (.step reachable stepped) played

end Pool

end ArcRelay
