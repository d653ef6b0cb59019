/-
Module: ArcRelay.Library.Transitions
Purpose: Systems of parties that take turns in any order, their runs, and runs whose every step
  meets a condition.
Trusted boundary: none
-/
import Mathlib

namespace ArcRelay

/-!
A transition system has one step function for all its parties.  An event names the party that
takes the next turn and whatever it is free to choose; a step is `none` where the party cannot
take that turn.  So a run is a list of events, and a statement about every interleaving is a
statement about every run.

Some statements hold only for runs whose steps meet a condition.  `RunsWhere` keeps the condition
with the run: it is asked of each event in the state the event meets.
-/

structure TransitionSystem (State Event : Type) where
  start : State
  step : State → Event → Option State

variable {State Event : Type}

/-- The run of `events` ends in a state, and each of its steps meets `condition`. -/
inductive RunsWhere (system : TransitionSystem State Event) (condition : State → Event → Prop) :
    List Event → State → Prop where
  | start : RunsWhere system condition [] system.start
  | step {events : List Event} {state next : State} {event : Event}
      (earlier : RunsWhere system condition events state) (meets : condition state event)
      (stepped : system.step state event = some next) :
      RunsWhere system condition (events ++ [event]) next

/-- Every run. -/
abbrev Runs (system : TransitionSystem State Event) : List Event → State → Prop :=
  RunsWhere system fun _ _ => True

section Rules

variable {system : TransitionSystem State Event} {condition : State → Event → Prop}
variable {events : List Event}

/-- What the start satisfies and every admitted step keeps holds after every run. -/
theorem RunsWhere.invariant {property : State → Prop} (initially : property system.start)
    (preserved : ∀ state event next, property state → condition state event →
      system.step state event = some next → property next) {state : State}
    (run : RunsWhere system condition events state) :
    property state := by
  induction run with
  | start => exact initially
  | step _ meets stepped ih =>
      exact preserved _ _ _ ih meets stepped

/-- A weaker condition admits the run as well. -/
theorem RunsWhere.weaken {weaker : State → Event → Prop} {state : State}
    (run : RunsWhere system condition events state)
    (implied : ∀ state event, condition state event → weaker state event) :
    RunsWhere system weaker events state := by
  induction run with
  | start => exact .start
  | step _ meets stepped ih =>
      exact .step ih (implied _ _ meets) stepped

/-- Play a list of events from a state, checking each step. -/
def TransitionSystem.replay (system : TransitionSystem State Event)
    (admits : State → Event → Bool) : State → List Event → Option State
  | state, [] => some state
  | state, event :: events =>
      if admits state event then
        match system.step state event with
        | none => none
        | some next => system.replay admits next events
      else none

theorem RunsWhere.replay_from {admits : State → Event → Bool}
    (sound : ∀ state event, admits state event = true → condition state event) {past : List Event}
    {state last : State} (run : RunsWhere system condition past state)
    (played : system.replay admits state events = some last) :
    RunsWhere system condition (past ++ events) last := by
  induction events generalizing past state with
  | nil =>
      simp only [TransitionSystem.replay, Option.some.injEq] at played
      rw [List.append_nil, ← played]
      exact run
  | cons event _ ih =>
      rw [TransitionSystem.replay] at played
      by_cases admitted : admits state event
      · rw [if_pos admitted] at played
        cases stepped : system.step state event with
        | none =>
            rw [stepped] at played
            cases played
        | some =>
            rw [stepped] at played
            rw [List.append_cons]
            exact ih (.step run (sound state event admitted) stepped) played
      · rw [if_neg admitted] at played
        cases played

/-- A replayed list of events is a run. -/
theorem RunsWhere.of_replay {admits : State → Event → Bool}
    (sound : ∀ state event, admits state event = true → condition state event) {last : State}
    (played : system.replay admits system.start events = some last) :
    RunsWhere system condition events last :=
  RunsWhere.replay_from sound .start played

/-- The same, with what evaluating the events has shown of their end. -/
theorem RunsWhere.exists_of_replay {admits : State → Event → Bool} {shown : State → Prop}
    [DecidablePred shown]
    (sound : ∀ state event, admits state event = true → condition state event)
    (played : (system.replay admits system.start events).any (fun last => decide (shown last)) =
      true) :
    ∃ last, RunsWhere system condition events last ∧ shown last := by
  rcases (Option.any_eq_true _ _).mp played with ⟨last, replayed, seen⟩
  exact ⟨last, .of_replay sound replayed, of_decide_eq_true seen⟩

theorem Runs.exists_of_replay {shown : State → Prop} [DecidablePred shown]
    (played : (system.replay (fun _ _ => true) system.start events).any
      (fun last => decide (shown last)) = true) :
    ∃ last, Runs system events last ∧ shown last :=
  RunsWhere.exists_of_replay (fun _ _ _ => trivial) played

end Rules

end ArcRelay
