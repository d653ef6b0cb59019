/-
Module: ArcRelay.Server.SessionTasks
Purpose: The tasks of a control session and its cleanup, whichever way the session ends.
Trusted boundary: a cleanup is the number of times it will still suspend, and the runtime keeps
  what it is given
-/
import ArcRelay.Library.Transitions

namespace ArcRelay.Lifecycle

/-- Live, with the join set and the cleanup; dropped, with the cleanup spawned; or gone. -/
inductive SessionTasks where
  | live (tasks : List Nat) (cleanup : Option Nat) (shuttingDown : Bool)
  | spawned (cleanup : Nat)
  | gone

/-- With how often the cleanup has suspended, and how often it has ended. -/
structure SessionState where
  session : SessionTasks
  suspended : Nat := 0
  ended : Nat := 0

inductive SessionEvent where
  | spawn (task : Nat)
  | joinNext (task : Nat)
  | shutdown
  | pollCleanup
  /-- The owner is dropped, inside a runtime or not. -/
  | drop (runtime : Bool)

def SessionState.step (state : SessionState) (event : SessionEvent) : Option SessionState :=
  match state.session, event with
  | .live tasks cleanup false, .spawn task =>
      some { state with session := .live (task :: tasks) cleanup false }
  | .live tasks cleanup shuttingDown, .joinNext task =>
      some { state with session := .live (tasks.erase task) cleanup shuttingDown }
  | .live tasks cleanup _, .shutdown =>
      some { state with session := .live tasks cleanup true }
  -- `tasks.shutdown()` has joined every task
  | .live [] (some 0) true, .pollCleanup =>
      some { state with session := .live [] none true, ended := state.ended + 1 }
  | .live [] (some (left + 1)) true, .pollCleanup =>
      some { state with session := .live [] (some left) true, suspended := state.suspended + 1 }
  | .live _ (some left) _, .drop true => some { state with session := .spawned left }
  | .live _ _ _, .drop _ => some { state with session := .gone }
  | .spawned 0, .pollCleanup => some { state with session := .gone, ended := state.ended + 1 }
  | .spawned (left + 1), .pollCleanup =>
      some { state with session := .spawned left, suspended := state.suspended + 1 }
  | _, _ => none

/-- `SessionTasks::new`, with a cleanup that suspends so many times. -/
def sessionSystem (suspensions : Nat) : TransitionSystem SessionState SessionEvent where
  start := ⟨.live [] (some suspensions) false, 0, 0⟩
  step := SessionState.step

/-! ### The cleanup runs once -/

def SessionTasks.pending : SessionTasks → Option Nat
  | .live _ cleanup _ => cleanup
  | .spawned cleanup => some cleanup
  | .gone => none

/-- The cleanup has begun only if no task is left, and all of it is done once and in turn. -/
structure CleansUp (suspensions : Nat) (state : SessionState) : Prop where
  joined : ∀ tasks cleanup shuttingDown, state.session = .live tasks cleanup shuttingDown →
    0 < state.suspended ∨ cleanup = none → tasks = [] ∧ shuttingDown = true
  progress : ∀ left, state.session.pending = some left →
    state.ended = 0 ∧ state.suspended + left = suspensions
  complete : state.session.pending = none → state.ended = 1 ∧ state.suspended = suspensions

theorem CleansUp.start (suspensions : Nat) :
    CleansUp suspensions (sessionSystem suspensions).start where
  joined := by
    rintro _ _ _ ⟨⟩ (begun | absent)
    · cases begun
    · cases absent
  progress := by
    rintro _ ⟨⟩
    exact ⟨rfl, Nat.zero_add suspensions⟩
  complete := nofun

/-- Only a poll moves the counts, and only a drop without cleanup leaves nothing pending. -/
theorem CleansUp.step {suspensions : Nat} {state next : SessionState} {event : SessionEvent}
    (cleansUp : CleansUp suspensions state) (inRuntime : event ≠ .drop false)
    (stepped : state.step event = some next) : CleansUp suspensions next := by
  obtain ⟨joined, progress, complete⟩ := cleansUp
  obtain ⟨session, suspended, ended⟩ := state
  dsimp only at joined progress complete
  simp only [SessionState.step] at stepped
  split at stepped
  -- a task is spawned, so the cleanup has not begun
  · cases stepped
    refine ⟨?_, progress, complete⟩
    rintro _ _ _ ⟨⟩ begun
    cases (joined _ _ _ rfl begun).2
  -- a task is joined
  · cases stepped
    refine ⟨?_, progress, complete⟩
    rintro _ _ _ ⟨⟩ begun
    obtain ⟨rfl, down⟩ := joined _ _ _ rfl begun
    exact ⟨rfl, down⟩
  -- the shutdown begins
  · cases stepped
    refine ⟨?_, progress, complete⟩
    rintro _ _ _ ⟨⟩ begun
    exact ⟨(joined _ _ _ rfl begun).1, rfl⟩
  -- the cleanup ends in the shutdown
  · cases stepped
    obtain ⟨unended, all⟩ := progress 0 rfl
    refine ⟨?_, nofun, fun _ => ⟨congrArg (· + 1) unended, all⟩⟩
    rintro _ _ _ ⟨⟩ _
    exact ⟨rfl, rfl⟩
  -- it suspends
  next left =>
    cases stepped
    refine ⟨?_, ?_, nofun⟩
    · rintro _ _ _ ⟨⟩ _
      exact ⟨rfl, rfl⟩
    · rintro _ ⟨⟩
      obtain ⟨unended, all⟩ := progress (left + 1) rfl
      exact ⟨unended, (Nat.add_right_comm suspended 1 left).trans all⟩
  -- the session is dropped and hands the cleanup over
  · cases stepped
    exact ⟨nofun, progress, complete⟩
  -- it is dropped when the cleanup is done
  next cleanup _ runtime unfinished =>
    cases stepped
    refine ⟨nofun, nofun, fun _ => complete ?_⟩
    cases cleanup with
    | none => rfl
    | some left =>
        cases runtime with
        | true => cases unfinished left rfl rfl
        | false => cases inRuntime rfl
  -- the spawned cleanup ends
  · cases stepped
    obtain ⟨unended, all⟩ := progress 0 rfl
    exact ⟨nofun, nofun, fun _ => ⟨congrArg (· + 1) unended, all⟩⟩
  -- it suspends
  next left =>
    cases stepped
    refine ⟨nofun, ?_, nofun⟩
    rintro _ ⟨⟩
    obtain ⟨unended, all⟩ := progress (left + 1) rfl
    exact ⟨unended, (Nat.add_right_comm suspended 1 left).trans all⟩
  · cases stepped

/-- Whenever a session is dropped inside a runtime, in a shutdown or not, its cleanup goes on where it
was until it has ended, once and without leaving anything out.  In a shutdown it begins when every
task has been joined. -/
theorem cleanup_runs_once {suspensions : Nat} {events : List SessionEvent} {state : SessionState}
    (run : RunsWhere (sessionSystem suspensions) (fun _ event => event ≠ .drop false) events state) :
    CleansUp suspensions state :=
  run.invariant (.start suspensions) fun _ _ _ cleansUp inRuntime stepped =>
    cleansUp.step inRuntime stepped

/-- A session is dropped while its shutdown waits for the cleanup, and the runtime finishes it. -/
theorem cleanup_runs_once_handedOver :
    ∃ state, RunsWhere (sessionSystem 1) (fun _ event => event ≠ .drop false)
        [.spawn 7, .shutdown, .joinNext 7, .pollCleanup, .drop true, .pollCleanup] state ∧
      state.ended = 1 := by
  have run : RunsWhere (sessionSystem 1) (fun _ event => event ≠ .drop false)
      [.spawn 7, .shutdown, .joinNext 7, .pollCleanup, .drop true, .pollCleanup] ⟨.gone, 1, 1⟩ :=
    .step (.step (.step (.step (.step (.step .start nofun rfl) nofun rfl) nofun rfl) nofun rfl)
      nofun rfl) nofun rfl
  exact ⟨_, run, ((cleanup_runs_once run).complete rfl).1⟩

end ArcRelay.Lifecycle
