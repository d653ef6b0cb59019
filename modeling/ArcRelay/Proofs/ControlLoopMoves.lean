/-
Module: ArcRelay.Proofs.ControlLoopMoves
Purpose: What one step of a connection can do, and how the numbers of frames, the tasks and the
  map of outstanding requests hang together in every state.
Trusted boundary: none
-/
import ArcRelay.Server.ControlLoop

namespace ArcRelay.ControlLoop

variable {Body Other : Type}

/-!
Every statement about the connection is an invariant, and every invariant is checked against each
thing a step can do.  `Moves` lists these things once, with the guards that matter; `TaskMove`
says together what the turns of a request task have in common.
-/

/-! ### Turns of a task -/

/-- The task can still send its completion notice: it has not yet, and it was not aborted, or a
worker is still running it.  A marked task that is suspended can only be dropped. -/
def RequestTask.canNotify (task : RequestTask Body Other) : Bool :=
  task.phase.awaits && (task.polling || !task.aborted)

/-- A turn of `task`: its record changes, and it may queue a response or send its notice. -/
structure TaskMove (session next : Session Body Other) (task : Nat)
    (record moved : RequestTask Body Other) (responses : List (Outgoing Body Other))
    (notices : List UInt64) : Prop where
  result : next =
    { session with
      tasks := session.tasks.insert task moved
      critical := session.critical ++ responses
      notices := session.notices ++ notices }
  requestId : moved.requestId = record.requestId
  aborted : moved.aborted = record.aborted
  unfinished : record.phase.isFinished = false
  outstanding : moved.phase.outstanding = true → record.phase.outstanding = true ∧ responses = []
  canNotify : moved.canNotify = true → record.canNotify = true ∧ notices = []
  polling : moved.phase.outstanding = true → moved.polling = true →
    record.polling = true ∨ record.aborted = false
  responds : responses = [] ∨ record.phase.outstanding = true ∧ record.polling = true ∧
    ∃ frame, responses = [.response task frame]
  notifies : notices = [] ∨ record.canNotify = true ∧ notices = [record.requestId]

variable {session : Session Body Other}

/-- A turn that only changes the record. -/
theorem TaskMove.quiet {task : Nat} {record moved : RequestTask Body Other}
    (requestId : moved.requestId = record.requestId) (aborted : moved.aborted = record.aborted)
    (unfinished : record.phase.isFinished = false)
    (outstanding : moved.phase.outstanding = true → record.phase.outstanding = true)
    (canNotify : moved.canNotify = true → record.canNotify = true)
    (polling : moved.phase.outstanding = true → moved.polling = true →
      record.polling = true ∨ record.aborted = false) :
    TaskMove session (session.setTask task moved) task record moved [] [] where
  result := by
    rw [List.append_nil, List.append_nil]
    rfl
  requestId := requestId
  aborted := aborted
  unfinished := unfinished
  outstanding := fun now => ⟨outstanding now, rfl⟩
  canNotify := fun now => ⟨canNotify now, rfl⟩
  polling := polling
  responds := .inl rfl
  notifies := .inl rfl

theorem unfinished_of_awaits {phase : TaskPhase Body Other} (awaits : phase.awaits = true) :
    phase.isFinished = false := by
  cases phase with
  | finished => cases awaits
  | _ => rfl

variable {next : Session Body Other}

/-- Every step of a task, whatever the task waits for, is one task move. -/
theorem taskMove_of_taskStep {task : Nat} {record : RequestTask Body Other}
    {event : TaskEvent Body} (stepped : session.taskStep task record event = some next) :
    ∃ moved responses notices, TaskMove session next task record moved responses notices := by
  rcases record with ⟨requestId, command, phase, polling, aborted⟩
  cases event with
  | poll =>
      simp only [Session.taskStep] at stepped
      split at stepped
      next guard =>
        cases stepped
        exact ⟨_, [], [], .quiet rfl rfl (unfinished_of_awaits guard.1) id
          (fun _ => by simp [RequestTask.canNotify, guard.1, guard.2.2])
          (fun _ _ => .inr guard.2.2)⟩
      · cases stepped
  | suspend =>
      simp only [Session.taskStep] at stepped
      split at stepped
      next guard =>
        cases stepped
        exact ⟨_, [], [], .quiet rfl rfl (unfinished_of_awaits guard.1) id
          (fun _ => by simp [RequestTask.canNotify, guard.1, guard.2])
          (fun _ polled => by cases polled)⟩
      · cases stepped
  | operate =>
      cases phase with
      | operating =>
          cases polling with
          | true =>
              cases stepped
              exact ⟨_, [], [], .quiet rfl rfl rfl (fun _ => rfl) (fun _ => rfl)
                (fun _ _ => .inl rfl)⟩
          | false => cases stepped
      | _ => cases stepped
  | respond =>
      cases phase with
      | responding frame =>
          cases polling with
          | true =>
              simp only [Session.taskStep] at stepped
              split at stepped
              · cases stepped
                refine ⟨⟨requestId, command, .notifying, true, aborted⟩, [.response task frame],
                  [], ?_⟩
                constructor
                · rw [List.append_nil]
                  rfl
                · rfl
                · rfl
                · rfl
                · intro outstanding
                  cases outstanding
                · exact fun _ => ⟨rfl, rfl⟩
                · intro outstanding
                  cases outstanding
                · exact .inr ⟨rfl, rfl, frame, rfl⟩
                · exact .inl rfl
              · cases stepped
          | false => cases stepped
      | _ => cases stepped
  | giveUp =>
      cases phase with
      | responding =>
          cases polling with
          | true =>
              cases stepped
              exact ⟨_, [], [], .quiet rfl rfl rfl (fun _ => rfl) (fun _ => rfl)
                (fun _ _ => .inl rfl)⟩
          | false => cases stepped
      | _ => cases stepped
  | notify =>
      cases phase with
      | notifying =>
          cases polling with
          | true =>
              simp only [Session.taskStep] at stepped
              split at stepped
              · cases stepped
                refine ⟨⟨requestId, command, .leaving, true, aborted⟩, [], [requestId], ?_⟩
                constructor
                · rw [List.append_nil]
                  rfl
                · rfl
                · rfl
                · rfl
                · intro outstanding
                  cases outstanding
                · intro canNotify
                  cases canNotify
                · intro outstanding
                  cases outstanding
                · exact .inl rfl
                · exact .inr ⟨rfl, rfl⟩
              · cases stepped
          | false => cases stepped
      | _ => cases stepped
  | release =>
      cases phase with
      | leaving =>
          cases polling with
          | true =>
              cases stepped
              exact ⟨_, [], [], .quiet rfl rfl rfl (by simp [TaskPhase.outstanding])
                (by simp [RequestTask.canNotify, TaskPhase.awaits]) (fun _ _ => .inl rfl)⟩
          | false => cases stepped
      | _ => cases stepped
  | finish =>
      cases phase with
      | released =>
          cases polling with
          | true =>
              cases stepped
              exact ⟨_, [], [], .quiet rfl rfl rfl (by simp [TaskPhase.outstanding])
                (by simp [RequestTask.canNotify, TaskPhase.awaits]) (fun _ _ => .inl rfl)⟩
          | false => cases stepped
      | _ => cases stepped
  | drop =>
      simp only [Session.taskStep] at stepped
      split at stepped
      next guard =>
        cases stepped
        exact ⟨_, [], [], .quiet rfl rfl (unfinished_of_awaits guard.1)
          (by simp [TaskPhase.outstanding])
          (by simp [RequestTask.canNotify, TaskPhase.awaits])
          (by simp [TaskPhase.outstanding])⟩
      · cases stepped

/-! ### Everything a step can do -/

/-- The id a frame must not share with an outstanding request. -/
def ClientFrame.checkedId : ClientFrame → Option UInt64
  | .request requestId _ | .subscribe requestId | .unsubscribe requestId | .ping requestId
  | .beginInputSession requestId | .endInputSession requestId | .transferOffer requestId =>
      some requestId
  | _ => none

/-- The connection was closed because of an id that is in use. -/
def reuseReasons : List Ending :=
  [.close 6 "request id reused while outstanding", .close 6 "invalid or reused request id"]

inductive Moves (session : Session Body Other) : Event Body Other → Session Body Other → Prop where
  | client (frame : ClientFrame) : Moves session (.client frame) (session.clientStep frame)
  | receive {frame : Inbound} {rest : List Inbound} (here : session.point = .select)
      (queued : session.inbound = frame :: rest) :
      Moves session (.loop .receive)
        { session with inbound := rest, point := .pruning frame session.requestTasks.keys }
  | prune {frame : Inbound} {requestId : UInt64} {unchecked : List UInt64}
      (here : session.point = .pruning frame (requestId :: unchecked)) :
      Moves session (.loop .prune)
        { session.pruneOne requestId with point := .pruning frame unchecked }
  | pruned {frame : Inbound} (here : session.point = .pruning frame []) :
      Moves session (.loop .prune) { session with point := .dispatching frame }
  /-- a request is answered without a task -/
  | turnAway {number : Nat} {requestId : UInt64} {command : Bool}
      {frame : ServerControlFrame Body Other} {replies : List Other}
      (here : session.point = .dispatching ⟨number, .request requestId command⟩) :
      Moves session (.loop (.dispatch replies)) (session.send [.response number frame])
  | accept {number : Nat} {requestId : UInt64} {command : Bool} {replies : List Other}
      (here : session.point = .dispatching ⟨number, .request requestId command⟩)
      (nonzero : requestId ≠ 0) (unused : session.requestTasks.lookup requestId = none)
      (free : session.permitsHeld < maxConcurrentRequests) :
      Moves session (.loop (.dispatch replies))
        { session.setTask number ⟨requestId, command, .operating, false, false⟩ with
          point := .registering requestId number }
  /-- there is no task to cancel -/
  | spare {inbound : Inbound} {replies : List Other} (here : session.point = .dispatching inbound) :
      Moves session (.loop (.dispatch replies)) { session with point := .select }
  /-- the task to cancel is finished -/
  | forget {number : Nat} {requestId : UInt64} {task : Nat} {replies : List Other}
      (here : session.point = .dispatching ⟨number, .cancelRequest requestId⟩)
      (found : session.requestTasks.lookup requestId = some task)
      (finished : session.isFinished task = true) :
      Moves session (.loop (.dispatch replies))
        { session with
          requestTasks := session.requestTasks.erase requestId
          point := .select }
  | cancel {number : Nat} {requestId : UInt64} {task : Nat} {replies : List Other}
      (here : session.point = .dispatching ⟨number, .cancelRequest requestId⟩)
      (found : session.requestTasks.lookup requestId = some task)
      (running : session.isFinished task = false) :
      Moves session (.loop (.dispatch replies))
        { session with
          requestTasks := session.requestTasks.erase requestId
          point := .aborting requestId task
          cancelled := task :: session.cancelled }
  | reply {event : LoopEvent Other} {replies : List Other}
      (here : session.point = .select ∨ ∃ inbound, session.point = .dispatching inbound) :
      Moves session (.loop event) (session.send (replies.map .reply))
  | close {inbound : Inbound} {replies : List Other} {ending : Ending}
      (here : session.point = .dispatching inbound)
      (reused : ending ∈ reuseReasons → ∃ requestId, inbound.frame.checkedId = some requestId ∧
        (requestId = 0 ∨ requestId ∈ session.requestTasks)) :
      Moves session (.loop (.dispatch replies)) { session with point := .ended ending }
  | register {requestId : UInt64} {task : Nat}
      (here : session.point = .registering requestId task) :
      Moves session (.loop .register)
        { session with
          point := .select
          requestTasks := session.requestTasks.insert requestId task
          accepted := task :: session.accepted }
  | abort {requestId : UInt64} {task : Nat} {record : RequestTask Body Other}
      {frame : ServerControlFrame Body Other}
      (here : session.point = .aborting requestId task)
      (found : session.tasks.lookup task = some record) :
      Moves session (.loop .abort)
        ((session.setTask task { record with aborted := true }).send [.response task frame])
  | idle (here : session.point = .sending []) :
      Moves session (.loop .queue) { session with point := .select }
  | queue {frame : Outgoing Body Other} {frames : List (Outgoing Body Other)}
      (here : session.point = .sending (frame :: frames)) :
      Moves session (.loop .queue)
        { session with critical := session.critical ++ [frame], point := .sending frames }
  | complete {requestId : UInt64} {rest : List UInt64} (here : session.point = .select)
      (queued : session.notices = requestId :: rest) :
      Moves session (.loop .complete)
        { session with
          notices := rest
          requestTasks := session.requestTasks.erase requestId }
  | leave {event : LoopEvent Other} {ending : Ending} (usual : ending ∉ reuseReasons) :
      Moves session (.loop event) { session with point := .ended ending }
  | task {task : Nat} {event : TaskEvent Body} {next : Session Body Other}
      {record moved : RequestTask Body Other} {responses : List (Outgoing Body Other)}
      {notices : List UInt64} (found : session.tasks.lookup task = some record)
      (move : TaskMove session next task record moved responses notices) :
      Moves session (.task task event) next
  | write {frame : Outgoing Body Other} {rest : List (Outgoing Body Other)}
      (queued : session.critical = frame :: rest) :
      Moves session .write { session with critical := rest, wire := session.wire ++ [frame] }
  | deliver {frame : Outgoing Body Other} {rest : List (Outgoing Body Other)}
      (sent : session.wire = frame :: rest) :
      Moves session .deliver
        { session with wire := rest, received := session.received ++ [frame] }

variable {requestId : UInt64} {replies : List Other}

/-- A request is refused, ends the session or is given a task. -/
theorem moves_of_acceptRequest {number : Nat} {command : Bool}
    (here : session.point = .dispatching ⟨number, .request requestId command⟩) :
    Moves session (.loop (.dispatch replies))
      (session.acceptRequest number requestId command) := by
  unfold Session.acceptRequest
  split
  · exact .turnAway here
  next nonzero =>
    split
    next used =>
      exact .close here fun _ => ⟨requestId, rfl, .inr used⟩
    next unused =>
      split
      · exact .turnAway here
      next free =>
        exact .accept here nonzero (AList.lookup_eq_none.mpr unused) (not_le.mp free)

theorem moves_of_cancelRequest {number : Nat}
    (here : session.point = .dispatching ⟨number, .cancelRequest requestId⟩) :
    Moves session (.loop (.dispatch replies)) (session.cancelRequest requestId) := by
  unfold Session.cancelRequest
  split
  · exact .close here fun reused => absurd reused (by decide)
  · split
    · exact .spare here
    next task found =>
      dsimp only
      split
      next finished =>
        exact .forget here found finished
      next running =>
        exact .cancel here found (Bool.eq_false_of_not_eq_true running)

variable {inbound : Inbound}

theorem moves_of_checkedBranch (here : session.point = .dispatching inbound)
    (checked : inbound.frame.checkedId = some requestId) :
    Moves session (.loop (.dispatch replies)) (session.checkedBranch requestId replies) := by
  unfold Session.checkedBranch
  split
  · exact .reply (.inr ⟨inbound, here⟩)
  · split
    next used =>
      exact .close here fun _ => ⟨requestId, checked, .inr used⟩
    · exact .reply (.inr ⟨inbound, here⟩)

theorem moves_of_strictBranch (here : session.point = .dispatching inbound)
    (checked : inbound.frame.checkedId = some requestId) :
    Moves session (.loop (.dispatch replies)) (session.strictBranch requestId replies) := by
  unfold Session.strictBranch
  split
  next used =>
    exact .close here fun _ => ⟨requestId, checked, used⟩
  · exact .reply (.inr ⟨inbound, here⟩)

/-- Whatever frame is in hand: one branch of the dispatch, one move. -/
theorem moves_of_dispatch (here : session.point = .dispatching inbound) :
    Moves session (.loop (.dispatch replies)) (session.dispatch inbound replies) := by
  rcases inbound with ⟨number, frame⟩
  cases frame with
  | request => exact moves_of_acceptRequest here
  | cancelRequest => exact moves_of_cancelRequest here
  | subscribe => exact moves_of_checkedBranch here rfl
  | unsubscribe => exact moves_of_checkedBranch here rfl
  | ping => exact moves_of_strictBranch here rfl
  | beginInputSession => exact moves_of_checkedBranch here rfl
  | endInputSession => exact moves_of_checkedBranch here rfl
  | transferOffer => exact moves_of_strictBranch here rfl
  | hello => exact .close here fun reused => absurd reused (by decide)
  | transferAccept => exact .close here fun reused => absurd reused (by decide)
  | transferCancel => exact .close here fun reused => absurd reused (by decide)
  | transferProgress => exact .close here fun reused => absurd reused (by decide)
  | missing => exact .close here fun reused => absurd reused (by decide)

/-- One move for every arm of the loop. -/
theorem moves_of_loopStep {event : LoopEvent Other} (stepped : session.loopStep event = some next) :
    Moves session (.loop event) next := by
  cases event <;> simp only [Session.loopStep] at stepped
  case receive =>
    split at stepped
    next here queued =>
      cases stepped
      exact .receive here queued
    · cases stepped
  case prune =>
    split at stepped
    next here =>
      cases stepped
      exact .pruned here
    next here =>
      cases stepped
      exact .prune here
    · cases stepped
  case dispatch =>
    split at stepped
    next here =>
      cases stepped
      exact moves_of_dispatch here
    · cases stepped
  case register =>
    split at stepped
    next here =>
      cases stepped
      exact .register here
    · cases stepped
  case abort =>
    split at stepped
    next here =>
      split at stepped
      · cases stepped
      next found =>
        cases stepped
        exact .abort here found
    · cases stepped
  case queue =>
    split at stepped
    next here =>
      cases stepped
      exact .idle here
    next here =>
      split at stepped
      · cases stepped
        exact .queue here
      · cases stepped
    · cases stepped
  case backpressure =>
    split at stepped
    · cases stepped
      exact .leave (by decide)
    · cases stepped
  case complete =>
    split at stepped
    next here queued =>
      cases stepped
      exact .complete here queued
    · cases stepped
  case otherBranch =>
    split at stepped
    next here =>
      cases stepped
      exact .reply (.inl here)
    · cases stepped
  case leave =>
    split at stepped
    · cases stepped
      exact .leave (by decide)
    · cases stepped

/-- The inversion of a step: proofs go on by cases on the move and never unfold the loop. -/
theorem moves_of_step {event : Event Body Other}
    (stepped : (controlLoop Body Other).step session event = some next) :
    Moves session event next := by
  change step session event = some next at stepped
  cases event with
  | client frame =>
      cases stepped
      exact .client frame
  | loop => exact moves_of_loopStep stepped
  | task task =>
      rw [step] at stepped
      split at stepped
      · cases stepped
      next record found =>
        rcases taskMove_of_taskStep stepped with ⟨moved, responses, notices, move⟩
        exact .task found move
  | write =>
      rw [step] at stepped
      split at stepped
      · cases stepped
      next queued =>
        cases stepped
        exact .write queued
  | deliver =>
      rw [step] at stepped
      split at stepped
      · cases stepped
      next sent =>
        cases stepped
        exact .deliver sent

end ArcRelay.ControlLoop
