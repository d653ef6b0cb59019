/-
Module: ArcRelay.Server.ControlLoop
Purpose: The control loop of a connection with the tasks it spawns for requests: the map of
  outstanding requests, the completion channel, cancellation, and the writer between the loop
  and the client.
Trusted boundary: the runtime's tasks, channels and semaphore behave as documented; what a
  request computes and what the other handlers of the loop reply are chosen by the events.
-/
import ArcRelay.Library.HashMap
import ArcRelay.Library.Transitions
import ArcRelay.Server.Status

namespace ArcRelay.ControlLoop

/-!
Three kinds of parties run at once: the loop, which alone reads client frames and owns
`request_tasks`; the tasks it has spawned, one per accepted request; and the writer.  The model
gives each of them one step per access to what they share, so anything may happen between two of
them, also between the two tests of a task's `is_finished` that one frame can cause.

A task runs only while a worker polls it.  It may be suspended wherever it awaits, and it goes on
when it is polled again.  `abort` marks the task: a marked task is not polled again and is dropped
where it is suspended, but one that is being polled goes on to its next suspension, or to its end.

Client frames are numbered in the order they are sent.  A task has the number of the `Request`
frame that caused it, and a response carries the number of the frame it answers.  The numbers are
ghosts: nothing in the session reads them.
-/

/-- `MAX_CONCURRENT_REQUESTS`. -/
def maxConcurrentRequests : Nat := 16
/-- `CRITICAL_CONTROL_QUEUE_CAPACITY`. -/
def criticalControlQueueCapacity : Nat := 32
/-- The capacity of the channel `request_done_tx`. -/
def requestDoneCapacity : Nat := 32

/-! ### Frames -/

structure Response (Body : Type) where
  requestId : UInt64
  status : Option Status
  body : Option Body
deriving Repr, DecidableEq

/-- The body of a control frame; only responses matter here. -/
inductive FrameBody (Body Other : Type) where
  | response (response : Response Body)
  | other (other : Other)
deriving Repr, DecidableEq

structure ServerControlFrame (Body Other : Type) where
  body : Option (FrameBody Body Other)
deriving Repr, DecidableEq

section Frames

variable {Body Other : Type}

def serverFrame (body : FrameBody Body Other) : ServerControlFrame Body Other := ⟨some body⟩

def responseError (requestId : UInt64) (code : ErrorCode) (message errorId : String) :
    ServerControlFrame Body Other :=
  serverFrame (.response ⟨requestId, some (status code message errorId), none⟩)

def responseFrameForRequest (response : Response Body) (requestId : UInt64) :
    ServerControlFrame Body Other :=
  serverFrame (.response { response with requestId := requestId })

end Frames

/-- A client control frame.  Of a request the loop reads its id and whether it is a command. -/
inductive ClientFrame where
  | hello
  | request (requestId : UInt64) (command : Bool)
  | cancelRequest (requestId : UInt64)
  | subscribe (requestId : UInt64)
  | unsubscribe (requestId : UInt64)
  | ping (requestId : UInt64)
  | beginInputSession (requestId : UInt64)
  | endInputSession (requestId : UInt64)
  | transferOffer (requestId : UInt64)
  | transferAccept
  | transferCancel
  | transferProgress
  | missing
deriving Repr, DecidableEq

/-- A client frame on its way to the loop. -/
structure Inbound where
  number : Nat
  frame : ClientFrame
deriving Repr, DecidableEq

variable {Body Other : Type}

/-- A server frame on its way to the client.  `answers` is the number of the `Request` frame it
responds to. -/
structure Outgoing (Body Other : Type) where
  frame : ServerControlFrame Body Other
  answers : Option Nat

def Outgoing.response (number : Nat) (frame : ServerControlFrame Body Other) :
    Outgoing Body Other :=
  ⟨frame, some number⟩

/-- A frame that is not a `Response`. -/
def Outgoing.reply (body : Other) : Outgoing Body Other := ⟨serverFrame (.other body), none⟩

/-! ### Request tasks -/

/-- How the operation of a request ended, as its task sees it. -/
inductive OperationOutcome (Body : Type) where
  | answered (response : Response Body)
  | failed (error errorId : String)
  | timedOut

/-- What a request task still has to do. -/
inductive TaskPhase (Body Other : Type) where
  /-- awaiting the operation or its deadline -/
  | operating
  /-- in `send_critical` with the response -/
  | responding (frame : ServerControlFrame Body Other)
  /-- in `done.send` -/
  | notifying
  /-- the notice is in the channel; the permit is still held -/
  | leaving
  /-- the future is gone, with its permit -/
  | released
  /-- `is_finished` -/
  | finished

/-- The task has not queued its response, nor given up on it. -/
def TaskPhase.outstanding : TaskPhase Body Other → Bool
  | .operating | .responding _ => true
  | _ => false

/-- The task is at an await, with its completion notice still to come. -/
def TaskPhase.awaits : TaskPhase Body Other → Bool
  | .operating | .responding _ | .notifying => true
  | _ => false

def TaskPhase.holdsPermit : TaskPhase Body Other → Bool
  | .released | .finished => false
  | _ => true

def TaskPhase.isFinished : TaskPhase Body Other → Bool
  | .finished => true
  | _ => false

structure RequestTask (Body Other : Type) where
  requestId : UInt64
  command : Bool
  phase : TaskPhase Body Other
  /-- a worker is running the task -/
  polling : Bool
  /-- `abort` was called on its handle -/
  aborted : Bool

/-- The frame a task sends for the outcome of its operation. -/
def outcomeFrame (task : RequestTask Body Other) :
    OperationOutcome Body → ServerControlFrame Body Other
  | .answered response => responseFrameForRequest response task.requestId
  | .failed error errorId =>
      responseError task.requestId .internal ("request task failed: " ++ error) errorId
  | .timedOut =>
      responseError task.requestId .deadlineExceeded
        (if task.command then
          "command may continue in the background; retry with the same idempotency key"
        else "request deadline exceeded") ""

/-! ### The session -/

/-- How the loop ended. -/
inductive Ending where
  | close (code : Nat) (reason : String)
  /-- `send_critical` failed, and with it the loop -/
  | backpressured
  /-- another branch of the loop left it -/
  | left
deriving Repr, DecidableEq

/-- Where the loop is between two of its accesses to what it shares. -/
inductive LoopPoint (Body Other : Type) where
  | select
  /-- in `request_tasks.retain`, with these ids still to visit -/
  | pruning (inbound : Inbound) (unchecked : List UInt64)
  | dispatching (inbound : Inbound)
  /-- the task is spawned and not yet in `request_tasks` -/
  | registering (requestId : UInt64) (task : Nat)
  /-- the task was found unfinished, `abort` comes next -/
  | aborting (requestId : UInt64) (task : Nat)
  /-- in `send_critical` with the first of these frames -/
  | sending (frames : List (Outgoing Body Other))
  | ended (ending : Ending)

/-- The connection.  `asked` (the `Request` frames sent, with their ids), `accepted` and
`cancelled` (the tasks the loop took out of `request_tasks` to abort them) are ghosts. -/
structure Session (Body Other : Type) where
  sent : Nat
  inbound : List Inbound
  point : LoopPoint Body Other
  requestTasks : HashMap UInt64 Nat
  tasks : HashMap Nat (RequestTask Body Other)
  notices : List UInt64
  critical : List (Outgoing Body Other)
  wire : List (Outgoing Body Other)
  received : List (Outgoing Body Other)
  asked : List (Nat × UInt64)
  accepted : List Nat
  cancelled : List Nat

def Session.start : Session Body Other where
  sent := 0
  inbound := []
  point := .select
  requestTasks := ∅
  tasks := ∅
  notices := []
  critical := []
  wire := []
  received := []
  asked := []
  accepted := []
  cancelled := []

namespace Session

/-- `AbortHandle::is_finished`. -/
def isFinished (session : Session Body Other) (task : Nat) : Bool :=
  (session.tasks.lookup task).all fun record => record.phase.isFinished

variable (session : Session Body Other)

def permitsHeld : Nat :=
  HashMap.total session.tasks fun _ record => if record.phase.holdsPermit then 1 else 0

def close (session : Session Body Other) (code : Nat) (reason : String) : Session Body Other :=
  { session with point := .ended (.close code reason) }

def send (frames : List (Outgoing Body Other)) : Session Body Other :=
  { session with point := .sending frames }

def setTask (task : Nat) (record : RequestTask Body Other) : Session Body Other :=
  { session with tasks := session.tasks.insert task record }

/-- The `Request` branch, up to the spawn of the task. -/
def acceptRequest (number : Nat) (requestId : UInt64) (command : Bool) : Session Body Other :=
  if requestId = 0 then
    session.send [.response number
      (responseError requestId .invalidArgument "request id must be non-zero" "")]
  else if requestId ∈ session.requestTasks then
    session.close 6 "request id reused while outstanding"
  else if maxConcurrentRequests ≤ session.permitsHeld then
    session.send [.response number
      (responseError requestId .resourceExhausted "too many concurrent requests" "")]
  else
    { session.setTask number ⟨requestId, command, .operating, false, false⟩ with
      point := .registering requestId number }

/-- The `CancelRequest` branch, up to the call of `abort`. -/
def cancelRequest (requestId : UInt64) : Session Body Other :=
  if requestId = 0 then session.close 6 "invalid cancellation request id"
  else
    match session.requestTasks.lookup requestId with
    | none => { session with point := .select }
    | some task =>
        let session := { session with requestTasks := session.requestTasks.erase requestId }
        if session.isFinished task then { session with point := .select }
        else
          { session with
            point := .aborting requestId task
            cancelled := task :: session.cancelled }

/-- A branch that answers a zero id with a frame of its own kind. -/
def checkedBranch (requestId : UInt64) (replies : List Other) : Session Body Other :=
  if requestId = 0 then session.send (replies.map .reply)
  else if requestId ∈ session.requestTasks then
    session.close 6 "request id reused while outstanding"
  else session.send (replies.map .reply)

/-- A branch that closes the connection on a zero id. -/
def strictBranch (requestId : UInt64) (replies : List Other) : Session Body Other :=
  if requestId = 0 ∨ requestId ∈ session.requestTasks then
    session.close 6 "invalid or reused request id"
  else session.send (replies.map .reply)

/-- What the loop does with a frame.  `replies` are the frames the handlers of subscriptions,
pings, input sessions and transfers send. -/
def dispatch (inbound : Inbound) (replies : List Other) : Session Body Other :=
  match inbound.frame with
  | .hello => session.close 6 "control hello already received"
  | .request requestId command => session.acceptRequest inbound.number requestId command
  | .cancelRequest requestId => session.cancelRequest requestId
  | .subscribe requestId => session.checkedBranch requestId replies
  | .unsubscribe requestId => session.checkedBranch requestId replies
  | .ping requestId => session.strictBranch requestId replies
  | .beginInputSession requestId => session.checkedBranch requestId replies
  | .endInputSession requestId => session.checkedBranch requestId replies
  | .transferOffer requestId => session.strictBranch requestId replies
  | .transferAccept | .transferCancel | .transferProgress =>
      session.close 6 "file transfers are not negotiated"
  | .missing => session.close 6 "invalid control frame"

/-- One round of `request_tasks.retain`. -/
def pruneOne (requestId : UInt64) : Session Body Other :=
  if (session.requestTasks.lookup requestId).any session.isFinished then
    { session with requestTasks := session.requestTasks.erase requestId }
  else session

end Session

/-! ### Steps -/

/-- A turn of the loop. -/
inductive LoopEvent (Other : Type) where
  /-- the select takes the next client frame -/
  | receive
  /-- one round of `retain`, or its end -/
  | prune
  | dispatch (replies : List Other)
  /-- `request_tasks.insert` -/
  | register
  | abort
  /-- the frame in `send_critical` is queued -/
  | queue
  /-- `send_critical` times out -/
  | backpressure
  /-- the select takes a completion notice -/
  | complete
  /-- another branch of the select, which sends frames of its own -/
  | otherBranch (replies : List Other)
  | leave

/-- A turn of a request task. -/
inductive TaskEvent (Body : Type) where
  | poll
  /-- suspended at an await -/
  | suspend
  | operate (outcome : OperationOutcome Body)
  | respond
  /-- `send_critical` times out; the task ignores it -/
  | giveUp
  | notify
  | release
  | finish
  /-- the runtime drops an aborted task -/
  | drop

inductive Event (Body Other : Type) where
  | client (frame : ClientFrame)
  | loop (event : LoopEvent Other)
  | task (task : Nat) (event : TaskEvent Body)
  /-- the writer sends the first critical frame -/
  | write
  /-- the client receives the next frame -/
  | deliver

namespace Session

def clientStep (session : Session Body Other) (frame : ClientFrame) : Session Body Other :=
  { session with
    sent := session.sent + 1
    inbound := session.inbound ++ [⟨session.sent, frame⟩]
    asked :=
      match frame with
      | .request requestId _ => session.asked ++ [(session.sent, requestId)]
      | _ => session.asked }

def loopStep (session : Session Body Other) : LoopEvent Other → Option (Session Body Other)
  | .receive =>
      match session.point, session.inbound with
      | .select, frame :: rest =>
          some { session with
            inbound := rest
            point := .pruning frame session.requestTasks.keys }
      | _, _ => none
  | .prune =>
      match session.point with
      | .pruning frame [] => some { session with point := .dispatching frame }
      | .pruning frame (requestId :: unchecked) =>
          some { session.pruneOne requestId with point := .pruning frame unchecked }
      | _ => none
  | .dispatch replies =>
      match session.point with
      | .dispatching frame => some (session.dispatch frame replies)
      | _ => none
  | .register =>
      match session.point with
      | .registering requestId task =>
          some { session with
            point := .select
            requestTasks := session.requestTasks.insert requestId task
            accepted := task :: session.accepted }
      | _ => none
  | .abort =>
      match session.point with
      | .aborting requestId task =>
          match session.tasks.lookup task with
          | none => none
          | some record =>
              some ((session.setTask task { record with aborted := true }).send
                [.response task (responseError requestId .cancelled "request cancelled" "")])
      | _ => none
  | .queue =>
      match session.point with
      | .sending [] => some { session with point := .select }
      | .sending (frame :: frames) =>
          if session.critical.length < criticalControlQueueCapacity then
            some { session with
              critical := session.critical ++ [frame]
              point := .sending frames }
          else none
      | _ => none
  | .backpressure =>
      match session.point with
      | .sending (_ :: _) => some { session with point := .ended .backpressured }
      | _ => none
  | .complete =>
      match session.point, session.notices with
      | .select, requestId :: rest =>
          some { session with
            notices := rest
            requestTasks := session.requestTasks.erase requestId }
      | _, _ => none
  | .otherBranch replies =>
      match session.point with
      | .select => some (session.send (replies.map .reply))
      | _ => none
  | .leave =>
      match session.point with
      | .select => some { session with point := .ended .left }
      | _ => none

/-- The turns of a task with this record. -/
def taskStep (session : Session Body Other) (task : Nat) (record : RequestTask Body Other) :
    TaskEvent Body → Option (Session Body Other)
  | .poll =>
      if record.phase.awaits ∧ record.polling = false ∧ record.aborted = false then
        some (session.setTask task { record with polling := true })
      else none
  | .suspend =>
      if record.phase.awaits ∧ record.polling = true then
        some (session.setTask task { record with polling := false })
      else none
  | .operate outcome =>
      match record.phase, record.polling with
      | .operating, true =>
          some (session.setTask task
            { record with phase := .responding (outcomeFrame record outcome) })
      | _, _ => none
  | .respond =>
      match record.phase, record.polling with
      | .responding frame, true =>
          if session.critical.length < criticalControlQueueCapacity then
            some { session.setTask task { record with phase := .notifying } with
              critical := session.critical ++ [.response task frame] }
          else none
      | _, _ => none
  | .giveUp =>
      match record.phase, record.polling with
      | .responding _, true => some (session.setTask task { record with phase := .notifying })
      | _, _ => none
  | .notify =>
      match record.phase, record.polling with
      | .notifying, true =>
          if session.notices.length < requestDoneCapacity then
            some { session.setTask task { record with phase := .leaving } with
              notices := session.notices ++ [record.requestId] }
          else none
      | _, _ => none
  | .release =>
      match record.phase, record.polling with
      | .leaving, true => some (session.setTask task { record with phase := .released })
      | _, _ => none
  | .finish =>
      match record.phase, record.polling with
      | .released, true =>
          some (session.setTask task { record with phase := .finished, polling := false })
      | _, _ => none
  | .drop =>
      if record.phase.awaits ∧ record.polling = false ∧ record.aborted = true then
        some (session.setTask task { record with phase := .released, polling := true })
      else none

end Session

def step (session : Session Body Other) : Event Body Other → Option (Session Body Other)
  | .client frame => some (session.clientStep frame)
  | .loop event => session.loopStep event
  | .task task event =>
      match session.tasks.lookup task with
      | none => none
      | some record => session.taskStep task record event
  | .write =>
      match session.critical with
      | [] => none
      | frame :: rest => some { session with critical := rest, wire := session.wire ++ [frame] }
  | .deliver =>
      match session.wire with
      | [] => none
      | frame :: rest => some { session with wire := rest, received := session.received ++ [frame] }

/-- The connection from the moment its control loop starts. -/
def controlLoop (Body Other : Type) : TransitionSystem (Session Body Other) (Event Body Other) where
  start := .start
  step := step

end ArcRelay.ControlLoop
