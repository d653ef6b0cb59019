/-
Module: ArcRelay.Server.InputControl
Purpose: What the control connections share on their input side, and the operations their
  tasks perform on it between two suspension points.
Trusted boundary: native input control, the workspace router, the decoder of wire events and
  the domain's events are parameters; a dropped native or router call has no later effect.
-/
import ArcRelay.Library.Program
import ArcRelay.Server.InputSession
import ArcRelay.Server.Status

namespace ArcRelay.InputControl

open InputSession

/-!
Each operation below is what a task does between two suspension points.  Where the source
performs two effects without suspending in between, they are one operation: `acquire` stores
the lease in the connection's slot, and `release` clears the slot.
-/

def maxReliableEventsPerFrame : Nat := 64

/-- A control connection of the server. -/
abbrev ConnectionId := Nat

/-- The tasks of a connection that touch input: its control loop, its reliable input stream,
and the cleanup its session owns. -/
inductive Task where
  | control (connection : ConnectionId)
  | stream (connection : ConnectionId)
  | cleanup (connection : ConnectionId)
deriving Repr, DecidableEq

def Task.connection : Task → ConnectionId
  | .control connection => connection
  | .stream connection => connection
  | .cleanup connection => connection

/-- The life of a session: its control loop runs, has ended, its cleanup runs, has run. -/
inductive Phase where
  | unused | serving | ended | cleaning | cleaned
deriving Repr, DecidableEq

structure Connection where
  deviceId : String
  deviceName : String
  phase : Phase
  /-- `active_input`. -/
  slot : Option InputLease
  /-- Who holds the mutex around `active_input`. -/
  slotGuard : Option Task
  /-- `reliable_input_stream_open`. -/
  streamOpen : Bool
deriving Repr, DecidableEq

def Connection.unused : Connection where
  deviceId := ""
  deviceName := ""
  phase := .unused
  slot := none
  slotGuard := none
  streamOpen := false

variable (Button Gesture Other Sequence Wire : Type)

/-- A call to the host or to the workspace router, with the lease it is made for. -/
inductive HostCall where
  | applyEvents (lease : InputLease) (events : List (InputEvent Button Gesture Other))
  | releaseAll (lease : InputLease)
  | routerBegin (lease : InputLease)
  | routerApply (lease : InputLease) (events : List (InputEvent Button Gesture Other))
  | routerEnd (lease : InputLease)

/-- What happens to leases and to the machine. -/
inductive LogEvent where
  | acquired (connection : ConnectionId) (lease : InputLease) (workspaceRouted : Bool)
  | started (call : HostCall Button Gesture Other)
  | returned (call : HostCall Button Gesture Other)
  | dropped (connection : ConnectionId) (lease : InputLease)

/-- An event with the task behind it, who held the apply gate, and which leases the manager
held. -/
structure Record where
  event : LogEvent Button Gesture Other
  actor : Task
  gate : Option Task
  active : List InputLease

/-- What the connections share, with the log of what happened, newest first. -/
structure SharedState where
  manager : InputSessionState Button Sequence
  gate : Option Task
  connections : ConnectionId → Connection
  log : List (Record Button Gesture Other)

inductive PermissionState where
  | granted | denied | unsupported
deriving Repr, DecidableEq

inductive WorkspaceInputRouteState where
  | active | suspended | ended
deriving Repr, DecidableEq

inductive WorkspaceInputFocusCause where
  | sessionStarted | mobilePortal | desktopPortal | physicalActivity | sessionEnded
  | gatewayUnavailable
deriving Repr, DecidableEq

structure WorkspaceInputSnapshot where
  ownerDeviceId : Option String
  controllerDeviceId : String
  logicalTargetDeviceId : String
  targetDisplayId : String
  controlEpoch : UInt64
  supportsSystemGestures : Bool
  state : WorkspaceInputRouteState
  cause : WorkspaceInputFocusCause
  message : String
deriving Repr, DecidableEq

structure InputSessionResult where
  requestId : UInt64
  status : Status
  lease : InputLease
  permissionState : PermissionState
  leaseTimeoutMs : Nat
  maxReliableEventsPerFrame : Nat
  maxReliableFrameRate : Nat
  supportsSystemGestures : Bool
  workspaceRoutingActive : Bool
  gatewayDeviceId : String
  logicalTargetDeviceId : String
  targetDisplayId : String
  controlEpoch : UInt64
deriving Repr, DecidableEq

/-- The frames the input handlers send; a focus frame without a lease carries zeros. -/
inductive ControlFrame where
  | inputSessionResult (result : InputSessionResult)
  | inputFeedback (lease : InputLease) (feedback : InputFeedbackSnapshot) (status : Status)
  | inputFocusChanged (lease : InputLease) (focus : WorkspaceInputSnapshot)
deriving Repr, DecidableEq

inductive ServerEvent where
  | inputPermissionRequired (deviceName : String)
  | inputSessionStarted (lease : InputLease) (deviceId deviceName : String)
  | inputSessionEnded (lease : InputLease) (deviceId deviceName : String)
  | deviceDisconnected (deviceId deviceName : String)
deriving Repr, DecidableEq

structure Motion where
  pointerTotalX256 : Int
  pointerTotalY256 : Int
  scrollTotalX256 : Int
  scrollTotalY256 : Int
  preciseScroll : Bool
deriving Repr, DecidableEq

structure ReliableInputFrame where
  sessionId : UInt64
  epoch : UInt32
  sequence : UInt64
  elapsedUs : UInt64
  events : List Wire
  motion : Option Motion

/-- The parts of the host and the domain the handlers call without suspending. -/
structure Host where
  gestures : Gestures Gesture Sequence
  convertReliableEvents : List Wire → Except String (List (InputEvent Button Gesture Other))
  validateEvents : List (InputEvent Button Gesture Other) → Option String
  pointerMove : Int → Int → Other
  scroll : Int → Int → Bool → Other

/-- The operations of the input handlers. -/
inductive Op where
  | lockGate
  | unlockGate
  | readSlot
  | lockSlot
  | unlockSlot
  | acquire (deviceId : String) (workspaceRouted : Bool)
  | isWorkspaceRouted (lease : InputLease) (deviceId : String)
  | isExpired (lease : InputLease) (deviceId : String)
  | cancelIdleSystemGesture (lease : InputLease) (deviceId : String)
  | acceptReliable (lease : InputLease) (deviceId : String) (sequence elapsedUs : UInt64)
  | normalizeReliableEvents (lease : InputLease) (deviceId : String)
      (events : List (InputEvent Button Gesture Other))
  | acceptOrderedMotion (lease : InputLease) (deviceId : String) (motion : Motion)
  | start (call : HostCall Button Gesture Other)
  | finish (call : HostCall Button Gesture Other)
  | release (lease : InputLease)
  | sendEvent (event : ServerEvent)
  | sendCritical (frame : ControlFrame)
  | unregister

variable {Button Gesture Other Sequence Wire}

def HostCall.Answer : HostCall Button Gesture Other → Type
  | .routerBegin _ => Except HostCapabilityError WorkspaceInputSnapshot
  | _ => Except HostCapabilityError Unit

def Op.Answer : Op Button Gesture Other → Type
  | .readSlot => Option InputLease
  | .lockSlot => Option InputLease
  | .acquire _ _ => Except String InputLease
  | .isWorkspaceRouted _ _ => Bool
  | .isExpired _ _ => Bool
  | .cancelIdleSystemGesture _ _ => List (InputEvent Button Gesture Other)
  | .acceptReliable _ _ _ _ => Except String InputFeedbackSnapshot
  | .normalizeReliableEvents _ _ _ =>
      CallOutcome (Except String (List (InputEvent Button Gesture Other)))
  | .acceptOrderedMotion _ _ _ => Except String MotionDelta
  | .finish call => call.Answer
  | .sendCritical _ => Except String Unit
  | _ => Unit

variable [DecidableEq Button]

/-- What the outside decides at one operation: clock readings, random draws, the drain order,
and how a call to the host, the router or the writer ends. -/
structure Oracle (Button : Type) [DecidableEq Button] where
  checkAt : Instant
  now : Instant
  draws : List (UInt64 × UInt32)
  contexts : Nat → EventContext Button
  order : DrainOrder Button
  result : Except HostCapabilityError Unit
  route : Except HostCapabilityError WorkspaceInputSnapshot
  sent : Except String Unit

namespace SharedState

variable (state : SharedState Button Gesture Other Sequence)

def setConnection (connection : ConnectionId) (value : Connection) :
    SharedState Button Gesture Other Sequence :=
  { state with connections := Function.update state.connections connection value }

/-- Add an event to the log, stamped with its task, the gate and the manager's leases. -/
def record (task : Task) (event : LogEvent Button Gesture Other) :
    SharedState Button Gesture Other Sequence :=
  { state with log := ⟨event, task, state.gate, state.manager.active.keys⟩ :: state.log }

/-- Drop the guard of the apply gate. -/
def dropGate (task : Task) : SharedState Button Gesture Other Sequence :=
  if state.gate = some task then { state with gate := none } else state

/-- Drop the guard of the connection's slot. -/
def dropSlot (task : Task) : SharedState Button Gesture Other Sequence :=
  let connection := state.connections task.connection
  if connection.slotGuard = some task then
    state.setConnection task.connection { connection with slotGuard := none }
  else state

end SharedState

/-! ### Operations -/

/-- `none` while the task waits for a mutex, or the identifier loop is still drawing. -/
def exec (host : Host Button Gesture Other Sequence Wire) (task : Task)
    (oracle : Oracle Button) (state : SharedState Button Gesture Other Sequence) :
    (op : Op Button Gesture Other) →
      Option (op.Answer × SharedState Button Gesture Other Sequence)
  | .lockGate =>
      if state.gate = none then some ((), { state with gate := some task }) else none
  | .unlockGate => some ((), state.dropGate task)
  | .readSlot =>
      let connection := state.connections task.connection
      if connection.slotGuard = none then some (connection.slot, state) else none
  | .lockSlot =>
      let connection := state.connections task.connection
      if connection.slotGuard = none then
        some (connection.slot,
          state.setConnection task.connection { connection with slotGuard := some task })
      else none
  | .unlockSlot => some ((), state.dropSlot task)
  | .acquire deviceId workspaceRouted =>
      match acquireWithRouting host.gestures state.manager deviceId workspaceRouted
          oracle.draws oracle.now with
      | none => none
      | some (.error message, manager) => some (.error message, { state with manager := manager })
      | some (.ok lease, manager) =>
          -- `*active = Some(lease); drop(active)` follows without suspending.
          let connection := state.connections task.connection
          let stored := { state with manager := manager }.setConnection task.connection
            { connection with slot := some lease, slotGuard := none }
          some (.ok lease, stored.record task (.acquired task.connection lease workspaceRouted))
  | .isWorkspaceRouted lease deviceId =>
      some (InputSession.isWorkspaceRouted state.manager lease deviceId, state)
  | .isExpired lease deviceId =>
      some (InputSession.isExpired state.manager lease deviceId oracle.now, state)
  | .cancelIdleSystemGesture lease deviceId =>
      let (events, manager) := InputSession.cancelIdleSystemGesture host.gestures state.manager
        lease deviceId oracle.now
      some (events, { state with manager := manager })
  | .acceptReliable lease deviceId sequence elapsedUs =>
      let (result, manager) := InputSession.acceptReliable state.manager lease deviceId sequence
        elapsedUs oracle.checkAt oracle.now
      some (result, { state with manager := manager })
  | .normalizeReliableEvents lease deviceId events =>
      let (outcome, manager) := InputSession.normalizeReliableEvents host.gestures
        oracle.contexts state.manager lease deviceId events
      some (outcome, { state with manager := manager })
  | .acceptOrderedMotion lease deviceId motion =>
      let (result, manager) := InputSession.acceptOrderedMotion state.manager lease deviceId
        motion.pointerTotalX256 motion.pointerTotalY256 motion.scrollTotalX256
        motion.scrollTotalY256 motion.preciseScroll oracle.checkAt oracle.now
      some (result, { state with manager := manager })
  | .start call => some ((), state.record task (.started call))
  | .finish call =>
      let answer : call.Answer :=
        match call with
        | .routerBegin _ => oracle.route
        | .applyEvents _ _ | .releaseAll _ | .routerApply _ _ | .routerEnd _ => oracle.result
      some (answer, state.record task (.returned call))
  | .release lease =>
      -- The events that `release` returns are not applied; `*active = None` and the drop of the
      -- slot's guard follow without suspending.
      let (_, manager) := @InputSession.release Button Gesture Other Sequence _ host.gestures
        oracle.order state.manager lease
      let connection := state.connections task.connection
      some ((), { (state.record task (.dropped task.connection lease)) with manager := manager
        }.setConnection task.connection { connection with slot := none, slotGuard := none })
  | .sendEvent _ => some ((), state)
  | .sendCritical _ => some (oracle.sent, state)
  | .unregister => some ((), state)

end ArcRelay.InputControl
