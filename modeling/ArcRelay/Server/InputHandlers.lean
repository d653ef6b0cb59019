/-
Module: ArcRelay.Server.InputHandlers
Purpose: The input handlers of a control connection as programs: beginning and ending an input
  session, the lease tick, workspace focus changes, the reliable input stream and the session
  cleanup; and the pool in which any number of connections run them.
Trusted boundary: as for the operations
-/
import ArcRelay.Server.InputControl

namespace ArcRelay.InputControl

open InputSession Program

variable {Button Gesture Other Sequence Wire : Type} [DecidableEq Button]

abbrev InputProgram (Button Gesture Other Result : Type) :=
  Program (Op Button Gesture Other) Op.Answer Result

/-! ### Operations as programs -/

section Operations

variable (Button Gesture Other)

/-- `input_apply_gate.lock().await`. -/
def lockGate : InputProgram Button Gesture Other Unit := ask Op.lockGate

/-- Drop the gate's guard. -/
def unlockGate : InputProgram Button Gesture Other Unit := ask Op.unlockGate

/-- `*active_input.lock().await`, the guard dropped at once. -/
def readSlot : InputProgram Button Gesture Other (Option InputLease) := ask Op.readSlot

/-- `active_input.lock().await` with the guard kept; the answer is what it guards. -/
def lockSlot : InputProgram Button Gesture Other (Option InputLease) := ask Op.lockSlot

/-- `registry.unregister(..).await`; the registry is not part of this model. -/
def unregister : InputProgram Button Gesture Other Unit := ask Op.unregister

/-- Drop the slot's guard. -/
def unlockSlot : InputProgram Button Gesture Other Unit := ask Op.unlockSlot

variable {Button Gesture Other}

def acquireIntoSlot (deviceId : String) (workspaceRouted : Bool) :
    InputProgram Button Gesture Other (Except String InputLease) :=
  ask (Op.acquire deviceId workspaceRouted)

variable (lease : InputLease)

def checkRouted (deviceId : String) : InputProgram Button Gesture Other Bool :=
  ask (Op.isWorkspaceRouted lease deviceId)

def checkExpired (deviceId : String) : InputProgram Button Gesture Other Bool :=
  ask (Op.isExpired lease deviceId)

def cancelIdle (deviceId : String) :
    InputProgram Button Gesture Other (List (InputEvent Button Gesture Other)) :=
  ask (Op.cancelIdleSystemGesture lease deviceId)

def acceptSequence (deviceId : String) (sequence elapsedUs : UInt64) :
    InputProgram Button Gesture Other (Except String InputFeedbackSnapshot) :=
  ask (Op.acceptReliable lease deviceId sequence elapsedUs)

def normalizeBatch (deviceId : String)
    (events : List (InputEvent Button Gesture Other)) :
    InputProgram Button Gesture Other
      (CallOutcome (Except String (List (InputEvent Button Gesture Other)))) :=
  ask (Op.normalizeReliableEvents lease deviceId events)

def acceptTotals (deviceId : String) (motion : Motion) :
    InputProgram Button Gesture Other (Except String MotionDelta) :=
  ask (Op.acceptOrderedMotion lease deviceId motion)

/-- Call the host or the router and wait for its answer. -/
def invoke (call : HostCall Button Gesture Other) :
    InputProgram Button Gesture Other call.Answer := do
  let () ← (ask (Op.start call) : InputProgram Button Gesture Other Unit)
  ask (Op.finish call)

def routerBegin (lease : InputLease) :
    InputProgram Button Gesture Other (Except HostCapabilityError WorkspaceInputSnapshot) :=
  invoke (.routerBegin lease)

def routerApply (lease : InputLease) (events : List (InputEvent Button Gesture Other)) :
    InputProgram Button Gesture Other (Except HostCapabilityError Unit) :=
  invoke (.routerApply lease events)

def nativeApply (events : List (InputEvent Button Gesture Other)) :
    InputProgram Button Gesture Other (Except HostCapabilityError Unit) :=
  invoke (.applyEvents lease events)

def releaseFromSlot : InputProgram Button Gesture Other Unit :=
  ask (Op.release lease)

def sendEvent (event : ServerEvent) : InputProgram Button Gesture Other Unit :=
  ask (Op.sendEvent event)

def sendCritical (frame : ControlFrame) : InputProgram Button Gesture Other (Except String Unit) :=
  ask (Op.sendCritical frame)

end Operations

/-- What a control or stream task does next: another round of its loop, or leave it. -/
inductive Flow where
  | next | leave
deriving Repr, DecidableEq

/-- The part of `InputSessionContext` the handlers read; the slot and the apply gate belong to
the task.  `router` says whether the server has a workspace input router. -/
structure InputSessionContext where
  deviceId : String
  deviceName : String
  router : Bool
deriving Repr, DecidableEq

/-- What the host and the router answer to the questions that do not suspend, and the random
identifier an internal error would get. -/
structure Readings where
  permission : PermissionState
  routerAvailable : Bool
  supportsSystemGestures : Bool
  errorId : String
deriving Repr, DecidableEq

def inputSessionResult (readings : Readings) (requestId : UInt64) (accepted : Bool)
    (lease : InputLease) (message : String) (failureCode : ErrorCode) : InputSessionResult where
  requestId := requestId
  status := if accepted then okStatus else status failureCode message readings.errorId
  lease := lease
  permissionState := readings.permission
  leaseTimeoutMs := 5000
  maxReliableEventsPerFrame := maxReliableEventsPerFrame
  maxReliableFrameRate := maxReliableFramesPerSecond
  supportsSystemGestures := false
  workspaceRoutingActive := false
  gatewayDeviceId := ""
  logicalTargetDeviceId := ""
  targetDisplayId := ""
  controlEpoch := 0

/-- A result that was not accepted and names no lease. -/
def refusal (readings : Readings) (requestId : UInt64) (message : String)
    (failureCode : ErrorCode) : ControlFrame :=
  .inputSessionResult
    (inputSessionResult readings requestId false ⟨0, 0⟩ message failureCode)

/-- `send_critical(..).await?` in the control loop. -/
def sendOrLeave (frame : ControlFrame) : InputProgram Button Gesture Other Flow := do
  match ← sendCritical frame with
  | .ok () => pure .next
  | .error _ => pure .leave

/-! ### Ending a lease -/

section Handlers

variable (host : Host Button Gesture Other Sequence Wire) (context : InputSessionContext)

def emitInputEnded (lease : InputLease) : InputProgram Button Gesture Other Unit :=
  sendEvent (.inputSessionEnded lease context.deviceId context.deviceName)

/-- Hand the device back: through the router, or natively. -/
def releaseDevice (lease : InputLease) (workspaceRouted : Bool) :
    InputProgram Button Gesture Other Unit :=
  if workspaceRouted then
    if context.router then do
      let _ ← invoke (.routerEnd lease)
      pure ()
    else pure ()
  else do
    let _ ← invoke (.releaseAll lease)
    pure ()

def endInputLeaseLocked (lease : InputLease) : InputProgram Button Gesture Other Unit := do
  let active ← lockSlot Button Gesture Other
  if active = some lease then do
    let workspaceRouted ← checkRouted lease context.deviceId
    releaseDevice context lease workspaceRouted
    releaseFromSlot lease
    emitInputEnded context lease
  else unlockSlot Button Gesture Other

/-- `if let Some(lease) = lease { end_input_lease_locked(..) }`. -/
def endStoredLease : Option InputLease → InputProgram Button Gesture Other Unit
  | some lease => endInputLeaseLocked context lease
  | none => pure ()

/-! ### Beginning a session -/

structure BeginInputSessionRequest where
  requestId : UInt64
  workspaceRouting : Bool
deriving Repr, DecidableEq

/-- The negotiated features and the granted capability `begin_input_session` checks. -/
structure InputGrant where
  inputReliable : Bool
  workspaceInput : Bool
  remoteInputInject : Bool
deriving Repr, DecidableEq

/-- The accepting frame, after the session was announced. -/
def announceSession (readings : Readings) (request : BeginInputSessionRequest) (lease : InputLease)
    (route : Option WorkspaceInputSnapshot) :
    InputProgram Button Gesture Other ControlFrame := do
  sendEvent (.inputSessionStarted lease context.deviceId context.deviceName)
  pure (.inputSessionResult
    { inputSessionResult readings request.requestId true lease "" .ok with
      supportsSystemGestures :=
        route.elim readings.supportsSystemGestures (·.supportsSystemGestures)
      workspaceRoutingActive := request.workspaceRouting
      gatewayDeviceId := route.elim "" (·.controllerDeviceId)
      logicalTargetDeviceId := route.elim "" (·.logicalTargetDeviceId)
      targetDisplayId := route.elim "" (·.targetDisplayId)
      controlEpoch := route.elim 0 (·.controlEpoch) })

/-- The rest of `begin_input_session` once `acquire_with_routing` has answered. -/
def startAcquired (readings : Readings) (request : BeginInputSessionRequest) :
    Except String InputLease → InputProgram Button Gesture Other ControlFrame
  | .error message => do
      unlockSlot Button Gesture Other
      pure (refusal readings request.requestId message .busy)
  | .ok lease =>
      if request.workspaceRouting then do
        match ← routerBegin lease with
        | .ok route => announceSession context readings request lease (some route)
        | .error error => do
            endInputLeaseLocked context lease
            pure (refusal readings request.requestId error.message error.code.protocolCode)
      else announceSession context readings request lease none

def beginInputSession (grant : InputGrant) (readings : Readings)
    (request : BeginInputSessionRequest) : InputProgram Button Gesture Other ControlFrame :=
  if !grant.inputReliable then
    pure (refusal readings request.requestId "remote input features were not negotiated"
      .unsupported)
  else if !grant.remoteInputInject then
    pure (refusal readings request.requestId "remote-input.inject capability was not granted"
      .permissionDenied)
  else if request.workspaceRouting &&
      (!grant.workspaceInput || !(context.router && readings.routerAvailable)) then
    pure (refusal readings request.requestId "workspace input routing is unavailable"
      .unsupported)
  else if readings.permission ≠ .granted then do
    sendEvent (.inputPermissionRequired context.deviceName)
    pure (refusal readings request.requestId "desktop input permission is not granted"
      .permissionDenied)
  else do
    lockGate Button Gesture Other
    let previous ← readSlot Button Gesture Other
    endStoredLease context previous
    let _ ← lockSlot Button Gesture Other
    let acquired ← acquireIntoSlot context.deviceId request.workspaceRouting
    let frame ← startAcquired context readings request acquired
    unlockGate Button Gesture Other
    pure frame

/-- The `BeginInputSession` arm of the control loop.  `outstanding` says whether the request id
names a running request. -/
def handleBeginInputSession (grant : InputGrant)
    (readings : Readings) (outstanding : Bool) (request : BeginInputSessionRequest) :
    InputProgram Button Gesture Other Flow :=
  if request.requestId = 0 then
    sendOrLeave (refusal readings 0 "request id must be non-zero" .invalidArgument)
  else if outstanding then pure .leave
  else do
    let frame ← beginInputSession context grant readings request
    sendOrLeave frame

/-! ### The other arms of the control loop -/

/-- The `EndInputSession` arm.  The gate stays held until the reply is queued. -/
def endInputSession (readings : Readings) (outstanding : Bool)
    (requestId : UInt64) (lease : InputLease) : InputProgram Button Gesture Other Flow :=
  if requestId = 0 then
    sendOrLeave (refusal readings 0 "request id must be non-zero" .invalidArgument)
  else if outstanding then pure .leave
  else do
    lockGate Button Gesture Other
    let active ← readSlot Button Gesture Other
    endStoredLease context (if active = some lease then some lease else none)
    sendOrLeave (.inputSessionResult (inputSessionResult readings requestId
      (decide (active = some lease)) lease
      (if active = some lease then "" else "input session is not active") .failedPrecondition))

/-- Apply normalized events through the router or natively. -/
def applyInput (lease : InputLease) (unavailable : String)
    (events : List (InputEvent Button Gesture Other)) :
    InputProgram Button Gesture Other (Except HostCapabilityError Unit) := do
  let workspaceRouted ← checkRouted lease context.deviceId
  if workspaceRouted then
    if context.router then routerApply lease events
    else pure (.error ⟨.unavailable, unavailable⟩)
  else nativeApply lease events

/-- The lease tick; a failed cancellation is only logged. -/
def inputLeaseTick : InputProgram Button Gesture Other Flow := do
  lockGate Button Gesture Other
  match ← readSlot Button Gesture Other with
  | none => pure .next
  | some lease => do
      if ← checkExpired lease context.deviceId then do
        endInputLeaseLocked context lease
        pure .next
      else do
        let cancellations ← cancelIdle lease context.deviceId
        if cancellations.isEmpty then pure .next
        else do
          let _ ← applyInput context lease "workspace input router is unavailable" cancellations
          pure .next

/-- `owned_workspace_lease`: read before the gate is taken. -/
def ownedWorkspaceLease (focus : WorkspaceInputSnapshot)
    (lease : Option InputLease) : InputProgram Button Gesture Other (Option InputLease) :=
  if focus.ownerDeviceId = some context.deviceId then
    match lease with
    | some lease => do
        let workspaceRouted ← checkRouted lease context.deviceId
        pure (if workspaceRouted then some lease else none)
    | none => pure none
  else pure none

/-- The release of a lease whose route was suspended or ended: the router already let go. -/
def releaseRoutedLease : Option InputLease → InputProgram Button Gesture Other Unit
  | none => pure ()
  | some lease => do
      lockGate Button Gesture Other
      let active ← readSlot Button Gesture Other
      if active = some lease then do
        let _ ← lockSlot Button Gesture Other
        releaseFromSlot lease
        emitInputEnded context lease
        unlockGate Button Gesture Other
      else unlockGate Button Gesture Other

/-- The workspace focus arm. -/
def workspaceInputChange (focus : WorkspaceInputSnapshot) :
    InputProgram Button Gesture Other Flow := do
  let lease ← readSlot Button Gesture Other
  let owned ← ownedWorkspaceLease context focus lease
  releaseRoutedLease context
    (if focus.state = .suspended ∨ focus.state = .ended then owned else none)
  sendOrLeave (.inputFocusChanged (owned.getD ⟨0, 0⟩) focus)

/-! ### The reliable input stream -/

/-- `revoke_input_with_feedback`, with the gate held. -/
def revokeInputWithFeedback (lease : InputLease)
    (message : String) : InputProgram Button Gesture Other Flow := do
  endInputLeaseLocked context lease
  let _ ← sendCritical (.inputFeedback lease ⟨0⟩ (status .failedPrecondition message ""))
  pure .next

/-- Release the gate and acknowledge the frame. -/
def acknowledgeFrame (frame : ReliableInputFrame Wire) (lease : InputLease)
    (feedback : InputFeedbackSnapshot) : InputProgram Button Gesture Other Flow := do
  unlockGate Button Gesture Other
  if frame.motion.isNone || frame.sequence % 15 = 0 then do
    let _ ← sendCritical (.inputFeedback lease feedback okStatus)
    pure .next
  else pure .next

/-- Apply the events of an accepted frame, if there are any. -/
def applyFrame (frame : ReliableInputFrame Wire)
    (lease : InputLease) (events : List (InputEvent Button Gesture Other))
    (feedback : InputFeedbackSnapshot) : InputProgram Button Gesture Other Flow :=
  if events.isEmpty then acknowledgeFrame frame lease feedback
  else do
    match ← applyInput context lease "workspace input router became unavailable" events with
    | .error error => revokeInputWithFeedback context lease error.message
    | .ok () => acknowledgeFrame frame lease feedback

/-- The pointer and scroll events of a motion delta. -/
def motionEvents (delta : MotionDelta) : List (InputEvent Button Gesture Other) :=
  (if delta.pointerX256 ≠ 0 ∨ delta.pointerY256 ≠ 0 then
    [.other (host.pointerMove delta.pointerX256 delta.pointerY256)] else []) ++
  (if delta.scrollX256 ≠ 0 ∨ delta.scrollY256 ≠ 0 then
    [.other (host.scroll delta.scrollX256 delta.scrollY256 delta.preciseScroll)] else [])

/-- The motion part of an accepted frame. -/
def acceptMotion (frame : ReliableInputFrame Wire) (lease : InputLease)
    (events : List (InputEvent Button Gesture Other)) (sequences : InputFeedbackSnapshot) :
    InputProgram Button Gesture Other Flow :=
  match frame.motion with
  | none => applyFrame context frame lease events sequences
  | some motion => do
      match ← acceptTotals lease context.deviceId motion with
      | .error message => revokeInputWithFeedback context lease message
      | .ok delta =>
          applyFrame context frame lease (events ++ motionEvents host delta) delta.feedback

/-- A valid batch under the gate.  A panic of the normalization ends the stream's task. -/
def acceptFrame (frame : ReliableInputFrame Wire) (lease : InputLease)
    (events : List (InputEvent Button Gesture Other)) : InputProgram Button Gesture Other Flow := do
  match ← acceptSequence lease context.deviceId frame.sequence frame.elapsedUs with
  | .error message => revokeInputWithFeedback context lease message
  | .ok sequences => do
      match ← normalizeBatch lease context.deviceId events with
      | .panicked _ => pure .leave
      | .returned (.error message) => revokeInputWithFeedback context lease message
      | .returned (.ok normalized) => acceptMotion host context frame lease normalized sequences

/-- Why a frame is turned down before it reaches the manager, or its decoded events. -/
def decodeFrame
    (frame : ReliableInputFrame Wire) :
    Except String (List (InputEvent Button Gesture Other)) :=
  if maxReliableEventsPerFrame < frame.events.length then
    .error "invalid reliable input event count"
  else
    match host.convertReliableEvents frame.events with
    | .error message => .error message
    | .ok events =>
        if frame.motion.isSome && !events.isEmpty then
          .error "ordered input frame mixes motion and discrete events"
        else
          match host.validateEvents events with
          | some message => .error message
          | none => .ok events

/-- One round of the loop of `handle_uni_stream`, for a frame that was read. -/
def handleUniStreamFrame (frame : ReliableInputFrame Wire) :
    InputProgram Button Gesture Other Flow := do
  lockGate Button Gesture Other
  match decodeFrame host frame with
  | .error message => revokeInputWithFeedback context ⟨frame.sessionId, frame.epoch⟩ message
  | .ok events => acceptFrame host context frame ⟨frame.sessionId, frame.epoch⟩ events

/-- The last round of the loop: the stream ended or failed. -/
def reliableStreamEnd : InputProgram Button Gesture Other Flow := do
  lockGate Button Gesture Other
  let lease ← readSlot Button Gesture Other
  endStoredLease context lease
  pure .leave

/-! ### The session's cleanup -/

def sessionCleanup : InputProgram Button Gesture Other Flow := do
  unregister Button Gesture Other
  lockGate Button Gesture Other
  let lease ← readSlot Button Gesture Other
  endStoredLease context lease
  unlockGate Button Gesture Other
  sendEvent (.deviceDisconnected context.deviceId context.deviceName)
  pure .leave

/-! ### The pool -/

/-- An arm of the control loop.  `leave` is every way out of the loop that touches no input:
the peer closed, a frame was malformed, or the loop was dropped while it waited. -/
inductive ControlArm where
  | beginInputSession (grant : InputGrant) (readings : Readings) (outstanding : Bool)
      (request : BeginInputSessionRequest)
  | endInputSession (readings : Readings) (outstanding : Bool) (requestId : UInt64)
      (lease : InputLease)
  | inputLeaseTick
  | workspaceInputChange (focus : WorkspaceInputSnapshot)
  | leave
deriving Repr, DecidableEq

def ControlArm.program : ControlArm → InputProgram Button Gesture Other Flow
  | .beginInputSession grant readings outstanding request =>
      handleBeginInputSession context grant readings outstanding request
  | .endInputSession readings outstanding requestId lease =>
      InputControl.endInputSession context readings outstanding requestId lease
  | .inputLeaseTick => InputControl.inputLeaseTick context
  | .workspaceInputChange focus => InputControl.workspaceInputChange context focus
  | .leave => pure .leave

end Handlers

/-- New work: a connection, a round of its control loop or of its stream, its cleanup. -/
inductive Arrival (Wire : Type) where
  | connect (connection : ConnectionId) (deviceId deviceName : String)
  | control (connection : ConnectionId) (arm : ControlArm)
  | openStream (connection : ConnectionId)
  | frame (connection : ConnectionId) (frame : ReliableInputFrame Wire)
  | streamEnd (connection : ConnectionId)
  | dropStream (connection : ConnectionId)
  | cleanup (connection : ConnectionId)

def Connection.context (connection : Connection) (router : Bool) : InputSessionContext where
  deviceId := connection.deviceId
  deviceName := connection.deviceName
  router := router

variable (host : Host Button Gesture Other Sequence Wire)

/-- Admit new work.  An aborted stream stops at its next suspension only, so its rounds are
admitted in every phase. -/
def arrive (router : Bool)
    (arrival : Arrival Wire) (state : SharedState Button Gesture Other Sequence) :
    Option (SharedState Button Gesture Other Sequence ×
      Option (Task × InputProgram Button Gesture Other Flow)) :=
  match arrival with
  | .connect index deviceId deviceName =>
      if (state.connections index).phase = .unused then
        some (state.setConnection index
          { Connection.unused with
            deviceId := deviceId, deviceName := deviceName, phase := .serving }, none)
      else none
  | .control index arm =>
      let connection := state.connections index
      if connection.phase = .serving then
        some (state, some (.control index, arm.program (connection.context router)))
      else none
  | .openStream index =>
      let connection := state.connections index
      if connection.phase ≠ .unused ∧ connection.streamOpen = false then
        some (state.setConnection index { connection with streamOpen := true }, none)
      else none
  | .frame index frame =>
      let connection := state.connections index
      if connection.phase ≠ .unused ∧ connection.streamOpen = true then
        some (state, some (.stream index,
          handleUniStreamFrame host (connection.context router) frame))
      else none
  | .streamEnd index =>
      let connection := state.connections index
      if connection.phase ≠ .unused ∧ connection.streamOpen = true then
        some (state, some (.stream index, reliableStreamEnd (connection.context router)))
      else none
  | .dropStream index =>
      let connection := state.connections index
      some (state.setConnection index { connection with streamOpen := false }, none)
  | .cleanup index =>
      let connection := state.connections index
      if connection.phase = .ended then
        some (state.setConnection index { connection with phase := .cleaning },
          some (.cleanup index, sessionCleanup (connection.context router)))
      else none

/-- What a task leaves behind that ran to its end: its guards are dropped, a left loop ends. -/
def finish (task : Task) (flow : Flow) (state : SharedState Button Gesture Other Sequence) :
    SharedState Button Gesture Other Sequence :=
  let dropped := (state.dropGate task).dropSlot task
  let connection := dropped.connections task.connection
  match task, flow with
  | .control index, .leave => dropped.setConnection index { connection with phase := .ended }
  | .stream index, .leave => dropped.setConnection index { connection with streamOpen := false }
  | .cleanup index, _ => dropped.setConnection index { connection with phase := .cleaned }
  | _, .next => dropped

/-- What a task leaves behind that was dropped where it was suspended.  The session owns its
cleanup: it is handed on, never dropped. -/
def cancel (task : Task) (state : SharedState Button Gesture Other Sequence) :
    Option (SharedState Button Gesture Other Sequence) :=
  match task with
  | .cleanup _ => none
  | _ => some (finish task .leave state)

def machine (router : Bool) :
    Machine Task (Oracle Button) (Arrival Wire) (SharedState Button Gesture Other Sequence)
      (Op Button Gesture Other) Op.Answer Flow where
  exec := exec host
  finish := finish
  cancel := cancel
  arrive := arrive host router

/-- A server without connections. -/
def SharedState.new : SharedState Button Gesture Other Sequence where
  manager := InputSessionState.new
  gate := none
  connections := fun _ => Connection.unused
  log := []

end ArcRelay.InputControl
