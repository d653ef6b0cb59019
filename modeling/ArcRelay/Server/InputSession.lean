/-
Module: ArcRelay.Server.InputSession
Purpose: The input session manager: leases, reliable frames, ordered motion, and the
  normalization of key and button events over all sessions.
Trusted boundary: the domain's gesture sequence, its mouse buttons and its other events are
  parameters; random draws, clock readings and the drain order of hash sets are arguments.
-/
import ArcRelay.Library.Runtime
import ArcRelay.Library.SharedHolds

namespace ArcRelay.InputSession

def inputLeaseTimeout : Nat := seconds 5
def maxReliableFramesPerSecond : Nat := 240

structure InputLease where
  sessionId : UInt64
  epoch : UInt32
deriving Repr, DecidableEq

/-- The domain's input event.  `other` stands for every variant that normalization passes on
unread: pointer motion, scrolling, text and scroll phases. -/
inductive InputEvent (Button Gesture Other : Type) where
  | key (hidUsage : UInt16) (down repeats : Bool)
  | pointerButton (button : Button) (down : Bool) (clickCount : UInt8)
  | releaseAll
  | systemGesture (gesture : Gesture)
  | other (event : Other)
deriving Repr, DecidableEq

/-- The domain's `SystemGestureSequence`.  `validate` returns the error text, and `apply`
returns `none` where the source's `apply` returns an error. -/
structure Gestures (Gesture Sequence : Type) where
  initial : Sequence
  validate : Gesture → Option String
  apply : Sequence → Gesture → Option (List Gesture × Sequence)
  isActive : Sequence → Bool
  cancel : Sequence → Option Gesture × Sequence

/-- Only `reliable_sequence` is ever set; the other counters keep their default zero. -/
structure InputFeedbackSnapshot where
  reliableSequence : UInt64
deriving Repr, DecidableEq

structure MotionDelta where
  pointerX256 : Int
  pointerY256 : Int
  scrollX256 : Int
  scrollY256 : Int
  preciseScroll : Bool
  feedback : InputFeedbackSnapshot
deriving Repr, DecidableEq

structure ActiveInputSession (Button Sequence : Type) where
  lease : InputLease
  deviceId : String
  lastActivity : Instant
  reliableSequence : UInt64
  reliableElapsedUs : UInt64
  reliableFrames : List Instant
  pointerTotalX256 : Int
  pointerTotalY256 : Int
  scrollTotalX256 : Int
  scrollTotalY256 : Int
  pressedKeys : HashSet UInt16
  pressedButtons : HashSet Button
  systemGesture : Sequence
  systemGestureUpdated : Option Instant
  workspaceRouted : Bool

structure InputSessionState (Button Sequence : Type) where
  active : HashMap InputLease (ActiveInputSession Button Sequence)
  pressedKeyCounts : HashMap UInt16 Nat
  pressedButtonCounts : HashMap Button Nat

variable {Button Gesture Other Sequence : Type} [DecidableEq Button]

/-- `InputSessionManager::new`. -/
def InputSessionState.new : InputSessionState Button Sequence where
  active := ∅
  pressedKeyCounts := ∅
  pressedButtonCounts := ∅

/-! ### Leases -/

/-- One round of the identifier loop. -/
def drawLease (sessionDraw : UInt64) (epochDraw : UInt32) : InputLease :=
  let sessionId := sessionDraw &&& i64Max
  { sessionId := if sessionId = 0 then 1 else sessionId
    epoch := if epochDraw = 0 then 1 else epochDraw }

variable (gestures : Gestures Gesture Sequence)

/-- The session `acquire_with_routing` inserts. -/
def newSession (lease : InputLease) (deviceId : String)
    (workspaceRouted : Bool) (now : Instant) : ActiveInputSession Button Sequence where
  lease := lease
  deviceId := deviceId
  lastActivity := now
  reliableSequence := 0
  reliableElapsedUs := 0
  reliableFrames := []
  pointerTotalX256 := 0
  pointerTotalY256 := 0
  scrollTotalX256 := 0
  scrollTotalY256 := 0
  pressedKeys := ∅
  pressedButtons := ∅
  systemGesture := gestures.initial
  systemGestureUpdated := none
  workspaceRouted := workspaceRouted

variable (state : InputSessionState Button Sequence)

/-- `active.insert`: put a session back under its lease. -/
def InputSessionState.setSession
    (lease : InputLease) (session : ActiveInputSession Button Sequence) :
    InputSessionState Button Sequence :=
  { state with active := state.active.insert lease session }

/-- `acquire_with_routing`.  `none` while the identifier loop has not found a fresh lease. -/
def acquireWithRouting
    (state : InputSessionState Button Sequence) (deviceId : String) (workspaceRouted : Bool)
    (draws : List (UInt64 × UInt32)) (now : Instant) :
    Option (Except String InputLease × InputSessionState Button Sequence) :=
  match state.active.entries with
  | ⟨_, active⟩ :: _ =>
      some (.error ("input is already controlled by " ++ active.deviceId ++ " at epoch " ++
        toString active.lease.epoch), state)
  | [] => do
      let lease ← (draws.map fun draw => drawLease draw.1 draw.2).find? fun lease =>
        decide (lease ∉ state.active)
      pure (.ok lease,
        state.setSession lease (newSession gestures lease deviceId workspaceRouted now))

def isWorkspaceRouted (lease : InputLease) (deviceId : String) : Bool :=
  match state.active.lookup lease with
  | some active => decide (active.deviceId = deviceId) && active.workspaceRouted
  | none => false

def isExpired (lease : InputLease) (deviceId : String) (now : Instant) : Bool :=
  match state.active.lookup lease with
  | some active =>
      decide (active.deviceId = deviceId) &&
        decide (inputLeaseTimeout ≤ now - active.lastActivity)
  | none => false

/-- `validate_owner`. -/
def ownerMatches (current : ActiveInputSession Button Sequence) (lease : InputLease)
    (deviceId : String) : Bool :=
  decide (current.lease = lease) && decide (current.deviceId = deviceId)

def identityMismatch : String := "input session identity mismatch"
def notActive : String := "input session is not active"

/-! ### Reliable frames and ordered motion -/

/-- `accept_reliable`.  `checkAt` is the reading of `elapsed`, `now` the one of
`Instant::now`. -/
def acceptReliable (lease : InputLease)
    (deviceId : String) (sequence elapsedUs : UInt64) (checkAt now : Instant) :
    Except String InputFeedbackSnapshot × InputSessionState Button Sequence :=
  match state.active.lookup lease with
  | none => (.error notActive, state)
  | some current =>
      if !ownerMatches current lease deviceId then (.error identityMismatch, state)
      else if inputLeaseTimeout ≤ checkAt - current.lastActivity then
        (.error "input lease expired", state)
      else if sequence ≠ (if current.reliableSequence = UInt64.ofNat usizeMax then
          current.reliableSequence else current.reliableSequence + 1) then
        (.error "out-of-order reliable input frame", state)
      else if elapsedUs < current.reliableElapsedUs then
        (.error "reliable input clock moved backwards", state)
      else
        let frames := current.reliableFrames.dropWhile fun timestamp =>
          decide (seconds 1 ≤ now - timestamp)
        if maxReliableFramesPerSecond ≤ frames.length then
          (.error "reliable input frame rate limit exceeded",
            state.setSession lease { current with reliableFrames := frames })
        else
          (.ok { reliableSequence := sequence },
            state.setSession lease
              { current with
                reliableFrames := frames ++ [now]
                reliableSequence := sequence
                reliableElapsedUs := elapsedUs
                lastActivity := now })

/-- `i64::checked_sub`. -/
def checkedSub (left right : Int) : Option Int :=
  if -(2 ^ 63) ≤ left - right ∧ left - right < 2 ^ 63 then some (left - right) else none

/-- The four deltas of a motion frame, in the order the source subtracts them. -/
def motionDeltas (current : ActiveInputSession Button Sequence)
    (pointerX pointerY scrollX scrollY : Int) : Except String (Int × Int × Int × Int) := do
  let pointerX256 ← (checkedSub pointerX current.pointerTotalX256).elim
    (.error "pointer total overflow") .ok
  let pointerY256 ← (checkedSub pointerY current.pointerTotalY256).elim
    (.error "pointer total overflow") .ok
  let scrollX256 ← (checkedSub scrollX current.scrollTotalX256).elim
    (.error "scroll total overflow") .ok
  let scrollY256 ← (checkedSub scrollY current.scrollTotalY256).elim
    (.error "scroll total overflow") .ok
  if 8192 * 256 < pointerX256.natAbs ∨ 8192 * 256 < pointerY256.natAbs ∨
      2048 * 256 < scrollX256.natAbs ∨ 2048 * 256 < scrollY256.natAbs then
    .error "motion delta exceeds protocol limits"
  else
    .ok (pointerX256, pointerY256, scrollX256, scrollY256)

/-- `accept_ordered_motion`, with the same two readings. -/
def acceptOrderedMotion (lease : InputLease)
    (deviceId : String) (pointerX pointerY scrollX scrollY : Int) (preciseScroll : Bool)
    (checkAt now : Instant) :
    Except String MotionDelta × InputSessionState Button Sequence :=
  match state.active.lookup lease with
  | none => (.error notActive, state)
  | some current =>
      if !ownerMatches current lease deviceId then (.error identityMismatch, state)
      else if inputLeaseTimeout ≤ checkAt - current.lastActivity then
        (.error "input lease expired", state)
      else
        match motionDeltas current pointerX pointerY scrollX scrollY with
        | .error message => (.error message, state)
        | .ok (pointerX256, pointerY256, scrollX256, scrollY256) =>
            (.ok { pointerX256 := pointerX256, pointerY256 := pointerY256,
                   scrollX256 := scrollX256, scrollY256 := scrollY256,
                   preciseScroll := preciseScroll,
                   feedback := { reliableSequence := current.reliableSequence } },
              state.setSession lease
                { current with
                  pointerTotalX256 := pointerX
                  pointerTotalY256 := pointerY
                  scrollTotalX256 := scrollX
                  scrollTotalY256 := scrollY
                  lastActivity := now })

/-! ### Normalization -/

/-- The order in which a drain of the two hash sets yields their items. -/
structure DrainOrder (Button : Type) [DecidableEq Button] where
  keys : HashSet UInt16 → List UInt16
  buttons : HashSet Button → List Button
  keys_perm : ∀ held, (keys held).Perm held.keys
  buttons_perm : ∀ held, (buttons held).Perm held.keys

/-- What one event of a batch meets: the drain order in force and the clock. -/
structure EventContext (Button : Type) [DecidableEq Button] where
  order : DrainOrder Button
  now : Instant

/-- `release_session_state`: cancel the gesture, then give up every key and button. -/
def releaseSessionState (order : DrainOrder Button)
    (state : InputSessionState Button Sequence)
    (current : ActiveInputSession Button Sequence) :
    List (InputEvent Button Gesture Other) × InputSessionState Button Sequence ×
      ActiveInputSession Button Sequence :=
  let (cancelled, sequence) := gestures.cancel current.systemGesture
  let (keys, keyCounts) := drainCounts state.pressedKeyCounts (order.keys current.pressedKeys)
  let (buttons, buttonCounts) :=
    drainCounts state.pressedButtonCounts (order.buttons current.pressedButtons)
  ((cancelled.map .systemGesture).toList ++
      keys.map (fun hidUsage => .key hidUsage false false) ++
      buttons.map (fun button => .pointerButton button false 1),
    { state with pressedKeyCounts := keyCounts, pressedButtonCounts := buttonCounts },
    { current with
      systemGestureUpdated := none
      systemGesture := sequence
      pressedKeys := ∅
      pressedButtons := ∅ })

/-- One event of the loop of `normalize_reliable_events`, with the session taken out of
`active`.  `none` is the failed `expect` on a gesture. -/
def normalizeEvent (context : EventContext Button)
    (state : InputSessionState Button Sequence) (current : ActiveInputSession Button Sequence) :
    InputEvent Button Gesture Other →
      Option (List (InputEvent Button Gesture Other) × InputSessionState Button Sequence ×
        ActiveInputSession Button Sequence)
  | .key hidUsage down repeats =>
      if down then
        if hidUsage ∈ current.pressedKeys then
          some (if repeats then [.key hidUsage down repeats] else [], state, current)
        else
          let counts := raiseCount state.pressedKeyCounts hidUsage
          some
            (if HashMap.count counts hidUsage = 1 then [.key hidUsage down repeats] else [],
              { state with pressedKeyCounts := counts },
              { current with pressedKeys := current.pressedKeys.insert hidUsage () })
      else if hidUsage ∈ current.pressedKeys then
        let (last, counts) := decrementCount state.pressedKeyCounts hidUsage
        some (if last then [.key hidUsage down repeats] else [],
          { state with pressedKeyCounts := counts },
          { current with pressedKeys := current.pressedKeys.erase hidUsage })
      else some ([], state, current)
  | .pointerButton button down clickCount =>
      if down then
        if button ∈ current.pressedButtons then some ([], state, current)
        else
          let counts := raiseCount state.pressedButtonCounts button
          some
            (if HashMap.count counts button = 1 then [.pointerButton button down clickCount]
              else [],
              { state with pressedButtonCounts := counts },
              { current with pressedButtons := current.pressedButtons.insert button () })
      else if button ∈ current.pressedButtons then
        let (last, counts) := decrementCount state.pressedButtonCounts button
        some (if last then [.pointerButton button down clickCount] else [],
          { state with pressedButtonCounts := counts },
          { current with pressedButtons := current.pressedButtons.erase button })
      else some ([], state, current)
  | .releaseAll => some (releaseSessionState gestures context.order state current)
  | .systemGesture gesture => do
      let (phases, sequence) ← gestures.apply current.systemGesture gesture
      pure (phases.map .systemGesture, state,
        { current with
          systemGesture := sequence
          systemGestureUpdated :=
            if phases.isEmpty then current.systemGestureUpdated
            else if gestures.isActive sequence then some context.now else none })
  | .other event => some ([.other event], state, current)

/-- The loop of `normalize_reliable_events`; `contexts` gives the context of each event. -/
def normalizeEvents (gestures : Gestures Gesture Sequence) :
    (Nat → EventContext Button) → InputSessionState Button Sequence →
      ActiveInputSession Button Sequence → List (InputEvent Button Gesture Other) →
        Option (List (InputEvent Button Gesture Other) × InputSessionState Button Sequence ×
          ActiveInputSession Button Sequence)
  | _, state, current, [] => some ([], state, current)
  | contexts, state, current, event :: events => do
      let (emitted, state, current) ← normalizeEvent gestures (contexts 0) state current event
      let (rest, state, current) ←
        normalizeEvents gestures (fun index => contexts (index + 1)) state current events
      pure (emitted ++ rest, state, current)

/-- The text of the first invalid gesture of a batch. -/
def invalidGesture (gestures : Gestures Gesture Sequence) :
    List (InputEvent Button Gesture Other) → Option String
  | [] => none
  | .systemGesture gesture :: events =>
      match gestures.validate gesture with
      | some message => some message
      | none => invalidGesture gestures events
  | _ :: events => invalidGesture gestures events

/-- `normalize_reliable_events`. -/
def normalizeReliableEvents
    (contexts : Nat → EventContext Button) (state : InputSessionState Button Sequence)
    (lease : InputLease) (deviceId : String) (events : List (InputEvent Button Gesture Other)) :
    CallOutcome (Except String (List (InputEvent Button Gesture Other))) ×
      InputSessionState Button Sequence :=
  match invalidGesture gestures events with
  | some message => (.returned (.error message), state)
  | none =>
      match state.active.lookup lease with
      | none => (.returned (.error notActive), state)
      | some current =>
          let removed := { state with active := state.active.erase lease }
          if !ownerMatches current lease deviceId then
            (.returned (.error identityMismatch), removed.setSession lease current)
          else
            match normalizeEvents gestures contexts removed current events with
            | none => (.panicked "system gesture batch was validated before normalization", removed)
            | some (normalized, state, current) =>
                (.returned (.ok normalized), state.setSession lease current)

/-- `cancel_idle_system_gesture`. -/
def cancelIdleSystemGesture
    (state : InputSessionState Button Sequence) (lease : InputLease) (deviceId : String)
    (now : Instant) :
    List (InputEvent Button Gesture Other) × InputSessionState Button Sequence :=
  match state.active.lookup lease with
  | none => ([], state)
  | some current =>
      if !ownerMatches current lease deviceId ||
          !current.systemGestureUpdated.any (fun updated => decide (seconds 2 ≤ now - updated)) then
        ([], state)
      else
        let (cancelled, sequence) := gestures.cancel current.systemGesture
        ((cancelled.map .systemGesture).toList,
          state.setSession lease
            { current with systemGestureUpdated := none, systemGesture := sequence })

/-- `release`. -/
def release (order : DrainOrder Button)
    (state : InputSessionState Button Sequence) (lease : InputLease) :
    List (InputEvent Button Gesture Other) × InputSessionState Button Sequence :=
  match state.active.lookup lease with
  | none => ([], state)
  | some current =>
      let (releases, state, _) := releaseSessionState gestures order
        { state with active := state.active.erase lease } current
      (releases, state)

/-! ### Runs -/

/-- One call of the manager's interface. -/
inductive Call (Button Gesture Other : Type) [DecidableEq Button] where
  | acquire (deviceId : String) (workspaceRouted : Bool) (draws : List (UInt64 × UInt32))
      (now : Instant)
  | acceptReliable (lease : InputLease) (deviceId : String) (sequence elapsedUs : UInt64)
      (checkAt now : Instant)
  | acceptOrderedMotion (lease : InputLease) (deviceId : String)
      (pointerX pointerY scrollX scrollY : Int) (preciseScroll : Bool) (checkAt now : Instant)
  | normalize (contexts : Nat → EventContext Button) (lease : InputLease) (deviceId : String)
      (events : List (InputEvent Button Gesture Other))
  | cancelIdle (lease : InputLease) (deviceId : String) (now : Instant)
  | release (order : DrainOrder Button) (lease : InputLease)

/-- What a call returned. -/
inductive Reply (Button Gesture Other : Type) where
  | acquired (result : Except String InputLease)
  | accepted (result : Except String InputFeedbackSnapshot)
  | moved (result : Except String MotionDelta)
  | normalized (outcome : CallOutcome (Except String (List (InputEvent Button Gesture Other))))
  | released (events : List (InputEvent Button Gesture Other))

/-- The native events a reply hands to the caller. -/
def Reply.events : Reply Button Gesture Other → List (InputEvent Button Gesture Other)
  | .normalized (.returned (.ok events)) => events
  | .released events => events
  | _ => []

/-- One call against the manager.  `none` while the identifier loop is still drawing. -/
def perform (state : InputSessionState Button Sequence) :
    Call Button Gesture Other →
      Option (Reply Button Gesture Other × InputSessionState Button Sequence)
  | .acquire deviceId workspaceRouted draws now =>
      (acquireWithRouting gestures state deviceId workspaceRouted draws now).map
        fun (result, after) => (.acquired result, after)
  | .acceptReliable lease deviceId sequence elapsedUs checkAt now =>
      let (result, after) := acceptReliable state lease deviceId sequence elapsedUs checkAt now
      some (.accepted result, after)
  | .acceptOrderedMotion lease deviceId pointerX pointerY scrollX scrollY preciseScroll checkAt
      now =>
      let (result, after) := acceptOrderedMotion state lease deviceId pointerX pointerY scrollX
        scrollY preciseScroll checkAt now
      some (.moved result, after)
  | .normalize contexts lease deviceId events =>
      let (outcome, after) :=
        normalizeReliableEvents gestures contexts state lease deviceId events
      some (.normalized outcome, after)
  | .cancelIdle lease deviceId now =>
      let (events, after) := cancelIdleSystemGesture gestures state lease deviceId now
      some (.released events, after)
  | .release order lease =>
      let (events, after) := release gestures order state lease
      some (.released events, after)

/-- `Run gestures replies state`: calls that returned `replies`, newest first, lead from the
new manager to `state`. -/
inductive Run (gestures : Gestures Gesture Sequence) :
    List (Reply Button Gesture Other) → InputSessionState Button Sequence → Prop where
  | start : Run gestures [] InputSessionState.new
  | step {replies : List (Reply Button Gesture Other)}
      {before after : InputSessionState Button Sequence} {call : Call Button Gesture Other}
      {reply : Reply Button Gesture Other} (earlier : Run gestures replies before)
      (performed : perform gestures before call = some (reply, after)) :
      Run gestures (reply :: replies) after

/-- Play calls, newest first, on the new manager. -/
def replay (gestures : Gestures Gesture Sequence) :
    List (Call Button Gesture Other) →
      Option (List (Reply Button Gesture Other) × InputSessionState Button Sequence)
  | [] => some ([], InputSessionState.new)
  | call :: earlier => do
      let (replies, before) ← replay gestures earlier
      let (reply, after) ← perform gestures before call
      pure (reply :: replies, after)

theorem Run.of_replay {gestures : Gestures Gesture Sequence}
    {calls : List (Call Button Gesture Other)} {replies : List (Reply Button Gesture Other)}
    {state : InputSessionState Button Sequence}
    (played : replay gestures calls = some (replies, state)) : Run gestures replies state := by
  induction calls generalizing replies state with
  | nil =>
      simp only [replay] at played
      cases played
      exact .start
  | cons _ _ ih =>
      simp only [replay, Option.bind_eq_bind, Option.bind_eq_some_iff, Prod.exists,
        Option.pure_def, Option.some.injEq, Prod.mk.injEq] at played
      obtain ⟨before, store, playedBefore, reply, after, performed, rfl, rfl⟩ := played
      exact .step (ih playedBefore) performed

/-- All events returned so far, in the order they were returned. -/
def emitted : List (Reply Button Gesture Other) → List (InputEvent Button Gesture Other)
  | [] => []
  | reply :: earlier => emitted earlier ++ reply.events

end ArcRelay.InputSession
