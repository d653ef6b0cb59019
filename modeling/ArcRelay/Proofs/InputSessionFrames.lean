/-
Module: ArcRelay.Proofs.InputSessionFrames
Purpose: What each call of the input session manager does to the frame state of each lease, and
  the history of accepted frames that a run builds up.
Trusted boundary: as for the manager
-/
import ArcRelay.Library.SlidingWindow
import ArcRelay.Server.InputSession

namespace ArcRelay.InputSession

variable {Button Gesture Other Sequence : Type} [DecidableEq Button]

/-!
Frames are judged by the owner, the last activity, the numbers of the reliable stream, its recent
times and the motion totals of a session.  `FrameState` is that part of a session, and `FrameMove`
says once what a call can do to it; everything below about whole runs is derived from that.
-/

/-- The part of a session that frames are judged by. -/
structure FrameState where
  deviceId : String
  lastActivity : Instant
  reliableSequence : UInt64
  reliableElapsedUs : UInt64
  reliableFrames : List Instant
  pointerTotalX256 : Int
  pointerTotalY256 : Int
  scrollTotalX256 : Int
  scrollTotalY256 : Int
deriving Repr, DecidableEq

def ActiveInputSession.frameState (session : ActiveInputSession Button Sequence) : FrameState where
  deviceId := session.deviceId
  lastActivity := session.lastActivity
  reliableSequence := session.reliableSequence
  reliableElapsedUs := session.reliableElapsedUs
  reliableFrames := session.reliableFrames
  pointerTotalX256 := session.pointerTotalX256
  pointerTotalY256 := session.pointerTotalY256
  scrollTotalX256 := session.scrollTotalX256
  scrollTotalY256 := session.scrollTotalY256

/-- The frame state of a lease, if it is active. -/
def frameState (state : InputSessionState Button Sequence) (lease : InputLease) :
    Option FrameState :=
  (state.active.lookup lease).map ActiveInputSession.frameState

/-- The frame state of a new lease. -/
def FrameState.fresh (deviceId : String) (now : Instant) : FrameState :=
  ⟨deviceId, now, 0, 0, [], 0, 0, 0, 0⟩

/-- The number the next reliable frame has to carry. -/
def FrameState.nextSequence (view : FrameState) : UInt64 :=
  if view.reliableSequence = UInt64.ofNat usizeMax then view.reliableSequence
  else view.reliableSequence + 1

/-! ### Differences of totals -/

/-- The difference of two totals stays in the range of `i64` and within the bound. -/
def DeltaWithin (bound : Nat) (delta : Int) : Prop :=
  -(2 ^ 63) ≤ delta ∧ delta < 2 ^ 63 ∧ delta.natAbs ≤ bound

/-- Four totals against those of the session. -/
structure MotionFits (view : FrameState) (pointerX pointerY scrollX scrollY : Int) : Prop where
  pointerX : DeltaWithin (8192 * 256) (pointerX - view.pointerTotalX256)
  pointerY : DeltaWithin (8192 * 256) (pointerY - view.pointerTotalY256)
  scrollX : DeltaWithin (2048 * 256) (scrollX - view.scrollTotalX256)
  scrollY : DeltaWithin (2048 * 256) (scrollY - view.scrollTotalY256)

theorem checkedSub_eq_some {left right delta : Int} :
    checkedSub left right = some delta ↔
      delta = left - right ∧ -(2 ^ 63) ≤ delta ∧ delta < 2 ^ 63 := by
  unfold checkedSub
  split
  next within =>
    constructor
    · rintro ⟨⟩
      exact ⟨rfl, within⟩
    · rintro ⟨rfl, -⟩
      rfl
  next outside =>
    constructor
    · rintro ⟨⟩
    · rintro ⟨rfl, within⟩
      exact absurd within outside

omit [DecidableEq Button] in
/-- A motion is taken exactly when its differences fit, and then as those. -/
theorem motionDeltas_ok {session : ActiveInputSession Button Sequence}
    {pointerX pointerY scrollX scrollY : Int} {deltas : Int × Int × Int × Int} :
    motionDeltas session pointerX pointerY scrollX scrollY = .ok deltas ↔
      MotionFits session.frameState pointerX pointerY scrollX scrollY ∧
        deltas = (pointerX - session.pointerTotalX256, pointerY - session.pointerTotalY256,
          scrollX - session.scrollTotalX256, scrollY - session.scrollTotalY256) := by
  have checked {left right delta : Int} {message : String} :
      (checkedSub left right).elim (Except.error message) Except.ok = .ok delta ↔
        delta = left - right ∧ -(2 ^ 63) ≤ delta ∧ delta < 2 ^ 63 := by
    rw [← checkedSub_eq_some]
    cases checkedSub left right <;> simp
  constructor
  · intro taken
    obtain ⟨px, pointerX, taken⟩ := except_bind_ok taken
    obtain ⟨py, pointerY, taken⟩ := except_bind_ok taken
    obtain ⟨sx, scrollX, taken⟩ := except_bind_ok taken
    obtain ⟨sy, scrollY, taken⟩ := except_bind_ok taken
    split at taken
    · cases taken
    next bounded =>
      rw [not_or, not_or, not_or, not_lt, not_lt, not_lt, not_lt] at bounded
      obtain ⟨rfl, pointerX⟩ := checked.mp pointerX
      obtain ⟨rfl, pointerY⟩ := checked.mp pointerY
      obtain ⟨rfl, scrollX⟩ := checked.mp scrollX
      obtain ⟨rfl, scrollY⟩ := checked.mp scrollY
      cases taken
      exact ⟨⟨⟨pointerX.1, pointerX.2, bounded.1⟩, ⟨pointerY.1, pointerY.2, bounded.2.1⟩,
        ⟨scrollX.1, scrollX.2, bounded.2.2.1⟩, ⟨scrollY.1, scrollY.2, bounded.2.2.2⟩⟩, rfl⟩
  · rintro ⟨fits, rfl⟩
    have bounded : ¬ (8192 * 256 < (pointerX - session.pointerTotalX256).natAbs ∨
        8192 * 256 < (pointerY - session.pointerTotalY256).natAbs ∨
        2048 * 256 < (scrollX - session.scrollTotalX256).natAbs ∨
        2048 * 256 < (scrollY - session.scrollTotalY256).natAbs) := by
      rw [not_or, not_or, not_or, not_lt, not_lt, not_lt, not_lt]
      exact ⟨fits.pointerX.2.2, fits.pointerY.2.2, fits.scrollX.2.2, fits.scrollY.2.2⟩
    have taken (left right : Int) {bound : Nat} {message : String}
        (within : DeltaWithin bound (left - right)) :
        (checkedSub left right).elim (Except.error message) Except.ok = .ok (left - right) :=
      checked.mpr ⟨rfl, within.1, within.2.1⟩
    rw [motionDeltas, taken pointerX session.pointerTotalX256 fits.pointerX,
      taken pointerY session.pointerTotalY256 fits.pointerY,
      taken scrollX session.scrollTotalX256 fits.scrollX,
      taken scrollY session.scrollTotalY256 fits.scrollY]
    exact if_neg bounded

/-! ### What a call does to the frame state of a lease -/

/-- The owner's check and the lease's age. -/
structure Admitted (view : FrameState) (deviceId : String) (checkAt : Instant) : Prop where
  owner : view.deviceId = deviceId
  fresh : checkAt - view.lastActivity < inputLeaseTimeout

/-- The checks of a reliable frame up to the rate limit. -/
structure InOrder (view : FrameState) (deviceId : String) (sequence elapsedUs : UInt64)
    (checkAt : Instant) : Prop extends Admitted view deviceId checkAt where
  sequence : sequence = view.nextSequence
  elapsed : view.reliableElapsedUs ≤ elapsedUs

/-- The session after an accepted reliable frame. -/
def FrameState.accept (view : FrameState) (sequence elapsedUs : UInt64) (now : Instant) :
    FrameState :=
  { view with
    reliableFrames := withinSpan (seconds 1) now view.reliableFrames ++ [now]
    reliableSequence := sequence
    reliableElapsedUs := elapsedUs
    lastActivity := now }

def FrameState.move (view : FrameState) (pointerX pointerY scrollX scrollY : Int)
    (now : Instant) : FrameState :=
  { view with
    pointerTotalX256 := pointerX
    pointerTotalY256 := pointerY
    scrollTotalX256 := scrollX
    scrollTotalY256 := scrollY
    lastActivity := now }

/-- What the caller of an accepted motion is told. -/
def FrameState.delta (view : FrameState) (pointerX pointerY scrollX scrollY : Int)
    (preciseScroll : Bool) : MotionDelta where
  pointerX256 := pointerX - view.pointerTotalX256
  pointerY256 := pointerY - view.pointerTotalY256
  scrollX256 := scrollX - view.scrollTotalX256
  scrollY256 := scrollY - view.scrollTotalY256
  preciseScroll := preciseScroll
  feedback := { reliableSequence := view.reliableSequence }

/-- The calls that grant the lease or accept a frame for it. -/
def Concerns (lease : InputLease) : Call Button Gesture Other → Reply Button Gesture Other → Prop
  | .acquire _ _ _ _, .acquired (.ok granted) => granted = lease
  | .acceptReliable named _ _ _ _ _, .accepted (.ok _) => named = lease
  | .acceptOrderedMotion named _ _ _ _ _ _ _ _, .moved (.ok _) => named = lease
  | _, _ => False

/-- Every way in which a call can change the frame state of a lease. -/
inductive FrameMove (lease : InputLease) : Call Button Gesture Other →
    Reply Button Gesture Other → Option FrameState → Option FrameState → Prop where
  | stays {call : Call Button Gesture Other} {reply : Reply Button Gesture Other}
      (view : Option FrameState) (other : ¬ Concerns lease call reply) :
      FrameMove lease call reply view view
  | leaves {call : Call Button Gesture Other} {reply : Reply Button Gesture Other}
      (view : Option FrameState) (other : ¬ Concerns lease call reply) :
      FrameMove lease call reply view none
  | acquires (view : Option FrameState) (deviceId : String) (workspaceRouted : Bool)
      (draws : List (UInt64 × UInt32)) (now : Instant) :
      FrameMove lease (.acquire deviceId workspaceRouted draws now) (.acquired (.ok lease)) view
        (some (.fresh deviceId now))
  | accepts {view : FrameState} {deviceId : String} {sequence elapsedUs : UInt64}
      {checkAt now : Instant} (passed : InOrder view deviceId sequence elapsedUs checkAt)
      (room : (withinSpan (seconds 1) now view.reliableFrames).length <
        maxReliableFramesPerSecond) :
      FrameMove lease (.acceptReliable lease deviceId sequence elapsedUs checkAt now)
        (.accepted (.ok ⟨sequence⟩)) (some view) (some (view.accept sequence elapsedUs now))
  | limits {view : FrameState} {deviceId : String} {sequence elapsedUs : UInt64}
      {checkAt now : Instant} (passed : InOrder view deviceId sequence elapsedUs checkAt)
      (full : maxReliableFramesPerSecond ≤
        (withinSpan (seconds 1) now view.reliableFrames).length) :
      FrameMove lease (.acceptReliable lease deviceId sequence elapsedUs checkAt now)
        (.accepted (.error "reliable input frame rate limit exceeded")) (some view)
        (some { view with reliableFrames := withinSpan (seconds 1) now view.reliableFrames })
  | moves {view : FrameState} {deviceId : String} {pointerX pointerY scrollX scrollY : Int}
      {preciseScroll : Bool} {checkAt now : Instant} (admitted : Admitted view deviceId checkAt)
      (fits : MotionFits view pointerX pointerY scrollX scrollY) :
      FrameMove lease
        (.acceptOrderedMotion lease deviceId pointerX pointerY scrollX scrollY preciseScroll
          checkAt now)
        (.moved (.ok (view.delta pointerX pointerY scrollX scrollY preciseScroll))) (some view)
        (some (view.move pointerX pointerY scrollX scrollY now))

section Moves

variable {gestures : Gestures Gesture Sequence} {state : InputSessionState Button Sequence}
  {lease : InputLease}

omit [DecidableEq Button] in
theorem frameState_setSession (named : InputLease)
    (session : ActiveInputSession Button Sequence) :
    frameState (state.setSession named session) lease =
      if lease = named then some session.frameState else frameState state lease := by
  rw [frameState, InputSessionState.setSession]
  split
  next same =>
    subst same
    rw [AList.lookup_insert]
    rfl
  next other =>
    rw [AList.lookup_insert_ne other]
    rfl

variable {session : ActiveInputSession Button Sequence}

omit [DecidableEq Button] in
theorem frameState_eq_some (present : state.active.lookup lease = some session) :
    frameState state lease = some session.frameState := by
  rw [frameState, present]
  rfl

/-- The check of the lease that both frame calls begin with. -/
structure Passes (state : InputSessionState Button Sequence) (named : InputLease)
    (deviceId : String) (checkAt : Instant) (session : ActiveInputSession Button Sequence) :
    Prop where
  present : state.active.lookup named = some session
  owner : ownerMatches session named deviceId = true
  fresh : checkAt - session.lastActivity < inputLeaseTimeout

omit [DecidableEq Button] in
theorem Passes.admitted {named : InputLease} {deviceId : String} {checkAt : Instant}
    (passes : Passes state named deviceId checkAt session) :
    Admitted session.frameState deviceId checkAt where
  owner := by
    have matched := passes.owner
    rw [ownerMatches, Bool.and_eq_true, decide_eq_true_eq, decide_eq_true_eq] at matched
    exact matched.2
  fresh := passes.fresh

section Outcomes

variable (state : InputSessionState Button Sequence) (named : InputLease) (deviceId : String)
  (sequence elapsedUs : UInt64) (pointerX pointerY scrollX scrollY : Int) (preciseScroll : Bool)
  (checkAt now : Instant)

/-- Every way in which `accept_reliable` can end. -/
inductive ReliableOutcome :
    Except String InputFeedbackSnapshot × InputSessionState Button Sequence → Prop where
  | refused (message : String) (early : message ≠ "reliable input frame rate limit exceeded") :
      ReliableOutcome (.error message, state)
  | limited {session : ActiveInputSession Button Sequence}
      (passes : Passes state named deviceId checkAt session)
      (inOrder : InOrder session.frameState deviceId sequence elapsedUs checkAt)
      (full : maxReliableFramesPerSecond ≤
        (withinSpan (seconds 1) now session.reliableFrames).length) :
      ReliableOutcome
        (.error "reliable input frame rate limit exceeded",
          state.setSession named
            { session with reliableFrames := withinSpan (seconds 1) now session.reliableFrames })
  | accepted {session : ActiveInputSession Button Sequence}
      (passes : Passes state named deviceId checkAt session)
      (inOrder : InOrder session.frameState deviceId sequence elapsedUs checkAt)
      (room : (withinSpan (seconds 1) now session.reliableFrames).length <
        maxReliableFramesPerSecond) :
      ReliableOutcome
        (.ok ⟨sequence⟩,
          state.setSession named
            { session with
              reliableFrames := withinSpan (seconds 1) now session.reliableFrames ++ [now]
              reliableSequence := sequence
              reliableElapsedUs := elapsedUs
              lastActivity := now })

omit [DecidableEq Button] in
theorem acceptReliable_outcome :
    ReliableOutcome state named deviceId sequence elapsedUs checkAt now
      (acceptReliable state named deviceId sequence elapsedUs checkAt now) := by
  unfold acceptReliable
  cases present : state.active.lookup named with
  | none => exact .refused _ (by decide)
  | some session =>
      dsimp only
      split
      · exact .refused _ (by decide)
      next owner =>
        rw [Bool.not_eq_true', Bool.not_eq_false] at owner
        split
        · exact .refused _ (by decide)
        next young =>
          have passes : Passes state named deviceId checkAt session :=
            ⟨present, owner, Nat.lt_of_not_le young⟩
          by_cases order : sequence ≠ (if session.reliableSequence = UInt64.ofNat usizeMax then
              session.reliableSequence else session.reliableSequence + 1)
          · rw [if_pos order]
            exact .refused _ (by decide)
          · rw [if_neg order]
            split
            · exact .refused _ (by decide)
            next forward =>
              have inOrder : InOrder session.frameState deviceId sequence elapsedUs checkAt :=
                { passes.admitted with
                  sequence := not_not.mp order
                  elapsed := UInt64.not_lt.mp forward }
              split
              next full => exact .limited passes inOrder full
              next room => exact .accepted passes inOrder (Nat.lt_of_not_le room)

/-- Every way in which `accept_ordered_motion` can end. -/
inductive MotionOutcome :
    Except String MotionDelta × InputSessionState Button Sequence → Prop where
  | refused (message : String)
      (unfit : ¬ ∃ session, Passes state named deviceId checkAt session ∧
        MotionFits session.frameState pointerX pointerY scrollX scrollY) :
      MotionOutcome (.error message, state)
  | accepted {session : ActiveInputSession Button Sequence}
      (passes : Passes state named deviceId checkAt session)
      (fits : MotionFits session.frameState pointerX pointerY scrollX scrollY) :
      MotionOutcome
        (.ok (session.frameState.delta pointerX pointerY scrollX scrollY preciseScroll),
          state.setSession named
            { session with
              pointerTotalX256 := pointerX
              pointerTotalY256 := pointerY
              scrollTotalX256 := scrollX
              scrollTotalY256 := scrollY
              lastActivity := now })

omit [DecidableEq Button] in
theorem acceptOrderedMotion_outcome :
    MotionOutcome state named deviceId pointerX pointerY scrollX scrollY preciseScroll checkAt now
      (acceptOrderedMotion state named deviceId pointerX pointerY scrollX scrollY preciseScroll
        checkAt now) := by
  unfold acceptOrderedMotion
  cases present : state.active.lookup named with
  | none =>
      refine .refused _ fun ⟨session, passes, _⟩ => ?_
      rw [passes.present] at present
      cases present
  | some session =>
      -- A check that fails for the session on file rules out every session.
      have only {other : ActiveInputSession Button Sequence}
          (passes : Passes state named deviceId checkAt other) : other = session :=
        Option.some.inj (passes.present.symm.trans present)
      dsimp only
      split
      next owner =>
        refine .refused _ fun ⟨other, passes, _⟩ => ?_
        rw [← only passes, passes.owner] at owner
        cases owner
      next owner =>
        rw [Bool.not_eq_true', Bool.not_eq_false] at owner
        split
        next expired =>
          refine .refused _ fun ⟨other, passes, _⟩ => ?_
          rw [← only passes] at expired
          exact Nat.not_lt_of_le expired passes.fresh
        next young =>
          have passes : Passes state named deviceId checkAt session :=
            ⟨present, owner, Nat.lt_of_not_le young⟩
          cases taken : motionDeltas session pointerX pointerY scrollX scrollY with
          | error =>
              refine .refused _ fun ⟨other, passes, fits⟩ => ?_
              rw [only passes] at fits
              rw [motionDeltas_ok.mpr ⟨fits, rfl⟩] at taken
              cases taken
          | ok =>
              obtain ⟨fits, rfl⟩ := motionDeltas_ok.mp taken
              exact .accepted passes fits

variable {state named deviceId sequence elapsedUs pointerX pointerY scrollX scrollY preciseScroll
  checkAt now}

theorem ReliableOutcome.frameMove
    {result : Except String InputFeedbackSnapshot × InputSessionState Button Sequence}
    (outcome : ReliableOutcome state named deviceId sequence elapsedUs checkAt now result) :
    FrameMove lease
      (.acceptReliable named deviceId sequence elapsedUs checkAt now : Call Button Gesture Other)
      (.accepted result.1) (frameState state lease) (frameState result.2 lease) := by
  cases outcome with
  | refused => exact .stays _ id
  | limited passes inOrder full =>
      rw [frameState_setSession]
      split
      next same =>
        subst same
        rw [frameState_eq_some passes.present]
        exact .limits inOrder full
      · exact .stays _ id
  | accepted passes inOrder room =>
      rw [frameState_setSession]
      split
      next same =>
        subst same
        rw [frameState_eq_some passes.present]
        exact .accepts inOrder room
      next other => exact .stays _ fun same => other same.symm

namespace MotionOutcome

variable {result : Except String MotionDelta × InputSessionState Button Sequence}
  (outcome : MotionOutcome state named deviceId pointerX pointerY scrollX scrollY preciseScroll
    checkAt now result)

include outcome

theorem frameMove :
    FrameMove lease
      (.acceptOrderedMotion named deviceId pointerX pointerY scrollX scrollY preciseScroll checkAt
        now : Call Button Gesture Other)
      (.moved result.1) (frameState state lease) (frameState result.2 lease) := by
  cases outcome with
  | refused => exact .stays _ id
  | accepted passes fits =>
      rw [frameState_setSession]
      split
      next same =>
        subst same
        rw [frameState_eq_some passes.present]
        exact .moves passes.admitted fits
      next other => exact .stays _ fun same => other same.symm

omit [DecidableEq Button] in
theorem rejected_iff :
    (∃ message, result.1 = .error message) ↔
      ¬ ∃ session, Passes state named deviceId checkAt session ∧
        MotionFits session.frameState pointerX pointerY scrollX scrollY := by
  cases outcome with
  | refused message unfit => exact ⟨fun _ => unfit, fun _ => ⟨message, rfl⟩⟩
  | accepted passes fits => exact ⟨nofun, fun unfit => absurd ⟨_, passes, fits⟩ unfit⟩

omit [DecidableEq Button] in
theorem unchanged {message : String} (rejected : result.1 = .error message) : result.2 = state := by
  cases outcome with
  | refused => rfl
  | accepted => cases rejected

end MotionOutcome

end Outcomes

variable {after : InputSessionState Button Sequence}

/-- A batch of events touches neither the other sessions nor the frame state of its own. -/
theorem normalizeEvent_frameState {context : EventContext Button}
    {next : ActiveInputSession Button Sequence} {event : InputEvent Button Gesture Other}
    {emitted : List (InputEvent Button Gesture Other)}
    (result : normalizeEvent gestures context state session event = some (emitted, after, next)) :
    after.active = state.active ∧ next.frameState = session.frameState := by
  unfold normalizeEvent at result
  cases event with
  | key =>
      dsimp only at result
      split at result
      · split at result
        · cases result
          exact ⟨rfl, rfl⟩
        · cases result
          exact ⟨rfl, rfl⟩
      · split at result
        · cases result
          exact ⟨rfl, rfl⟩
        · cases result
          exact ⟨rfl, rfl⟩
  | pointerButton =>
      dsimp only at result
      split at result
      · split at result
        · cases result
          exact ⟨rfl, rfl⟩
        · cases result
          exact ⟨rfl, rfl⟩
      · split at result
        · cases result
          exact ⟨rfl, rfl⟩
        · cases result
          exact ⟨rfl, rfl⟩
  | releaseAll =>
      cases result
      exact ⟨rfl, rfl⟩
  | systemGesture =>
      obtain ⟨⟨phases, sequence⟩, -, result⟩ := Option.bind_eq_some_iff.mp result
      cases result
      exact ⟨rfl, rfl⟩
  | other =>
      cases result
      exact ⟨rfl, rfl⟩

theorem normalizeEvents_frameState {contexts : Nat → EventContext Button}
    {next : ActiveInputSession Button Sequence}
    {events emitted : List (InputEvent Button Gesture Other)}
    (result : normalizeEvents gestures contexts state session events =
      some (emitted, after, next)) :
    after.active = state.active ∧ next.frameState = session.frameState := by
  induction events generalizing contexts state session emitted with
  | nil =>
      cases result
      exact ⟨rfl, rfl⟩
  | cons _ _ ih =>
      obtain ⟨⟨head, between, middle⟩, first, result⟩ := Option.bind_eq_some_iff.mp result
      obtain ⟨⟨tail, last, final⟩, rest, result⟩ := Option.bind_eq_some_iff.mp result
      cases result
      obtain ⟨active, frames⟩ := normalizeEvent_frameState first
      obtain ⟨laterActive, laterFrames⟩ := ih rest
      exact ⟨laterActive.trans active, laterFrames.trans frames⟩

/-- The lease's frame state stays, or the session is gone. -/
def FrameKept (lease : InputLease) (before after : InputSessionState Button Sequence) : Prop :=
  frameState after lease = frameState before lease ∨ frameState after lease = none

omit [DecidableEq Button] in
theorem FrameKept.erase (named : InputLease) (counts : HashMap UInt16 Nat)
    (buttons : HashMap Button Nat) :
    FrameKept lease state ⟨state.active.erase named, counts, buttons⟩ := by
  by_cases same : lease = named
  · subst same
    right
    rw [frameState, AList.lookup_erase]
    rfl
  · left
    rw [frameState, AList.lookup_erase_ne same]
    rfl

omit [DecidableEq Button] in
/-- A session that was taken out comes back with the same frame state. -/
theorem FrameKept.restore {named : InputLease} {next : ActiveInputSession Button Sequence}
    (present : state.active.lookup named = some session)
    (active : after.active = state.active.erase named)
    (frames : next.frameState = session.frameState) :
    FrameKept lease state (after.setSession named next) := by
  left
  rw [frameState_setSession]
  split
  next same =>
    subst same
    rw [frameState_eq_some present, frames]
  next other =>
    rw [frameState, active, AList.lookup_erase_ne other]
    rfl

theorem normalize_frameKept (contexts : Nat → EventContext Button) (named : InputLease)
    (deviceId : String) (events : List (InputEvent Button Gesture Other)) :
    FrameKept lease state
      (normalizeReliableEvents gestures contexts state named deviceId events).2 := by
  unfold normalizeReliableEvents
  split
  · exact .inl rfl
  · split
    · exact .inl rfl
    next session present =>
      dsimp only
      split
      · exact .restore present rfl rfl
      · split
        · exact .erase named _ _
        next normalized looped next result =>
          obtain ⟨active, frames⟩ := normalizeEvents_frameState result
          exact .restore present active frames

omit [DecidableEq Button] in
theorem cancelIdle_frameKept (named : InputLease) (deviceId : String) (now : Instant) :
    FrameKept lease state
      (cancelIdleSystemGesture gestures state named deviceId now :
        List (InputEvent Button Gesture Other) × _).2 := by
  unfold cancelIdleSystemGesture
  split
  · exact .inl rfl
  next session present =>
    dsimp only
    split
    · exact .inl rfl
    · left
      rw [frameState_setSession]
      split
      next same =>
        subst same
        rw [frameState_eq_some present]
        rfl
      · rfl

theorem release_frameKept (order : DrainOrder Button) (named : InputLease) :
    FrameKept lease state
      (release gestures order state named : List (InputEvent Button Gesture Other) × _).2 := by
  unfold release
  split
  · exact .inl rfl
  · exact .erase named _ _

theorem FrameKept.move {call : Call Button Gesture Other} {reply : Reply Button Gesture Other}
    (kept : FrameKept lease state after) (other : ¬ Concerns lease call reply) :
    FrameMove lease call reply (frameState state lease) (frameState after lease) := by
  rcases kept with same | gone
  · rw [same]
    exact .stays _ other
  · rw [gone]
    exact .leaves _ other

/-- A lease that is granted starts afresh. -/
theorem acquire_frameMove {deviceId : String} {workspaceRouted : Bool}
    {draws : List (UInt64 × UInt32)} {now : Instant} {result : Except String InputLease}
    (granted : acquireWithRouting gestures state deviceId workspaceRouted draws now =
      some (result, after)) :
    FrameMove lease
      (.acquire deviceId workspaceRouted draws now : Call Button Gesture Other)
      (.acquired result) (frameState state lease) (frameState after lease) := by
  unfold acquireWithRouting at granted
  split at granted
  · cases granted
    exact .stays _ id
  · obtain ⟨drawn, -, granted⟩ := Option.bind_eq_some_iff.mp granted
    cases granted
    rw [frameState_setSession]
    split
    next same =>
      subst same
      exact .acquires _ deviceId workspaceRouted draws now
    next other => exact .stays _ fun same => other same.symm

/-- One call, seen from a lease. -/
theorem perform_frameMove {call : Call Button Gesture Other} {reply : Reply Button Gesture Other}
    (performed : perform gestures state call = some (reply, after)) :
    FrameMove lease call reply (frameState state lease) (frameState after lease) := by
  cases call with
  | acquire =>
      obtain ⟨⟨result, reached⟩, granted, same⟩ := Option.map_eq_some_iff.mp performed
      cases same
      exact acquire_frameMove granted
  | acceptReliable =>
      cases performed
      exact (acceptReliable_outcome ..).frameMove
  | acceptOrderedMotion =>
      cases performed
      exact (acceptOrderedMotion_outcome ..).frameMove
  | normalize contexts named deviceId events =>
      cases performed
      exact (normalize_frameKept contexts named deviceId events).move id
  | cancelIdle named deviceId now =>
      cases performed
      exact (cancelIdle_frameKept named deviceId now).move id
  | release order named =>
      cases performed
      exact (release_frameKept order named).move id

end Moves

/-! ### Runs with a clock -/

/-- The clock readings of a call, in order. -/
def Call.readings : Call Button Gesture Other → List Instant
  | .acquire _ _ _ now => [now]
  | .acceptReliable _ _ _ _ checkAt now => [checkAt, now]
  | .acceptOrderedMotion _ _ _ _ _ _ _ checkAt now => [checkAt, now]
  | .cancelIdle _ _ now => [now]
  | .normalize _ _ _ _ => []
  | .release _ _ => []

/-- Calls with their replies, newest first.  Each clock reading stands in the relation `precedes`
to the next; `clock` is a reading after all of them. -/
inductive Traced (precedes : Instant → Instant → Prop) (gestures : Gestures Gesture Sequence) :
    List (Call Button Gesture Other × Reply Button Gesture Other) →
      InputSessionState Button Sequence → Instant → Prop where
  | start (clock : Instant) : Traced precedes gestures [] InputSessionState.new clock
  | step {trace : List (Call Button Gesture Other × Reply Button Gesture Other)}
      {before after : InputSessionState Button Sequence} {clock later : Instant}
      {call : Call Button Gesture Other} {reply : Reply Button Gesture Other}
      (earlier : Traced precedes gestures trace before clock)
      (performed : perform gestures before call = some (reply, after))
      (ordered : (clock :: call.readings ++ [later]).IsChain precedes) :
      Traced precedes gestures ((call, reply) :: trace) after later

/-- Runs on a clock that does not go back. -/
abbrev Timed (gestures : Gestures Gesture Sequence) :
    List (Call Button Gesture Other × Reply Button Gesture Other) →
      InputSessionState Button Sequence → Instant → Prop :=
  Traced (· ≤ ·) gestures

/-- One more call, its clock readings and the next one given. -/
theorem Traced.next {precedes : Instant → Instant → Prop} {gestures : Gestures Gesture Sequence}
    {trace : List (Call Button Gesture Other × Reply Button Gesture Other)}
    {before after : InputSessionState Button Sequence} {clock : Instant}
    {reply : Reply Button Gesture Other} (earlier : Traced precedes gestures trace before clock)
    (call : Call Button Gesture Other) (later : Instant)
    (ordered : (clock :: call.readings ++ [later]).IsChain precedes)
    (performed : perform gestures before call = some (reply, after)) :
    Traced precedes gestures ((call, reply) :: trace) after later :=
  .step earlier performed ordered

/-! ### The history of a lease -/

inductive Frame where
  | reliable (sequence elapsedUs : UInt64)
  | motion (pointerX pointerY scrollX scrollY : Int) (delta : MotionDelta)
deriving Repr, DecidableEq

structure AcceptedFrame where
  deviceId : String
  checkAt : Instant
  now : Instant
  frame : Frame
deriving Repr, DecidableEq

/-- A lease since it was granted: its device, and the frames accepted for it, oldest first. -/
structure LeaseHistory where
  deviceId : String
  acquiredAt : Instant
  frames : List AcceptedFrame
deriving Repr, DecidableEq

def LeaseHistory.push (history : LeaseHistory) (accepted : AcceptedFrame) : LeaseHistory :=
  { history with frames := history.frames ++ [accepted] }

/-- One call, added to what is known of the lease. -/
def recordCall (lease : InputLease) (earlier : Option LeaseHistory) :
    Call Button Gesture Other → Reply Button Gesture Other → Option LeaseHistory
  | .acquire deviceId _ _ now, .acquired (.ok granted) =>
      if granted = lease then some ⟨deviceId, now, []⟩ else earlier
  | .acceptReliable named deviceId sequence elapsedUs checkAt now, .accepted (.ok _) =>
      if named = lease then
        earlier.map (·.push ⟨deviceId, checkAt, now, .reliable sequence elapsedUs⟩)
      else earlier
  | .acceptOrderedMotion named deviceId pointerX pointerY scrollX scrollY _ checkAt now,
      .moved (.ok delta) =>
      if named = lease then
        earlier.map
          (·.push ⟨deviceId, checkAt, now, .motion pointerX pointerY scrollX scrollY delta⟩)
      else earlier
  | _, _ => earlier

/-- What a run says of a lease since it was last granted. -/
def history (lease : InputLease) :
    List (Call Button Gesture Other × Reply Button Gesture Other) → Option LeaseHistory
  | [] => none
  | (call, reply) :: earlier => recordCall lease (history lease earlier) call reply

theorem recordCall_of_other {lease : InputLease} {earlier : Option LeaseHistory}
    {call : Call Button Gesture Other} {reply : Reply Button Gesture Other}
    (other : ¬ Concerns lease call reply) : recordCall lease earlier call reply = earlier := by
  unfold recordCall
  split
  · simp only [Concerns] at other
    exact if_neg other
  · simp only [Concerns] at other
    exact if_neg other
  · simp only [Concerns] at other
    exact if_neg other
  · rfl

/-- What holds of a lease's history and frame state in every run: it holds of a new lease, and
every kind of move keeps it. -/
structure LeaseInvariant (precedes : Instant → Instant → Prop)
    (holds : LeaseHistory → Option FrameState → Instant → Prop) : Prop where
  acquires : ∀ deviceId now, holds ⟨deviceId, now, []⟩ (some (.fresh deviceId now)) now
  later : ∀ {record view clock now}, holds record view clock → precedes clock now →
    holds record view now
  leaves : ∀ {record view clock}, holds record view clock → holds record none clock
  accepts : ∀ {record view clock deviceId sequence elapsedUs checkAt now},
    holds record (some view) clock → precedes clock checkAt → precedes checkAt now →
    InOrder view deviceId sequence elapsedUs checkAt →
    (withinSpan (seconds 1) now view.reliableFrames).length < maxReliableFramesPerSecond →
    holds (record.push ⟨deviceId, checkAt, now, .reliable sequence elapsedUs⟩)
      (some (view.accept sequence elapsedUs now)) now
  limits : ∀ {record view clock now}, holds record (some view) clock → precedes clock now →
    holds record
      (some { view with reliableFrames := withinSpan (seconds 1) now view.reliableFrames }) now
  moves : ∀ {record view clock deviceId pointerX pointerY scrollX scrollY preciseScroll checkAt now},
    holds record (some view) clock → precedes clock checkAt → precedes checkAt now →
    Admitted view deviceId checkAt → MotionFits view pointerX pointerY scrollX scrollY →
    holds (record.push ⟨deviceId, checkAt, now, .motion pointerX pointerY scrollX scrollY
        (view.delta pointerX pointerY scrollX scrollY preciseScroll)⟩)
      (some (view.move pointerX pointerY scrollX scrollY now)) now

/-- The lease's history and frame state agree in this way, or the lease was never granted. -/
def Agree (holds : LeaseHistory → Option FrameState → Instant → Prop)
    (record : Option LeaseHistory) (view : Option FrameState) (clock : Instant) : Prop :=
  match record with
  | some record => holds record view clock
  | none => view = none

section Invariant

variable {gestures : Gestures Gesture Sequence} {lease : InputLease}
  {precedes : Instant → Instant → Prop} [IsTrans Instant precedes]
  {holds : LeaseHistory → Option FrameState → Instant → Prop}
  {trace : List (Call Button Gesture Other × Reply Button Gesture Other)}

variable {clock : Instant}

omit [IsTrans Instant precedes] in
theorem Agree.later (invariant : LeaseInvariant precedes holds) {record : Option LeaseHistory}
    {view : Option FrameState} {now : Instant} (agree : Agree holds record view clock)
    (forward : precedes clock now) : Agree holds record view now := by
  cases record with
  | none => exact agree
  | some => exact invariant.later agree forward

omit [IsTrans Instant precedes] in
/-- A lease that has a frame state was granted. -/
theorem Agree.granted {record : Option LeaseHistory} {view : FrameState}
    (agree : Agree holds record (some view) clock) :
    ∃ granted, record = some granted ∧ holds granted (some view) clock := by
  cases record with
  | none => cases agree
  | some granted => exact ⟨granted, rfl, agree⟩

theorem LeaseInvariant.step (invariant : LeaseInvariant precedes holds)
    {call : Call Button Gesture Other} {reply : Reply Button Gesture Other}
    {before after : Option FrameState} {later : Instant}
    (agree : Agree holds (history lease trace) before clock)
    (move : FrameMove lease call reply before after)
    (ordered : (clock :: call.readings ++ [later]).IsChain precedes) :
    Agree holds (history lease ((call, reply) :: trace)) after later := by
  have onward : precedes clock later :=
    List.rel_of_pairwise_cons (List.isChain_iff_pairwise.mp ordered) (by simp)
  rw [history]
  cases move with
  | stays _ other =>
      rw [recordCall_of_other other]
      exact agree.later invariant onward
  | leaves _ other =>
      rw [recordCall_of_other other]
      cases known : history lease trace with
      | none => rfl
      | some =>
          rw [known] at agree
          exact invariant.later (invariant.leaves agree) onward
  | acquires _ deviceId _ _ now =>
      rw [recordCall, if_pos rfl]
      simp only [Call.readings, List.cons_append, List.nil_append, List.isChain_cons_cons] at ordered
      exact invariant.later (invariant.acquires deviceId now) ordered.2.1
  | accepts passed room =>
      rw [recordCall, if_pos rfl]
      simp only [Call.readings, List.cons_append, List.nil_append, List.isChain_cons_cons] at ordered
      obtain ⟨record, known, granted⟩ := agree.granted
      rw [known]
      exact invariant.later (invariant.accepts granted ordered.1 ordered.2.1 passed room)
        ordered.2.2.1
  | limits =>
      rw [recordCall_of_other id]
      simp only [Call.readings, List.cons_append, List.nil_append, List.isChain_cons_cons] at ordered
      obtain ⟨record, known, granted⟩ := agree.granted
      rw [known]
      have reached := trans_of precedes ordered.1 ordered.2.1
      exact invariant.later (invariant.limits granted reached) ordered.2.2.1
  | moves admitted fits =>
      rw [recordCall, if_pos rfl]
      simp only [Call.readings, List.cons_append, List.nil_append, List.isChain_cons_cons] at ordered
      obtain ⟨record, known, granted⟩ := agree.granted
      rw [known]
      exact invariant.later (invariant.moves granted ordered.1 ordered.2.1 admitted fits)
        ordered.2.2.1

theorem LeaseInvariant.run (invariant : LeaseInvariant precedes holds)
    {state : InputSessionState Button Sequence} (run : Traced precedes gestures trace state clock) :
    Agree holds (history lease trace) (frameState state lease) clock := by
  induction run with
  | start => rfl
  | step _ performed ordered ih =>
      exact invariant.step ih (perform_frameMove performed) ordered

end Invariant

end ArcRelay.InputSession
