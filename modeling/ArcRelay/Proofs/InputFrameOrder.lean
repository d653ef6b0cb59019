/-
Module: ArcRelay.Proofs.InputFrameOrder
Purpose: Over whole runs of the input session manager: motion deltas add up to the totals, the
  reliable stream keeps its rate, and the accepted frames of a lease are numbered, ordered, the
  owner's and close together.
Trusted boundary: as for the manager; order and rate are stated for clocks that do not go back
-/
import ArcRelay.Proofs.InputSessionFrames
import ArcRelay.Proofs.InputSessionHolds

namespace ArcRelay.InputSession

variable {Button Gesture Other Sequence : Type} [DecidableEq Button]

section Runs

variable {gestures : Gestures Gesture Sequence} {lease : InputLease}
  {trace : List (Call Button Gesture Other × Reply Button Gesture Other)}
  {state : InputSessionState Button Sequence} {clock : Instant}

/-- An active lease was granted in the run, and its history agrees with its session. -/
theorem LeaseInvariant.of_present {precedes : Instant → Instant → Prop} [IsTrans Instant precedes]
    {holds : LeaseHistory → Option FrameState → Instant → Prop}
    (invariant : LeaseInvariant precedes holds) (run : Traced precedes gestures trace state clock)
    {session : ActiveInputSession Button Sequence}
    (present : state.active.lookup lease = some session) :
    ∃ record, history lease trace = some record ∧ holds record (some session.frameState) clock := by
  have agree : Agree holds (history lease trace) (frameState state lease) clock :=
    invariant.run run
  rw [frameState_eq_some present] at agree
  exact agree.granted

theorem LeaseInvariant.of_history {precedes : Instant → Instant → Prop}
    [IsTrans Instant precedes] {holds : LeaseHistory → Option FrameState → Instant → Prop}
    (invariant : LeaseInvariant precedes holds) (run : Traced precedes gestures trace state clock)
    {record : LeaseHistory} (known : history lease trace = some record) :
    holds record (frameState state lease) clock := by
  have agree : Agree holds (history lease trace) (frameState state lease) clock :=
    invariant.run run
  rw [known] at agree
  exact agree

end Runs

/-! ### Motion totals -/

/-- Pointer and scroll values, both axes each. -/
abbrev Axes := Int × Int × Int × Int

def MotionDelta.axes (delta : MotionDelta) : Axes :=
  (delta.pointerX256, delta.pointerY256, delta.scrollX256, delta.scrollY256)

def FrameState.totals (view : FrameState) : Axes :=
  (view.pointerTotalX256, view.pointerTotalY256, view.scrollTotalX256, view.scrollTotalY256)

/-- The totals a motion frame carried and the delta it was answered with. -/
def Frame.motion? : Frame → Option (Axes × MotionDelta)
  | .reliable _ _ => none
  | .motion pointerX pointerY scrollX scrollY delta =>
      some ((pointerX, pointerY, scrollX, scrollY), delta)

variable (record : LeaseHistory)

def LeaseHistory.motions : List (Axes × MotionDelta) :=
  record.frames.filterMap fun accepted => accepted.frame.motion?

/-- The totals of the last accepted motion, zero before the first. -/
def LeaseHistory.lastTotals : Axes :=
  (record.motions.getLast?.map Prod.fst).getD 0

def LeaseHistory.deltaSum : Axes :=
  (record.motions.map fun motion => motion.2.axes).sum

/-- A delta is the result of subtractions in `i64` that do not overflow, and within the bounds. -/
structure MotionDelta.Bounded (delta : MotionDelta) : Prop where
  pointerX : DeltaWithin (8192 * 256) delta.pointerX256
  pointerY : DeltaWithin (8192 * 256) delta.pointerY256
  scrollX : DeltaWithin (2048 * 256) delta.scrollX256
  scrollY : DeltaWithin (2048 * 256) delta.scrollY256

variable {view : FrameState} {pointerX pointerY : Int}

theorem MotionFits.bounded {scrollX scrollY : Int}
    (fits : MotionFits view pointerX pointerY scrollX scrollY) (preciseScroll : Bool) :
    (view.delta pointerX pointerY scrollX scrollY preciseScroll).Bounded :=
  ⟨fits.pointerX, fits.pointerY, fits.scrollX, fits.scrollY⟩

section Totals

variable (record : LeaseHistory) (deviceId : String) (checkAt now : Instant)
  (sequence elapsedUs : UInt64) (pointerX pointerY scrollX scrollY : Int) (delta : MotionDelta)

@[simp] theorem motions_push_reliable :
    (record.push ⟨deviceId, checkAt, now, .reliable sequence elapsedUs⟩).motions =
      record.motions := by
  simp [LeaseHistory.motions, LeaseHistory.push, Frame.motion?]

@[simp] theorem motions_push_motion :
    (record.push ⟨deviceId, checkAt, now, .motion pointerX pointerY scrollX scrollY delta⟩).motions =
      record.motions ++ [((pointerX, pointerY, scrollX, scrollY), delta)] := by
  simp [LeaseHistory.motions, LeaseHistory.push, Frame.motion?]

end Totals

/-- The deltas of a lease add up to the totals it was last sent, which its session stores. -/
structure Telescoped (record : LeaseHistory) (view : Option FrameState) : Prop where
  sum : record.deltaSum = record.lastTotals
  bounded : ∀ motion ∈ record.motions, motion.2.Bounded
  stored : ∀ current, view = some current → current.totals = record.lastTotals

variable {record : LeaseHistory} {deviceId : String} {checkAt : Instant}

theorem Telescoped.move {scrollX scrollY : Int} {preciseScroll : Bool} {now : Instant}
    (telescoped : Telescoped record (some view))
    (fits : MotionFits view pointerX pointerY scrollX scrollY) :
    Telescoped
      (record.push ⟨deviceId, checkAt, now, .motion pointerX pointerY scrollX scrollY
        (view.delta pointerX pointerY scrollX scrollY preciseScroll)⟩)
      (some (view.move pointerX pointerY scrollX scrollY now)) := by
  have reached : ∀ delta,
      (record.push ⟨deviceId, checkAt, now, .motion pointerX pointerY scrollX scrollY
        delta⟩).lastTotals = (pointerX, pointerY, scrollX, scrollY) := by
    intro delta
    simp [LeaseHistory.lastTotals]
  refine ⟨?_, ?_, ?_⟩
  · have before := telescoped.sum.trans (telescoped.stored view rfl).symm
    rw [reached, LeaseHistory.deltaSum, motions_push_motion, List.map_append, List.sum_append,
      ← LeaseHistory.deltaSum, before]
    simp [FrameState.totals, FrameState.delta, MotionDelta.axes]
  · intro motion member
    rw [motions_push_motion] at member
    rcases List.mem_append.mp member with earlier | new
    · exact telescoped.bounded motion earlier
    · rw [List.mem_singleton.mp new]
      exact fits.bounded preciseScroll
  · rintro current ⟨⟩
    rw [reached]
    rfl

instance : IsTrans Instant fun _ _ => True := ⟨fun _ _ _ _ _ => trivial⟩

theorem telescoped_invariant :
    LeaseInvariant (fun _ _ => True) fun record view _ => Telescoped record view where
  acquires := fun deviceId now =>
    ⟨rfl, fun motion member => (nomatch member), by rintro current ⟨⟩; rfl⟩
  later := fun telescoped _ => telescoped
  leaves := fun telescoped =>
    ⟨telescoped.sum, telescoped.bounded, fun current present => nomatch present⟩
  accepts := by
    intro record view clock deviceId sequence elapsedUs checkAt now telescoped _ _ _ _
    have motions := motions_push_reliable record deviceId checkAt now sequence elapsedUs
    refine ⟨?_, ?_, ?_⟩
    · rw [LeaseHistory.deltaSum, LeaseHistory.lastTotals, motions]
      exact telescoped.sum
    · rw [motions]
      exact telescoped.bounded
    · rintro current ⟨⟩
      rw [LeaseHistory.lastTotals, motions]
      exact telescoped.stored view rfl
  limits := by
    intro record view clock now telescoped _
    refine ⟨telescoped.sum, telescoped.bounded, ?_⟩
    rintro current ⟨⟩
    exact telescoped.stored view rfl
  moves := fun telescoped _ _ _ fits => telescoped.move fits

variable {state : InputSessionState Button Sequence} {clock : Instant}

/-- Whatever the clock does: the deltas returned for a lease add up, axis by axis, to the totals
of its last accepted motion, which are the stored ones; each is the exact difference within its
bound; and a motion is rejected, with the manager unchanged, exactly when the check of the lease
or of an axis fails. -/
theorem motion_deltas_telescope {gestures : Gestures Gesture Sequence}
    {trace : List (Call Button Gesture Other × Reply Button Gesture Other)}
    {state : InputSessionState Button Sequence} {clock : Instant}
    (run : Traced (fun _ _ => True) gestures trace state clock) (lease : InputLease) :
    (∀ record, history lease trace = some record →
        record.deltaSum = record.lastTotals ∧ ∀ motion ∈ record.motions, motion.2.Bounded) ∧
      (∀ session, state.active.lookup lease = some session →
        ∃ record, history lease trace = some record ∧
          session.frameState.totals = record.lastTotals) ∧
      ∀ deviceId pointerX pointerY scrollX scrollY preciseScroll checkAt now,
        ((∃ message, (acceptOrderedMotion state lease deviceId pointerX pointerY scrollX scrollY
            preciseScroll checkAt now).1 = .error message) ↔
          ¬ ∃ session, Passes state lease deviceId checkAt session ∧
            MotionFits session.frameState pointerX pointerY scrollX scrollY) ∧
        ∀ message, (acceptOrderedMotion state lease deviceId pointerX pointerY scrollX scrollY
            preciseScroll checkAt now).1 = .error message →
          (acceptOrderedMotion state lease deviceId pointerX pointerY scrollX scrollY
            preciseScroll checkAt now).2 = state := by
  refine ⟨?_, ?_, ?_⟩
  · intro record known
    have telescoped := telescoped_invariant.of_history run known
    exact ⟨telescoped.sum, telescoped.bounded⟩
  · intro session present
    obtain ⟨record, known, telescoped⟩ := telescoped_invariant.of_present run present
    exact ⟨record, known, telescoped.stored _ rfl⟩
  · intro deviceId pointerX pointerY scrollX scrollY preciseScroll checkAt now
    have outcome := acceptOrderedMotion_outcome state lease deviceId pointerX pointerY scrollX
      scrollY preciseScroll checkAt now
    exact ⟨outcome.rejected_iff, fun message => outcome.unchanged⟩

/-- A tablet is granted its lease at time zero. -/
def grantTablet : Call Bool Unit Unit := .acquire "tablet" false [(7, 3)] 0

/-- A motion frame of the tablet, with its totals. -/
def tabletMotion (pointerX pointerY scrollX scrollY : Int) (now : Instant) : Call Bool Unit Unit :=
  .acceptOrderedMotion ⟨7, 3⟩ "tablet" pointerX pointerY scrollX scrollY true now now

/-- A reliable frame of the tablet, with the two clock readings of its call. -/
def tabletFrame (sequence : UInt64) (checkAt now : Instant) : Call Bool Unit Unit :=
  .acceptReliable ⟨7, 3⟩ "tablet" sequence 0 checkAt now

/-- Two accepted motions with a jump between them that is rejected. -/
theorem motion_deltas_telescope_strokes :
    ∃ (trace : List (Call Bool Unit Unit × Reply Bool Unit Unit))
      (state : InputSessionState Bool Unit) (record : LeaseHistory),
      Traced (fun _ _ => True) plainGestures trace state 4 ∧
        history ⟨7, 3⟩ trace = some record ∧ record.motions.length = 2 ∧
        record.deltaSum = (300, -20, 5, 0) ∧ record.deltaSum = record.lastTotals := by
  have start : Traced (fun _ _ => True) plainGestures
    ([] : List (Call Bool Unit Unit × Reply Bool Unit Unit)) InputSessionState.new 0 := .start 0
  have granted := start.next grantTablet 1 (by decide) rfl
  have first := granted.next (tabletMotion 100 (-50) 0 0 1) 2 (by decide) rfl
  have jump := first.next (tabletMotion (2 ^ 62) 0 0 0 2) 3 (by decide) rfl
  have run := jump.next (tabletMotion 300 (-20) 5 0 3) 4 (by decide) rfl
  exact ⟨_, _, _, run, rfl, rfl, rfl, ((motion_deltas_telescope run ⟨7, 3⟩).1 _ rfl).1⟩

/-! ### The rate of the reliable stream -/

def Frame.number? : Frame → Option (UInt64 × UInt64)
  | .reliable sequence elapsedUs => some (sequence, elapsedUs)
  | .motion _ _ _ _ _ => none

/-- The accepted reliable frames, each with the time it was accepted at. -/
def LeaseHistory.reliables (record : LeaseHistory) : List ((UInt64 × UInt64) × Instant) :=
  record.frames.filterMap fun accepted =>
    accepted.frame.number?.map fun numbers => (numbers, accepted.now)

def LeaseHistory.reliableTimes (record : LeaseHistory) : List Instant :=
  record.reliables.map Prod.snd

section Reliables

variable (record : LeaseHistory) (deviceId : String) (checkAt now : Instant)
  (sequence elapsedUs : UInt64) (pointerX pointerY scrollX scrollY : Int) (delta : MotionDelta)

@[simp] theorem reliables_push_reliable :
    (record.push ⟨deviceId, checkAt, now, .reliable sequence elapsedUs⟩).reliables =
      record.reliables ++ [((sequence, elapsedUs), now)] := by
  simp [LeaseHistory.reliables, LeaseHistory.push, Frame.number?]

@[simp] theorem reliables_push_motion :
    (record.push ⟨deviceId, checkAt, now, .motion pointerX pointerY scrollX scrollY
      delta⟩).reliables = record.reliables := by
  simp [LeaseHistory.reliables, LeaseHistory.push, Frame.number?]

end Reliables

/-- The queue of a session is the window of all frames the lease ever had accepted. -/
def InRate (record : LeaseHistory) (view : Option FrameState) (clock : Instant) : Prop :=
  ∃ kept, Window (seconds 1) maxReliableFramesPerSecond record.reliableTimes kept clock ∧
    ∀ current, view = some current → current.reliableFrames = kept

theorem InRate.window (inRate : InRate record (some view) clock) :
    Window (seconds 1) maxReliableFramesPerSecond record.reliableTimes view.reliableFrames
      clock := by
  obtain ⟨kept, window, same⟩ := inRate
  rw [same view rfl]
  exact window

theorem Window.inRate
    (window : Window (seconds 1) maxReliableFramesPerSecond record.reliableTimes
      view.reliableFrames clock) : InRate record (some view) clock :=
  ⟨view.reliableFrames, window, by rintro current ⟨⟩; rfl⟩

theorem inRate_invariant : LeaseInvariant (· ≤ ·) InRate where
  acquires := fun deviceId now => Window.inRate (Window.start _ _ now)
  later := fun ⟨kept, window, same⟩ forward => ⟨kept, window.later forward, same⟩
  leaves := fun ⟨kept, window, _⟩ => ⟨kept, window, fun current present => nomatch present⟩
  accepts := by
    intro record view clock deviceId sequence elapsedUs checkAt now inRate forward onward _ room
    have cleaned := (inRate.window.later (forward.trans onward)).clean
    apply Window.inRate
    rw [LeaseHistory.reliableTimes, reliables_push_reliable, List.map_append]
    exact cleaned.accept room
  limits := by
    intro record view clock now inRate forward
    exact Window.inRate (inRate.window.later forward).clean
  moves := by
    intro record view clock deviceId pointerX pointerY scrollX scrollY preciseScroll checkAt now
      inRate forward onward _ _
    apply Window.inRate
    rw [LeaseHistory.reliableTimes, reliables_push_motion]
    exact inRate.window.later (forward.trans onward)

/-- Any 241 consecutive reliable frames span a second, the queue is sorted and holds at most 240,
and a frame is rejected for its rate only when 240 were accepted in the second before it. -/
theorem reliable_frames_keep_rate {gestures : Gestures Gesture Sequence}
    {trace : List (Call Button Gesture Other × Reply Button Gesture Other)}
    {state : InputSessionState Button Sequence} {clock : Instant}
    (run : Timed gestures trace state clock) (lease : InputLease) :
    (∀ record, history lease trace = some record →
        ∀ front first middle last rest,
          record.reliableTimes = front ++ first :: (middle ++ last :: rest) →
          middle.length = 239 → first + seconds 1 ≤ last) ∧
      (∀ session, state.active.lookup lease = some session →
        session.reliableFrames.Pairwise (· ≤ ·) ∧ session.reliableFrames.length ≤ 240) ∧
      ∀ deviceId sequence elapsedUs checkAt now, clock ≤ now →
        (acceptReliable state lease deviceId sequence elapsedUs checkAt now).1 =
          .error "reliable input frame rate limit exceeded" →
        ∃ record, history lease trace = some record ∧
          240 ≤ (record.reliableTimes.filter fun time =>
            time ≤ now ∧ now < time + seconds 1).length := by
  refine ⟨?_, ?_, ?_⟩
  · intro record known front first middle last rest split count
    obtain ⟨kept, window, -⟩ := inRate_invariant.of_history run known
    refine window.spread front first middle last rest split ?_
    rw [count]
    rfl
  · intro session present
    obtain ⟨record, -, inRate⟩ := inRate_invariant.of_present run present
    exact ⟨inRate.window.kept_sorted, inRate.window.bounded⟩
  · intro deviceId sequence elapsedUs checkAt now forward limited
    have outcome := acceptReliable_outcome state lease deviceId sequence elapsedUs checkAt now
    generalize acceptReliable state lease deviceId sequence elapsedUs checkAt now = result
      at outcome limited
    cases outcome with
    | refused _ early => exact absurd (Except.error.inj limited) early
    | accepted => cases limited
    | limited passes _ full =>
        obtain ⟨record, known, inRate⟩ := inRate_invariant.of_present run passes.present
        have window := inRate.window.later forward
        refine ⟨record, known, full.trans ?_⟩
        -- The cleaned queue is a sublist of what was accepted, and all of it is recent.
        obtain ⟨old, split, -⟩ := window.clean.dropped
        rw [split, List.filter_append, List.length_append]
        have recent : ∀ time ∈ withinSpan (seconds 1) now _, time ≤ now ∧ now < time + seconds 1 :=
          fun time member => ⟨window.past time (split ▸ List.mem_append_right old member),
            window.recent time member⟩
        rw [List.filter_eq_self.mpr fun time member => decide_eq_true (recent time member)]
        exact Nat.le_add_left _ _

/-- Calls and the readings after them, the last first, carried out one after the other. -/
def replayTimed : List (Call Bool Unit Unit × Instant) →
    Option (List (Call Bool Unit Unit × Reply Bool Unit Unit) × InputSessionState Bool Unit × Instant)
  | [] => some ([], .new, 0)
  | (call, later) :: earlier => do
      let (trace, state, clock) ← replayTimed earlier
      let (reply, after) ← perform plainGestures state call
      guard ((clock :: call.readings ++ [later]).IsChain (· ≤ ·))
      return ((call, reply) :: trace, after, later)

theorem timed_of_replay {calls : List (Call Bool Unit Unit × Instant)}
    {trace : List (Call Bool Unit Unit × Reply Bool Unit Unit)}
    {state : InputSessionState Bool Unit} {clock : Instant}
    (replayed : replayTimed calls = some (trace, state, clock)) :
    Timed plainGestures trace state clock := by
  induction calls generalizing trace state clock with
  | nil =>
      cases replayed
      exact .start 0
  | cons head _ ih =>
      obtain ⟨call, later⟩ := head
      simp only [replayTimed, Option.bind_eq_bind, Option.bind_eq_some_iff] at replayed
      obtain ⟨⟨_, _, _⟩, before, ⟨_, _⟩, performed, _, ordered, result⟩ := replayed
      cases result
      exact .step (ih before) performed (by simpa [guard] using ordered)

/-- The tablet sends 240 frames within a second. -/
def fullSecond : List (Call Bool Unit Unit × Instant) :=
  (List.range' 1 240).reverse.map (fun time => (tabletFrame time.toUInt64 time time, time + 1)) ++
    [(grantTablet, 1)]

/-- They are accepted, and the next one is rejected: 240 were accepted in the second before. -/
theorem reliable_frames_keep_rate_full_second :
    ∃ (trace : List (Call Bool Unit Unit × Reply Bool Unit Unit))
      (state : InputSessionState Bool Unit) (record : LeaseHistory),
      Timed plainGestures trace state 241 ∧
        (acceptReliable state ⟨7, 3⟩ "tablet" 241 0 241 241).1 =
          .error "reliable input frame rate limit exceeded" ∧
        history ⟨7, 3⟩ trace = some record ∧
        240 ≤ (record.reliableTimes.filter fun time =>
          time ≤ 241 ∧ 241 < time + seconds 1).length := by
  have played : (replayTimed fullSecond).any (fun (_, state, clock) => decide (clock = 241 ∧
      (acceptReliable state ⟨7, 3⟩ "tablet" 241 0 241 241).1 =
        .error "reliable input frame rate limit exceeded")) = true := by
    decide +kernel
  obtain ⟨⟨trace, state, _⟩, replayed, seen⟩ := (Option.any_eq_true _ _).mp played
  obtain ⟨rfl, refused⟩ := of_decide_eq_true seen
  have run := timed_of_replay replayed
  obtain ⟨record, known, full⟩ :=
    (reliable_frames_keep_rate run ⟨7, 3⟩).2.2 "tablet" 241 0 241 241 le_rfl refused
  exact ⟨trace, state, record, run, refused, known, full⟩

/-! ### The life of a lease -/

def LeaseHistory.sequences (record : LeaseHistory) : List Nat :=
  record.reliables.map fun reliable => reliable.1.1.toNat

def LeaseHistory.elapsed (record : LeaseHistory) : List UInt64 :=
  record.reliables.map fun reliable => reliable.1.2

/-- The time recorded with the last of these frames, the time of the grant before the first. -/
def LeaseHistory.activityAfter (record : LeaseHistory) (frames : List AcceptedFrame) : Instant :=
  (frames.getLast?.map AcceptedFrame.now).getD record.acquiredAt

/-- Every frame was checked less than the lease's timeout after the activity before it. -/
def LeaseHistory.Close (record : LeaseHistory) : Prop :=
  ∀ front frame rest, record.frames = front ++ frame :: rest →
    record.activityAfter front ≤ frame.checkAt ∧ frame.checkAt ≤ frame.now ∧
      frame.checkAt < record.activityAfter front + inputLeaseTimeout

/-- What the accepted frames of a lease have in common. -/
structure Ordered (record : LeaseHistory) : Prop where
  owner : ∀ frame ∈ record.frames, frame.deviceId = record.deviceId
  sequences : record.sequences.length < 2 ^ 64 →
    record.sequences = List.range' 1 record.sequences.length
  elapsed : record.elapsed.Pairwise (· ≤ ·)
  close : record.Close

/-- What the session of a lease knows of its accepted frames. -/
structure Tracks (record : LeaseHistory) (clock : Instant) (view : FrameState) : Prop where
  owner : view.deviceId = record.deviceId
  activity : view.lastActivity = record.activityAfter record.frames
  past : view.lastActivity ≤ clock
  sequence : view.reliableSequence.toNat = min record.sequences.length (2 ^ 64 - 1)
  elapsed : ∀ elapsedUs ∈ record.elapsed, elapsedUs ≤ view.reliableElapsedUs

theorem FrameState.nextSequence_toNat (view : FrameState) :
    view.nextSequence.toNat = min (view.reliableSequence.toNat + 1) (2 ^ 64 - 1) := by
  have small := view.reliableSequence.toNat_lt
  unfold FrameState.nextSequence
  split
  next top =>
    rw [top]
    decide
  next below =>
    have below : view.reliableSequence.toNat ≠ 2 ^ 64 - 1 := fun top =>
      below (UInt64.toNat_inj.mp top)
    rw [UInt64.toNat_add, UInt64.toNat_one]
    omega

section Frames

variable {record : LeaseHistory} {view : FrameState} {clock : Instant} {accepted : AcceptedFrame}

theorem LeaseHistory.Close.push (close : record.Close)
    (forward : record.activityAfter record.frames ≤ accepted.checkAt)
    (onward : accepted.checkAt ≤ accepted.now)
    (fresh : accepted.checkAt < record.activityAfter record.frames + inputLeaseTimeout) :
    (record.push accepted).Close := by
  intro front frame rest split
  rcases List.eq_nil_or_concat rest with rfl | ⟨earlier, newest, rfl⟩
  · obtain ⟨rfl, same⟩ := List.append_inj' split rfl
    cases same
    exact ⟨forward, onward, fresh⟩
  · rw [List.concat_eq_append] at split
    have halves : record.frames ++ [accepted] = (front ++ frame :: earlier) ++ [newest] := by
      rw [List.append_assoc]
      exact split
    exact close front frame earlier (List.append_inj' halves rfl).1

theorem activityAfter_push :
    (record.push accepted).activityAfter (record.push accepted).frames = accepted.now := by
  simp [LeaseHistory.push, LeaseHistory.activityAfter]

theorem owner_push (owner : ∀ frame ∈ record.frames, frame.deviceId = record.deviceId)
    (same : accepted.deviceId = record.deviceId) :
    ∀ frame ∈ (record.push accepted).frames, frame.deviceId = (record.push accepted).deviceId := by
  intro frame member
  rcases List.mem_append.mp member with earlier | new
  · exact owner frame earlier
  · rw [List.mem_singleton.mp new]
    exact same

end Frames

/-- The accepted frames are in order, and an active session knows the last of them. -/
structure Lives (record : LeaseHistory) (view : Option FrameState) (clock : Instant) : Prop where
  ordered : Ordered record
  tracks : ∀ current, view = some current → Tracks record clock current

section Steps

variable {record : LeaseHistory} {view : FrameState} {clock checkAt now : Instant}
  {deviceId : String}

/-- An admitted frame comes less than the timeout after the activity before it. -/
theorem Lives.close_push (lives : Lives record (some view) clock) (forward : clock ≤ checkAt)
    (onward : checkAt ≤ now) (admitted : Admitted view deviceId checkAt) (frame : Frame) :
    (record.push ⟨deviceId, checkAt, now, frame⟩).Close := by
  have tracks := lives.tracks view rfl
  have fresh := admitted.fresh
  have reached := tracks.past.trans forward
  refine lives.ordered.close.push (tracks.activity ▸ reached) onward ?_
  rw [← tracks.activity]
  exact (Nat.sub_lt_iff_lt_add' reached).mp fresh

theorem Lives.accept {sequence elapsedUs : UInt64} (lives : Lives record (some view) clock)
    (forward : clock ≤ checkAt) (onward : checkAt ≤ now)
    (inOrder : InOrder view deviceId sequence elapsedUs checkAt) :
    Lives (record.push ⟨deviceId, checkAt, now, .reliable sequence elapsedUs⟩)
      (some (view.accept sequence elapsedUs now)) now := by
  have tracks := lives.tracks view rfl
  have reliables := reliables_push_reliable record deviceId checkAt now sequence elapsedUs
  have sequences : (record.push ⟨deviceId, checkAt, now,
      .reliable sequence elapsedUs⟩).sequences = record.sequences ++ [sequence.toNat] := by
    rw [LeaseHistory.sequences, reliables, List.map_append]
    rfl
  have elapsed : (record.push ⟨deviceId, checkAt, now,
      .reliable sequence elapsedUs⟩).elapsed = record.elapsed ++ [elapsedUs] := by
    rw [LeaseHistory.elapsed, reliables, List.map_append]
    rfl
  have next : sequence.toNat = min (record.sequences.length + 1) (2 ^ 64 - 1) := by
    rw [inOrder.sequence, view.nextSequence_toNat, tracks.sequence]
    omega
  have earlier : ∀ time ∈ record.elapsed, time ≤ elapsedUs := fun time member =>
    UInt64.le_trans (tracks.elapsed time member) inOrder.elapsed
  refine ⟨⟨?_, ?_, ?_, ?_⟩, ?_⟩
  · exact owner_push lives.ordered.owner (inOrder.owner.symm.trans tracks.owner)
  · intro few
    rw [sequences, List.length_append, List.length_singleton] at few
    rw [sequences, List.length_append, List.length_singleton, List.range'_concat, next,
      ← lives.ordered.sequences (by omega)]
    congr 2
    omega
  · rw [elapsed]
    refine List.pairwise_append.mpr ⟨lives.ordered.elapsed, List.pairwise_singleton _ _, ?_⟩
    intro time member last new
    rw [List.mem_singleton.mp new]
    exact earlier time member
  · exact lives.close_push forward onward inOrder.toAdmitted _
  · rintro current ⟨⟩
    refine ⟨tracks.owner, ?_, le_rfl, ?_, ?_⟩
    · rw [activityAfter_push]
      rfl
    · rw [sequences, List.length_append, List.length_singleton]
      exact next
    · intro time member
      rw [elapsed] at member
      rcases List.mem_append.mp member with old | new
      · exact earlier time old
      · rw [List.mem_singleton.mp new]
        exact UInt64.le_refl _

theorem Lives.move {pointerX pointerY scrollX scrollY : Int} {delta : MotionDelta}
    (lives : Lives record (some view) clock) (forward : clock ≤ checkAt) (onward : checkAt ≤ now)
    (admitted : Admitted view deviceId checkAt) :
    Lives (record.push ⟨deviceId, checkAt, now, .motion pointerX pointerY scrollX scrollY delta⟩)
      (some (view.move pointerX pointerY scrollX scrollY now)) now := by
  have tracks := lives.tracks view rfl
  have reliables := reliables_push_motion record deviceId checkAt now pointerX pointerY scrollX
    scrollY delta
  have sequences : (record.push ⟨deviceId, checkAt, now,
      .motion pointerX pointerY scrollX scrollY delta⟩).sequences = record.sequences := by
    rw [LeaseHistory.sequences, reliables, LeaseHistory.sequences]
  have elapsed : (record.push ⟨deviceId, checkAt, now,
      .motion pointerX pointerY scrollX scrollY delta⟩).elapsed = record.elapsed := by
    rw [LeaseHistory.elapsed, reliables, LeaseHistory.elapsed]
  refine ⟨⟨?_, ?_, ?_, ?_⟩, ?_⟩
  · exact owner_push lives.ordered.owner (admitted.owner.symm.trans tracks.owner)
  · rw [sequences]
    exact lives.ordered.sequences
  · rw [elapsed]
    exact lives.ordered.elapsed
  · exact lives.close_push forward onward admitted _
  · rintro current ⟨⟩
    refine ⟨tracks.owner, ?_, le_rfl, ?_, ?_⟩
    · rw [activityAfter_push]
      rfl
    · rw [sequences]
      exact tracks.sequence
    · rw [elapsed]
      exact tracks.elapsed

end Steps

theorem lives_invariant : LeaseInvariant (· ≤ ·) Lives where
  acquires := by
    intro deviceId now
    refine ⟨⟨fun frame member => (nomatch member), fun _ => rfl, .nil, ?_⟩, ?_⟩
    · intro front frame rest split
      cases front <;> cases split
    · rintro current ⟨⟩
      exact ⟨rfl, rfl, le_rfl, rfl, fun elapsedUs member => nomatch member⟩
  later := by
    intro record view clock now lives forward
    refine ⟨lives.ordered, fun current present => ?_⟩
    have tracks := lives.tracks current present
    exact { tracks with past := tracks.past.trans forward }
  leaves := fun lives => ⟨lives.ordered, fun current present => nomatch present⟩
  accepts := fun lives forward onward inOrder _ => lives.accept forward onward inOrder
  limits := by
    intro record view clock now lives forward
    refine ⟨lives.ordered, ?_⟩
    rintro current ⟨⟩
    have tracks := lives.tracks view rfl
    exact ⟨tracks.owner, tracks.activity, tracks.past.trans forward, tracks.sequence,
      tracks.elapsed⟩
  moves := fun lives forward onward admitted _ => lives.move forward onward admitted

/-- The calls that grant the lease. -/
def Grants (lease : InputLease) : Call Button Gesture Other → Reply Button Gesture Other → Prop
  | .acquire _ _ _ _, .acquired (.ok granted) => granted = lease
  | _, _ => False

section Expiry

variable {gestures : Gestures Gesture Sequence} {lease : InputLease}
  {state : InputSessionState Button Sequence} {clock : Instant}

/-- One call after the timeout adds no frame. -/
theorem Lives.no_frame {trace : List (Call Button Gesture Other × Reply Button Gesture Other)}
    {record : LeaseHistory} {before after : Option FrameState} {call : Call Button Gesture Other}
    {reply : Reply Button Gesture Other} (known : history lease trace = some record)
    (lives : Lives record before clock) (move : FrameMove lease call reply before after)
    (ungranted : ¬ Grants lease call reply)
    (late : ∀ reading ∈ call.readings,
      record.activityAfter record.frames + inputLeaseTimeout ≤ reading) :
    history lease ((call, reply) :: trace) = some record := by
  have expired {view : FrameState} {deviceId : String} {checkAt : Instant}
      (present : before = some view) (member : checkAt ∈ call.readings)
      (admitted : Admitted view deviceId checkAt) : False := by
    have fresh := admitted.fresh
    have reached := late checkAt member
    rw [← (lives.tracks view present).activity] at reached
    exact Nat.not_le_of_lt fresh (Nat.le_sub_of_add_le' reached)
  rw [history]
  cases move with
  | stays _ other => rw [recordCall_of_other other, known]
  | leaves _ other => rw [recordCall_of_other other, known]
  | acquires => exact absurd rfl ungranted
  | accepts inOrder => exact (expired rfl (.head _) inOrder.toAdmitted).elim
  | limits inOrder => exact (expired rfl (.head _) inOrder.toAdmitted).elim
  | moves admitted => exact (expired rfl (.head _) admitted).elim

/-- Once the timeout has passed since the last activity of a lease, no frame is accepted for it
any more. -/
theorem history_after_timeout
    {later trace : List (Call Button Gesture Other × Reply Button Gesture Other)}
    {record : LeaseHistory} (run : Timed gestures (later ++ trace) state clock)
    (known : history lease trace = some record)
    (ungranted : ∀ step ∈ later, ¬ Grants lease step.1 step.2)
    (late : ∀ step ∈ later, ∀ reading ∈ step.1.readings,
      record.activityAfter record.frames + inputLeaseTimeout ≤ reading) :
    history lease (later ++ trace) = some record := by
  induction later generalizing state clock with
  | nil => exact known
  | cons step _ ih =>
      cases run with
      | step earlier performed =>
          have still := ih earlier
            (fun step member => ungranted step (.tail _ member))
            fun step member => late step (.tail _ member)
          exact Lives.no_frame still (lives_invariant.of_history earlier still)
            (perform_frameMove performed) (ungranted _ (.head _)) (late _ (.head _))

end Expiry

/-- What a rejected frame must not change. -/
def FrameState.marks (view : FrameState) : (UInt64 × UInt64) × Axes × Instant :=
  ((view.reliableSequence, view.reliableElapsedUs), view.totals, view.lastActivity)

omit [DecidableEq Button] in
theorem ReliableOutcome.marks {named : InputLease} {sequence elapsedUs : UInt64} {now : Instant}
    {result : Except String InputFeedbackSnapshot × InputSessionState Button Sequence}
    (outcome : ReliableOutcome state named deviceId sequence elapsedUs checkAt now result)
    {message : String} (rejected : result.1 = .error message) (lease : InputLease) :
    (frameState result.2 lease).map FrameState.marks =
      (frameState state lease).map FrameState.marks := by
  cases outcome with
  | refused => rfl
  | accepted => cases rejected
  | limited passes =>
      rw [frameState_setSession]
      split
      next same =>
        rw [same, frameState_eq_some passes.present]
        rfl
      · rfl

section Owner

variable {gestures : Gestures Gesture Sequence} {lease : InputLease}
  {trace : List (Call Button Gesture Other × Reply Button Gesture Other)}
  {state : InputSessionState Button Sequence} {clock checkAt now : Instant} {deviceId : String}
  {record : LeaseHistory}

/-- The check of a lease passes for its own device only. -/
theorem Passes.owner_eq (run : Timed gestures trace state clock)
    (known : history lease trace = some record) {session : ActiveInputSession Button Sequence}
    (passes : Passes state lease deviceId checkAt session) : deviceId = record.deviceId := by
  have lives := lives_invariant.of_history run known
  rw [frameState_eq_some passes.present] at lives
  exact passes.admitted.owner.symm.trans (lives.tracks _ rfl).owner

theorem acceptReliable_stranger (run : Timed gestures trace state clock)
    (known : history lease trace = some record) (stranger : deviceId ≠ record.deviceId)
    (sequence elapsedUs : UInt64) :
    ∃ message, (acceptReliable state lease deviceId sequence elapsedUs checkAt now).1 =
      .error message := by
  have outcome := acceptReliable_outcome state lease deviceId sequence elapsedUs checkAt now
  generalize acceptReliable state lease deviceId sequence elapsedUs checkAt now = result
    at outcome ⊢
  cases outcome with
  | refused message => exact ⟨message, rfl⟩
  | limited passes => exact absurd (passes.owner_eq run known) stranger
  | accepted passes => exact absurd (passes.owner_eq run known) stranger

end Owner

/-- On a clock that does not go back, the frames accepted for a lease since its grant are numbered
1, 2, 3 and so on, do not go back in elapsed time, come from its device, and are each checked less
than five seconds after the activity recorded before; later than that none is accepted any more.
Calls of another device are rejected, and a rejected frame leaves every session's marks. -/
theorem lease_frames_in_order {gestures : Gestures Gesture Sequence}
    {trace : List (Call Button Gesture Other × Reply Button Gesture Other)}
    {state : InputSessionState Button Sequence} {clock : Instant}
    (run : Timed gestures trace state clock) (lease : InputLease) :
    (∀ record, history lease trace = some record →
        Ordered record ∧
        ∀ deviceId ≠ record.deviceId,
          (∀ sequence elapsedUs checkAt now, ∃ message,
            (acceptReliable state lease deviceId sequence elapsedUs checkAt now).1 =
              .error message) ∧
          ∀ pointerX pointerY scrollX scrollY preciseScroll checkAt now, ∃ message,
            (acceptOrderedMotion state lease deviceId pointerX pointerY scrollX scrollY
              preciseScroll checkAt now).1 = .error message) ∧
      (∀ later earlier record, trace = later ++ earlier → history lease earlier = some record →
        (∀ step ∈ later, ¬ Grants lease step.1 step.2) →
        (∀ step ∈ later, ∀ reading ∈ step.1.readings,
          record.activityAfter record.frames + inputLeaseTimeout ≤ reading) →
        history lease trace = some record) ∧
      (∀ named deviceId sequence elapsedUs checkAt now message,
        (acceptReliable state named deviceId sequence elapsedUs checkAt now).1 =
            .error message →
          (frameState (acceptReliable state named deviceId sequence elapsedUs checkAt now).2
            lease).map FrameState.marks = (frameState state lease).map FrameState.marks) ∧
      ∀ named deviceId pointerX pointerY scrollX scrollY preciseScroll checkAt now message,
        (acceptOrderedMotion state named deviceId pointerX pointerY scrollX scrollY preciseScroll
            checkAt now).1 = .error message →
          (acceptOrderedMotion state named deviceId pointerX pointerY scrollX scrollY preciseScroll
            checkAt now).2 = state := by
  refine ⟨?_, ?_, ?_, ?_⟩
  · intro record known
    refine ⟨(lives_invariant.of_history run known).ordered, fun deviceId stranger => ⟨?_, ?_⟩⟩
    · intro sequence elapsedUs checkAt now
      exact acceptReliable_stranger run known stranger sequence elapsedUs
    · intro pointerX pointerY scrollX scrollY preciseScroll checkAt now
      exact (acceptOrderedMotion_outcome ..).rejected_iff.mpr fun ⟨_, passes, _⟩ =>
        stranger (passes.owner_eq run known)
  · rintro later earlier record rfl known ungranted late
    exact history_after_timeout run known ungranted late
  · intro named deviceId sequence elapsedUs checkAt now message rejected
    exact (acceptReliable_outcome ..).marks rejected lease
  · intro named deviceId pointerX pointerY scrollX scrollY preciseScroll checkAt now message
      rejected
    exact (acceptOrderedMotion_outcome ..).unchanged rejected

/-- Two frames are accepted, and the lease expires after them. -/
theorem lease_frames_in_order_pair :
    ∃ (trace : List (Call Bool Unit Unit × Reply Bool Unit Unit))
      (state : InputSessionState Bool Unit) (record : LeaseHistory),
      Timed plainGestures trace state (seconds 9) ∧ history ⟨7, 3⟩ trace = some record ∧
        record.sequences = [1, 2] ∧ Ordered record := by
  have start : Timed plainGestures
    ([] : List (Call Bool Unit Unit × Reply Bool Unit Unit)) InputSessionState.new 0 := .start 0
  have granted := start.next grantTablet 1 (by decide) rfl
  have first := granted.next (tabletFrame 1 1 1) 2 (by decide) rfl
  have second := first.next (tabletFrame 2 2 2) 3 (by decide) rfl
  have run := second.next (tabletFrame 3 (seconds 8) (seconds 8)) (seconds 9) (by decide) rfl
  exact ⟨_, _, _, run, rfl, rfl, ((lease_frames_in_order run ⟨7, 3⟩).1 _ rfl).1⟩

/-- The age of a lease is checked against one reading of the clock and its activity recorded with a
later one, so two consecutive frames can be five seconds apart by either reading. -/
theorem consecutive_frames_five_seconds_apart :
    ∃ (trace : List (Call Bool Unit Unit × Reply Bool Unit Unit))
      (state : InputSessionState Bool Unit) (record : LeaseHistory) (first second : AcceptedFrame),
      Timed plainGestures trace state (seconds 9) ∧ history ⟨7, 3⟩ trace = some record ∧
        record.frames = [first, second] ∧
        first.checkAt + seconds 5 ≤ second.checkAt ∧ first.now + seconds 5 ≤ second.now := by
  have start : Timed plainGestures
    ([] : List (Call Bool Unit Unit × Reply Bool Unit Unit)) InputSessionState.new 0 := .start 0
  have granted := start.next grantTablet 0 (by decide) rfl
  have accepted := granted.next (tabletFrame 1 0 (seconds 4)) (seconds 4) (by decide) rfl
  have run := accepted.next (tabletFrame 2 (seconds 8) (seconds 9)) (seconds 9) (by decide) rfl
  exact ⟨_, _, _, _, _, run, rfl, rfl, by decide, by decide⟩

end ArcRelay.InputSession
