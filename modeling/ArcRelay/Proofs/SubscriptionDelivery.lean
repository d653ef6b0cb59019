/-
Module: ArcRelay.Proofs.SubscriptionDelivery
Purpose: In which order the events of a subscription are sent, what a client can rely on for state
  subscriptions, and the runs in which the order breaks.
Trusted boundary: none
-/
import ArcRelay.Proofs.EventOrder

namespace ArcRelay.Subscriptions

variable {Content : Type}

/-! ### What was sent -/

/-- The numbers of the events of a subscription among some frames. -/
def eventNumbers (id : UInt64) (frames : List (Frame Content)) : List Nat :=
  (frames.filterMap Frame.event?).filterMap fun event =>
    if event.subscriptionId = id then some event.sequence else none

/-- How the frames of a subscription were sent: the numbers of its events grow, the result that
opened it came before them, and the event with number 1 before the others. -/
structure SentInOrder (id : UInt64) (frames : List (Frame Content)) : Prop where
  increasing : (eventNumbers id frames).Pairwise (· < ·)
  resultFirst : ∀ before event after, frames = before ++ .event event :: after →
    event.subscriptionId = id → ∃ result, .subscriptionResult result ∈ before ∧
      result.subscriptionId = id ∧ result.nextSequence = 1
  baselineFirst : ∀ before event after, frames = before ++ .event event :: after →
    event.subscriptionId = id → event.sequence = 1 →
    ∀ earlier, .event earlier ∈ before → earlier.subscriptionId ≠ id

/-- Numbers start at 1. -/
def Counted (frame : Frame Content) : Prop :=
  ∀ event, frame.event? = some event → 1 ≤ event.sequence

theorem eventNumbers_sublist (id : UInt64) (frames : List (Frame Content)) :
    (eventNumbers id frames).Sublist (stamps id frames) := by
  induction frames with
  | nil => exact List.Sublist.refl _
  | cons frame frames ih =>
      rw [stamps_cons]
      cases frame with
      | event event =>
          have split : eventNumbers id (.event event :: frames) =
              (stamp id (.event event : Frame Content)).toList ++ eventNumbers id frames := by
            by_cases same : event.subscriptionId = id
            · simp [eventNumbers, Frame.event?, stamp, same]
            · simp [eventNumbers, Frame.event?, stamp, same]
          rw [split]
          exact ih.append_left _
      | _ => exact ih.trans (List.sublist_append_right _ _)

theorem sentInOrder_of_stamps {id : UInt64} {frames : List (Frame Content)}
    (ordered : (stamps id frames).Pairwise (· < ·))
    (headed : stamps id frames = [] ∨ (stamps id frames).head? = some 0)
    (counted : ∀ frame ∈ frames, Counted frame) : SentInOrder id frames where
  increasing := ordered.sublist (eventNumbers_sublist id frames)
  resultFirst := by
    rintro before event after rfl ofId
    have number : stamp id (.event event : Frame Content) = some event.sequence := if_pos ofId
    have positive := counted _ (List.mem_append_right _ List.mem_cons_self) event rfl
    rw [stamps_append, stamps_cons, number] at headed
    cases first : stamps id before with
    | nil =>
        rw [first] at headed
        rcases headed with empty | starts
        · cases empty
        · have zero : event.sequence = 0 := Option.some.inj starts
          omega
    | cons =>
        rw [first] at headed
        rcases headed with empty | starts
        · cases empty
        · cases starts
          have zero : 0 ∈ stamps id before := by
            rw [first]
            exact List.mem_cons_self
          rcases List.mem_filterMap.mp zero with ⟨frame, member, stamped⟩
          cases frame with
          | subscriptionResult result =>
              simp only [stamp] at stamped
              split at stamped
              next opens =>
                exact ⟨result, member, opens⟩
              · cases stamped
          | event earlier =>
              simp only [stamp] at stamped
              split at stamped
              · have number := counted _ (List.mem_append_left _ member) earlier rfl
                have zero : earlier.sequence = 0 := Option.some.inj stamped
                omega
              · cases stamped
          | other => cases stamped
  baselineFirst := by
    rintro before event after rfl ofId isFirst earlier member same
    have number : stamp id (.event event : Frame Content) = some event.sequence := if_pos ofId
    have positive := counted _ (List.mem_append_left _ member) earlier rfl
    rw [stamps_append, stamps_cons, number, List.pairwise_append] at ordered
    have smaller := ordered.2.2 earlier.sequence
      (List.mem_filterMap.mpr ⟨_, member, if_pos same⟩) event.sequence List.mem_cons_self
    omega

/-- The frame waits in one of the two queues, or was sent. -/
def Session.Holds (session : Session Content) (frame : Frame Content) : Prop :=
  frame ∈ session.sent ∨ frame ∈ session.critical ∨ frame ∈ session.event

theorem one_le_nextSequence (sub : EventSubscription) : 1 ≤ sub.nextSequence.sequence :=
  Nat.le_min.mpr ⟨Nat.le_add_left _ _, by decide⟩

variable {frame : Frame Content}

theorem Frame.IsEvent.counted {id : UInt64} {sequence : Nat} (isEvent : frame.IsEvent id sequence)
    (positive : 1 ≤ sequence) : Counted frame := by
  rcases isEvent with ⟨event, rfl, _, rfl⟩
  rintro _ ⟨⟩
  exact positive

theorem counted_of_none (none : frame.event? = none) : Counted frame := by
  intro event found
  rw [none] at found
  cases found

theorem event?_of_unstamped (unstamped : ∀ id, stamp id frame = none) : frame.event? = none := by
  cases frame with
  | event event =>
      have placed := unstamped event.subscriptionId
      simp [stamp] at placed
  | _ => rfl

variable {encoding : Encoding Content} {session next : Session Content}
    {event : SessionEvent Content}

/-- A frame was there before, as a waiting snapshot perhaps, or is new and counted. -/
theorem SessionMoves.holds (move : SessionMoves encoding session event next)
    (held : next.Holds frame) :
    session.Holds frame ∨ (∃ key, session.latest.lookup key = some frame) ∨ Counted frame := by
  -- a frame at the end of a queue is one of those before it, or the new one
  have snoc {frames : List (Frame Content)} {last : Frame Content}
      (member : frame ∈ frames ++ [last]) : frame ∈ frames ∨ frame = last := by
    simpa using member
  have queued {last : Frame Content} (counted : Counted last)
      (held : frame ∈ session.sent ∨ frame ∈ session.critical ++ [last] ∨ frame ∈ session.event) :
      session.Holds frame ∨ (∃ key, session.latest.lookup key = some frame) ∨ Counted frame := by
    rcases held with sent | critical | events
    · exact .inl (.inl sent)
    · rcases snoc critical with earlier | rfl
      · exact .inl (.inr (.inl earlier))
      · exact .inr (.inr counted)
    · exact .inl (.inr (.inr events))
  cases move with
  | queue unstamped => exact queued (counted_of_none (event?_of_unstamped unstamped)) held
  | subscribe _ _ isResult => exact queued (counted_of_none isResult) held
  | baseline _ _ first => exact queued (first.counted le_rfl) held
  | mark _ _ _ next => exact queued (next.counted (one_le_nextSequence _)) held
  | push _ _ _ next =>
      rcases held with sent | critical | events
      · exact .inl (.inl sent)
      · exact .inl (.inr (.inl critical))
      · rcases List.mem_append.mp events with earlier | new
        · exact .inl (.inr (.inr earlier))
        · rcases next with rfl | ⟨queued, rfl, isEvent⟩
          · cases new
          · rw [List.mem_singleton.mp new]
            exact .inr (.inr (isEvent.counted (one_le_nextSequence _)))
  | takeCritical _ front =>
      rw [Session.Holds, front]
      rcases held with sent | critical | events
      · rcases snoc sent with earlier | rfl
        · exact .inl (.inl earlier)
        · exact .inl (.inr (.inl List.mem_cons_self))
      · exact .inl (.inr (.inl (List.mem_cons_of_mem _ critical)))
      · exact .inl (.inr (.inr events))
  | takeEvent _ front =>
      rw [Session.Holds, front]
      rcases held with sent | critical | events
      · rcases snoc sent with earlier | rfl
        · exact .inl (.inl earlier)
        · exact .inl (.inr (.inr List.mem_cons_self))
      · exact .inl (.inr (.inl critical))
      · exact .inl (.inr (.inr (List.mem_cons_of_mem _ events)))
  | takeLatest _ found =>
      rcases held with sent | critical | events
      · rcases snoc sent with earlier | rfl
        · exact .inl (.inl earlier)
        · exact .inr (.inl ⟨_, found⟩)
      · exact .inl (.inr (.inl critical))
      · exact .inl (.inr (.inr events))
  | _ => exact .inl held

/-! ### Waiting snapshots -/

/-- The frame fits and belongs to the subscription. -/
def latestFor (encoding : Encoding Content) (id : UInt64) (frame : Frame Content) : Bool :=
  encoding.fits frame && frame.event?.any fun event => event.subscriptionId == id

/-- The last snapshot of each subscription that fits was sent, or is the one that waits. -/
def Delivered (encoding : Encoding Content) (session : Session Content) : Prop :=
  ∀ id frame, session.given.find? (latestFor encoding id) = some frame →
    frame ∈ session.sent ∨ session.latest.lookup id = some frame

/-- What a step leaves of the frames: a queued frame stays or is sent, and a waiting snapshot
stays, is sent, or makes way for a newer one of its own subscription. -/
structure Keeps (session next : Session Content) : Prop where
  sent : ∀ frame ∈ session.sent, frame ∈ next.sent
  critical : ∀ frame ∈ session.critical, frame ∈ next.critical ∨ frame ∈ next.sent
  event : ∀ frame ∈ session.event, frame ∈ next.event ∨ frame ∈ next.sent
  latest : ∀ id frame, session.latest.lookup id = some frame →
    next.latest.lookup id = some frame ∨ frame ∈ next.sent ∨
      ∃ newer, next.given = .event newer :: session.given ∧ newer.subscriptionId = id ∧
        next.latest.lookup id = some (.event newer)

theorem latestFor_event (encoding : Encoding Content) (id : UInt64) (event : Event Content) :
    latestFor encoding id (.event event) = true ↔
      encoding.fits (.event event) = true ∧ event.subscriptionId = id := by
  simp [latestFor, Frame.event?]

theorem Delivered.move (delivered : Delivered encoding session)
    (move : SessionMoves encoding session event next) : Delivered encoding next := by
  intro id frame last
  cases move with
  | replace _ _ _ next =>
      rcases next with ⟨newer, rfl, _, _⟩
      rw [lookup_replace]
      change (Frame.event newer :: session.given).find? _ = some frame at last
      by_cases lands : latestFor encoding id (.event newer) = true
      · rw [List.find?_cons_of_pos lands] at last
        rw [if_pos ((latestFor_event encoding id newer).mp lands)]
        exact .inr last
      · rw [List.find?_cons_of_neg lands] at last
        rw [if_neg (fun both => lands ((latestFor_event encoding id newer).mpr both))]
        exact delivered id frame last
  | takeCritical =>
      rcases delivered id frame last with sent | waits
      · exact .inl (List.mem_append_left _ sent)
      · exact .inr waits
  | takeEvent =>
      rcases delivered id frame last with sent | waits
      · exact .inl (List.mem_append_left _ sent)
      · exact .inr waits
  | @takeLatest choice _ _ _ found =>
      rcases delivered id frame last with sent | waits
      · exact .inl (List.mem_append_left _ sent)
      · by_cases same : id = choice
        · subst same
          rw [found] at waits
          cases waits
          exact .inl (List.mem_append_right _ (List.mem_singleton_self _))
        · exact .inr ((AList.lookup_erase_ne same).trans waits)
  | _ => exact delivered id frame last

theorem Keeps.refl_of (sent : next.sent = session.sent)
    (critical : ∀ frame ∈ session.critical, frame ∈ next.critical)
    (event : ∀ frame ∈ session.event, frame ∈ next.event) (latest : next.latest = session.latest) :
    Keeps session next where
  sent := by
    rw [sent]
    exact fun _ member => member
  critical := fun frame member => .inl (critical frame member)
  event := fun frame member => .inl (event frame member)
  latest := by
    rw [latest]
    exact fun _ _ found => .inl found

theorem keeps_of_move (move : SessionMoves encoding session event next) : Keeps session next := by
  cases move with
  | replace _ _ _ next =>
      rcases next with ⟨newer, rfl, _, _⟩
      refine ⟨fun _ member => member, fun _ member => .inl member, fun _ member => .inl member, ?_⟩
      intro id frame waits
      rw [lookup_replace]
      split
      next lands =>
        exact .inr (.inr ⟨newer, rfl, lands.2, rfl⟩)
      · exact .inl waits
  | takeCritical _ front =>
      refine ⟨fun _ member => List.mem_append_left _ member, ?_, fun _ member => .inl member,
        fun _ _ waits => .inl waits⟩
      rw [front]
      intro frame member
      rcases List.mem_cons.mp member with rfl | later
      · exact .inr (List.mem_append_right _ (List.mem_singleton_self _))
      · exact .inl later
  | takeEvent _ front =>
      refine ⟨fun _ member => List.mem_append_left _ member, fun _ member => .inl member, ?_,
        fun _ _ waits => .inl waits⟩
      rw [front]
      intro frame member
      rcases List.mem_cons.mp member with rfl | later
      · exact .inr (List.mem_append_right _ (List.mem_singleton_self _))
      · exact .inl later
  | @takeLatest choice _ _ _ found =>
      refine ⟨fun _ member => List.mem_append_left _ member, fun _ member => .inl member,
        fun _ member => .inl member, ?_⟩
      intro id frame waits
      by_cases same : id = choice
      · subst same
        rw [found] at waits
        cases waits
        exact .inr (.inl (List.mem_append_right _ (List.mem_singleton_self _)))
      · exact .inl ((AList.lookup_erase_ne same).trans waits)
  | push =>
      exact .refl_of rfl (fun _ member => member) (fun _ member => List.mem_append_left _ member)
        rfl
  | remember => exact .refl_of rfl (fun _ member => member) (fun _ member => member) rfl
  | noBaseline => exact .refl_of rfl (fun _ member => member) (fun _ member => member) rfl
  | idle => exact .refl_of rfl (fun _ member => member) (fun _ member => member) rfl
  | leave => exact .refl_of rfl (fun _ member => member) (fun _ member => member) rfl
  | subscribeFails =>
      exact .refl_of rfl (fun _ member => member) (fun _ member => member) rfl
  | _ =>
      exact .refl_of rfl (fun _ member => List.mem_append_left _ member) (fun _ member => member)
        rfl

/-! ### Every run -/

/-- What holds of the whole session in runs with fresh ids, below the largest number, when the
writer's rounds are steps. -/
structure Orderly (session : Session Content) : Prop where
  registered : Registered session
  counted : ∀ frame, session.Holds frame → Counted frame

theorem orderly_start : Orderly (Session.start : Session Content) where
  registered := registered_start
  counted := by
    intro frame held
    rcases held with sent | critical | events
    · cases sent
    · cases critical
    · cases events

theorem Orderly.move (orderly : Orderly session) (fresh : FreshDraws session event)
    (move : SessionMoves encoding session event next) :
    Orderly next where
  registered := orderly.registered.move fresh move
  counted := by
    intro frame held
    rcases move.holds held with before | ⟨key, waited⟩ | counted
    · exact orderly.counted frame before
    · rcases orderly.registered.keyed key frame waited with ⟨sequence, isEvent, positive⟩
      exact isEvent.counted positive
    · exact counted

theorem delivered_start (encoding : Encoding Content) :
    Delivered encoding (Session.start : Session Content) := by
  intro id frame last
  cases last

theorem inLine_start (id : UInt64) : InLine (Session.start : Session Content) id where
  ordered := List.Pairwise.nil
  headed := .inl rfl
  undrawn := fun _ => rfl
  bounded := by
    intro _ topic sub found
    cases found
  eventLane := fun waiting => absurd rfl waiting
  latestLane := fun waiting => absurd rfl waiting
  opening := by
    intro topic sub here
    cases here

/-- Frames that are sent from a line are sent in its order. -/
theorem InLine.sentInOrder {id : UInt64} (inLine : InLine session id) (orderly : Orderly session) :
    SentInOrder id session.sent := by
  have isPrefix : stamps id session.sent <+: session.line id := by
    rw [Session.line, Session.queuedLine, List.append_assoc, List.append_assoc]
    exact List.prefix_append _ _
  apply sentInOrder_of_stamps
  · exact inLine.ordered.sublist isPrefix.sublist
  · rcases isPrefix with ⟨rest, whole⟩
    cases first : stamps id session.sent with
    | nil => exact .inl rfl
    | cons =>
        have headed := inLine.headed
        rw [← whole, first] at headed
        rcases headed with empty | starts
        · cases empty
        · exact .inr starts
  · exact fun frame member => orderly.counted frame (.inl member)

/-- When the ids drawn differ, no number is the largest, the writer's round is one step and the
heartbeat's markers do not overtake outputs, the events of an action-output subscription are sent
in the order of their numbers. -/
theorem action_output_in_order {grants : Grants} {encoding : Encoding Content}
    {events : List (SessionEvent Content)} {session : Session Content}
    (runs : RunsWhere (subscriptionSession grants encoding)
      (fun session event => FreshDraws session event ∧ Unsaturated session ∧
        WholeRounds session event ∧ MarksBehindEvents session event) events session) :
    ∀ id, (id, .actionOutput) ∈ session.drawn → (eventNumbers id session.sent).Pairwise (· < ·) := by
  have invariant : Orderly session ∧ ∀ id, InLine session id := by
    apply runs.invariant
    · exact ⟨orderly_start, inLine_start⟩
    · rintro before event next ⟨orderly, inLine⟩ ⟨fresh, below, rounds, marks⟩ stepped
      have move := sessionMoves_of_step stepped
      exact ⟨orderly.move fresh move, fun id =>
        (inLine id).move orderly.registered fresh below rounds (.inl marks) move⟩
  intro id _
  exact ((invariant.2 id).sentInOrder invariant.1).increasing

/-- When the ids drawn differ, no number is the largest and the writer's round is one step, the
frames of state subscriptions are sent in order; in all these runs the last snapshot that fits is
sent or waits, and no step loses a frame but to a newer snapshot of its own subscription. -/
theorem replaceable_state_in_order {grants : Grants} {encoding : Encoding Content}
    {events : List (SessionEvent Content)} {session : Session Content}
    (runs : RunsWhere (subscriptionSession grants encoding)
      (fun session event => FreshDraws session event ∧ Unsaturated session ∧
        WholeRounds session event) events session) :
    (∀ id topic, (id, topic) ∈ session.drawn → topic.isReplaceable = true →
        SentInOrder id session.sent) ∧
      Delivered encoding session ∧
      ∀ event next, session.step grants encoding event = some next → Keeps session next := by
  have invariant : Orderly session ∧ Delivered encoding session ∧
      ∀ id, (id, .actionOutput) ∉ session.drawn → InLine session id := by
    apply runs.invariant
    · exact ⟨orderly_start, delivered_start encoding, fun id _ => inLine_start id⟩
    · rintro before event next ⟨orderly, delivered, inLine⟩ ⟨fresh, below, rounds⟩ stepped
      have move := sessionMoves_of_step stepped
      refine ⟨orderly.move fresh move, delivered.move move, ?_⟩
      intro id other
      have otherBefore : (id, .actionOutput) ∉ before.drawn :=
        fun drawn => other (move.drawn_mono drawn)
      exact (inLine id otherBefore).move orderly.registered fresh below rounds
        (.inr otherBefore) move
  refine ⟨?_, invariant.2.1, fun event next stepped => keeps_of_move (sessionMoves_of_step stepped)⟩
  intro id topic drawn replaceable
  apply (invariant.2.2 id ?_).sentInOrder invariant.1
  intro alsoOutput
  cases invariant.1.registered.topic_unique drawn alsoOutput
  cases replaceable

/-! ### Concrete runs -/

def freshCheck (session : Session Content) : SessionEvent Content → Bool
  | .loop _ (.subscribe _ _ draws) =>
      (session.drawId draws).all fun id => session.drawn.all fun pair => pair.1 != id
  | _ => true

theorem freshDraws_of_check (checked : freshCheck session event = true) :
    FreshDraws session event := by
  rintro now request receivers draws id rfl drawn topic member
  simp only [freshCheck, drawn, Option.all_some, List.all_eq_true] at checked
  simpa using checked (id, topic) member

def unsaturatedCheck (session : Session Content) : Bool :=
  Session.topics.all fun topic =>
    (session.subscriptions topic).all fun sub => decide (sub.sequence < u64Max)

theorem unsaturated_of_check (checked : unsaturatedCheck session = true) : Unsaturated session := by
  intro topic sub found
  have listed : topic ∈ Session.topics := by
    cases topic <;> decide
  have verdict := List.all_eq_true.mp checked topic listed
  simpa [found] using verdict

def roundsCheck (session : Session Content) : SessionEvent Content → Bool
  | .poll choice =>
      (session.writer != .event || session.event.isEmpty || session.critical.isEmpty) &&
        (session.writer != .latest || (session.latest.lookup choice).isNone ||
          session.critical.isEmpty && session.event.isEmpty)
  | _ => true

theorem wholeRounds_of_check (checked : roundsCheck session event = true) :
    WholeRounds session event := by
  rintro choice rfl
  simp only [roundsCheck, Bool.and_eq_true, Bool.or_eq_true, bne_iff_ne, List.isEmpty_iff,
    Option.isNone_iff_eq_none] at checked
  refine ⟨fun here frame rest id front _ => ?_, fun here found => ?_⟩
  · rcases checked.1 with (other | empty) | critical
    · exact absurd here other
    · rw [front] at empty
      cases empty
    · rw [critical]
      rfl
  · rcases checked.2 with (other | missing) | ⟨critical, events⟩
    · exact absurd here other
    · exact absurd missing found
    · rw [critical, events]
      exact ⟨rfl, rfl⟩

theorem orderly_of_check (session : Session Content) (event : SessionEvent Content)
    (checked : (freshCheck session event && (unsaturatedCheck session &&
      roundsCheck session event)) = true) :
    FreshDraws session event ∧ Unsaturated session ∧ WholeRounds session event := by
  simp only [Bool.and_eq_true] at checked
  exact ⟨freshDraws_of_check checked.1, unsaturated_of_check checked.2.1,
    wholeRounds_of_check checked.2.2⟩

/-- The run of a connection that negotiated everything. -/
def openGrants : Grants where
  features := [.subscriptions, .system, .actions]
  capabilities := [.systemRead, .actionRead]

/-- A client subscribes, and the generator returns this number first. -/
def subscribeTo (topic : SubscriptionTopic) (draw : UInt64) : List (SessionEvent Unit) :=
  [.loop 1 (.subscribe ⟨1, some topic⟩ ⟨true, true, true⟩ [draw]),
    .baseline 1 ⟨some ⟨1, ()⟩, none, (), none⟩]

/-- An output waits in the event queue when a lag opens a gap; the heartbeat sends its marker, and
the writer drains the queues. -/
def overtakingMarker : List (SessionEvent Unit) :=
  List.flatten [subscribeTo .actionOutput 5,
    [.loop 1 (.output ⟨"build", "started"⟩), .loop 1 .outputLag, .loop 1 .heartbeat],
    List.replicate 4 (.poll 0)]

/-- The marker has the number 2 and is sent before the output with the number 1. -/
theorem marker_overtakes_output :
    ∃ session, RunsWhere (subscriptionSession openGrants (weightless : Encoding Unit))
        (fun session event => FreshDraws session event ∧ Unsaturated session ∧
          WholeRounds session event) overtakingMarker session ∧
      (5, .actionOutput) ∈ session.drawn ∧ eventNumbers 5 session.sent = [2, 1] :=
  RunsWhere.exists_of_replay orderly_of_check (by decide +kernel)

/-- The output is sent before the lag. -/
def followingMarker : List (SessionEvent Unit) :=
  List.flatten [subscribeTo .actionOutput 5, [.loop 1 (.output ⟨"build", "started"⟩)],
    List.replicate 3 (.poll 0), [.loop 1 .outputLag, .loop 1 .heartbeat, .poll 0]]

def marksCheck (session : Session Content) : SessionEvent Content → Bool
  | .loop _ .heartbeat =>
      (session.subscriptions .actionOutput).all fun sub =>
        sub.actionGap.firstMissingSequence.isNone || (stamps sub.id session.event).isEmpty
  | _ => true

theorem marksBehindEvents_of_check (checked : marksCheck session event = true) :
    MarksBehindEvents session event := by
  rintro now sub rfl found pending
  simp only [marksCheck, found, Option.all_some, Bool.or_eq_true, Option.isNone_iff_eq_none,
    List.isEmpty_iff] at checked
  exact checked.resolve_left pending

theorem action_output_in_order_followingMarker :
    ∃ session, RunsWhere (subscriptionSession openGrants (weightless : Encoding Unit))
        (fun session event => FreshDraws session event ∧ Unsaturated session ∧
          WholeRounds session event ∧ MarksBehindEvents session event) followingMarker session ∧
      (5, .actionOutput) ∈ session.drawn ∧ (eventNumbers 5 session.sent).length = 2 ∧
      (eventNumbers 5 session.sent).Pairwise (· < ·) := by
  have sound : ∀ (session : Session Unit) event, ((freshCheck session event &&
      (unsaturatedCheck session && roundsCheck session event)) && marksCheck session event) =
        true →
      FreshDraws session event ∧ Unsaturated session ∧ WholeRounds session event ∧
        MarksBehindEvents session event := by
    intro session event checked
    rcases Bool.and_eq_true_iff.mp checked with ⟨orderly, marked⟩
    rcases orderly_of_check session event orderly with ⟨fresh, below, whole⟩
    exact ⟨fresh, below, whole, marksBehindEvents_of_check marked⟩
  obtain ⟨session, runs, drawn, two⟩ :
      ∃ session, RunsWhere (subscriptionSession openGrants (weightless : Encoding Unit)) _
        followingMarker session ∧
      (5, .actionOutput) ∈ session.drawn ∧ (eventNumbers 5 session.sent).length = 2 :=
    RunsWhere.exists_of_replay sound (by decide +kernel)
  exact ⟨session, runs, drawn, two, action_output_in_order runs 5 drawn⟩

/-- A client subscribes to the system state, two newer states are published, and the writer sends
the baseline and the newest state. -/
def replacedState : List (SessionEvent Unit) :=
  List.flatten [subscribeTo .system 5,
    [.loop 1 (.system ⟨2, ()⟩), .loop 1 (.system ⟨3, ()⟩)], List.replicate 5 (.poll 5)]

theorem replaceable_state_in_order_replacedState :
    ∃ session, RunsWhere (subscriptionSession openGrants (weightless : Encoding Unit))
        (fun session event => FreshDraws session event ∧ Unsaturated session ∧
          WholeRounds session event) replacedState session ∧
      (5, .system) ∈ session.drawn ∧ eventNumbers 5 session.sent = [1, 3] ∧
      SentInOrder 5 session.sent ∧ Delivered weightless session := by
  obtain ⟨session, runs, drawn, numbers⟩ :
      ∃ session, RunsWhere (subscriptionSession openGrants (weightless : Encoding Unit)) _
        replacedState session ∧
      (5, .system) ∈ session.drawn ∧ eventNumbers 5 session.sent = [1, 3] :=
    RunsWhere.exists_of_replay orderly_of_check (by decide +kernel)
  rcases replaceable_state_in_order runs with ⟨inOrder, delivered, _⟩
  exact ⟨session, runs, drawn, numbers, inOrder 5 .system drawn rfl, delivered⟩

/-- A client subscribes to the system state three times, and the first id comes up again when it
is no longer in use. -/
def redrawnId : List (SessionEvent Unit) :=
  List.flatten [subscribeTo .system 5, subscribeTo .system 7, subscribeTo .system 5,
    List.replicate 6 (.poll 0)]

/-- Two events with that id carry the number 1. -/
theorem redrawn_id_restarts :
    ∃ session, RunsWhere (subscriptionSession openGrants (weightless : Encoding Unit))
        (fun session event => Unsaturated session ∧ WholeRounds session event) redrawnId session ∧
      (5, .system) ∈ session.drawn ∧ eventNumbers 5 session.sent = [1, 1] ∧
      ¬ SentInOrder 5 session.sent := by
  have sound : ∀ (session : Session Unit) event,
      (unsaturatedCheck session && roundsCheck session event) = true →
      Unsaturated session ∧ WholeRounds session event := by
    intro session event checked
    rcases Bool.and_eq_true_iff.mp checked with ⟨below, whole⟩
    exact ⟨unsaturated_of_check below, wholeRounds_of_check whole⟩
  obtain ⟨session, runs, drawn, numbers⟩ :
      ∃ session, RunsWhere (subscriptionSession openGrants (weightless : Encoding Unit)) _
        redrawnId session ∧
      (5, .system) ∈ session.drawn ∧ eventNumbers 5 session.sent = [1, 1] :=
    RunsWhere.exists_of_replay sound (by decide +kernel)
  refine ⟨session, runs, drawn, numbers, fun inOrder => ?_⟩
  have increasing := inOrder.increasing
  rw [numbers] at increasing
  revert increasing
  decide

end ArcRelay.Subscriptions
