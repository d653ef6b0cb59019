/-
Module: ArcRelay.Proofs.EventOrder
Purpose: The line in which the frames of a subscription wait for the writer, and how it grows.
Trusted boundary: none
-/
import ArcRelay.Proofs.SubscriptionMoves

namespace ArcRelay.Subscriptions

variable {Content : Type}

/-!
Lay out what was sent, the critical queue, the event queue and the waiting snapshot of one
subscription, in this order.  As long as the writer's round is one step, sending a frame does not
change this line, and each new frame of the subscription goes to its end: so the numbers in the
line grow, and those of the frames sent among them.

There is one frame that does not go to the end of the line.  The heartbeat puts its gap marker on
the critical queue, ahead of the outputs that wait in the event queue.
-/

/-! ### Conditions on the steps -/

variable (session : Session Content)

/-- An id that was drawn before on this connection is not drawn again. -/
def FreshDraws (event : SessionEvent Content) : Prop :=
  ∀ now request receivers draws id,
    event = .loop now (.subscribe request receivers draws) →
    session.drawId draws = some id → ∀ topic, (id, topic) ∉ session.drawn

/-- No subscription has reached the largest number. -/
def Unsaturated : Prop :=
  ∀ topic sub, session.subscriptions topic = some sub → sub.sequence < u64Max

/-- The places of the frames of a subscription. -/
def stamps (id : UInt64) (frames : List (Frame Content)) : List Nat :=
  frames.filterMap (stamp id)

/-- No frame of a subscription was queued between the polls of a round: what the writer polled
first still has none when it takes one from what it polls later. -/
def WholeRounds (event : SessionEvent Content) : Prop :=
  ∀ choice, event = .poll choice →
    (session.writer = .event → ∀ frame rest id, session.event = frame :: rest →
      stamp id frame ≠ none → stamps id session.critical = []) ∧
    (session.writer = .latest → session.latest.lookup choice ≠ none →
      stamps choice session.critical = [] ∧ stamps choice session.event = [])

/-- The heartbeat sends a marker only when no frame of the subscription waits in the event
queue. -/
def MarksBehindEvents (event : SessionEvent Content) : Prop :=
  ∀ now sub, event = .loop now .heartbeat → session.subscriptions .actionOutput = some sub →
    sub.actionGap.firstMissingSequence ≠ none → stamps sub.id session.event = []

/-! ### The line of a subscription -/

@[simp] theorem stamps_append (id : UInt64) (first second : List (Frame Content)) :
    stamps id (first ++ second) = stamps id first ++ stamps id second :=
  List.filterMap_append

@[simp] theorem stamps_cons (id : UInt64) (frame : Frame Content)
    (frames : List (Frame Content)) :
    stamps id (frame :: frames) = (stamp id frame).toList ++ stamps id frames := by
  cases placed : stamp id frame with
  | none => exact List.filterMap_cons_none placed
  | some => exact List.filterMap_cons_some placed

@[simp] theorem stamps_nil (id : UInt64) : stamps id ([] : List (Frame Content)) = [] := rfl

/-- The places of the frames that are in one of the two queues, or were sent. -/
def Session.queuedLine (id : UInt64) : List Nat :=
  stamps id session.sent ++ stamps id session.critical ++ stamps id session.event

/-- The places of all frames of a subscription, in the order the writer will have sent them. -/
def Session.line (id : UInt64) : List Nat :=
  session.queuedLine id ++ stamps id (session.latest.lookup id).toList

variable {id : UInt64}

theorem Frame.IsEvent.stamp {frame : Frame Content} {sequence : Nat}
    (isEvent : frame.IsEvent id sequence) (other : UInt64) :
    stamp other frame = if id = other then some sequence else none := by
  rcases isEvent with ⟨event, rfl, rfl, rfl⟩
  rfl

/-- The ids of subscriptions are distinct, and the snapshots wait under their own. -/
structure Registered (session : Session Content) : Prop where
  active : session.point ≠ .ended → ∀ topic sub, session.subscriptions topic = some sub →
    (sub.id, topic) ∈ session.drawn
  distinct : (session.drawn.map Prod.fst).Nodup
  keyed : ∀ key frame, session.latest.lookup key = some frame →
    ∃ sequence, frame.IsEvent key sequence ∧ 1 ≤ sequence

variable {session : Session Content}

theorem Registered.topic_unique (registered : Registered session)
    {first second : SubscriptionTopic} (one : (id, first) ∈ session.drawn)
    (other : (id, second) ∈ session.drawn) : first = second :=
  congrArg Prod.snd (List.inj_on_of_nodup_map registered.distinct one other rfl)

/-- What is known of the line of a subscription id. -/
structure InLine (session : Session Content) (id : UInt64) : Prop where
  ordered : (session.line id).Pairwise (· < ·)
  headed : session.line id = [] ∨ (session.line id).head? = some 0
  undrawn : (∀ topic, (id, topic) ∉ session.drawn) → session.line id = []
  bounded : session.point ≠ .ended → ∀ topic sub, session.subscriptions topic = some sub →
    sub.id = id → session.line id ≠ [] ∧ ∀ place ∈ session.line id, place ≤ sub.sequence
  eventLane : stamps id session.event ≠ [] →
    ∃ topic, (id, topic) ∈ session.drawn ∧ topic.isQueued = true
  latestLane : session.latest.lookup id ≠ none →
    ∃ topic, (id, topic) ∈ session.drawn ∧ topic.isReplaceable = true
  opening : ∀ topic sub, session.point = .subscribing topic →
    session.subscriptions topic = some sub → sub.id = id →
    sub.sequence = 0 ∧ stamps id session.event = [] ∧ session.latest.lookup id = none

/-- A step puts a larger place at the end of the line, from where a snapshot may have left. -/
structure GrowsBy (session next : Session Content) (id : UInt64) (place : Nat) : Prop where
  line : ∃ kept, kept <+: session.line id ∧ next.line id = kept ++ [place] ∧
    (kept = [] → place = 0)
  larger : ∀ earlier ∈ session.line id, earlier < place

variable {next : Session Content} {place : Nat}

theorem GrowsBy.ordered (grows : GrowsBy session next id place)
    (ordered : (session.line id).Pairwise (· < ·)) :
    (next.line id).Pairwise (· < ·) := by
  rcases grows.line with ⟨kept, isPrefix, line, _⟩
  rw [line, List.pairwise_append]
  refine ⟨ordered.sublist isPrefix.sublist, List.pairwise_singleton _ _, ?_⟩
  intro earlier member last isLast
  rw [List.mem_singleton.mp isLast]
  exact grows.larger earlier (isPrefix.subset member)

theorem GrowsBy.headed (grows : GrowsBy session next id place)
    (headed : session.line id = [] ∨ (session.line id).head? = some 0) :
    (next.line id).head? = some 0 := by
  rcases grows.line with ⟨kept, isPrefix, line, first⟩
  rw [line]
  cases kept with
  | nil => rw [first rfl]; rfl
  | cons =>
      rcases isPrefix with ⟨rest, whole⟩
      rw [← whole] at headed
      rcases headed with empty | starts
      · cases empty
      · exact starts

theorem GrowsBy.bounded (grows : GrowsBy session next id place) :
    next.line id ≠ [] ∧ ∀ other ∈ next.line id, other ≤ place := by
  rcases grows.line with ⟨kept, isPrefix, line, _⟩
  rw [line]
  refine ⟨List.append_ne_nil_of_right_ne_nil _ (List.cons_ne_nil _ _), ?_⟩
  intro other member
  rcases List.mem_append.mp member with earlier | last
  · exact (grows.larger other (isPrefix.subset earlier)).le
  · exact (List.mem_singleton.mp last).le

/-! ### Where a frame goes -/

section Places

variable {session : Session Content} {id : UInt64} {frame : Frame Content}
  {subscriptions : SubscriptionTopic → Option EventSubscription} {point : LoopPoint}
  {drawn : List (UInt64 × SubscriptionTopic)}

/-- A frame of another subscription does not show in the line. -/
theorem line_critical_other (unstamped : stamp id frame = none) :
    { session with
      subscriptions := subscriptions
      drawn := drawn
      critical := session.critical ++ [frame]
      point := point }.line id = session.line id := by
  simp [Session.line, Session.queuedLine, unstamped]

/-- A frame on the critical queue is at the end of the line if nothing waits behind that queue. -/
theorem line_critical {place : Nat} (stamped : stamp id frame = some place)
    (noEvents : stamps id session.event = []) (noSnapshot : session.latest.lookup id = none) :
    { session with
      subscriptions := subscriptions
      drawn := drawn
      critical := session.critical ++ [frame]
      point := point }.line id = session.line id ++ [place] := by
  simp [Session.line, Session.queuedLine, stamped, noEvents, noSnapshot]

/-- A frame of another subscription on the event queue does not show either. -/
theorem line_event_other (unstamped : stamp id frame = none) :
    { session with
      subscriptions := subscriptions
      event := session.event ++ [frame] }.line id = session.line id := by
  simp [Session.line, Session.queuedLine, unstamped]

/-- A frame on the event queue is at the end of the line if no snapshot waits. -/
theorem line_event {place : Nat} (stamped : stamp id frame = some place)
    (noSnapshot : session.latest.lookup id = none) :
    { session with
      subscriptions := subscriptions
      event := session.event ++ [frame] }.line id = session.line id ++ [place] := by
  simp [Session.line, Session.queuedLine, stamped, noSnapshot]

end Places

variable {topic : SubscriptionTopic} {sub : EventSubscription}

theorem nextSequence_of_unsaturated (below : Unsaturated session)
    (found : session.subscriptions topic = some sub) :
    sub.nextSequence.sequence = sub.sequence + 1 :=
  Nat.min_eq_left (below topic sub found)

/-- The next number of a subscription is larger than everything in its line. -/
theorem InLine.lt_next (inLine : InLine session id) (below : Unsaturated session)
    (running : session.point ≠ .ended) (found : session.subscriptions topic = some sub)
    (ofId : sub.id = id) : ∀ earlier ∈ session.line id, earlier < sub.nextSequence.sequence := by
  intro earlier member
  rw [nextSequence_of_unsaturated below found]
  exact Nat.lt_succ_of_le ((inLine.bounded running topic sub found ofId).2 earlier member)

/-- An event subscription has no waiting snapshot. -/
theorem InLine.no_snapshot (inLine : InLine session id) (registered : Registered session)
    (drawn : (id, topic) ∈ session.drawn) (isQueued : topic.isQueued = true) :
    session.latest.lookup id = none := by
  by_contra waiting
  rcases inLine.latestLane waiting with ⟨other, alsoDrawn, replaceable⟩
  cases registered.topic_unique drawn alsoDrawn
  cases topic with
  | actionOutput => cases replaceable
  | clipboardSync => cases replaceable
  | _ => cases isQueued

theorem ne_ended_of_select {point : LoopPoint} (here : point = .select) : point ≠ .ended := by
  rw [here]
  exact LoopPoint.noConfusion

theorem ne_ended_of_subscribing {point : LoopPoint} (here : point = .subscribing topic) :
    point ≠ .ended := by
  rw [here]
  exact LoopPoint.noConfusion

/-- A frame for the end of the line, when the line is that of an active subscription. -/
theorem GrowsBy.append (opened : session.line id ≠ [])
    (line : next.line id = session.line id ++ [place])
    (larger : ∀ earlier ∈ session.line id, earlier < place) : GrowsBy session next id place where
  line := ⟨session.line id, List.prefix_refl _, line, fun empty => absurd empty opened⟩
  larger := larger

/-! ### Steps that concern another subscription -/

/-- The line stays, and whatever the subscription has, it had. -/
theorem InLine.frame (inLine : InLine session id) (line : next.line id = session.line id)
    (drawn : ∀ topic, (id, topic) ∈ session.drawn → (id, topic) ∈ next.drawn)
    (active : next.point ≠ .ended → ∀ topic sub, next.subscriptions topic = some sub →
      sub.id = id → session.point ≠ .ended ∧ ∃ before,
        session.subscriptions topic = some before ∧ before.id = id ∧
          before.sequence ≤ sub.sequence)
    (events : stamps id session.event = [] → stamps id next.event = [])
    (latest : session.latest.lookup id = none → next.latest.lookup id = none)
    (opening : ∀ topic sub, next.point = .subscribing topic →
      next.subscriptions topic = some sub → sub.id = id →
      session.point = .subscribing topic ∧ session.subscriptions topic = some sub) :
    InLine next id where
  ordered := by
    rw [line]
    exact inLine.ordered
  headed := by
    rw [line]
    exact inLine.headed
  undrawn := by
    intro undrawn
    rw [line]
    exact inLine.undrawn fun topic member => undrawn topic (drawn topic member)
  bounded := by
    intro running topic sub found ofId
    rcases active running topic sub found ofId with ⟨ran, before, had, wasId, grown⟩
    rcases inLine.bounded ran topic before had wasId with ⟨opened, bounds⟩
    rw [line]
    exact ⟨opened, fun place member => (bounds place member).trans grown⟩
  eventLane := by
    intro waiting
    rcases inLine.eventLane (fun empty => waiting (events empty)) with ⟨topic, member, isQueued⟩
    exact ⟨topic, drawn topic member, isQueued⟩
  latestLane := by
    intro waiting
    rcases inLine.latestLane (fun none => waiting (latest none)) with
      ⟨topic, member, replaceable⟩
    exact ⟨topic, drawn topic member, replaceable⟩
  opening := by
    intro topic sub here found ofId
    rcases opening topic sub here found ofId with ⟨was, had⟩
    rcases inLine.opening topic sub was had ofId with ⟨zero, noEvents, noSnapshot⟩
    exact ⟨zero, events noEvents, latest noSnapshot⟩

variable {updated : EventSubscription}

theorem update_some {subscriptions : SubscriptionTopic → Option EventSubscription}
    {updatedTopic : SubscriptionTopic}
    (found : Function.update subscriptions updatedTopic (some updated) topic = some sub) :
    topic = updatedTopic ∧ sub = updated ∨
      topic ≠ updatedTopic ∧ subscriptions topic = some sub := by
  by_cases same : topic = updatedTopic
  · subst same
    rw [Function.update_self] at found
    exact .inl ⟨rfl, (Option.some.inj found).symm⟩
  · rw [Function.update_of_ne same] at found
    exact .inr ⟨same, found⟩

/-- An update of a subscription, seen from an id whose line it does not change. -/
theorem InLine.frame_update (inLine : InLine session id)
    (found : session.subscriptions topic = some sub) (running : session.point ≠ .ended)
    (subscriptions : next.subscriptions =
      Function.update session.subscriptions topic (some updated)) (sameId : updated.id = sub.id)
    (grown : sub.id = id → sub.sequence ≤ updated.sequence)
    (line : next.line id = session.line id) (drawn : next.drawn = session.drawn)
    (point : next.point = .select)
    (events : stamps id session.event = [] → stamps id next.event = [])
    (latest : session.latest.lookup id = none → next.latest.lookup id = none) :
    InLine next id := by
  refine inLine.frame line ?_ ?_ events latest ?_
  · rw [drawn]
    exact fun _ member => member
  · intro _ other active isActive ofId
    refine ⟨running, ?_⟩
    rw [subscriptions] at isActive
    rcases update_some isActive with ⟨rfl, rfl⟩ | ⟨_, had⟩
    · have wasId := sameId.symm.trans ofId
      exact ⟨sub, found, wasId, grown wasId⟩
    · exact ⟨active, had, ofId, le_rfl⟩
  · intro other active here
    rw [point] at here
    cases here

/-! ### Steps that concern the subscription -/

/-- An active subscription takes a number and puts a frame with it at the end of its line. -/
theorem InLine.extend (inLine : InLine session id) (registered : Registered session)
    (found : session.subscriptions topic = some sub) (running : session.point ≠ .ended)
    (ofId : sub.id = id)
    (subscriptions : next.subscriptions =
      Function.update session.subscriptions topic (some updated))
    (grows : GrowsBy session next id updated.sequence) (drawn : next.drawn = session.drawn)
    (point : next.point = .select)
    (events : stamps id session.event = [] → stamps id next.event ≠ [] → topic.isQueued = true)
    (latest : session.latest.lookup id = none → next.latest.lookup id ≠ none →
      topic.isReplaceable = true) :
    InLine next id := by
  have mine : (id, topic) ∈ session.drawn := by
    rw [← ofId]
    exact registered.active running topic sub found
  constructor
  · exact grows.ordered inLine.ordered
  · exact .inr (grows.headed inLine.headed)
  · intro undrawn
    rw [drawn] at undrawn
    exact absurd mine (undrawn topic)
  · intro _ other active isActive activeId
    rw [subscriptions] at isActive
    rcases update_some isActive with ⟨rfl, rfl⟩ | ⟨different, had⟩
    · exact grows.bounded
    · -- another topic has another id
      have theirs := registered.active running other active had
      rw [activeId] at theirs
      exact absurd (registered.topic_unique theirs mine) different
  · intro waiting
    rw [drawn]
    by_cases before : stamps id session.event = []
    · exact ⟨topic, mine, events before waiting⟩
    · exact inLine.eventLane before
  · intro waiting
    rw [drawn]
    by_cases before : session.latest.lookup id = none
    · exact ⟨topic, mine, latest before waiting⟩
    · exact inLine.latestLane before
  · intro other active here
    rw [point] at here
    cases here

/-- A subscription is opened under an id that was never drawn. -/
theorem InLine.opened (inLine : InLine session id) (registered : Registered session)
    (running : session.point ≠ .ended) (undrawn : ∀ topic, (id, topic) ∉ session.drawn)
    {frame : Frame Content} (result : stamp id frame = some 0)
    (isNext : next = { session with
      subscriptions := Function.update session.subscriptions topic (some (.new id))
      drawn := (id, topic) :: session.drawn
      critical := session.critical ++ [frame]
      point := .subscribing topic }) :
    InLine next id := by
  have empty := inLine.undrawn undrawn
  have parts := empty
  simp only [Session.line, Session.queuedLine, List.append_eq_nil_iff] at parts
  have noEvents := parts.1.2
  have noSnapshot : session.latest.lookup id = none := by
    by_contra waiting
    rcases inLine.latestLane waiting with ⟨other, drawn, _⟩
    exact undrawn other drawn
  have line : next.line id = [0] := by
    rw [isNext, line_critical result noEvents noSnapshot, empty]
    rfl
  constructor
  · rw [line]
    exact List.pairwise_singleton _ _
  · rw [line]
    exact .inr rfl
  · intro absent
    rw [isNext] at absent
    exact absurd List.mem_cons_self (absent topic)
  · intro _ other active found ofId
    rw [isNext] at found
    rcases update_some found with ⟨_, rfl⟩ | ⟨_, had⟩
    · rw [line]
      exact ⟨List.cons_ne_nil _ _, fun place member => (List.mem_singleton.mp member).le⟩
    · have theirs := registered.active running other active had
      rw [ofId] at theirs
      exact absurd theirs (undrawn other)
  · rw [isNext]
    exact fun waiting => absurd noEvents waiting
  · rw [isNext]
    exact fun waiting => absurd noSnapshot waiting
  · intro other active here found ofId
    rw [isNext] at here found ⊢
    cases here
    rcases update_some found with ⟨_, rfl⟩ | ⟨different, _⟩
    · exact ⟨rfl, noEvents, noSnapshot⟩
    · exact absurd rfl different

/-! ### Every step -/

theorem lookup_replace {encoding : Encoding Content} {event : Event Content} (key : UInt64) :
    (session.replace encoding (.event event)).latest.lookup key =
      if encoding.fits (.event event) = true ∧ event.subscriptionId = key then
        some (.event event)
      else session.latest.lookup key := by
  by_cases fits : encoding.fits (.event event) = true
  · have inserted : (session.replace encoding (.event event)).latest =
        session.latest.insert event.subscriptionId (.event event) := by
      simp [Session.replace, fits, Frame.event?]
    rw [inserted]
    by_cases same : event.subscriptionId = key
    · rw [if_pos ⟨fits, same⟩, same, AList.lookup_insert]
    · rw [if_neg (fun both => same both.2), AList.lookup_insert_ne (Ne.symm same)]
  · have kept : (session.replace encoding (.event event)).latest = session.latest := by
      simp [Session.replace, fits]
    rw [kept, if_neg (fun both => fits both.1)]

theorem registered_start : Registered (Session.start : Session Content) where
  active := by
    intro _ topic sub found
    cases found
  distinct := List.nodup_nil
  keyed := by
    intro key frame found
    cases found

/-- A step that only updates a subscription, as far as the registers are concerned. -/
theorem Registered.update (registered : Registered session) (running : session.point ≠ .ended)
    (found : session.subscriptions topic = some sub)
    (subscriptions : next.subscriptions =
      Function.update session.subscriptions topic (some updated)) (sameId : updated.id = sub.id)
    (drawn : next.drawn = session.drawn)
    (keyed : ∀ key frame, next.latest.lookup key = some frame →
      ∃ sequence, frame.IsEvent key sequence ∧ 1 ≤ sequence) : Registered next where
  active := by
    intro _ other active isActive
    rw [subscriptions] at isActive
    rw [drawn]
    rcases update_some isActive with ⟨rfl, rfl⟩ | ⟨_, had⟩
    · rw [sameId]
      exact registered.active running other sub found
    · exact registered.active running other active had
  distinct := by
    rw [drawn]
    exact registered.distinct
  keyed := keyed

theorem nodup_cons_drawn (registered : Registered session)
    (undrawn : ∀ topic, (id, topic) ∉ session.drawn) :
    (((id, topic) :: session.drawn).map Prod.fst).Nodup := by
  rw [List.map_cons, List.nodup_cons]
  refine ⟨?_, registered.distinct⟩
  intro member
  rcases List.mem_map.mp member with ⟨⟨_, other⟩, drawn, rfl⟩
  exact undrawn other drawn

theorem Registered.move {encoding : Encoding Content} {event : SessionEvent Content}
    (registered : Registered session) (fresh : FreshDraws session event)
    (move : SessionMoves encoding session event next) :
    Registered next := by
  cases move with
  | queue _ remaining kept =>
      refine ⟨?_, registered.distinct, registered.keyed⟩
      intro running topic sub found
      have ran : session.point ≠ .ended := by
        rcases kept with ⟨here, _⟩ | same
        · exact ne_ended_of_select here
        · rw [← same]
          exact running
      exact registered.active ran topic sub (remaining topic sub found)
  | @subscribe now request receivers draws _ id _ here drawn =>
      refine ⟨?_, nodup_cons_drawn registered (fresh now request receivers draws id rfl drawn),
        registered.keyed⟩
      intro _ other active found
      rcases update_some found with ⟨rfl, rfl⟩ | ⟨_, had⟩
      · exact List.mem_cons_self
      · exact List.mem_cons_of_mem _
          (registered.active (ne_ended_of_select here) other active had)
  | baseline here found =>
      exact registered.update (ne_ended_of_subscribing here) found rfl rfl rfl registered.keyed
  | @replace _ _ _ frame _ found here next =>
      refine registered.update (ne_ended_of_select here) found rfl rfl rfl ?_
      rcases next with ⟨event, rfl, ofSub, numbered⟩
      intro key frame waiting
      rw [lookup_replace] at waiting
      split at waiting
      next fits =>
        cases waiting
        refine ⟨event.sequence, ⟨event, rfl, fits.2, rfl⟩, ?_⟩
        rw [numbered]
        exact Nat.le_min.mpr ⟨Nat.le_add_left _ _, by decide⟩
      · exact registered.keyed key frame waiting
  | push _ found here =>
      exact registered.update (ne_ended_of_select here) found rfl rfl rfl registered.keyed
  | remember found here =>
      exact registered.update (ne_ended_of_select here) found rfl rfl rfl registered.keyed
  | mark found here =>
      exact registered.update (ne_ended_of_select here) found rfl rfl rfl registered.keyed
  | noBaseline here =>
      exact ⟨fun _ => registered.active (ne_ended_of_subscribing here), registered.distinct,
        registered.keyed⟩
  | idle => exact ⟨registered.active, registered.distinct, registered.keyed⟩
  | leave => exact ⟨fun running => absurd rfl running, registered.distinct, registered.keyed⟩
  | subscribeFails drawn =>
      exact ⟨fun running => absurd rfl running,
        nodup_cons_drawn registered (fresh _ _ _ _ _ rfl drawn), registered.keyed⟩
  | takeCritical => exact ⟨registered.active, registered.distinct, registered.keyed⟩
  | takeEvent => exact ⟨registered.active, registered.distinct, registered.keyed⟩
  | @takeLatest choice =>
      refine ⟨registered.active, registered.distinct, ?_⟩
      intro key other waiting
      by_cases same : key = choice
      · subst same
        rw [AList.lookup_erase] at waiting
        cases waiting
      · rw [AList.lookup_erase_ne same] at waiting
        exact registered.keyed key other waiting

section Step

variable {encoding : Encoding Content} {session next : Session Content} {id : UInt64}
variable {topic : SubscriptionTopic} {sub : EventSubscription}

theorem le_nextSequence (below : Unsaturated session)
    (found : session.subscriptions topic = some sub) :
    sub.sequence ≤ sub.nextSequence.sequence :=
  sequence_le_nextSequence (below topic sub found).le

theorem InLine.subscribe (inLine : InLine session id) (registered : Registered session)
    (here : session.point = .select) {drawnId : UInt64}
    (undrawn : ∀ topic, (drawnId, topic) ∉ session.drawn) {frame : Frame Content}
    (result : stamp id frame = if drawnId = id then some 0 else none) :
    InLine { session with
      subscriptions := Function.update session.subscriptions topic (some (.new drawnId))
      drawn := (drawnId, topic) :: session.drawn
      critical := session.critical ++ [frame]
      point := .subscribing topic } id := by
  have running := ne_ended_of_select here
  by_cases same : drawnId = id
  · subst same
    rw [if_pos rfl] at result
    exact inLine.opened registered running undrawn result rfl
  · rw [if_neg same] at result
    refine inLine.frame (line_critical_other result) ?_ ?_ (fun empty => empty) (fun none => none) ?_
    · exact fun _ member => List.mem_cons_of_mem _ member
    · intro _ other active found ofId
      refine ⟨running, ?_⟩
      rcases update_some found with ⟨_, rfl⟩ | ⟨_, had⟩
      · exact absurd ofId same
      · exact ⟨active, had, ofId, le_rfl⟩
    · intro other active opening found ofId
      cases opening
      rcases update_some found with ⟨_, rfl⟩ | ⟨different, _⟩
      · exact absurd ofId same
      · exact absurd rfl different

theorem InLine.sendBaseline (inLine : InLine session id) (registered : Registered session)
    {frame : Frame Content} (here : session.point = .subscribing topic)
    (found : session.subscriptions topic = some sub) (first : frame.IsEvent sub.id 1) :
    InLine { session.setSubscription topic { sub with sequence := 1 } with
      critical := session.critical ++ [frame]
      point := .select } id := by
  have running := ne_ended_of_subscribing here
  have placed := first.stamp id
  by_cases same : sub.id = id
  · rw [if_pos same] at placed
    rcases inLine.opening topic sub here found same with ⟨zero, noEvents, noSnapshot⟩
    rcases inLine.bounded running topic sub found same with ⟨opened, bounds⟩
    refine inLine.extend registered found running same rfl ?_ rfl rfl
      (fun none waiting => absurd none waiting) (fun none waiting => absurd none waiting)
    refine .append opened (line_critical placed noEvents noSnapshot) ?_
    intro earlier member
    have small := bounds earlier member
    change earlier < 1
    omega
  · rw [if_neg same] at placed
    exact inLine.frame_update found running rfl rfl (fun ofId => absurd ofId same)
      (line_critical_other placed) rfl rfl (fun empty => empty) (fun none => none)

/-- A snapshot goes to the end of the line, and the one before it leaves. -/
theorem growsBy_replace (inLine : InLine session id) (registered : Registered session)
    (below : Unsaturated session) (running : session.point ≠ .ended) {updated : EventSubscription}
    {event : Event Content} (found : session.subscriptions topic = some sub) (same : sub.id = id)
    (ofSub : event.subscriptionId = sub.id)
    (numbered : event.sequence = sub.nextSequence.sequence)
    (fits : encoding.fits (.event event) = true) :
    GrowsBy session ((session.setSubscription topic updated).replace encoding (.event event)) id
      event.sequence := by
  have ofId : event.subscriptionId = id := ofSub.trans same
  rcases inLine.bounded running topic sub found same with ⟨opened, bounds⟩
  have larger := inLine.lt_next below running found same
  rw [← numbered] at larger
  refine ⟨⟨session.queuedLine id, List.prefix_append _ _, ?_, ?_⟩, larger⟩
  · rw [Session.line, lookup_replace, if_pos ⟨fits, ofId⟩]
    simp only [Option.toList_some, stamps_cons, stamp, if_pos ofId, stamps_nil, List.append_nil]
    rfl
  · -- the result that opened the subscription is in a queue, or was sent
    intro empty
    have starts := inLine.headed.resolve_left opened
    rw [Session.line, empty, List.nil_append] at starts opened
    cases waiting : session.latest.lookup id with
    | none =>
        rw [waiting] at opened
        exact absurd rfl opened
    | some snapshot =>
        rcases registered.keyed id snapshot waiting with ⟨sequence, isEvent, positive⟩
        rw [waiting] at starts
        simp only [Option.toList_some, stamps_cons, isEvent.stamp, if_true, stamps_nil,
          List.append_nil, List.head?_cons, Option.some.injEq] at starts
        omega

theorem InLine.replace (inLine : InLine session id) (registered : Registered session)
    (below : Unsaturated session) (here : session.point = .select) {frame : Frame Content}
    (replaceable : topic.isReplaceable = true) (found : session.subscriptions topic = some sub)
    (next : frame.IsEvent sub.id sub.nextSequence.sequence) :
    InLine ((session.setSubscription topic sub.nextSequence).replace encoding frame) id := by
  have running := ne_ended_of_select here
  rcases next with ⟨event, rfl, ofSub, numbered⟩
  by_cases lands : encoding.fits (.event event) = true ∧ sub.id = id
  · refine inLine.extend registered found running lands.2 rfl ?_ rfl here
      (fun none waiting => absurd none waiting) (fun _ _ => replaceable)
    rw [← numbered]
    exact growsBy_replace inLine registered below running found lands.2 ofSub numbered lands.1
  · have elsewhere : ¬ (encoding.fits (.event event) = true ∧ event.subscriptionId = id) :=
      fun both => lands ⟨both.1, ofSub.symm.trans both.2⟩
    have kept : ((session.setSubscription topic sub.nextSequence).replace encoding
        (.event event)).latest.lookup id = session.latest.lookup id :=
      (lookup_replace id).trans (if_neg elsewhere)
    refine inLine.frame_update found running rfl rfl (fun _ => le_nextSequence below found) ?_ rfl
      here (fun empty => empty) ?_
    · rw [Session.line, Session.line, kept]
      rfl
    · rw [kept]
      exact fun none => none

theorem InLine.push (inLine : InLine session id) (registered : Registered session)
    (below : Unsaturated session) (here : session.point = .select) {gap : ActionGap}
    {frames : List (Frame Content)} (isQueued : topic.isQueued = true)
    (found : session.subscriptions topic = some sub)
    (next : frames = [] ∨
      ∃ frame, frames = [frame] ∧ frame.IsEvent sub.id sub.nextSequence.sequence) :
    InLine { session.setSubscription topic (sub.advance gap) with
      event := session.event ++ frames } id := by
  have running := ne_ended_of_select here
  rcases next with rfl | ⟨frame, rfl, isEvent⟩
  · rw [List.append_nil]
    exact inLine.frame_update found running rfl rfl (fun _ => le_nextSequence below found) rfl rfl
      here (fun empty => empty) (fun none => none)
  · have placed := isEvent.stamp id
    by_cases same : sub.id = id
    · rw [if_pos same] at placed
      have drawn := registered.active running topic sub found
      rw [same] at drawn
      have noSnapshot := inLine.no_snapshot registered drawn isQueued
      refine inLine.extend registered found running same rfl ?_ rfl here (fun _ _ => isQueued)
        (fun none waiting => absurd none waiting)
      exact .append (inLine.bounded running topic sub found same).1
        (line_event placed noSnapshot) (inLine.lt_next below running found same)
    · rw [if_neg same] at placed
      refine inLine.frame_update found running rfl rfl (fun ofId => absurd ofId same)
        (line_event_other placed) rfl here ?_ (fun none => none)
      intro none
      simp [none, placed]

theorem InLine.mark (inLine : InLine session id) (registered : Registered session)
    (below : Unsaturated session) (here : session.point = .select) {gap : ActionGap}
    {frame : Frame Content} (found : session.subscriptions .actionOutput = some sub)
    (next : frame.IsEvent sub.id sub.nextSequence.sequence)
    (behind : sub.id = id → stamps id session.event = []) :
    InLine { session.setSubscription .actionOutput (sub.advance gap) with
      critical := session.critical ++ [frame]
      point := .select } id := by
  have running := ne_ended_of_select here
  have placed := next.stamp id
  by_cases same : sub.id = id
  · rw [if_pos same] at placed
    have drawn := registered.active running .actionOutput sub found
    rw [same] at drawn
    have noSnapshot := inLine.no_snapshot registered drawn rfl
    refine inLine.extend registered found running same rfl ?_ rfl rfl
      (fun none waiting => absurd none waiting) (fun none waiting => absurd none waiting)
    exact .append (inLine.bounded running .actionOutput sub found same).1
      (line_critical placed (behind same) noSnapshot) (inLine.lt_next below running found same)
  · rw [if_neg same] at placed
    exact inLine.frame_update found running rfl rfl (fun ofId => absurd ofId same)
      (line_critical_other placed) rfl rfl (fun empty => empty) (fun none => none)

/-- The writer sends the frame at the front of the line. -/
theorem InLine.send (inLine : InLine session id) (line : next.line id = session.line id)
    (subscriptions : next.subscriptions = session.subscriptions)
    (point : next.point = session.point) (drawn : next.drawn = session.drawn)
    (events : stamps id session.event = [] → stamps id next.event = [])
    (latest : session.latest.lookup id = none → next.latest.lookup id = none) :
    InLine next id := by
  refine inLine.frame line ?_ ?_ events latest ?_
  · rw [drawn]
    exact fun _ member => member
  · rw [point, subscriptions]
    intro running topic sub found ofId
    exact ⟨running, sub, found, ofId, le_rfl⟩
  · rw [point, subscriptions]
    exact fun topic sub opening found _ => ⟨opening, found⟩

theorem InLine.move {event : SessionEvent Content} (inLine : InLine session id)
    (registered : Registered session) (fresh : FreshDraws session event)
    (below : Unsaturated session) (rounds : WholeRounds session event)
    (marks : MarksBehindEvents session event ∨ (id, .actionOutput) ∉ session.drawn)
    (move : SessionMoves encoding session event next) : InLine next id := by
  cases move with
  | @queue _ frame point _ unstamped remaining kept =>
      refine inLine.frame (line_critical_other (unstamped id)) (fun _ member => member) ?_
        (fun empty => empty) (fun none => none) ?_
      · intro running topic sub found ofId
        refine ⟨?_, sub, remaining topic sub found, ofId, le_rfl⟩
        rcases kept with ⟨here, _⟩ | same
        · exact ne_ended_of_select here
        · rw [← same]
          exact running
      · intro topic sub opening found _
        refine ⟨?_, remaining topic sub found⟩
        rcases kept with ⟨_, select⟩ | same
        · change point = .subscribing topic at opening
          rw [select] at opening
          cases opening
        · rw [← same]
          exact opening
  | @subscribe now request receivers draws _ drawnId _ here drawn _ result =>
      exact inLine.subscribe registered here
        (fresh now request receivers draws drawnId rfl drawn) (result id)
  | baseline here found first => exact inLine.sendBaseline registered here found first
  | replace replaceable found here next =>
      exact inLine.replace registered below here replaceable found next
  | push isQueued found here next => exact inLine.push registered below here isQueued found next
  | remember found here =>
      exact inLine.frame_update found (ne_ended_of_select here) rfl rfl (fun _ => le_rfl) rfl rfl
        here (fun empty => empty) (fun none => none)
  | @mark now sub _ _ found here pending next =>
      refine inLine.mark registered below here found next ?_
      intro same
      have drawn := registered.active (ne_ended_of_select here) .actionOutput sub found
      rw [same] at drawn
      rw [← same]
      exact (marks.resolve_right (not_not_intro drawn)) now sub rfl found pending
  | noBaseline here =>
      refine inLine.frame rfl (fun _ member => member) ?_
        (fun empty => empty) (fun none => none) ?_
      · intro _ topic sub found ofId
        exact ⟨ne_ended_of_subscribing here, sub, found, ofId, le_rfl⟩
      · intro topic sub opening
        cases opening
  | idle => exact inLine.send rfl rfl rfl rfl (fun empty => empty) (fun none => none)
  | leave =>
      refine inLine.frame rfl (fun _ member => member) (fun running => absurd rfl running)
        (fun empty => empty) (fun none => none) ?_
      intro topic sub opening
      cases opening
  | subscribeFails =>
      refine inLine.frame rfl (fun _ member => List.mem_cons_of_mem _ member)
        (fun running => absurd rfl running) (fun empty => empty) (fun none => none) ?_
      intro topic sub opening
      cases opening
  | takeCritical _ front =>
      refine inLine.send ?_ rfl rfl rfl (fun empty => empty) (fun none => none)
      simp [Session.line, Session.queuedLine, front]
  | @takeEvent _ frame _ _ here front =>
      refine inLine.send ?_ rfl rfl rfl ?_ (fun none => none)
      · cases placed : stamp id frame with
        | none => simp [Session.line, Session.queuedLine, front, placed]
        | some =>
            have critical := (rounds _ rfl).1 here _ _ id front (by rw [placed]; nofun)
            simp [Session.line, Session.queuedLine, front, placed, critical]
      · rw [front, stamps_cons]
        exact fun none => (List.append_eq_nil_iff.mp none).2
  | @takeLatest choice frame _ here found =>
      rcases (rounds choice rfl).2 here (by rw [found]; exact Option.some_ne_none _) with
        ⟨critical, events⟩
      rcases registered.keyed choice frame found with ⟨sequence, isEvent, _⟩
      have placed := isEvent.stamp id
      by_cases same : choice = id
      · subst same
        refine inLine.send ?_ rfl rfl rfl (fun empty => empty) (fun _ => AList.lookup_erase _ _)
        simp [Session.line, Session.queuedLine, critical, events, found]
      · rw [if_neg same] at placed
        have kept : (session.latest.erase choice).lookup id = session.latest.lookup id :=
          AList.lookup_erase_ne (Ne.symm same)
        refine inLine.send ?_ rfl rfl rfl (fun empty => empty) (fun none => kept.trans none)
        simp [Session.line, Session.queuedLine, placed, kept]

end Step

end ArcRelay.Subscriptions
