/-
Module: ArcRelay.Proofs.SubscriptionMoves
Purpose: What one step of a connection can do to its subscriptions and their frames.
Trusted boundary: none
-/
import ArcRelay.Proofs.ActionOutputAccounting
import ArcRelay.Server.SubscriptionSession

namespace ArcRelay.Subscriptions

variable {Content : Type}

/-- The topics whose snapshots replace each other. -/
def SubscriptionTopic.isReplaceable : SubscriptionTopic → Bool
  | .system | .media | .windows | .clipboard | .notifications => true
  | _ => false

/-- The topics whose events wait in the event queue. -/
def SubscriptionTopic.isQueued : SubscriptionTopic → Bool
  | .actionOutput | .clipboardSync => true
  | _ => false

/-- A place of a frame among those of a subscription: the result that opens it comes before its
events. -/
def stamp (id : UInt64) : Frame Content → Option Nat
  | .subscriptionResult result =>
      if result.subscriptionId = id ∧ result.nextSequence = 1 then some 0 else none
  | .event event => if event.subscriptionId = id then some event.sequence else none
  | .other _ => none

/-- The frame is the event of a subscription with this number. -/
def Frame.IsEvent (frame : Frame Content) (id : UInt64) (sequence : Nat) : Prop :=
  ∃ event, frame = .event event ∧ event.subscriptionId = id ∧ event.sequence = sequence

inductive SessionMoves (encoding : Encoding Content) (session : Session Content) :
    SessionEvent Content → Session Content → Prop where
  /-- a frame of no subscription, with which subscriptions may end -/
  | queue {event : SessionEvent Content} {frame : Frame Content} {point : LoopPoint}
      {subscriptions : SubscriptionTopic → Option EventSubscription}
      (unstamped : ∀ id, stamp id frame = none)
      (remaining : ∀ topic sub, subscriptions topic = some sub →
        session.subscriptions topic = some sub)
      (kept : session.point = .select ∧ point = .select ∨ point = session.point) :
      SessionMoves encoding session event
        { session with
          subscriptions := subscriptions
          critical := session.critical ++ [frame]
          point := point }
  | subscribe {now : Int} {request : SubscribeRequest} {receivers : Receivers}
      {draws : List UInt64} {topic : SubscriptionTopic} {id : UInt64} {frame : Frame Content}
      (here : session.point = .select) (drawn : session.drawId draws = some id)
      (isResult : frame.event? = none)
      (result : ∀ other, stamp other frame = if id = other then some 0 else none) :
      SessionMoves encoding session (.loop now (.subscribe request receivers draws))
        { session with
          subscriptions := Function.update session.subscriptions topic (some (.new id))
          drawn := (id, topic) :: session.drawn
          critical := session.critical ++ [frame]
          point := .subscribing topic }
  | baseline {event : SessionEvent Content} {topic : SubscriptionTopic}
      {sub : EventSubscription} {frame : Frame Content}
      (here : session.point = .subscribing topic)
      (found : session.subscriptions topic = some sub) (first : frame.IsEvent sub.id 1) :
      SessionMoves encoding session event
        { session.setSubscription topic { sub with sequence := 1 } with
          critical := session.critical ++ [frame]
          point := .select }
  | replace {event : SessionEvent Content} {topic : SubscriptionTopic} {sub : EventSubscription}
      {frame : Frame Content} (replaceable : topic.isReplaceable = true)
      (found : session.subscriptions topic = some sub)
      (here : session.point = .select)
      (next : frame.IsEvent sub.id sub.nextSequence.sequence) :
      SessionMoves encoding session event
        ((session.setSubscription topic sub.nextSequence).replace encoding frame)
  | push {event : SessionEvent Content} {topic : SubscriptionTopic} {sub : EventSubscription}
      {gap : ActionGap} {frames : List (Frame Content)} (isQueued : topic.isQueued = true)
      (found : session.subscriptions topic = some sub)
      (here : session.point = .select)
      (next : frames = [] ∨
        ∃ frame, frames = [frame] ∧ frame.IsEvent sub.id sub.nextSequence.sequence) :
      SessionMoves encoding session event
        { session.setSubscription topic (sub.advance gap) with event := session.event ++ frames }
  /-- the pending gap grows -/
  | remember {event : SessionEvent Content} {sub : EventSubscription} {gap : ActionGap}
      (found : session.subscriptions .actionOutput = some sub)
      (here : session.point = .select) :
      SessionMoves encoding session event
        (session.setSubscription .actionOutput { sub with actionGap := gap })
  | mark {now : Int} {sub : EventSubscription} {gap : ActionGap} {frame : Frame Content}
      (found : session.subscriptions .actionOutput = some sub)
      (here : session.point = .select)
      (pending : sub.actionGap.firstMissingSequence ≠ none)
      (next : frame.IsEvent sub.id sub.nextSequence.sequence) :
      SessionMoves encoding session (.loop now .heartbeat)
        { session.setSubscription .actionOutput (sub.advance gap) with
          critical := session.critical ++ [frame]
          point := .select }
  | noBaseline {event : SessionEvent Content} {topic : SubscriptionTopic}
      (here : session.point = .subscribing topic) :
      SessionMoves encoding session event { session with point := .select }
  | idle {event : SessionEvent Content} {writer : WriterPoint} :
      SessionMoves encoding session event { session with writer := writer }
  /-- the loop ends, wherever it was -/
  | leave {event : SessionEvent Content}
      {subscriptions : SubscriptionTopic → Option EventSubscription} :
      SessionMoves encoding session event
        { session with subscriptions := subscriptions, point := .ended }
  /-- the loop ends because the result of a new subscription cannot be sent -/
  | subscribeFails {now : Int} {request : SubscribeRequest} {receivers : Receivers}
      {draws : List UInt64} {topic : SubscriptionTopic} {id : UInt64}
      {subscriptions : SubscriptionTopic → Option EventSubscription}
      (drawn : session.drawId draws = some id) :
      SessionMoves encoding session (.loop now (.subscribe request receivers draws))
        { session with
          subscriptions := subscriptions
          drawn := (id, topic) :: session.drawn
          point := .ended }
  | takeCritical {choice : UInt64} {frame : Frame Content} {rest : List (Frame Content)}
      {writer : WriterPoint} (here : session.writer = .critical)
      (front : session.critical = frame :: rest) :
      SessionMoves encoding session (.poll choice)
        { session with critical := rest, sent := session.sent ++ [frame], writer := writer }
  | takeEvent {choice : UInt64} {frame : Frame Content} {rest : List (Frame Content)}
      {writer : WriterPoint} (here : session.writer = .event)
      (front : session.event = frame :: rest) :
      SessionMoves encoding session (.poll choice)
        { session with event := rest, sent := session.sent ++ [frame], writer := writer }
  | takeLatest {choice : UInt64} {frame : Frame Content} {writer : WriterPoint}
      (here : session.writer = .latest)
      (found : session.latest.lookup choice = some frame) :
      SessionMoves encoding session (.poll choice)
        { session with
          latest := session.latest.erase choice
          sent := session.sent ++ [frame]
          writer := writer }

/-! ### Reading the source -/

variable {frame : Frame Content}

theorem sendCritical_some {session next : Session Content} {point : LoopPoint}
    (sent : session.sendCritical frame point = some next) :
    next = { session with critical := session.critical ++ [frame], point := point } ∨
      next = { session with point := .ended } := by
  unfold Session.sendCritical at sent
  split at sent
  · cases sent
    exact .inr rfl
  · split at sent
    · cases sent
      exact .inl rfl
    · cases sent

theorem isEvent_eventFrame (id : UInt64) (sequence : Nat) (capturedAt now : Int)
    (data : EventData Content) :
    (eventFrame id sequence capturedAt now data).IsEvent id sequence :=
  ⟨_, rfl, rfl, rfl⟩

variable {encoding : Encoding Content}

theorem isEvent_clipboardFrameOf {id : UInt64} {sequence : Nat} {capturedAt now : Int}
    {snapshot : ClipboardSnapshot Content} {entries : Nat}
    (built : Session.clipboardFrameOf encoding id sequence capturedAt now snapshot entries =
      some frame) : frame.IsEvent id sequence := by
  induction entries with
  | zero =>
      simp only [Session.clipboardFrameOf] at built
      split at built
      · cases built
        exact isEvent_eventFrame _ _ _ _ _
      · cases built
  | succ _ ih =>
      simp only [Session.clipboardFrameOf] at built
      split at built
      · cases built
        exact isEvent_eventFrame _ _ _ _ _
      · exact ih built

theorem isEvent_initialFrame {id : UInt64} {now : Int} {baseline : Baseline Content}
    {topic : SubscriptionTopic}
    (built : Session.initialFrame encoding id now baseline topic = some frame) :
    frame.IsEvent id 1 := by
  cases topic with
  | clipboard =>
      rcases Option.bind_eq_some_iff.mp built with ⟨value, _, framed⟩
      exact isEvent_clipboardFrameOf framed
  | actions =>
      cases built
      exact isEvent_eventFrame _ _ _ _ _
  | actionOutput => cases built
  | clipboardSync => cases built
  | _ =>
      rcases Option.map_eq_some_iff.mp built with ⟨value, _, rfl⟩
      exact isEvent_eventFrame _ _ _ _ _

/-- Whatever the queue answers, a queued event has the number of the subscription. -/
theorem queue_spec (encoding : Encoding Content) (sub : EventSubscription) (answer : TrySend)
    (now : Int) (data : EventData Content) :
    ∃ gap, (sub.queue encoding answer now data).2 = { sub with actionGap := gap } ∧
      ((sub.queue encoding answer now data).1 = none ∨
        ∃ frame, (sub.queue encoding answer now data).1 = some frame ∧
          frame.IsEvent sub.id sub.sequence) := by
  refine ⟨_, rfl, ?_⟩
  simp only [EventSubscription.queue, queueEvent]
  split
  · exact .inl rfl
  · cases answer with
    | sent => exact .inr ⟨_, rfl, isEvent_eventFrame _ _ _ _ _⟩
    | full => exact .inl rfl
    | closed => exact .inl rfl

/-- An output with a valid id takes the next number, one with an invalid id changes nothing. -/
theorem pushActionOutputEvent_spec (encoding : Encoding Content) (answer : TrySend) (now : Int)
    (sub : EventSubscription) (output : OutputLine) :
    pushActionOutputEvent encoding answer now sub output = (none, sub) ∨
      ∃ gap, (pushActionOutputEvent encoding answer now sub output).2 = sub.advance gap ∧
        ((pushActionOutputEvent encoding answer now sub output).1 = none ∨
          ∃ frame, (pushActionOutputEvent encoding answer now sub output).1 = some frame ∧
            frame.IsEvent sub.id sub.nextSequence.sequence) := by
  unfold pushActionOutputEvent
  split
  · exact .inl rfl
  · apply Or.inr
    dsimp only
    split
    · exact queue_spec encoding _ answer now _
    · exact queue_spec encoding _ answer now _

/-! ### Every step -/

theorem stamp_result (id other : UInt64) (requestId : UInt64) (status : Status)
    (topic : Option SubscriptionTopic) :
    stamp other (.subscriptionResult ⟨requestId, status, id, topic, 1⟩ : Frame Content) =
      if id = other then some 0 else none := by
  simp [stamp]

/-- The result of a request that opens no subscription. -/
theorem stamp_refusal (id other : UInt64) (requestId : UInt64) (status : Status)
    (topic : Option SubscriptionTopic) :
    stamp other (.subscriptionResult ⟨requestId, status, id, topic, 0⟩ : Frame Content) =
      none := by
  simp [stamp]

section Steps

variable {grants : Grants} {encoding : Encoding Content} {session next : Session Content}
  {now : Int}

theorem sessionMoves_of_handleSubscribe {request : SubscribeRequest} {receivers : Receivers}
    {draws : List UInt64} (here : session.point = .select)
    (stepped : session.handleSubscribe grants request receivers draws = some next) :
    SessionMoves encoding session (.loop now (.subscribe request receivers draws)) next := by
  unfold Session.handleSubscribe at stepped
  split at stepped
  · rcases sendCritical_some stepped with rfl | rfl
    · exact .queue (fun other => stamp_refusal _ _ _ _ _) (fun _ _ found => found)
        (.inl ⟨here, rfl⟩)
    · exact .leave
  · cases stepped
  · split at stepped
    · cases stepped
    next drawn =>
      rcases sendCritical_some stepped with rfl | rfl
      · exact .subscribe here drawn rfl fun other => stamp_result _ _ _ _ _
      · exact .subscribeFails drawn

theorem sessionMoves_of_handleUnsubscribe {request : UnsubscribeRequest}
    (here : session.point = .select)
    (stepped : session.handleUnsubscribe request = some next) :
    SessionMoves encoding session (.loop now (.unsubscribe request)) next := by
  unfold Session.handleUnsubscribe at stepped
  split at stepped
  · rcases sendCritical_some stepped with rfl | rfl
    · exact .queue (fun other => stamp_refusal _ _ _ _ _) (fun _ _ found => found)
        (.inl ⟨here, rfl⟩)
    · exact .leave
  · rcases sendCritical_some stepped with rfl | rfl
    · refine .queue (fun other => stamp_refusal _ _ _ _ _) ?_ (.inl ⟨here, rfl⟩)
      intro topic sub found
      dsimp only at found
      split at found
      · cases found
      · exact found
    · exact .leave

variable {topic : SubscriptionTopic}

theorem sessionMoves_of_sendBaseline {baseline : Baseline Content}
    (here : session.point = .subscribing topic)
    (stepped : session.sendBaseline encoding topic now baseline = some next) :
    SessionMoves encoding session (.baseline now baseline) next := by
  unfold Session.sendBaseline at stepped
  split at stepped
  · cases stepped
  next sub found =>
    split at stepped
    · cases stepped
      exact .noBaseline here
    next frame built =>
      rcases sendCritical_some stepped with rfl | rfl
      · exact .baseline here found (isEvent_initialFrame built)
      · exact .leave

variable {event : SessionEvent Content}

/-- The body shared by the three state topics. -/
theorem sessionMoves_of_pushStateEvent {data : Content → EventData Content}
    {value : Captured Content} (replaceable : topic.isReplaceable = true)
    (here : session.point = .select)
    (stepped : session.pushStateEvent encoding topic data now value = some next) :
    SessionMoves encoding session event next := by
  rcases Option.map_eq_some_iff.mp stepped with ⟨sub, found, rfl⟩
  exact .replace replaceable found here (isEvent_eventFrame _ _ _ _ _)

theorem sessionMoves_of_pushClipboardEvent {built : Option (Captured (ClipboardSnapshot Content))}
    (here : session.point = .select)
    (stepped : session.pushClipboardEvent encoding now built = some next) :
    SessionMoves encoding session event next := by
  rcases Option.map_eq_some_iff.mp stepped with ⟨sub, found, rfl⟩
  split
  · exact .idle
  · dsimp only
    split
    · exact .idle
    next frame framed =>
      exact .replace rfl found here (isEvent_clipboardFrameOf framed)

theorem sessionMoves_of_pushNotificationEvent {snapshot : Option Content}
    (here : session.point = .select)
    (stepped : session.pushNotificationEvent encoding now snapshot = some next) :
    SessionMoves encoding session event next := by
  rcases Option.map_eq_some_iff.mp stepped with ⟨sub, found, rfl⟩
  split
  · exact .idle
  · exact .replace rfl found here (isEvent_eventFrame _ _ _ _ _)

/-- A push to the event queue, of an event that took the next number. -/
theorem sessionMoves_of_queued {sub : EventSubscription} {gap : ActionGap}
    {pushed : Option (Frame Content) × EventSubscription} (isQueued : topic.isQueued = true)
    (found : session.subscriptions topic = some sub) (here : session.point = .select)
    (advanced : pushed.2 = sub.advance gap)
    (frame : pushed.1 = none ∨ ∃ frame, pushed.1 = some frame ∧
      frame.IsEvent sub.id sub.nextSequence.sequence) :
    SessionMoves encoding session event (session.queued topic pushed) := by
  rw [Session.queued, advanced]
  refine .push isQueued found here ?_
  rcases frame with nothing | ⟨frame, queued, isEvent⟩
  · rw [nothing]
    exact .inl rfl
  · rw [queued]
    exact .inr ⟨frame, rfl, isEvent⟩

/-- A push that leaves the subscription and the queue as they are. -/
theorem queued_unchanged {sub : EventSubscription}
    (found : session.subscriptions topic = some sub) :
    session.queued topic (none, sub) = session := by
  have same : Function.update session.subscriptions topic (some sub) = session.subscriptions := by
    rw [← found]
    exact Function.update_eq_self _ _
  simp [Session.queued, Session.setSubscription, same]

theorem sessionMoves_of_heartbeat (here : session.point = .select)
    (stepped : session.heartbeat now = some next) :
    SessionMoves encoding session (.loop now .heartbeat) next := by
  unfold Session.heartbeat at stepped
  split at stepped
  · cases stepped
    exact .idle
  next frame sub marked =>
    rcases Option.bind_eq_some_iff.mp marked with ⟨before, found, built⟩
    rcases Option.map_eq_some_iff.mp built with ⟨first, pending, same⟩
    cases same
    rcases sendCritical_some stepped with rfl | rfl
    · refine .mark found here ?_ (isEvent_eventFrame _ _ _ _ _)
      rw [pending]
      exact Option.some_ne_none first
    · exact .leave

theorem sessionMoves_of_loopStep {event : LoopEvent Content} (here : session.point = .select)
    (stepped : session.loopStep grants encoding now event = some next) :
    SessionMoves encoding session (.loop now event) next := by
  cases event with
  | subscribe => exact sessionMoves_of_handleSubscribe here stepped
  | unsubscribe => exact sessionMoves_of_handleUnsubscribe here stepped
  | system => exact sessionMoves_of_pushStateEvent rfl here stepped
  | media => exact sessionMoves_of_pushStateEvent rfl here stepped
  | windows => exact sessionMoves_of_pushStateEvent rfl here stepped
  | clipboard => exact sessionMoves_of_pushClipboardEvent here stepped
  | notification => exact sessionMoves_of_pushNotificationEvent here stepped
  | output output =>
      rcases Option.map_eq_some_iff.mp stepped with ⟨sub, found, rfl⟩
      rcases pushActionOutputEvent_spec encoding session.trySend now sub output with
        unchanged | ⟨gap, advanced, frame⟩
      · rw [unchanged, queued_unchanged found]
        exact .idle
      · exact sessionMoves_of_queued rfl found here advanced frame
  | outputLag =>
      rcases Option.map_eq_some_iff.mp stepped with ⟨sub, found, rfl⟩
      exact .remember found here
  | record converted =>
      rcases Option.map_eq_some_iff.mp stepped with ⟨sub, found, rfl⟩
      cases converted with
      | none =>
          rw [pushClipboardSyncEvent, queued_unchanged found]
          exact .idle
      | some record =>
          rcases queue_spec encoding sub.nextSequence session.trySend now
            (.clipboardSync record) with ⟨gap, advanced, frame⟩
          exact sessionMoves_of_queued rfl found here advanced frame
  | heartbeat => exact sessionMoves_of_heartbeat here stepped

theorem sessionMoves_of_poll {choice : UInt64} (stepped : session.poll choice = some next) :
    SessionMoves encoding session (.poll choice) next := by
  unfold Session.poll at stepped
  split at stepped
  next here =>
    split at stepped
    · cases stepped
      exact .idle
    next frame rest front =>
      cases stepped
      exact .takeCritical here front
  next here =>
    split at stepped
    · cases stepped
      exact .idle
    next frame rest front =>
      cases stepped
      exact .takeEvent here front
  next here =>
    split at stepped
    next frame found =>
      cases stepped
      exact .takeLatest here found
    · split at stepped
      · cases stepped
        exact .idle
      · cases stepped
  · cases stepped

theorem sessionMoves_of_step (stepped : session.step grants encoding event = some next) :
    SessionMoves encoding session event next := by
  cases event with
  | loop =>
      simp only [Session.step] at stepped
      split at stepped
      next here =>
        exact sessionMoves_of_loopStep here stepped
      · cases stepped
  | baseline =>
      simp only [Session.step] at stepped
      split at stepped
      next topic here =>
        exact sessionMoves_of_sendBaseline here stepped
      · cases stepped
  | leave =>
      cases stepped
      exact .leave
  | other =>
      simp only [Session.step] at stepped
      split at stepped
      · cases stepped
        exact .queue (fun _ => rfl) (fun _ _ found => found) (.inr rfl)
      · cases stepped
  | poll => exact sessionMoves_of_poll stepped
  | writerFails =>
      cases stepped
      exact .idle

end Steps

/-- Ids that were drawn stay so. -/
theorem SessionMoves.drawn_mono {session next : Session Content} {event : SessionEvent Content}
    (move : SessionMoves encoding session event next) {pair : UInt64 × SubscriptionTopic}
    (drawn : pair ∈ session.drawn) : pair ∈ next.drawn := by
  cases move with
  | subscribe => exact List.mem_cons_of_mem _ drawn
  | subscribeFails => exact List.mem_cons_of_mem _ drawn
  | _ => exact drawn

end ArcRelay.Subscriptions
