/-
Module: ArcRelay.Server.SubscriptionSession
Purpose: The subscriptions of a connection, the three queues their frames wait in, and the writer
  that drains these queues.
Trusted boundary: the runtime's channels behave as documented; snapshots, clock readings, random
  draws and the frames of the rest of the session are chosen by the events.
-/
import ArcRelay.Library.HashMap
import ArcRelay.Library.Transitions
import ArcRelay.Server.EventSubscriptions

namespace ArcRelay.Subscriptions

/-!
A frame for the client waits in one of three places.  Responses, results, baselines and the gap
markers of the heartbeat wait in the critical queue, action output and clipboard records in the
event queue, and the latest snapshot of each state subscription in a map under its subscription
id, where a newer snapshot replaces it.

The writer is a task of its own.  In each round its biased select polls the critical queue, then
the event queue, then the map, and sends the first frame it finds.  The three polls are separate
steps here: the session loop may run between them.

The loop waits until the critical queue has room.  A closed queue, or a frame that waits too long,
ends the loop.
-/

/-- `CRITICAL_CONTROL_QUEUE_CAPACITY`. -/
def criticalControlQueueCapacity : Nat := 32
/-- `STATE_CONTROL_QUEUE_CAPACITY`, the room of the event queue. -/
def stateControlQueueCapacity : Nat := 16

/-! ### Who may subscribe -/

inductive Feature where
  | subscriptions | system | media | windows | clipboard | actions | notifications
  | clipboardSync
deriving Repr, DecidableEq

inductive CapabilityId where
  | systemRead | mediaRead | windowRead | clipboardRead | actionRead | notificationRead
  | clipboardSync
deriving Repr, DecidableEq

def SubscriptionTopic.feature : SubscriptionTopic → Feature
  | .system => .system
  | .media => .media
  | .windows => .windows
  | .clipboard => .clipboard
  | .actions => .actions
  | .actionOutput => .actions
  | .notifications => .notifications
  | .clipboardSync => .clipboardSync

/-- The capability a topic requires. -/
def SubscriptionTopic.required : SubscriptionTopic → CapabilityId
  | .system => .systemRead
  | .media => .mediaRead
  | .windows => .windowRead
  | .clipboard => .clipboardRead
  | .actions => .actionRead
  | .actionOutput => .actionRead
  | .notifications => .notificationRead
  | .clipboardSync => .clipboardSync

/-- What the connection negotiated and was granted. -/
structure Grants where
  features : List Feature
  capabilities : List CapabilityId
deriving Repr, DecidableEq

/-- Whether the host has a channel for each of the topics that need one. -/
structure Receivers where
  actionOutput : Bool
  notifications : Bool
  clipboardSync : Bool
deriving Repr, DecidableEq

def Receivers.unavailable (receivers : Receivers) : SubscriptionTopic → Option String
  | .actionOutput =>
      if receivers.actionOutput then none else some "action output subscription is unavailable"
  | .notifications =>
      if receivers.notifications then none else some "notification subscription is unavailable"
  | .clipboardSync =>
      if receivers.clipboardSync then none else some "clipboard sync subscription is unavailable"
  | _ => none

/-- The checks of `handle_subscribe`, in their order; `none` is an unknown topic. -/
def refusal (grants : Grants) (receivers : Receivers) :
    Option SubscriptionTopic → Option (ErrorCode × String)
  | none => some (.invalidArgument, "invalid subscription topic")
  | some topic =>
      if !grants.features.contains .subscriptions || !grants.features.contains topic.feature then
        some (.unsupported, "subscription feature was not negotiated")
      else if !grants.capabilities.contains topic.required then
        some (.permissionDenied, "subscription capability was not granted")
      else (receivers.unavailable topic).map fun message => (.unavailable, message)

structure SubscribeRequest where
  requestId : UInt64
  topic : Option SubscriptionTopic
deriving Repr, DecidableEq

structure UnsubscribeRequest where
  requestId : UInt64
  subscriptionId : UInt64
deriving Repr, DecidableEq

/-- `random_nonzero_u64`, from what the generator returns. -/
def randomNonzeroU64 (drawn : UInt64) : UInt64 :=
  let value := drawn &&& i64Max
  if value = 0 then 1 else value

/-! ### The session -/

/-- Where the session loop is. -/
inductive LoopPoint where
  | select
  /-- in `handle_subscribe`, after the result, before the baseline -/
  | subscribing (topic : SubscriptionTopic)
  | ended
deriving Repr, DecidableEq

/-- What the writer polls next. -/
inductive WriterPoint where
  | critical | event | latest
  | ended
deriving Repr, DecidableEq

/-- The state of a connection.  `sent` is what the writer has sent; `drawn`, the ids and topics of
all subscriptions there have been, and `given`, every frame `LatestStateQueue::replace` was given,
newest first, are ghosts. -/
structure Session (Content : Type) where
  subscriptions : SubscriptionTopic → Option EventSubscription
  point : LoopPoint
  critical : List (Frame Content)
  event : List (Frame Content)
  latest : HashMap UInt64 (Frame Content)
  writer : WriterPoint
  sent : List (Frame Content)
  drawn : List (UInt64 × SubscriptionTopic)
  given : List (Frame Content)

/-- A snapshot the core has published, converted for the wire. -/
structure Captured (Content : Type) where
  capturedAtMs : Int
  content : Content
deriving Repr, DecidableEq

/-- What the core answers when a subscription asks for its baseline. -/
structure Baseline (Content : Type) where
  /-- the latest system, media or window state -/
  latest : Option (Captured Content)
  /-- the latest clipboard state, if `build_clipboard_snapshot` succeeds -/
  clipboard : Option (Captured (ClipboardSnapshot Content))
  actions : Content
  notifications : Option Content
deriving Repr, DecidableEq

namespace Session

variable {Content : Type}

def start : Session Content where
  subscriptions := fun _ => none
  point := .select
  critical := []
  event := []
  latest := ∅
  writer := .critical
  sent := []
  drawn := []
  given := []

variable (session : Session Content)

def setSubscription (topic : SubscriptionTopic) (sub : EventSubscription) : Session Content :=
  { session with subscriptions := Function.update session.subscriptions topic (some sub) }

/-- `send_critical`; the loop goes on at `next`. -/
def sendCritical (frame : Frame Content) (next : LoopPoint) : Option (Session Content) :=
  if session.writer = .ended then some { session with point := .ended }
  else if session.critical.length < criticalControlQueueCapacity then
    some { session with critical := session.critical ++ [frame], point := next }
  else none

/-- What `try_send` on the event queue answers now. -/
def trySend : TrySend :=
  if session.writer = .ended then .closed
  else if session.event.length < stateControlQueueCapacity then .sent
  else .full

variable (encoding : Encoding Content)

/-- `LatestStateQueue::replace`. -/
def replace (session : Session Content) (frame : Frame Content) : Session Content :=
  { session with
    latest :=
      if !encoding.fits frame then session.latest
      else
        match frame.event? with
        | none => session.latest
        | some event => session.latest.insert event.subscriptionId frame
    given := frame :: session.given }

/-! ### Subscribing -/

/-- The topics in the order of the fields of `ConnectionSubscriptions`. -/
def topics : List SubscriptionTopic :=
  [.system, .media, .windows, .clipboard, .actions, .actionOutput, .notifications,
    .clipboardSync]

def activeIds : List UInt64 :=
  topics.filterMap fun topic => (session.subscriptions topic).map EventSubscription.id

/-- `send_subscription_result`. -/
def sendSubscriptionResult (requestId subscriptionId : UInt64)
    (topic : Option SubscriptionTopic) (nextSequence : Nat) (status : Status)
    (next : LoopPoint) : Option (Session Content) :=
  session.sendCritical
    (.subscriptionResult ⟨requestId, status, subscriptionId, topic, nextSequence⟩) next

/-- The loop that draws a subscription id.  Only the ids in use are avoided. -/
def drawId (draws : List UInt64) : Option UInt64 :=
  (draws.map randomNonzeroU64).find? fun candidate => !session.activeIds.contains candidate

/-- `handle_subscribe` up to its result.  `draws` are the numbers the generator returns. -/
def handleSubscribe (grants : Grants) (session : Session Content) (request : SubscribeRequest)
    (receivers : Receivers) (draws : List UInt64) : Option (Session Content) :=
  match refusal grants receivers request.topic, request.topic with
  | some (code, message), topic =>
      session.sendSubscriptionResult request.requestId 0 topic 0 (status code message "") .select
  | none, none => none
  | none, some topic =>
      match session.drawId draws with
      | none => none
      | some subscriptionId =>
          { session.setSubscription topic (.new subscriptionId) with
            drawn := (subscriptionId, topic) :: session.drawn }.sendSubscriptionResult
              request.requestId subscriptionId (some topic) 1 okStatus (.subscribing topic)

/-- The loop of `clipboard_event_frame`, with this many entries of the history left. -/
def clipboardFrameOf (encoding : Encoding Content) (id : UInt64) (sequence : Nat)
    (capturedAtMs now : Int) (snapshot : ClipboardSnapshot Content) :
    Nat → Option (Frame Content)
  | 0 =>
      let frame := eventFrame id sequence capturedAtMs now
        (.clipboard { snapshot with history := [] })
      if encoding.fits frame then some frame else none
  | entries + 1 =>
      let frame := eventFrame id sequence capturedAtMs now
        (.clipboard { snapshot with history := snapshot.history.take (entries + 1) })
      if encoding.fits frame then some frame
      else clipboardFrameOf encoding id sequence capturedAtMs now snapshot entries

def clipboardEventFrame (id : UInt64) (sequence : Nat)
    (capturedAtMs now : Int) (snapshot : ClipboardSnapshot Content) : Option (Frame Content) :=
  clipboardFrameOf encoding id sequence capturedAtMs now snapshot snapshot.history.length

/-- The baseline of a new subscription, which has the number 1. -/
def initialFrame (id : UInt64) (now : Int)
    (baseline : Baseline Content) : SubscriptionTopic → Option (Frame Content)
  | .system =>
      baseline.latest.map fun value =>
        eventFrame id 1 value.capturedAtMs now (.system value.content)
  | .media =>
      baseline.latest.map fun value =>
        eventFrame id 1 value.capturedAtMs now (.media value.content)
  | .windows =>
      baseline.latest.map fun value =>
        eventFrame id 1 value.capturedAtMs now (.windows value.content)
  | .clipboard =>
      baseline.clipboard.bind fun value =>
        clipboardEventFrame encoding id 1 value.capturedAtMs now value.content
  | .actions => some (eventFrame id 1 now now (.actions baseline.actions))
  | .actionOutput => none
  | .notifications =>
      baseline.notifications.map fun snapshot =>
        eventFrame id 1 now now (.notifications snapshot)
  | .clipboardSync => none

/-- The rest of `handle_subscribe`: the baseline, if there is one. -/
def sendBaseline (session : Session Content)
    (topic : SubscriptionTopic) (now : Int) (baseline : Baseline Content) :
    Option (Session Content) :=
  match session.subscriptions topic with
  | none => none
  | some sub =>
      match initialFrame encoding sub.id now baseline topic with
      | none => some { session with point := .select }
      | some frame =>
          (session.setSubscription topic { sub with sequence := 1 }).sendCritical frame .select

def handleUnsubscribe (request : UnsubscribeRequest) : Option (Session Content) :=
  if request.subscriptionId = 0 then
    session.sendSubscriptionResult request.requestId 0 none 0
      (status .invalidArgument "subscription id must be non-zero" "") .select
  else
    let hit := fun topic =>
      (session.subscriptions topic).any fun sub => sub.id = request.subscriptionId
    let found := topics.filter hit
    { session with
      subscriptions := fun topic => if hit topic then none else session.subscriptions topic
      }.sendSubscriptionResult request.requestId request.subscriptionId found.getLast? 0
        (if found.isEmpty then status .notFound "subscription was not found" "" else okStatus)
        .select

/-! ### Pushing -/

/-- The body of `push_system_event`, `push_media_event` and `push_window_event`. -/
def pushStateEvent (topic : SubscriptionTopic)
    (data : Content → EventData Content) (session : Session Content) (now : Int)
    (value : Captured Content) : Option (Session Content) :=
  (session.subscriptions topic).map fun sub =>
    let sub := sub.nextSequence
    (session.setSubscription topic sub).replace encoding
      (eventFrame sub.id sub.sequence value.capturedAtMs now (data value.content))

def pushSystemEvent : Session Content → Int → Captured Content → Option (Session Content) :=
  pushStateEvent encoding .system .system

def pushMediaEvent : Session Content → Int → Captured Content → Option (Session Content) :=
  pushStateEvent encoding .media .media

def pushWindowEvent : Session Content → Int → Captured Content → Option (Session Content) :=
  pushStateEvent encoding .windows .windows

/-- `push_clipboard_event`.  Unlike the others it takes a number only for a frame that fits;
`none` is a failed `build_clipboard_snapshot`. -/
def pushClipboardEvent (session : Session Content) (now : Int)
    (built : Option (Captured (ClipboardSnapshot Content))) : Option (Session Content) :=
  (session.subscriptions .clipboard).map fun sub =>
    match built with
    | none => session
    | some value =>
        let sequence := saturatingAdd sub.sequence 1
        match clipboardEventFrame encoding sub.id sequence value.capturedAtMs now
            value.content with
        | none => session
        | some frame =>
            (session.setSubscription .clipboard { sub with sequence := sequence }).replace
              encoding frame

/-- `push_notification_event`; `none` is a failed `notification_snapshot`. -/
def pushNotificationEvent (session : Session Content) (now : Int)
    (snapshot : Option Content) : Option (Session Content) :=
  (session.subscriptions .notifications).map fun sub =>
    match snapshot with
    | none => session
    | some snapshot =>
        let sub := sub.nextSequence
        (session.setSubscription .notifications sub).replace encoding
          (eventFrame sub.id sub.sequence now now (.notifications snapshot))

/-- An event subscription after a push, and the frame the event queue took. -/
def queued (topic : SubscriptionTopic)
    (pushed : Option (Frame Content) × EventSubscription) : Session Content :=
  { session.setSubscription topic pushed.2 with event := session.event ++ pushed.1.toList }

/-- The heartbeat's part for the action-output subscription. -/
def heartbeat (now : Int) : Option (Session Content) :=
  match (session.subscriptions .actionOutput).bind (heartbeatGap now) with
  | none => some session
  | some (frame, sub) => (session.setSubscription .actionOutput sub).sendCritical frame .select

/-! ### The parties -/

/-- One poll of the writer; `choice` is the entry `extract_if` comes to first. -/
def poll (choice : UInt64) : Option (Session Content) :=
  match session.writer with
  | .critical =>
      match session.critical with
      | [] => some { session with writer := .event }
      | frame :: rest => some { session with critical := rest, sent := session.sent ++ [frame] }
  | .event =>
      match session.event with
      | [] => some { session with writer := .latest }
      | frame :: rest =>
          some { session with
            event := rest
            sent := session.sent ++ [frame]
            writer := .critical }
  | .latest =>
      match session.latest.lookup choice with
      | some frame =>
          some { session with
            latest := session.latest.erase choice
            sent := session.sent ++ [frame]
            writer := .critical }
      | none =>
          -- an empty map parks the writer; the next round starts with the critical queue
          if session.latest.entries.isEmpty then some { session with writer := .critical }
          else none
  | .ended => none

end Session

/-- A turn of the session loop. -/
inductive LoopEvent (Content : Type) where
  | subscribe (request : SubscribeRequest) (receivers : Receivers) (draws : List UInt64)
  | unsubscribe (request : UnsubscribeRequest)
  | system (value : Captured Content)
  | media (value : Captured Content)
  | windows (value : Captured Content)
  | clipboard (built : Option (Captured (ClipboardSnapshot Content)))
  | notification (snapshot : Option Content)
  | output (output : OutputLine)
  /-- the action-output channel has dropped outputs -/
  | outputLag
  /-- an admitted clipboard record, as `sync_record_to_proto` converts it -/
  | record (converted : Option Content)
  | heartbeat
deriving Repr, DecidableEq

/-- What happens next on the connection. -/
inductive SessionEvent (Content : Type) where
  | loop (now : Int) (event : LoopEvent Content)
  | baseline (now : Int) (baseline : Baseline Content)
  /-- the loop ends, for whatever reason -/
  | leave
  /-- some other frame is put on the critical queue, by the loop or by a task -/
  | other (content : Content)
  | poll (choice : UInt64)
  /-- the writer cannot send and gives up -/
  | writerFails
deriving Repr, DecidableEq

namespace Session

variable {Content : Type}

/-- A turn of the loop, which is at its select. -/
def loopStep (grants : Grants) (encoding : Encoding Content) (session : Session Content)
    (now : Int) : LoopEvent Content → Option (Session Content)
  | .subscribe request receivers draws => session.handleSubscribe grants request receivers draws
  | .unsubscribe request => session.handleUnsubscribe request
  | .system value => session.pushSystemEvent encoding now value
  | .media value => session.pushMediaEvent encoding now value
  | .windows value => session.pushWindowEvent encoding now value
  | .clipboard built => session.pushClipboardEvent encoding now built
  | .notification snapshot => session.pushNotificationEvent encoding now snapshot
  | .output output =>
      (session.subscriptions .actionOutput).map fun sub =>
        session.queued .actionOutput
          (pushActionOutputEvent encoding session.trySend now sub output)
  | .outputLag =>
      (session.subscriptions .actionOutput).map fun sub =>
        session.setSubscription .actionOutput (outputLagged sub)
  | .record converted =>
      (session.subscriptions .clipboardSync).map fun sub =>
        session.queued .clipboardSync
          (pushClipboardSyncEvent encoding session.trySend now sub converted)
  | .heartbeat => session.heartbeat now

def step (grants : Grants) (encoding : Encoding Content) (session : Session Content) :
    SessionEvent Content → Option (Session Content)
  | .loop now event =>
      match session.point with
      | .select => session.loopStep grants encoding now event
      | _ => none
  | .baseline now baseline =>
      match session.point with
      | .subscribing topic => session.sendBaseline encoding topic now baseline
      | _ => none
  | .leave => some { session with point := .ended }
  | .other content =>
      if session.writer ≠ .ended ∧ session.critical.length < criticalControlQueueCapacity then
        some { session with critical := session.critical ++ [.other content] }
      else none
  | .poll choice => session.poll choice
  | .writerFails => some { session with writer := .ended }

end Session

/-- The connection as a system of its loop, its writer and its other tasks. -/
def subscriptionSession {Content : Type} (grants : Grants) (encoding : Encoding Content) :
    TransitionSystem (Session Content) (SessionEvent Content) where
  start := .start
  step := Session.step grants encoding

end ArcRelay.Subscriptions
