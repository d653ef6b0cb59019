/-
Module: ArcRelay.Server.EventSubscriptions
Purpose: Subscriptions whose events must not be replaced: their frames, the pending gap, and how
  action output and clipboard records are numbered, queued or folded into a gap.
Trusted boundary: the encoding of frames and its limit are parameters; clock readings, converted
  records and the answer of `try_send` are arguments.
-/
import ArcRelay.Library.Runtime
import ArcRelay.Server.Status

namespace ArcRelay.Subscriptions

/-!
The events of a subscription are numbered from 1.  An action-output event that is too large for a
control frame, or finds the bounded queue full, is not sent; its number and the id of its action
go into the subscription's pending gap.  The next output, or the next heartbeat, sends a gap
marker instead: the numbers it makes up for, and the actions to refresh.  A marker that is itself
refused goes back into the pending gap.

An empty list of actions in a marker asks for a refresh of everything.
-/

/-- `u64::MAX`, where sequence numbers stop growing. -/
def u64Max : Nat := usizeMax

/-- `MAX_ACTION_GAP_RESOURCE_IDS`. -/
def maxActionGapResourceIds : Nat := 1024
/-- `MAX_ACTION_GAP_RESOURCE_BYTES`. -/
def maxActionGapResourceBytes : Nat := 256 * 1024
/-- `MAX_ACTION_OUTPUT_LINE_BYTES`. -/
def maxActionOutputLineBytes : Nat := 16 * 1024

/-! ### Frames -/

inductive SubscriptionTopic where
  | system | media | windows | clipboard | actions | actionOutput | notifications
  | clipboardSync
deriving Repr, DecidableEq

structure EventGap where
  firstMissingSequence : Nat
  nextAvailableSequence : Nat
  resyncRequired : Bool
  resourceIds : List String
deriving Repr, DecidableEq

/-- A clipboard snapshot; of all its parts only the history is ever shortened. -/
structure ClipboardSnapshot (Content : Type) where
  history : List Content
  remainder : Content
deriving Repr, DecidableEq

/-- What an event carries.  `Content` is whatever the core hands out, converted for the wire. -/
inductive EventData (Content : Type) where
  | system (snapshot : Content)
  | media (snapshot : Content)
  | windows (snapshot : Content)
  | clipboard (snapshot : ClipboardSnapshot Content)
  | actions (snapshot : Content)
  | actionOutput (actionId : String) (lines : List String)
  | notifications (snapshot : Content)
  | clipboardSync (record : Content)
  | gap (gap : EventGap)
deriving Repr, DecidableEq

structure Event (Content : Type) where
  subscriptionId : UInt64
  sequence : Nat
  capturedAtMs : Int
  data : EventData Content
deriving Repr, DecidableEq

structure SubscriptionResult where
  requestId : UInt64
  status : Status
  subscriptionId : UInt64
  /-- `none` is `SubscriptionTopic::Unspecified` -/
  topic : Option SubscriptionTopic
  nextSequence : Nat
deriving Repr, DecidableEq

/-- A server control frame. -/
inductive Frame (Content : Type) where
  | subscriptionResult (result : SubscriptionResult)
  | event (event : Event Content)
  | other (content : Content)
deriving Repr, DecidableEq

/-- The wire encoding of frames. -/
structure Encoding (Content : Type) where
  encodedLen : Frame Content → Nat
  /-- `MAX_CONTROL_FRAME_SIZE` -/
  maxControlFrameSize : Nat

section Frames

variable {Content : Type}

def Frame.event? : Frame Content → Option (Event Content)
  | .event carried => some carried
  | _ => none

def Encoding.fits (encoding : Encoding Content) (frame : Frame Content) : Bool :=
  decide (encoding.encodedLen frame ≤ encoding.maxControlFrameSize)

/-- `protocol_timestamp`, with the clock reading it falls back on. -/
def protocolTimestamp (value now : Int) : Int := if 0 < value then value else max now 1

def eventFrame (subscriptionId : UInt64) (sequence : Nat) (capturedAtMs now : Int)
    (data : EventData Content) : Frame Content :=
  .event ⟨subscriptionId, sequence, protocolTimestamp capturedAtMs now, data⟩

end Frames

/-! ### The pending gap -/

/-- `ActionGap`.  The set of action ids is a list without duplicates. -/
structure ActionGap where
  firstMissingSequence : Option Nat
  resourceIds : List String
  resourceBytes : Nat
  resyncAll : Bool
deriving Repr, DecidableEq

namespace ActionGap

/-- `ActionGap::default`. -/
def default : ActionGap := ⟨none, [], 0, false⟩

variable (gap : ActionGap)

def rememberSequence (sequence : Nat) : ActionGap :=
  { gap with firstMissingSequence := some (gap.firstMissingSequence.getD sequence) }

/-- The overflow branch of the source: the ids are given up for a full refresh. -/
def giveUpIds : ActionGap :=
  { gap with resourceIds := [], resourceBytes := 0, resyncAll := true }

def rememberResource (sequence : Nat) (resourceId : String) : ActionGap :=
  let gap := gap.rememberSequence sequence
  if gap.resyncAll || gap.resourceIds.contains resourceId then gap
  else if resourceId.isEmpty || decide (maxActionGapResourceIds ≤ gap.resourceIds.length) ||
      decide (maxActionGapResourceBytes <
        saturatingAdd gap.resourceBytes resourceId.utf8ByteSize) then gap.giveUpIds
  else
    { gap with
      resourceBytes := saturatingAdd gap.resourceBytes resourceId.utf8ByteSize
      resourceIds := resourceId :: gap.resourceIds }

def rememberGap (dropped : EventGap) : ActionGap :=
  let gap := gap.rememberSequence dropped.firstMissingSequence
  if dropped.resourceIds.isEmpty then gap.giveUpIds
  else
    dropped.resourceIds.foldl
      (fun gap resourceId => gap.rememberResource dropped.firstMissingSequence resourceId) gap

/-- `take_resource_ids`: the sorted ids, none for a full refresh, and the emptied gap. -/
def takeResourceIds : List String × ActionGap :=
  (if gap.resyncAll then [] else gap.resourceIds.insertionSort (· ≤ ·),
    { gap with resourceIds := [], resourceBytes := 0, resyncAll := false })

end ActionGap

/-! ### Numbered events -/

/-- A subscription of any topic.  Only the event subscriptions of the source have a gap; for the
others it stays as it was made. -/
structure EventSubscription where
  id : UInt64
  sequence : Nat
  actionGap : ActionGap
deriving Repr, DecidableEq

def EventSubscription.new (id : UInt64) : EventSubscription := ⟨id, 0, .default⟩

/-- `next_sequence`; its result is the new `sequence`. -/
def EventSubscription.nextSequence (sub : EventSubscription) : EventSubscription :=
  { sub with sequence := saturatingAdd sub.sequence 1 }

/-- The answer of `try_send` on the bounded event queue. -/
inductive TrySend where
  | sent | full | closed
deriving Repr, DecidableEq

structure OutputLine where
  actionId : String
  text : String
deriving Repr, DecidableEq

/-- `str::trim`. -/
def trim (value : List Char) : List Char :=
  ((value.dropWhile charIsWhitespace).reverse.dropWhile charIsWhitespace).reverse

def validControlIdentifier (value : String) : Bool :=
  let value := trim value.toList
  !value.isEmpty && decide ((value.map Char.utf8Size).sum ≤ 256) && !value.any charIsControl

section Events

variable {Content : Type} (encoding : Encoding Content)

def rememberActionGap (frame : Frame Content) (gap : ActionGap) : ActionGap :=
  match frame with
  | .event event =>
      match event.data with
      | .gap dropped => gap.rememberGap dropped
      | .actionOutput actionId _ => gap.rememberResource event.sequence actionId
      | _ => { gap.rememberSequence event.sequence with resyncAll := true }
  | _ => gap

/-- `queue_event`: the frame the queue took, if any, and the gap.  A closed queue drops the frame
without a trace. -/
def queueEvent (answer : TrySend) (frame : Frame Content) (gap : ActionGap) :
    Option (Frame Content) × ActionGap :=
  if !encoding.fits frame then (none, rememberActionGap frame gap)
  else
    match answer with
    | .sent => (some frame, gap)
    | .full => (none, rememberActionGap frame gap)
    | .closed => (none, gap)

/-- A marker that takes everything pending from `first` on, up to the number it carries. -/
def gapMarker (sub : EventSubscription) (first : Nat) : EventSubscription × EventData Content :=
  let gap := { sub.actionGap with firstMissingSequence := none }
  let (resourceIds, gap) := gap.takeResourceIds
  ({ sub with actionGap := gap },
    .gap ⟨first, saturatingAdd sub.sequence 1, true, resourceIds⟩)

/-- Queue an event under the number the subscription has reached. -/
def EventSubscription.queue (sub : EventSubscription) (answer : TrySend) (now : Int)
    (data : EventData Content) : Option (Frame Content) × EventSubscription :=
  let (queued, gap) := queueEvent encoding answer (eventFrame sub.id sub.sequence now now data)
    sub.actionGap
  (queued, { sub with actionGap := gap })

def pushActionOutputEvent (answer : TrySend) (now : Int) (sub : EventSubscription)
    (output : OutputLine) : Option (Frame Content) × EventSubscription :=
  if !validControlIdentifier output.actionId then (none, sub)
  else
    let sub := sub.nextSequence
    match sub.actionGap.firstMissingSequence with
    | some first =>
        -- the output itself is replaced by the marker; `remember_resource` keeps `first`
        let sub := { sub with
          actionGap := sub.actionGap.rememberResource sub.sequence output.actionId }
        let (sub, marker) := gapMarker sub first
        sub.queue encoding answer now marker
    | none =>
        sub.queue encoding answer now
          (.actionOutput output.actionId [truncateUtf8 output.text maxActionOutputLineBytes])

/-- `push_clipboard_sync_event`.  `converted` is the result of `sync_record_to_proto`. -/
def pushClipboardSyncEvent (answer : TrySend) (now : Int) (sub : EventSubscription)
    (converted : Option Content) : Option (Frame Content) × EventSubscription :=
  match converted with
  | none => (none, sub)
  | some record => sub.nextSequence.queue encoding answer now (.clipboardSync record)

/-- `recv_action_output` finds that the broadcast channel has dropped outputs. -/
def outputLagged (sub : EventSubscription) : EventSubscription :=
  { sub with
    actionGap :=
      { sub.actionGap.rememberSequence (saturatingAdd sub.sequence 1) with resyncAll := true } }

/-- The heartbeat's marker for a pending gap, which goes to the critical queue. -/
def heartbeatGap (now : Int) (sub : EventSubscription) :
    Option (Frame Content × EventSubscription) :=
  sub.actionGap.firstMissingSequence.map fun first =>
    let (sub, marker) := gapMarker sub.nextSequence first
    (eventFrame sub.id sub.sequence now now marker, sub)

end Events

end ArcRelay.Subscriptions
