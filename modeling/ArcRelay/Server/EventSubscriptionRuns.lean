/-
Module: ArcRelay.Server.EventSubscriptionRuns
Purpose: Whole lives of an action-output and of a clipboard-sync subscription, with a record of
  what was accepted and what was lost.
Trusted boundary: the queue answers each frame as it likes; a marker of the heartbeat is accepted,
  since the session ends otherwise.
-/
import ArcRelay.Library.Transitions
import ArcRelay.Server.EventSubscriptions

namespace ArcRelay.Subscriptions

variable {Content : Type}

/-! ### Action output -/

/-- What can happen to an action-output subscription. -/
inductive OutputEvent where
  | push (output : OutputLine) (answer : TrySend) (now : Int)
  /-- the broadcast channel dropped these outputs -/
  | lag (lost : List OutputLine)
  | heartbeat (now : Int)
deriving Repr, DecidableEq

/-- An output that no event carries, and how many events were accepted before it was lost. -/
structure Missed where
  actionId : String
  acceptedBefore : Nat
deriving Repr, DecidableEq

/-- The subscription; `accepted` and `missed` are ghosts. -/
structure OutputRun (Content : Type) where
  subscription : EventSubscription
  accepted : List (Event Content)
  missed : List Missed
deriving Repr, DecidableEq

def Event.isActionOutput (event : Event Content) : Bool :=
  match event.data with
  | .actionOutput _ _ => true
  | _ => false

def OutputRun.miss (run : OutputRun Content) (output : OutputLine) : Missed :=
  ⟨output.actionId, run.accepted.length⟩

variable (encoding : Encoding Content)

def OutputRun.step (run : OutputRun Content) : OutputEvent → OutputRun Content
  | .push output answer now =>
      let (queued, subscription) :=
        pushActionOutputEvent encoding answer now run.subscription output
      let events := queued.toList.filterMap Frame.event?
      { subscription := subscription
        accepted := run.accepted ++ events
        missed :=
          if validControlIdentifier output.actionId && !events.any Event.isActionOutput then
            run.miss output :: run.missed
          else run.missed }
  | .lag lost =>
      { run with
        subscription := outputLagged run.subscription
        missed := lost.map run.miss ++ run.missed }
  | .heartbeat now =>
      match heartbeatGap now run.subscription with
      | none => run
      | some (frame, subscription) =>
          { run with
            subscription := subscription
            accepted := run.accepted ++ frame.event?.toList }

def outputSubscription (id : UInt64) : TransitionSystem (OutputRun Content) OutputEvent where
  start := ⟨.new id, [], []⟩
  step := fun run event => some (run.step encoding event)

/-! ### Clipboard records -/

/-- What can happen to a clipboard-sync subscription. -/
inductive SyncEvent (Content : Type) where
  /-- a record is broadcast; `admitted` is the verdict of `should_send_sync_record`, and
  `converted` the result of `sync_record_to_proto` -/
  | broadcast (admitted : Bool) (converted : Option Content) (answer : TrySend) (now : Int)
  /-- the broadcast channel dropped records, which would have been admitted or not -/
  | lag (lost : List Bool)
deriving Repr, DecidableEq

/-- What became of a broadcast record. -/
inductive Fate where
  | notAdmitted
  /-- skipped by `sync_record_to_proto` -/
  | notConverted
  /-- carried by the event with this number -/
  | carried (sequence : Nat)
  /-- the event with this number met a frame limit or a queue that would not take it -/
  | refused (sequence : Nat)
  /-- admissible, and dropped by the broadcast channel -/
  | lagged
deriving Repr, DecidableEq

/-- The subscription; `accepted` and the `fates` of all records, in the order of their broadcast,
are ghosts. -/
structure SyncRun (Content : Type) where
  subscription : EventSubscription
  accepted : List (Event Content)
  fates : List Fate
deriving Repr, DecidableEq

/-- `recv_clipboard_sync` warns of a lag and changes nothing. -/
def SyncRun.step (run : SyncRun Content) : SyncEvent Content → SyncRun Content
  | .broadcast admitted converted answer now =>
      if admitted then
        let (queued, subscription) :=
          pushClipboardSyncEvent encoding answer now run.subscription converted
        let events := queued.toList.filterMap Frame.event?
        { subscription := subscription
          accepted := run.accepted ++ events
          fates := run.fates ++
            [if converted.isNone then .notConverted
              else if events.isEmpty then .refused subscription.sequence
              else .carried subscription.sequence] }
      else { run with fates := run.fates ++ [.notAdmitted] }
  | .lag lost =>
      { run with
        fates := run.fates ++ lost.map fun admitted => if admitted then .lagged else .notAdmitted }

def clipboardSyncSubscription (id : UInt64) :
    TransitionSystem (SyncRun Content) (SyncEvent Content) where
  start := ⟨.new id, [], []⟩
  step := fun run event => some (run.step encoding event)

end ArcRelay.Subscriptions
