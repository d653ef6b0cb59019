/-
Module: ArcRelay.Server.BlobStoreRun
Purpose: Runs of the blob cache: sequences of calls by any owners under a clock that never
  goes back.
Trusted boundary: none beyond ArcRelay.Server.BlobStore
-/
import ArcRelay.Server.BlobStore

namespace ArcRelay.BlobStore

/-!
The store's mutex serialises its operations, so a run is a sequence of calls.  Every call
carries the clock readings it makes, in the order the source makes them, and the values its
random loops draw.  The history keeps each call with its reply, newest first: what an owner
was promised and what it may still redeem are statements about this history.
-/

/-- One call of the store's interface. -/
inductive Call where
  | insert (owner bytes : Bytes) (mediaType : String) (pruneAt accessAt : Instant)
  | issueTicket (owner blobId : Bytes) (pruneAt accessAt issueAt : Instant)
      (draws : TicketDraws)
  | redeem (owner : Bytes) (transferId : UInt64) (ticket : Bytes)
      (pruneAt checkAt accessAt : Instant)

/-- What a call returned to its caller. -/
inductive Reply where
  | inserted (outcome : CallOutcome (Option BlobRef))
  | issued (result : Except IssueTicketError BlobTicket)
  | redeemed (result : Except String RedeemedBlob)

structure Event where
  call : Call
  reply : Reply

/-- The reading `prune` makes, the first of every call. -/
def Call.pruneAt : Call → Instant
  | .insert _ _ _ pruneAt _ | .issueTicket _ _ pruneAt _ _ _ | .redeem _ _ _ pruneAt _ _ =>
      pruneAt

/-- The last reading of a call. -/
def Call.lastReading : Call → Instant
  | .insert _ _ _ _ accessAt => accessAt
  | .issueTicket _ _ _ _ issueAt _ => issueAt
  | .redeem _ _ _ _ _ accessAt => accessAt

/-- The readings of one call do not go back. -/
def Call.Ordered : Call → Prop
  | .insert _ _ _ pruneAt accessAt => pruneAt ≤ accessAt
  | .issueTicket _ _ pruneAt accessAt issueAt _ => pruneAt ≤ accessAt ∧ accessAt ≤ issueAt
  | .redeem _ _ _ pruneAt checkAt accessAt => pruneAt ≤ checkAt ∧ checkAt ≤ accessAt

instance (call : Call) : Decidable call.Ordered :=
  match call with
  | .insert _ _ _ pruneAt accessAt => inferInstanceAs (Decidable (pruneAt ≤ accessAt))
  | .issueTicket _ _ pruneAt accessAt issueAt _ =>
      inferInstanceAs (Decidable (pruneAt ≤ accessAt ∧ accessAt ≤ issueAt))
  | .redeem _ _ _ pruneAt checkAt accessAt =>
      inferInstanceAs (Decidable (pruneAt ≤ checkAt ∧ checkAt ≤ accessAt))

theorem Call.Ordered.pruneAt_le {call : Call} (ordered : call.Ordered) :
    call.pruneAt ≤ call.lastReading := by
  cases call with
  | insert => exact ordered
  | issueTicket => exact ordered.1.trans ordered.2
  | redeem => exact ordered.1.trans ordered.2

/-- One call against the store.  `none` while a random loop has not found a fresh value. -/
def perform (externals : Externals) (inner : BlobStoreInner) :
    Call → Option (Reply × BlobStoreInner)
  | .insert owner bytes mediaType pruneAt accessAt =>
      let (outcome, after) := insert externals inner owner bytes mediaType pruneAt accessAt
      some (.inserted outcome, after)
  | .issueTicket owner blobId pruneAt accessAt issueAt draws =>
      (issueTicket externals inner owner blobId pruneAt accessAt issueAt draws).map
        fun (result, after) => (.issued result, after)
  | .redeem owner transferId ticket pruneAt checkAt accessAt =>
      let (result, after) := redeem inner owner transferId ticket pruneAt checkAt accessAt
      some (.redeemed result, after)

/-- `Run externals history clock inner`: the calls of `history`, newest first, lead from the
empty store to `inner`, and the clock reads at most `clock`. -/
inductive Run (externals : Externals) : List Event → Instant → BlobStoreInner → Prop where
  | start (clock : Instant) : Run externals [] clock BlobStoreInner.new
  | step {history : List Event} {clock : Instant} {before after : BlobStoreInner}
      {call : Call} {reply : Reply} (earlier : Run externals history clock before)
      (later : clock ≤ call.pruneAt) (ordered : call.Ordered)
      (performed : perform externals before call = some (reply, after)) :
      Run externals (⟨call, reply⟩ :: history) call.lastReading after

/-- `Continues externals startClock start since clock inner`: the calls of `since`, newest
first, lead on from `start` at `startClock` to `inner` at `clock`. -/
inductive Continues (externals : Externals) (startClock : Instant) (start : BlobStoreInner) :
    List Event → Instant → BlobStoreInner → Prop where
  | refl : Continues externals startClock start [] startClock start
  | step {since : List Event} {clock : Instant} {before after : BlobStoreInner}
      {call : Call} {reply : Reply}
      (earlier : Continues externals startClock start since clock before)
      (later : clock ≤ call.pruneAt) (ordered : call.Ordered)
      (performed : perform externals before call = some (reply, after)) :
      Continues externals startClock start (⟨call, reply⟩ :: since) call.lastReading after

variable {externals : Externals} {history : List Event}

theorem Run.append {since : List Event} {startClock clock : Instant}
    {start inner : BlobStoreInner} (run : Run externals history startClock start)
    (continued : Continues externals startClock start since clock inner) :
    Run externals (since ++ history) clock inner := by
  induction continued with
  | refl => exact run
  | step _ later ordered performed ih =>
      exact .step ih later ordered performed

/-- The same call against a store in which every prune performs the full scan, whatever its
deadline says. -/
def eagerPerform (externals : Externals) (inner : BlobStoreInner) :
    Call → Option (Reply × BlobStoreInner)
  | .insert owner bytes mediaType pruneAt accessAt =>
      if !insertArgumentsValid owner bytes mediaType then
        some (.inserted (.returned none), inner)
      else
        let (outcome, after) :=
          insertBody externals (inner.fullPrune pruneAt) owner bytes mediaType accessAt
        some (.inserted outcome, after)
  | .issueTicket owner blobId pruneAt accessAt issueAt draws =>
      (issueTicketBody externals (inner.fullPrune pruneAt) owner blobId accessAt issueAt
        draws).map fun (result, after) => (.issued result, after)
  | .redeem owner transferId ticket pruneAt checkAt accessAt =>
      let (result, after) :=
        redeemBody (inner.fullPrune pruneAt) owner transferId ticket checkAt accessAt
      some (.redeemed result, after)

/-- A run of the eagerly pruned store. -/
inductive EagerRun (externals : Externals) :
    List Event → Instant → BlobStoreInner → Prop where
  | start (clock : Instant) : EagerRun externals [] clock BlobStoreInner.new
  | step {history : List Event} {clock : Instant} {before after : BlobStoreInner}
      {call : Call} {reply : Reply} (earlier : EagerRun externals history clock before)
      (later : clock ≤ call.pruneAt) (ordered : call.Ordered)
      (performed : eagerPerform externals before call = some (reply, after)) :
      EagerRun externals (⟨call, reply⟩ :: history) call.lastReading after

/-- Play calls, newest first, from the empty store at time zero. -/
def replay (externals : Externals) : List Call → Option (List Event × Instant × BlobStoreInner)
  | [] => some ([], 0, BlobStoreInner.new)
  | call :: earlier => do
      let (history, clock, before) ← replay externals earlier
      if clock ≤ call.pruneAt ∧ call.Ordered then
        let (reply, after) ← perform externals before call
        pure (⟨call, reply⟩ :: history, call.lastReading, after)
      else none

theorem Run.of_replay {calls : List Call} {clock : Instant} {inner : BlobStoreInner}
    (played : replay externals calls = some (history, clock, inner)) :
    Run externals history clock inner := by
  induction calls generalizing history clock inner with
  | nil =>
      simp only [replay] at played
      cases played
      exact .start 0
  | cons call _ ih =>
      simp only [replay, Option.bind_eq_bind, Option.bind_eq_some_iff, Prod.exists] at played
      obtain ⟨before, clockBefore, store, playedBefore, rest⟩ := played
      by_cases timely : clockBefore ≤ call.pruneAt ∧ call.Ordered
      · simp only [timely, and_self, if_true, Option.bind_eq_some_iff, Prod.exists,
          Option.pure_def, Option.some.injEq, Prod.mk.injEq] at rest
        obtain ⟨reply, after, performed, rfl, rfl, rfl⟩ := rest
        exact .step (ih playedBefore) timely.1 timely.2 performed
      · rw [if_neg timely] at rest
        cases rest

/-- The contents passed to `insert` so far. -/
def insertedContents (history : List Event) : Set Bytes :=
  { bytes | ∃ event ∈ history, ∃ owner mediaType pruneAt accessAt,
    event.call = .insert owner bytes mediaType pruneAt accessAt }

/-- SHA-256 does not collide on the contents of this run. -/
def CollisionFree (externals : Externals) (history : List Event) : Prop :=
  Set.InjOn externals.sha256 (insertedContents history)

/-- `owner` passed `bytes` to an `insert` that returned a reference. -/
def InsertedBy (history : List Event) (owner bytes : Bytes) : Prop :=
  ∃ event ∈ history, ∃ mediaType pruneAt accessAt reference,
    event = ⟨.insert owner bytes mediaType pruneAt accessAt,
      .inserted (.returned (some reference))⟩

/-- `event` is the `issue_ticket` call that handed out `ticket` with the data of `entry`; the
ticket expires 30 seconds after the call's last reading. -/
def Issues (event : Event) (ticket : Bytes) (entry : TicketEntry) : Prop :=
  ∃ pruneAt accessAt issueAt draws issued,
    event = ⟨.issueTicket entry.owner entry.blobId pruneAt accessAt issueAt draws,
      .issued (.ok issued)⟩ ∧
    issued.transferId = entry.transferId ∧ issued.ticket = ticket ∧
    entry.expiresAt = issueAt + ticketTtl

/-- `event` is a successful redemption of `ticket`. -/
def Redeems (event : Event) (ticket : Bytes) : Prop :=
  ∃ owner transferId pruneAt checkAt accessAt blob,
    event = ⟨.redeem owner transferId ticket pruneAt checkAt accessAt, .redeemed (.ok blob)⟩

/-- `event` is a successful redemption of `blobId` by `owner`. -/
def RedeemsBlob (event : Event) (owner blobId : Bytes) : Prop :=
  ∃ transferId ticket pruneAt checkAt accessAt blob,
    event = ⟨.redeem owner transferId ticket pruneAt checkAt accessAt, .redeemed (.ok blob)⟩ ∧
    blob.reference.blobId = blobId

/-- `ticket` was issued with the data of `entry` and has not been redeemed since. -/
def Outstanding (history : List Event) (ticket : Bytes) (entry : TicketEntry) : Prop :=
  ∃ since event earlier, history = since ++ event :: earlier ∧ Issues event ticket entry ∧
    ∀ later ∈ since, ¬ Redeems later ticket

/-- A digest that never collides. -/
theorem CollisionFree.of_injective (injective : Function.Injective externals.sha256)
    (history : List Event) :
    CollisionFree externals history :=
  injective.injOn

theorem insertedContents_mono (event : Event) :
    insertedContents history ⊆ insertedContents (event :: history) := by
  rintro bytes ⟨earlier, member, shape⟩
  exact ⟨earlier, List.mem_cons_of_mem event member, shape⟩

theorem CollisionFree.tail {event : Event} (free : CollisionFree externals (event :: history)) :
    CollisionFree externals history :=
  free.mono (insertedContents_mono event)

theorem InsertedBy.cons {owner bytes : Bytes} (event : Event)
    (inserted : InsertedBy history owner bytes) :
    InsertedBy (event :: history) owner bytes := by
  obtain ⟨earlier, member, shape⟩ := inserted
  exact ⟨earlier, List.mem_cons_of_mem event member, shape⟩

theorem InsertedBy.mem_contents {owner bytes : Bytes} (inserted : InsertedBy history owner bytes) :
    bytes ∈ insertedContents history := by
  obtain ⟨event, member, mediaType, pruneAt, accessAt, reference, rfl⟩ := inserted
  exact ⟨_, member, owner, mediaType, pruneAt, accessAt, rfl⟩

end ArcRelay.BlobStore
