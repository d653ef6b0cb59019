/-
Module: ArcRelay.Proofs.BlobStoreInvariant
Purpose: Every run of the blob cache keeps its books balanced and its quotas respected.
Trusted boundary: SHA-256 is collision free on the contents of the run
-/
import ArcRelay.Proofs.BlobStoreLoops
import ArcRelay.Server.BlobStoreRun

namespace ArcRelay.BlobStore

open BlobStoreInner

variable {sized : Prop}

/-!
Each operation first prunes and then runs a body.  The three step relations below say
everything a body can do to a sound store; the invariants and the temporal results about
tickets and references are case analyses over them and never unfold the bodies again.
-/

/-! ### What an insertion can do -/

/-- The outcomes of `insert` on a pruned store. -/
inductive InsertStep (externals : Externals) (inner : BlobStoreInner) (owner bytes : Bytes)
    (mediaType : String) (now : Instant) : Option BlobRef → BlobStoreInner → Prop where
  | touched {existing : BlobEntry}
      (present : inner.entries.lookup (externals.sha256 bytes) = some existing)
      (owns : owner ∈ existing.owners) :
      InsertStep externals inner owner bytes mediaType now (some existing.reference)
        (inner.setEntry (externals.sha256 bytes) { existing with lastAccess := now })
  | refused :
      InsertStep externals inner owner bytes mediaType now none
        (inner.reclaimDeliveredForOwner owner bytes.length 1)
  | joined {existing : BlobEntry} {reclaimed : BlobStoreInner}
      (reclaim : reclaimed = inner.reclaimDeliveredForOwner owner bytes.length 1)
      (present : inner.entries.lookup (externals.sha256 bytes) = some existing)
      (kept : reclaimed.entries.lookup (externals.sha256 bytes) = some existing)
      (foreign : owner ∉ existing.owners)
      (room : ownerQuotaExceeded reclaimed owner bytes.length = false) :
      InsertStep externals inner owner bytes mediaType now (some existing.reference)
        ((chargeOwner reclaimed owner bytes.length).setEntry (externals.sha256 bytes)
          { existing with lastAccess := now, owners := existing.owners.insert owner () })
  | stored {entry : BlobEntry} {reclaimed : BlobStoreInner}
      (reclaim : reclaimed = inner.reclaimDeliveredForOwner owner bytes.length 1)
      (fresh : entry =
        { reference :=
            { blobId := externals.sha256 bytes, size := bytes.length, mediaType := mediaType,
              sha256 := externals.sha256 bytes }
          bytes := bytes, lastAccess := now, owners := AList.singleton owner (),
          deliveredOwners := ∅ })
      (absent : reclaimed.entries.lookup (externals.sha256 bytes) = none)
      (room : ownerQuotaExceeded reclaimed owner bytes.length = false)
      (space : reclaimed.totalBytes + bytes.length ≤ maxCachedBlobBytes)
      (slot : HashMap.size reclaimed.entries < maxCachedBlobs) :
      InsertStep externals inner owner bytes mediaType now (some entry.reference)
        (((chargeOwner
          ({ reclaimed with totalBytes := reclaimed.totalBytes + bytes.length }.setEntry
            (externals.sha256 bytes) entry)
          owner bytes.length).schedulePrune (now + blobIdleTtl)).pushBack
          (externals.sha256 bytes))

variable {owner blobId : Bytes} {before after : BlobStoreInner}

/-- A blob that `owner` does not own survives reclamation for `owner` unchanged. -/
theorem Reclaimed.lookup_of_foreign (books : Books sized before)
    (reclaimed : Reclaimed owner before after)
    (foreign : ∀ entry, before.entries.lookup blobId = some entry → owner ∉ entry.owners) :
    after.entries.lookup blobId = before.entries.lookup blobId := by
  cases reclaimed.blobs blobId with
  | untouched same => exact same
  | released present _ delivered =>
      exact absurd (books.delivered blobId _ owner present delivered) (foreign _ present)
  | dropped present _ delivered =>
      exact absurd (books.delivered blobId _ owner present delivered) (foreign _ present)

variable {inner : BlobStoreInner}

/-- The three room tests of a new blob, without saturation. -/
theorem makeRoomFor_eq_true {bytes : Nat} (room : inner.makeRoomFor bytes = true) :
    inner.totalBytes + bytes ≤ maxCachedBlobBytes ∧
      HashMap.size inner.entries < maxCachedBlobs ∧
      saturatingAdd inner.totalBytes bytes = inner.totalBytes + bytes := by
  unfold makeRoomFor at room
  by_cases large : maxCachedBlobBytes < bytes
  · simp [large] at room
  · rw [if_neg large] at room
    simp only [Bool.and_eq_true, decide_eq_true_eq] at room
    obtain ⟨slot, space⟩ := room
    simp only [saturatingAdd, maxCachedBlobBytes, usizeMax] at space ⊢
    refine ⟨by omega, slot, by omega⟩

/-- The existing-entry path: the entry is still there after reclamation, so the `expect`
does not fail. -/
theorem insertExisting_step {existing : BlobEntry}
    (sound : Sound sized inner inner.insertionOrder) (externals : Externals) (owner bytes : Bytes)
    (mediaType : String) (now : Instant)
    (present : inner.entries.lookup (externals.sha256 bytes) = some existing) :
    ∃ reply after,
      insertExisting inner owner (externals.sha256 bytes) bytes existing now =
        (.returned reply, after) ∧
      InsertStep externals inner owner bytes mediaType now reply after := by
  have reclaimed := (sound.reclaimDeliveredForOwner owner bytes.length 1).2
  unfold insertExisting
  by_cases owns : owner ∈ existing.owners
  · rw [if_pos owns]
    simp only [touchExisting, present, if_true]
    exact ⟨_, _, rfl, .touched present owns⟩
  rw [if_neg owns]
  cases room : ownerQuotaExceeded (inner.reclaimDeliveredForOwner owner bytes.length 1)
      owner bytes.length with
  | true => exact ⟨none, _, by simp [room], .refused⟩
  | false =>
      have kept : (inner.reclaimDeliveredForOwner owner bytes.length 1).entries.lookup
          (externals.sha256 bytes) = some existing := by
        rw [reclaimed.lookup_of_foreign sound.books, present]
        intro entry found
        rw [present] at found
        exact Option.some.inj found ▸ owns
      have charged : (chargeOwner (inner.reclaimDeliveredForOwner owner bytes.length 1)
          owner bytes.length).entries.lookup (externals.sha256 bytes) = some existing := kept
      simp only [room, touchExisting, charged, Bool.false_eq_true, if_false]
      exact ⟨_, _, rfl, .joined rfl present kept owns room⟩

theorem insertNew_step (sound : Sound sized inner inner.insertionOrder) (externals : Externals)
    (owner bytes : Bytes) (mediaType : String) (now : Instant)
    (missing : inner.entries.lookup (externals.sha256 bytes) = none) :
    ∃ reply after,
      insertNew inner owner (externals.sha256 bytes) bytes mediaType now =
        (.returned reply, after) ∧
      InsertStep externals inner owner bytes mediaType now reply after := by
  have reclaimed := (sound.reclaimDeliveredForOwner owner bytes.length 1).2
  unfold insertNew
  cases room : ownerQuotaExceeded (inner.reclaimDeliveredForOwner owner bytes.length 1)
      owner bytes.length with
  | true => exact ⟨none, _, by simp [room], .refused⟩
  | false =>
      cases space : (inner.reclaimDeliveredForOwner owner bytes.length 1).makeRoomFor
          bytes.length with
      | false => exact ⟨none, _, by simp [room, space], .refused⟩
      | true =>
          obtain ⟨fits, slot, plain⟩ := makeRoomFor_eq_true space
          have absent : (inner.reclaimDeliveredForOwner owner
              bytes.length 1).entries.lookup (externals.sha256 bytes) = none := by
            rw [reclaimed.lookup_of_foreign sound.books, missing]
            intro entry found
            rw [missing] at found
            cases found
          simp only [room, space, Bool.false_eq_true, if_false, Bool.not_true, plain]
          exact ⟨_, _, rfl, .stored rfl rfl absent room fits slot⟩

/-- Every call of `insert` on a sound store ends in one of the four outcomes. -/
theorem insertBody_step (sound : Sound sized inner inner.insertionOrder) (externals : Externals)
    (owner bytes : Bytes) (mediaType : String) (now : Instant) :
    ∃ reply after,
      insertBody externals inner owner bytes mediaType now = (.returned reply, after) ∧
      InsertStep externals inner owner bytes mediaType now reply after := by
  unfold insertBody
  cases present : inner.entries.lookup (externals.sha256 bytes) with
  | some =>
      simp only [present]
      exact insertExisting_step sound externals owner bytes mediaType now present
  | none =>
      simp only [present]
      exact insertNew_step sound externals owner bytes mediaType now present

/-- The charge of a new owner respects the quotas of every owner. -/
theorem Limits.chargeOwner (limits : Limits inner) {bytes : Nat}
    (room : ownerQuotaExceeded inner owner bytes = false) :
    Limits (chargeOwner inner owner bytes) := by
  obtain ⟨bytesRoom, entriesRoom, plain⟩ := chargeOwner_of_quota room
  rw [plain]
  refine { limits with deviceBytes := ?_, deviceBlobs := ?_ }
  · intro other
    rw [HashMap.count_insert_add]
    by_cases same : other = owner
    · simpa [same] using bytesRoom
    · simpa [same] using limits.deviceBytes other
  · intro other
    rw [HashMap.count_insert_add]
    by_cases same : other = owner
    · simpa [same] using entriesRoom
    · simpa [same] using limits.deviceBlobs other

variable {order : List Bytes}

/-- The order after a new blob was pushed. -/
theorem Listed.insert (listed : Listed before order)
    (absent : before.entries.lookup blobId = none)
    (added : ∀ other, other ∈ after.entries ↔ other = blobId ∨ other ∈ before.entries) :
    Listed after (order ++ [blobId]) := by
  have fresh : blobId ∉ order := by
    rw [listed.2]
    exact AList.lookup_eq_none.mp absent
  refine ⟨List.nodup_append.mpr ⟨listed.1, by simp, ?_⟩, ?_⟩
  · rintro first firstMember second secondMember rfl
    exact fresh (List.mem_singleton.mp secondMember ▸ firstMember)
  · intro other
    rw [added, ← listed.2 other]
    simp [or_comm]

variable {externals : Externals} {bytes : Bytes} {mediaType : String} {now : Instant}
    {reply : Option BlobRef}

/-- Every insertion keeps the cache sound; for the byte counts, an existing entry of the same
digest must have the size of the inserted content. -/
theorem Sound.insertStep (sound : Sound sized inner inner.insertionOrder)
    (size : sized → ∀ existing, inner.entries.lookup (externals.sha256 bytes) = some existing →
      bytes.length = existing.bytes.length)
    (step : InsertStep externals inner owner bytes mediaType now reply after) :
    Sound sized after after.insertionOrder := by
  have soundReclaimed := (sound.reclaimDeliveredForOwner owner bytes.length 1).1
  cases step with
  | @touched existing present =>
      exact sound.refreshEntry present rfl rfl fun someone delivered =>
        sound.books.delivered _ existing someone present delivered
  | refused => exact soundReclaimed
  | @joined existing reclaimed reclaim present kept foreign room =>
      rw [← reclaim] at soundReclaimed
      have charged : (chargeOwner reclaimed owner bytes.length).entries.lookup
          (externals.sha256 bytes) = some existing := kept
      refine ⟨?_, ?_, ?_, ?_⟩
      · exact soundReclaimed.books.joinOwner kept foreign (fun exact => size exact existing present)
          rfl rfl rfl room
      · intro blobId entry found
        rcases HashMap.lookup_of_insert found with ⟨-, rfl⟩ | ⟨-, found⟩
        · exact ⟨owner, (AList.mem_insert _).mpr (Or.inl rfl)⟩
        · exact soundReclaimed.owned blobId entry found
      · exact soundReclaimed.listed.keep fun other =>
          mem_setEntry _ charged other
      · exact (soundReclaimed.limits.chargeOwner room).shrink
          (shrinks_setEntry _ charged)
  | @stored entry reclaimed reclaim fresh absent room space slot =>
      rw [← reclaim] at soundReclaimed
      subst fresh
      refine ⟨?_, ?_, ?_, ?_⟩
      · exact (((soundReclaimed.books.insertEntry absent rfl rfl room).schedulePrune _).pushBack _)
      · intro blobId entry found
        rcases HashMap.lookup_of_insert found with ⟨-, rfl⟩ | ⟨-, found⟩
        · exact ⟨owner, by simp [AList.mem_keys]⟩
        · exact soundReclaimed.owned blobId entry found
      · refine Listed.insert soundReclaimed.listed absent fun other => ?_
        exact AList.mem_insert reclaimed.entries
      · have charged := soundReclaimed.limits.chargeOwner room
        exact { charged with
          bytes := space
          blobs := (HashMap.size_insert_new _ absent).le.trans slot }

/-! ### What issuing and redeeming can do -/

/-- The outcomes of `issue_ticket` on a pruned store. -/
inductive IssueStep (inner : BlobStoreInner) (owner blobId : Bytes)
    (accessAt issueAt : Instant) :
    Except IssueTicketError BlobTicket → BlobStoreInner → Prop where
  | notFound
      (denied : ∀ entry, inner.entries.lookup blobId = some entry → owner ∉ entry.owners) :
      IssueStep inner owner blobId accessAt issueAt (.error .notFound) inner
  | exhausted {entry : BlobEntry} (present : inner.entries.lookup blobId = some entry)
      (owns : owner ∈ entry.owners) :
      IssueStep inner owner blobId accessAt issueAt (.error .resourceExhausted)
        (inner.setEntry blobId { entry with lastAccess := accessAt })
  | issued {entry : BlobEntry} {issued : BlobTicket}
      (present : inner.entries.lookup blobId = some entry) (owns : owner ∈ entry.owners)
      (freshTicket : inner.tickets.lookup issued.ticket = none)
      (freshId : issued.transferId ∉ inner.transferIds)
      (room : HashMap.size inner.tickets < maxOutstandingTickets)
      (deviceRoom :
        HashMap.count inner.deviceTickets owner < maxOutstandingTicketsPerDevice) :
      IssueStep inner owner blobId accessAt issueAt (.ok issued)
        (recordTicket (inner.setEntry blobId { entry with lastAccess := accessAt })
          issued.ticket
          { transferId := issued.transferId, blobId := blobId, owner := owner,
            expiresAt := issueAt + ticketTtl })

variable {accessAt issueAt : Instant} {result : Except IssueTicketError BlobTicket}

theorem issueTicketBody_step {draws : TicketDraws}
    (returned : issueTicketBody externals inner owner blobId accessAt issueAt draws =
      some (result, after)) :
    IssueStep inner owner blobId accessAt issueAt result after := by
  unfold issueTicketBody at returned
  cases present : inner.entries.lookup blobId with
  | none =>
      simp only [present] at returned
      cases returned
      exact .notFound (by simp [present])
  | some entry =>
      simp only [present] at returned
      by_cases owns : owner ∈ entry.owners
      · rw [if_neg (not_not.mpr owns)] at returned
        by_cases full : maxOutstandingTickets ≤ inner.tickets.size ∨
            maxOutstandingTicketsPerDevice ≤ HashMap.count inner.deviceTickets owner
        · simp only [setEntry, full, if_true] at returned
          cases returned
          exact .exhausted present owns
        · simp only [setEntry, full, if_false, Option.bind_eq_bind, Option.pure_def,
            Option.bind_eq_some_iff, Option.some.injEq, Prod.mk.injEq] at returned
          obtain ⟨transferId, pickedId, ticket, pickedTicket, rfl, rfl⟩ := returned
          have freshId := List.find?_some pickedId
          have freshTicket := List.find?_some pickedTicket
          simp only [Bool.and_eq_true, decide_eq_true_eq] at freshId freshTicket
          rw [not_or, not_le, not_le] at full
          exact .issued present owns (AList.lookup_eq_none.mpr freshTicket) freshId.2 full.1 full.2
      · rw [if_pos owns] at returned
        obtain ⟨rfl, rfl⟩ := returned
        refine .notFound fun other found => ?_
        rw [present] at found
        exact Option.some.inj found ▸ owns

/-- The ticket entitles `owner` to this transfer at `now`. -/
def Entitles (inner : BlobStoreInner) (owner : Bytes) (transferId : UInt64) (ticket : Bytes)
    (now : Instant) : Prop :=
  ∃ entry, inner.tickets.lookup ticket = some entry ∧ entry.transferId = transferId ∧
    entry.owner = owner ∧ now < entry.expiresAt

/-- The outcomes of `redeem` on a pruned store with balanced books. -/
inductive RedeemStep (inner : BlobStoreInner) (owner : Bytes) (transferId : UInt64)
    (ticket : Bytes) (checkAt accessAt : Instant) :
    Except String RedeemedBlob → BlobStoreInner → Prop where
  | refused {message : String} (denied : ¬ Entitles inner owner transferId ticket checkAt)
      (notEvicted : message ≠ "blob was evicted") :
      RedeemStep inner owner transferId ticket checkAt accessAt (.error message) inner
  | redeemed {ticketEntry : TicketEntry} {entry : BlobEntry}
      (outstanding : inner.tickets.lookup ticket = some ticketEntry)
      (sameId : ticketEntry.transferId = transferId) (sameOwner : ticketEntry.owner = owner)
      (future : checkAt < ticketEntry.expiresAt)
      (present : inner.entries.lookup ticketEntry.blobId = some entry)
      (owns : owner ∈ entry.owners) :
      RedeemStep inner owner transferId ticket checkAt accessAt
        (.ok { reference := entry.reference, bytes := entry.bytes })
        ((inner.removeTicket ticket).setEntry ticketEntry.blobId
          { entry with
            lastAccess := accessAt
            deliveredOwners := entry.deliveredOwners.insert owner () })

variable {transferId : UInt64} {ticket : Bytes} {checkAt : Instant}

/-- A ticket pins its blob, so a redemption never finds the blob evicted. -/
theorem redeemBody_step (books : Books sized inner) {result : Except String RedeemedBlob}
    (returned : redeemBody inner owner transferId ticket checkAt accessAt = (result, after)) :
    RedeemStep inner owner transferId ticket checkAt accessAt result after := by
  unfold redeemBody at returned
  cases outstanding : inner.tickets.lookup ticket with
  | none =>
      simp only [outstanding] at returned
      cases returned
      exact .refused (by simp [Entitles, outstanding]) (by decide)
  | some ticketEntry =>
      simp only [outstanding] at returned
      have denied : (ticketEntry.transferId ≠ transferId ∨ ticketEntry.owner ≠ owner ∨
          ticketEntry.expiresAt ≤ checkAt) →
          ¬ Entitles inner owner transferId ticket checkAt := by
        rintro mismatch ⟨other, found, sameId, sameOwner, future⟩
        rw [outstanding] at found
        cases found
        rcases mismatch with wrongId | wrongOwner | expired
        · exact wrongId sameId
        · exact wrongOwner sameOwner
        · exact absurd future (not_lt.mpr expired)
      by_cases sameId : ticketEntry.transferId = transferId
      · by_cases sameOwner : ticketEntry.owner = owner
        · by_cases expired : ticketEntry.expiresAt ≤ checkAt
          · simp only [sameId, sameOwner, expired, ne_eq, not_true_eq_false, if_false, if_true,
              Prod.mk.injEq] at returned
            obtain ⟨rfl, rfl⟩ := returned
            exact .refused (denied (Or.inr (Or.inr expired))) (by decide)
          · obtain ⟨entry, present, owns⟩ := books.pinned ticket ticketEntry outstanding
            have kept : (inner.removeTicket ticket).entries.lookup ticketEntry.blobId =
                some entry := by
              rw [(removeTicket_frame inner ticket).2.1]
              exact present
            simp only [sameId, sameOwner, expired, ne_eq, not_true_eq_false, if_false, kept,
              Prod.mk.injEq] at returned
            obtain ⟨rfl, rfl⟩ := returned
            exact .redeemed outstanding sameId sameOwner (not_le.mp expired) present
              (sameOwner ▸ owns)
        · simp only [sameId, sameOwner, ne_eq, not_true_eq_false, not_false_eq_true, if_false,
            if_true, Prod.mk.injEq] at returned
          obtain ⟨rfl, rfl⟩ := returned
          exact .refused (denied (Or.inr (Or.inl sameOwner))) (by decide)
      · simp only [sameId, ne_eq, not_false_eq_true, if_true] at returned
        cases returned
        exact .refused (denied (Or.inl sameId)) (by decide)

theorem Sound.recordTicket (sound : Sound sized inner order) {entry : TicketEntry}
    {blob : BlobEntry} (freshTicket : inner.tickets.lookup ticket = none)
    (freshId : entry.transferId ∉ inner.transferIds)
    (present : inner.entries.lookup entry.blobId = some blob) (owns : entry.owner ∈ blob.owners)
    (room : HashMap.size inner.tickets < maxOutstandingTickets)
    (deviceRoom :
      HashMap.count inner.deviceTickets entry.owner < maxOutstandingTicketsPerDevice) :
    Sound sized (recordTicket inner ticket entry) order where
  books := sound.books.recordTicket freshTicket freshId present owns
  owned := sound.owned
  listed := sound.listed
  limits := by
    refine { sound.limits with
      tickets := (HashMap.size_insert_new entry freshTicket).le.trans room
      deviceTickets := fun other => ?_ }
    refine (HashMap.count_insert_add inner.deviceTickets entry.owner other 1).le.trans ?_
    by_cases same : other = entry.owner
    · simpa [same] using deviceRoom
    · simpa [same] using sound.limits.deviceTickets other

theorem Sound.issueStep (sound : Sound sized inner inner.insertionOrder)
    (step : IssueStep inner owner blobId accessAt issueAt result after) :
    Sound sized after after.insertionOrder := by
  have touched : ∀ {entry}, inner.entries.lookup blobId = some entry →
      Sound sized (inner.setEntry blobId { entry with lastAccess := accessAt })
        inner.insertionOrder := fun {entry} present =>
    sound.refreshEntry present rfl rfl fun someone delivered =>
      sound.books.delivered blobId entry someone present delivered
  cases step with
  | notFound => exact sound
  | exhausted present => exact touched present
  | @issued entry _ present owns freshTicket freshId room deviceRoom =>
      have found : (inner.setEntry blobId { entry with lastAccess := accessAt }).entries.lookup
          blobId = some { entry with lastAccess := accessAt } := by
        simp [lookup_setEntry]
      exact (touched present).recordTicket freshTicket freshId found owns room deviceRoom

theorem Sound.redeemStep {result : Except String RedeemedBlob}
    (sound : Sound sized inner inner.insertionOrder)
    (step : RedeemStep inner owner transferId ticket checkAt accessAt result after) :
    Sound sized after after.insertionOrder := by
  cases step with
  | refused => exact sound
  | @redeemed ticketEntry entry _ _ _ _ present owns =>
      have frame := removeTicket_frame inner ticket
      have kept : (inner.removeTicket ticket).entries.lookup ticketEntry.blobId = some entry := by
        rw [frame.2.1]
        exact present
      have order : ((inner.removeTicket ticket).setEntry ticketEntry.blobId
          { entry with
            lastAccess := accessAt
            deliveredOwners := entry.deliveredOwners.insert owner () }).insertionOrder =
          inner.insertionOrder := frame.1
      rw [order]
      refine (sound.removeTicket ticket).refreshEntry kept rfl rfl ?_
      intro someone delivered
      rcases (AList.mem_insert _).mp delivered with rfl | earlier
      · exact owns
      · exact sound.books.delivered _ entry someone present earlier

/-! ### The invariant of a run -/

/-- Every entry sits under the digest of its bytes, and every owner has inserted them. -/
def Addressed (externals : Externals) (history : List Event) (inner : BlobStoreInner) : Prop :=
  ∀ blobId entry, inner.entries.lookup blobId = some entry →
    externals.sha256 entry.bytes = blobId ∧
      ∀ owner, owner ∈ entry.owners → InsertedBy history owner entry.bytes

/-- Every entry's reference names the key it sits under. -/
def Named (inner : BlobStoreInner) : Prop :=
  ∀ blobId entry, inner.entries.lookup blobId = some entry → entry.reference.blobId = blobId

/-- The deadline of the next prune covers everything that can fall due, and no time stamp is
from the future. -/
structure Timely (clock : Instant) (inner : BlobStoreInner) : Prop where
  scheduled : Scheduled inner
  accessed : ∀ blobId entry, inner.entries.lookup blobId = some entry →
    entry.lastAccess ≤ clock
  expiring : ∀ ticket entry, inner.tickets.lookup ticket = some entry →
    entry.expiresAt ≤ clock + ticketTtl

/-- What holds after every run.  Content addressing and the byte counts depend on the digests
of the run; the rest does not. -/
structure Good (externals : Externals) (history : List Event) (clock : Instant)
    (inner : BlobStoreInner) : Prop where
  sound : Sound (CollisionFree externals history) inner inner.insertionOrder
  timely : Timely clock inner
  named : Named inner
  addressed : CollisionFree externals history → Addressed externals history inner

/-- Every entry comes from one with the same content and time stamp and no fewer owners. -/
def Inherits (before after : BlobStoreInner) : Prop :=
  ∀ blobId entry, after.entries.lookup blobId = some entry →
    ∃ old, before.entries.lookup blobId = some old ∧ entry.bytes = old.bytes ∧
      entry.reference = old.reference ∧ entry.lastAccess = old.lastAccess ∧
      ∀ owner, owner ∈ entry.owners → owner ∈ old.owners

theorem Pruned.inherits (pruned : Pruned now before after) : Inherits before after := by
  intro blobId entry found
  exact ⟨entry, ((pruned.blobs blobId entry).mp found).1, rfl, rfl, rfl, fun _ => id⟩

theorem Reclaimed.inherits (reclaimed : Reclaimed owner before after) : Inherits before after := by
  intro blobId entry found
  cases reclaimed.blobs blobId with
  | untouched same => exact ⟨entry, same ▸ found, rfl, rfl, rfl, fun _ => id⟩
  | released present _ _ rest =>
      rw [rest] at found
      cases found
      exact ⟨_, present, rfl, rfl, rfl, fun _ member => (AList.mem_erase.mp member).2⟩
  | dropped _ _ _ _ gone =>
      rw [gone] at found
      cases found

/-- Every entry comes from one with the same content and no fewer owners. -/
def Descends (before after : BlobStoreInner) : Prop :=
  ∀ blobId entry, after.entries.lookup blobId = some entry →
    ∃ old, before.entries.lookup blobId = some old ∧ entry.bytes = old.bytes ∧
      entry.reference = old.reference ∧ ∀ owner, owner ∈ entry.owners → owner ∈ old.owners

theorem Inherits.descends (inherits : Inherits before after) : Descends before after := by
  intro blobId entry found
  obtain ⟨old, present, bytes, reference, -, owners⟩ := inherits blobId entry found
  exact ⟨old, present, bytes, reference, owners⟩

theorem Descends.refl (inner : BlobStoreInner) : Descends inner inner :=
  fun _ entry found => ⟨entry, found, rfl, rfl, fun _ => id⟩

/-- A changed time stamp or delivery record does not matter. -/
theorem descends_setEntry {old new : BlobEntry} (present : inner.entries.lookup blobId = some old)
    (bytes : new.bytes = old.bytes) (reference : new.reference = old.reference)
    (owners : new.owners = old.owners) : Descends inner (inner.setEntry blobId new) := by
  intro other entry found
  rcases HashMap.lookup_of_insert found with ⟨rfl, rfl⟩ | ⟨-, found⟩
  · exact ⟨old, present, bytes, reference, fun _ => owners ▸ id⟩
  · exact Descends.refl inner other entry found

theorem IssueStep.descends (step : IssueStep inner owner blobId accessAt issueAt result after) :
    Descends inner after := by
  cases step with
  | notFound => exact .refl _
  | exhausted present => exact descends_setEntry present rfl rfl rfl
  | issued present =>
      exact descends_setEntry present rfl rfl rfl

theorem RedeemStep.descends {result : Except String RedeemedBlob}
    (step : RedeemStep inner owner transferId ticket checkAt accessAt result after) :
    Descends inner after := by
  cases step with
  | refused => exact .refl _
  | redeemed _ _ _ _ present =>
      have entries := (removeTicket_frame inner ticket).2.1
      intro other entry found
      rcases HashMap.lookup_of_insert found with ⟨rfl, rfl⟩ | ⟨-, found⟩
      · exact ⟨_, present, rfl, rfl, fun _ => id⟩
      · exact ⟨entry, entries ▸ found, rfl, rfl, fun _ => id⟩

variable {history : List Event}

theorem Addressed.inherit (addressed : Addressed externals history before)
    (descends : Descends before after) : Addressed externals history after := by
  intro blobId entry found
  obtain ⟨old, present, bytes, -, owners⟩ := descends blobId entry found
  obtain ⟨digest, inserted⟩ := addressed blobId old present
  rw [bytes]
  exact ⟨digest, fun owner member => inserted owner (owners owner member)⟩

theorem Named.inherit (named : Named before) (descends : Descends before after) : Named after := by
  intro blobId entry found
  obtain ⟨old, present, -, reference, -⟩ := descends blobId entry found
  rw [reference]
  exact named blobId old present

theorem Addressed.cons (addressed : Addressed externals history inner) (event : Event) :
    Addressed externals (event :: history) inner := by
  intro blobId entry found
  obtain ⟨digest, inserted⟩ := addressed blobId entry found
  exact ⟨digest, fun owner member => (inserted owner member).cons event⟩

/-- A property of all entries after one of them was written: it holds of the new one and
held of the others. -/
theorem forall_setEntry {new : BlobEntry} {property : Bytes → BlobEntry → Prop}
    (written : property blobId new)
    (others : ∀ other entry, inner.entries.lookup other = some entry → property other entry) :
    ∀ other entry, (inner.setEntry blobId new).entries.lookup other = some entry →
      property other entry := by
  intro other entry found
  rcases HashMap.lookup_of_insert found with ⟨rfl, rfl⟩ | ⟨-, found⟩
  · exact written
  · exact others other entry found

/-- The same for tickets. -/
theorem forall_recordTicket {new : TicketEntry} {property : Bytes → TicketEntry → Prop}
    (written : property ticket new)
    (others : ∀ other entry, inner.tickets.lookup other = some entry → property other entry) :
    ∀ other entry, (recordTicket inner ticket new).tickets.lookup other = some entry →
      property other entry := by
  intro other entry found
  rcases HashMap.lookup_of_insert found with ⟨rfl, rfl⟩ | ⟨-, found⟩
  · exact written
  · exact others other entry found

theorem Scheduled.reclaim (scheduled : Scheduled before)
    (reclaimed : Reclaimed owner before after) :
    Scheduled after := by
  have sameDeadline : ∀ {bound}, ScheduledBy before bound → ScheduledBy after bound := by
    rintro bound ⟨deadline, next, early⟩
    exact ⟨deadline, reclaimed.nextPruneAt.trans next, early⟩
  constructor
  · intro ticket entry outstanding
    rw [reclaimed.tickets] at outstanding
    exact sameDeadline (scheduled.tickets ticket entry outstanding)
  · intro blobId entry found free
    obtain ⟨old, present, _, _, sameAccess, _⟩ := reclaimed.inherits blobId entry found
    rw [sameAccess]
    exact sameDeadline (scheduled.blobs blobId old present
      ((blobHasTicket_congr reclaimed.blobTickets blobId).symm.trans free))

variable {old : BlobEntry}

/-- A later time stamp on an entry needs no earlier deadline. -/
theorem Scheduled.touch {new : BlobEntry} (scheduled : Scheduled inner)
    (present : inner.entries.lookup blobId = some old) (later : old.lastAccess ≤ new.lastAccess) :
    Scheduled (inner.setEntry blobId new) where
  tickets := scheduled.tickets
  blobs := forall_setEntry
    (fun free => (scheduled.blobs blobId old present free).mono (Nat.add_le_add_right later _))
    scheduled.blobs

theorem Timely.new (clock : Instant) : Timely clock BlobStoreInner.new where
  scheduled := ⟨by simp [BlobStoreInner.new], by simp [BlobStoreInner.new]⟩
  accessed := by simp [BlobStoreInner.new]
  expiring := by simp [BlobStoreInner.new]

variable {clock : Instant}

/-- Time may pass. -/
theorem Timely.advance {later : Instant} (timely : Timely clock inner) (ordered : clock ≤ later) :
    Timely later inner where
  scheduled := timely.scheduled
  accessed := fun blobId entry present => (timely.accessed blobId entry present).trans ordered
  expiring := fun ticket entry present =>
    (timely.expiring ticket entry present).trans (Nat.add_le_add_right ordered _)

theorem Timely.reclaim (timely : Timely clock before) (reclaimed : Reclaimed owner before after) :
    Timely clock after where
  scheduled := timely.scheduled.reclaim reclaimed
  accessed := by
    intro blobId entry found
    obtain ⟨old, present, _, _, sameAccess, _⟩ := reclaimed.inherits blobId entry found
    rw [sameAccess]
    exact timely.accessed blobId old present
  expiring := by
    rw [reclaimed.tickets]
    exact timely.expiring

theorem Timely.insertStep (sound : Sound sized inner inner.insertionOrder)
    (timely : Timely now inner)
    (step : InsertStep externals inner owner bytes mediaType now reply after) :
    Timely now after := by
  have reclaimed := (sound.reclaimDeliveredForOwner owner bytes.length 1).2
  cases step with
  | @touched existing present =>
      exact ⟨timely.scheduled.touch present (timely.accessed _ existing present),
        forall_setEntry le_rfl timely.accessed, timely.expiring⟩
  | refused => exact timely.reclaim reclaimed
  | @joined existing _ reclaim present kept =>
      subst reclaim
      obtain ⟨scheduled, accessed, expiring⟩ := timely.reclaim reclaimed
      refine ⟨⟨scheduled.tickets, forall_setEntry (fun unpinned => ?_) scheduled.blobs⟩,
        forall_setEntry le_rfl accessed, expiring⟩
      exact (scheduled.blobs _ existing kept unpinned).mono
        (Nat.add_le_add_right (timely.accessed _ existing present) _)
  | stored reclaim fresh =>
      subst reclaim
      subst fresh
      obtain ⟨scheduled, accessed, expiring⟩ := timely.reclaim reclaimed
      refine ⟨⟨?_, ?_⟩, forall_setEntry le_rfl accessed, expiring⟩
      · intro ticket entry outstanding
        exact (scheduled.tickets ticket entry outstanding).schedulePrune _
      · refine forall_setEntry (fun _ => scheduledBy_schedulePrune _ _) ?_
        intro blobId entry found unpinned
        exact (scheduled.blobs blobId entry found unpinned).schedulePrune _

theorem Timely.issueStep (sound : Sound sized inner inner.insertionOrder)
    (timely : Timely accessAt inner) (ordered : accessAt ≤ issueAt)
    (step : IssueStep inner owner blobId accessAt issueAt result after) :
    Timely issueAt after := by
  have soundAfter := sound.issueStep step
  have touched : ∀ {entry}, inner.entries.lookup blobId = some entry →
      Timely issueAt (inner.setEntry blobId { entry with lastAccess := accessAt }) := by
    intro entry present
    exact ⟨timely.scheduled.touch present (timely.accessed _ entry present),
      forall_setEntry ordered (timely.advance ordered).accessed, (timely.advance ordered).expiring⟩
  cases step with
  | notFound => exact timely.advance ordered
  | exhausted present => exact touched present
  | @issued entry issued present _ freshTicket =>
      obtain ⟨scheduled, accessed, expiring⟩ := touched present
      refine ⟨⟨?_, ?_⟩, accessed, forall_recordTicket le_rfl expiring⟩
      · refine forall_recordTicket (scheduledBy_schedulePrune _ _) ?_
        intro ticket entry outstanding
        exact (scheduled.tickets ticket entry outstanding).schedulePrune _
      · -- Recording a ticket only adds pins.
        intro other kept found unpinned
        refine (scheduled.blobs other kept found ?_).schedulePrune _
        by_contra pinned
        obtain ⟨ticket, entry, outstanding, names⟩ :=
          (sound.books.blobHasTicket_iff other).mp (Bool.eq_true_of_not_eq_false pinned)
        have different : ticket ≠ issued.ticket := by
          rintro rfl
          rw [freshTicket] at outstanding
          cases outstanding
        exact soundAfter.books.no_ticket unpinned
          ((AList.lookup_insert_ne different).trans outstanding) names

/-- A redeemed ticket's expiry covers the deadline of the blob it may have unpinned, because
the ticket lifetime is shorter than the idle time. -/
theorem ScheduledBy.unpin {expiresAt : Instant} (scheduled : ScheduledBy inner expiresAt)
    (expiring : expiresAt ≤ clock + ticketTtl) (ordered : clock ≤ accessAt) :
    ScheduledBy inner (accessAt + blobIdleTtl) := by
  have shorter : ticketTtl ≤ blobIdleTtl := by decide
  exact scheduled.mono (expiring.trans (Nat.add_le_add ordered shorter))

/-- Removing one ticket unpins no other blob. -/
theorem blobHasTicket_removeTicket_of_ne (sound : Sound sized inner order) {entry : TicketEntry}
    (outstanding : inner.tickets.lookup ticket = some entry) (different : blobId ≠ entry.blobId) :
    (inner.removeTicket ticket).blobHasTicket blobId = inner.blobHasTicket blobId := by
  rw [Bool.eq_iff_iff, (sound.removeTicket ticket).books.blobHasTicket_iff,
    sound.books.blobHasTicket_iff]
  constructor
  · rintro ⟨other, otherEntry, found, names⟩
    exact ⟨other, otherEntry, lookup_of_removeTicket found, names⟩
  · rintro ⟨other, otherEntry, found, names⟩
    refine ⟨other, otherEntry, ?_, names⟩
    have differentTicket : other ≠ ticket := by
      rintro rfl
      rw [outstanding] at found
      cases found
      exact different names.symm
    rw [lookup_removeTicket, if_neg differentTicket]
    exact found

theorem Timely.redeemStep {result : Except String RedeemedBlob}
    (sound : Sound sized inner inner.insertionOrder) (timely : Timely checkAt inner)
    (ordered : checkAt ≤ accessAt)
    (step : RedeemStep inner owner transferId ticket checkAt accessAt result after) :
    Timely accessAt after := by
  cases step with
  | refused => exact timely.advance ordered
  | @redeemed ticketEntry _ outstanding =>
      obtain ⟨order, entries, deadline⟩ := removeTicket_frame inner ticket
      have sameDeadline : ∀ {bound}, ScheduledBy inner bound →
          ScheduledBy (inner.removeTicket ticket) bound := by
        rintro bound ⟨next, found, early⟩
        exact ⟨next, deadline.trans found, early⟩
      refine ⟨⟨?_, ?_⟩, forall_setEntry le_rfl ?_, ?_⟩
      · intro other kept found
        exact sameDeadline (timely.scheduled.tickets other kept (lookup_of_removeTicket found))
      · intro blobId kept found unpinned
        rw [lookup_setEntry] at found
        by_cases same : blobId = ticketEntry.blobId
        · rw [if_pos same] at found
          rw [← Option.some.inj found]
          exact sameDeadline ((timely.scheduled.tickets ticket ticketEntry outstanding).unpin
            (timely.expiring ticket ticketEntry outstanding) ordered)
        · rw [if_neg same, entries] at found
          refine sameDeadline (timely.scheduled.blobs blobId kept found ?_)
          exact (blobHasTicket_removeTicket_of_ne sound outstanding same).symm.trans unpinned
      · rw [entries]
        exact (timely.advance ordered).accessed
      · intro other kept found
        exact (timely.advance ordered).expiring other kept (lookup_of_removeTicket found)

/-! ### Content addressing -/

/-- Without collisions, a stored entry under the digest of `bytes` holds `bytes`. -/
theorem Addressed.bytes_eq {event : Event} {existing : BlobEntry}
    (addressed : Addressed externals history inner) (owned : Owned inner)
    (free : CollisionFree externals (event :: history))
    (contents : bytes ∈ insertedContents (event :: history))
    (present : inner.entries.lookup (externals.sha256 bytes) = some existing) :
    existing.bytes = bytes := by
  obtain ⟨digest, inserted⟩ := addressed _ existing present
  obtain ⟨someone, owns⟩ := owned _ existing present
  exact free ((inserted someone owns).cons event).mem_contents contents digest

variable {pruneAt : Instant}

theorem mem_insertedContents {reply : Reply} :
    bytes ∈ insertedContents
      (⟨.insert owner bytes mediaType pruneAt accessAt, reply⟩ :: history) :=
  ⟨_, List.mem_cons_self, owner, mediaType, pruneAt, accessAt, rfl⟩

theorem insertedBy_insert {reference : BlobRef} :
    InsertedBy (⟨.insert owner bytes mediaType pruneAt accessAt,
      .inserted (.returned (some reference))⟩ :: history) owner bytes :=
  ⟨_, List.mem_cons_self, mediaType, pruneAt, accessAt, reference, rfl⟩

theorem Addressed.insertStep (sound : Sound sized inner inner.insertionOrder)
    (addressed : Addressed externals history inner)
    (free : CollisionFree externals
      (⟨.insert owner bytes mediaType pruneAt now, .inserted (.returned reply)⟩ :: history))
    (step : InsertStep externals inner owner bytes mediaType now reply after) :
    Addressed externals
      (⟨.insert owner bytes mediaType pruneAt now, .inserted (.returned reply)⟩ :: history)
      after := by
  have inherits := (sound.reclaimDeliveredForOwner owner bytes.length 1).2.inherits
  have kept := (addressed.inherit inherits.descends).cons
    ⟨.insert owner bytes mediaType pruneAt now, .inserted (.returned reply)⟩
  cases step with
  | touched present =>
      exact (addressed.cons _).inherit (descends_setEntry present rfl rfl rfl)
  | refused => exact kept
  | @joined existing _ reclaim present found =>
      subst reclaim
      obtain ⟨digest, inserted⟩ := kept _ existing found
      refine forall_setEntry ⟨digest, fun someone member => ?_⟩ kept
      rcases (AList.mem_insert _).mp member with rfl | earlier
      · rw [addressed.bytes_eq sound.owned free mem_insertedContents present]
        exact insertedBy_insert
      · exact inserted someone earlier
  | stored reclaim fresh =>
      subst reclaim
      subst fresh
      refine forall_setEntry ⟨rfl, fun someone member => ?_⟩ kept
      have same : someone = owner := by simpa [AList.mem_keys] using member
      rw [same]
      exact insertedBy_insert

/-! ### References -/

/-- An insertion keeps references right, and returns one for the digest of its content. -/
theorem Named.insertStep (sound : Sound sized inner inner.insertionOrder) (named : Named inner)
    (step : InsertStep externals inner owner bytes mediaType now reply after) :
    Named after ∧ ∀ reference, reply = some reference →
      reference.blobId = externals.sha256 bytes := by
  have kept := named.inherit
    (sound.reclaimDeliveredForOwner owner bytes.length 1).2.inherits.descends
  cases step with
  | @touched existing present =>
      refine ⟨forall_setEntry (named _ existing present) named, ?_⟩
      rintro reference ⟨rfl⟩
      exact named _ existing present
  | refused => exact ⟨kept, by simp⟩
  | @joined existing _ reclaim present =>
      subst reclaim
      refine ⟨forall_setEntry (named _ existing present) kept, ?_⟩
      rintro reference ⟨rfl⟩
      exact named _ existing present
  | stored reclaim fresh =>
      subst reclaim
      subst fresh
      refine ⟨forall_setEntry rfl kept, ?_⟩
      rintro reference ⟨rfl⟩
      rfl

/-! ### Runs -/

/-- One call on a good store: the argument check of `insert` fails, or the store is pruned
and the body takes one of its steps. -/
inductive CallStep (externals : Externals) (before : BlobStoreInner) :
    Call → Reply → BlobStoreInner → Prop where
  | rejected {owner bytes : Bytes} {mediaType : String} {pruneAt accessAt : Instant}
      (invalid : insertArgumentsValid owner bytes mediaType = false) :
      CallStep externals before (.insert owner bytes mediaType pruneAt accessAt)
        (.inserted (.returned none)) before
  | insert {owner bytes : Bytes} {mediaType : String} {pruneAt accessAt : Instant}
      {reply : Option BlobRef} {after : BlobStoreInner}
      (valid : insertArgumentsValid owner bytes mediaType = true)
      (step : InsertStep externals (before.prune pruneAt) owner bytes mediaType accessAt reply
        after) :
      CallStep externals before (.insert owner bytes mediaType pruneAt accessAt)
        (.inserted (.returned reply)) after
  | issueTicket {owner blobId : Bytes} {pruneAt accessAt issueAt : Instant}
      {draws : TicketDraws} {result : Except IssueTicketError BlobTicket}
      {after : BlobStoreInner}
      (step : IssueStep (before.prune pruneAt) owner blobId accessAt issueAt result after) :
      CallStep externals before (.issueTicket owner blobId pruneAt accessAt issueAt draws)
        (.issued result) after
  | redeem {owner : Bytes} {transferId : UInt64} {ticket : Bytes}
      {pruneAt checkAt accessAt : Instant} {result : Except String RedeemedBlob}
      {after : BlobStoreInner}
      (step : RedeemStep (before.prune pruneAt) owner transferId ticket checkAt accessAt result
        after) :
      CallStep externals before (.redeem owner transferId ticket pruneAt checkAt accessAt)
        (.redeemed result) after

theorem Good.prune (good : Good externals history clock inner) (now : Instant) :
    Good externals history clock (inner.prune now) ∧ Pruned now inner (inner.prune now) := by
  obtain ⟨sound, pruned, scheduled⟩ := good.sound.prune good.timely.scheduled now
  refine ⟨⟨sound, ⟨scheduled, ?_, ?_⟩, good.named.inherit pruned.inherits.descends, fun free => ?_⟩,
    pruned⟩
  · intro blobId entry found
    exact good.timely.accessed blobId entry ((pruned.blobs blobId entry).mp found).1
  · intro ticket entry found
    exact good.timely.expiring ticket entry ((pruned.tickets ticket entry).mp found).1
  · exact (good.addressed free).inherit pruned.inherits.descends

theorem perform_step {call : Call} {reply : Reply} (good : Good externals history clock before)
    (performed : perform externals before call = some (reply, after)) :
    CallStep externals before call reply after := by
  have pruned := fun now => (good.prune now).1.sound
  cases call with
  | insert owner bytes mediaType pruneAt accessAt =>
      simp only [perform] at performed
      cases performed
      cases valid : insertArgumentsValid owner bytes mediaType with
      | false =>
          simp only [BlobStore.insert, valid, Bool.not_false, if_true]
          exact .rejected valid
      | true =>
          simp only [BlobStore.insert, valid, Bool.not_true, Bool.false_eq_true, if_false]
          obtain ⟨reply, after, returned, step⟩ :=
            insertBody_step (pruned pruneAt) externals owner bytes mediaType accessAt
          rw [returned]
          exact .insert valid step
  | issueTicket =>
      simp only [perform, BlobStore.issueTicket, Option.map_eq_some_iff, Prod.exists,
        Prod.mk.injEq] at performed
      obtain ⟨result, after, returned, rfl, rfl⟩ := performed
      exact .issueTicket (issueTicketBody_step returned)
  | redeem _ _ _ pruneAt =>
      obtain ⟨rfl, rfl⟩ := performed
      exact .redeem (redeemBody_step (pruned pruneAt).books rfl)

theorem Good.callStep {call : Call} {reply : Reply} (good : Good externals history clock before)
    (later : clock ≤ call.pruneAt) (ordered : call.Ordered)
    (step : CallStep externals before call reply after) :
    Good externals (⟨call, reply⟩ :: history) call.lastReading after := by
  cases step with
  | rejected =>
      exact ⟨good.sound.imp CollisionFree.tail, good.timely.advance (later.trans ordered),
        good.named, fun free => (good.addressed free.tail).cons _⟩
  | @insert owner bytes mediaType pruneAt accessAt reply _ _ step =>
      have pruned := (good.prune pruneAt).1
      have sound : Sound (CollisionFree externals
          (⟨.insert owner bytes mediaType pruneAt accessAt, .inserted (.returned reply)⟩ :: history))
          (before.prune pruneAt) (before.prune pruneAt).insertionOrder :=
        pruned.sound.imp CollisionFree.tail
      refine ⟨sound.insertStep ?_ step, Timely.insertStep sound
        (pruned.timely.advance (later.trans ordered)) step,
        (Named.insertStep sound pruned.named step).1, fun free => ?_⟩
      · intro free existing present
        rw [(pruned.addressed free.tail).bytes_eq sound.owned free mem_insertedContents present]
      · exact Addressed.insertStep sound (pruned.addressed free.tail) free step
  | @issueTicket _ _ pruneAt _ _ _ _ _ step =>
      have pruned := (good.prune pruneAt).1
      exact ⟨(pruned.sound.issueStep step).imp CollisionFree.tail,
        Timely.issueStep pruned.sound (pruned.timely.advance (later.trans ordered.1)) ordered.2
          step,
        pruned.named.inherit step.descends,
        fun free => ((pruned.addressed free.tail).inherit step.descends).cons _⟩
  | @redeem _ _ _ pruneAt _ _ _ _ step =>
      have pruned := (good.prune pruneAt).1
      exact ⟨(pruned.sound.redeemStep step).imp CollisionFree.tail,
        Timely.redeemStep pruned.sound (pruned.timely.advance (later.trans ordered.1)) ordered.2
          step,
        pruned.named.inherit step.descends,
        fun free => ((pruned.addressed free.tail).inherit step.descends).cons _⟩

theorem Good.run (run : Run externals history clock inner) :
    Good externals history clock inner := by
  induction run with
  | start clock =>
      exact ⟨Sound.new, Timely.new clock, by simp [Named, BlobStoreInner.new],
        fun _ => by simp [Addressed, BlobStoreInner.new]⟩
  | step _ later ordered performed good =>
      exact good.callStep later ordered (perform_step good performed)

theorem Run.no_panic (run : Run externals history clock inner) :
    ∀ event ∈ history, ∀ message, event.reply ≠ .inserted (.panicked message) := by
  induction run with
  | start => simp
  | step earlier _ _ performed ih =>
      intro event member message panicked
      rcases List.mem_cons.mp member with rfl | old
      · have step := perform_step (Good.run earlier) performed
        subst panicked
        cases step
      · exact ih event old message panicked

/-- Accounting and quotas of the blob cache.  After every run by any owners, under a clock
that never goes back: the order lists the keys of `entries` once each, the six derived maps
are what they are derived from, every blob has an owner and was delivered to owners only, all
six limits hold, no subtraction has clipped and no `expect` has failed. -/
theorem run_accounting {externals : Externals} {history : List Event} {clock : Instant}
    {inner : BlobStoreInner} (run : Run externals history clock inner)
    (free : CollisionFree externals history) :
    Listed inner inner.insertionOrder ∧ Books True inner ∧ Owned inner ∧ Limits inner ∧
      ∀ event ∈ history, ∀ message, event.reply ≠ .inserted (.panicked message) := by
  have sound := (Good.run run).sound.imp fun (_ : True) => free
  exact ⟨sound.listed, sound.books, sound.owned, sound.limits, run.no_panic⟩

/-- A digest that returns its input, for concrete runs. -/
def transparentDigest : Externals where
  sha256 := id
  maxBlobChunkSize := 65536

/-- One device stores a blob, draws a ticket and redeems it; a second device shares the
blob.  Newest call first. -/
def sharedBlobCalls : List Call :=
  [ .insert [2] [7, 8] "text/plain" 40 41,
    .redeem [1] 5 (List.replicate 32 9) 30 31 32,
    .issueTicket [1] [7, 8] 20 21 22
      { transferIds := [0, 5], tickets := [Vector.replicate 32 9], nowMs := 1000 },
    .insert [1] [7, 8] "text/plain" 10 11 ]

theorem run_accounting_shared_blob :
    ∃ history clock inner,
      replay transparentDigest sharedBlobCalls = some (history, clock, inner) ∧
        Listed inner inner.insertionOrder ∧ Books True inner ∧ Owned inner ∧ Limits inner ∧
        ∀ event ∈ history, ∀ message, event.reply ≠ .inserted (.panicked message) := by
  have played : (replay transparentDigest sharedBlobCalls).isSome = true := by decide
  obtain ⟨⟨history, clock, inner⟩, found⟩ := Option.isSome_iff_exists.mp played
  exact ⟨history, clock, inner, found, run_accounting (Run.of_replay found)
    (CollisionFree.of_injective Function.injective_id history)⟩

end ArcRelay.BlobStore
