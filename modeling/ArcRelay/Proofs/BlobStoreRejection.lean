/-
Module: ArcRelay.Proofs.BlobStoreRejection
Purpose: What an insertion that returns no reference does to the store, and when it takes a
  live blob from its owner.
Trusted boundary: none
-/
import ArcRelay.Proofs.BlobStoreAvailability

namespace ArcRelay.BlobStore

open BlobStoreInner

variable {sized : Prop}

/-!
`insert` decides in three steps.  It prunes, it reclaims for its owner, and only then it
compares the request with the quotas.  Reclamation starts as soon as the owner lacks room and
has no memory of whether it can succeed: a request that no amount of reclamation can satisfy
still costs its owner every delivered blob that no ticket pins.
-/

/-- A prune at `now` spares the blob: an unexpired ticket names it, or it was used within the
idle time. -/
def Live (now : Instant) (inner : BlobStoreInner) (blobId : Bytes) (entry : BlobEntry) : Prop :=
  (∃ ticket ticketEntry, inner.tickets.lookup ticket = some ticketEntry ∧
    now < ticketEntry.expiresAt ∧ ticketEntry.blobId = blobId) ∨
  now - entry.lastAccess < blobIdleTtl

/-- The call at `now` removed nothing but expired tickets and expired blobs: the store is what
it was or what a prune makes of it, no unexpired ticket and no live blob is missing or altered,
none is new, and whoever could draw a ticket for a blob still can. -/
structure EvictsNothing (externals : Externals) (now : Instant)
    (before after : BlobStoreInner) : Prop where
  unchanged : after = before ∨ after = before.prune now
  ticketsKept : ∀ ticket entry, before.tickets.lookup ticket = some entry →
    now < entry.expiresAt → after.tickets.lookup ticket = some entry
  ticketsKnown : ∀ ticket entry, after.tickets.lookup ticket = some entry →
    before.tickets.lookup ticket = some entry
  blobsKept : ∀ blobId entry, before.entries.lookup blobId = some entry →
    Live now before blobId entry → after.entries.lookup blobId = some entry
  blobsKnown : ∀ blobId entry, after.entries.lookup blobId = some entry →
    before.entries.lookup blobId = some entry
  obtainable : ∀ owner blobId requestAt accessAt issueAt draws result rest result' rest',
    now ≤ requestAt →
    issueTicket externals before owner blobId requestAt accessAt issueAt draws =
      some (result, rest) →
    result ≠ .error .notFound →
    issueTicket externals after owner blobId requestAt accessAt issueAt draws =
      some (result', rest') →
    result' ≠ .error .notFound

/-- The call gets as far as reclamation, its owner lacks room, and there is a blob to take: one
that no ticket pins and that has been delivered to the owner. -/
def Reclaims (inner : BlobStoreInner) (owner bytes : Bytes) (mediaType : String)
    (pruneAt : Instant) : Prop :=
  insertArgumentsValid owner bytes mediaType = true ∧
    (inner.prune pruneAt).ownerHasRoom owner bytes.length 1 = false ∧
    ∃ blobId entry, (inner.prune pruneAt).entries.lookup blobId = some entry ∧
      (inner.prune pruneAt).blobHasTicket blobId = false ∧ owner ∈ entry.deliveredOwners

/-! ### The reclamation loop -/

variable {inner : BlobStoreInner} {owner blobId : Bytes} {entry : BlobEntry}
    {additionalBytes additionalEntries : Nat}

/-- A blob that a ticket pins, or that its owner has not received, goes back in order. -/
theorem reclaimLoop_skip (candidates : List Bytes)
    (full : inner.ownerHasRoom owner additionalBytes additionalEntries = false)
    (present : inner.entries.lookup blobId = some entry)
    (spared : inner.blobHasTicket blobId = false → owner ∉ entry.deliveredOwners) :
    reclaimLoop owner additionalBytes additionalEntries (blobId :: candidates) inner =
      reclaimLoop owner additionalBytes additionalEntries candidates
        (inner.pushBack blobId) := by
  conv_lhs => unfold BlobStoreInner.reclaimLoop
  rw [if_neg (by simp [full])]
  cases pinned : inner.blobHasTicket blobId with
  | true => rw [if_pos rfl]
  | false =>
      rw [if_neg Bool.false_ne_true]
      simp only [present]
      rw [if_pos (spared pinned)]

/-- Any other blob is taken from its owner, and goes when nobody else is left. -/
theorem reclaimLoop_take (candidates : List Bytes)
    (full : inner.ownerHasRoom owner additionalBytes additionalEntries = false)
    (present : inner.entries.lookup blobId = some entry)
    (free : inner.blobHasTicket blobId = false) (delivered : owner ∈ entry.deliveredOwners)
    (owns : owner ∈ entry.owners) :
    reclaimLoop owner additionalBytes additionalEntries (blobId :: candidates) inner =
      reclaimLoop owner additionalBytes additionalEntries candidates
        (if (entry.owners.erase owner).keys.isEmpty then
          (releaseOwner inner blobId owner entry).removeEntry blobId
        else (releaseOwner inner blobId owner entry).pushBack blobId) := by
  conv_lhs => unfold BlobStoreInner.reclaimLoop
  rw [if_neg (by simp [full]), if_neg (by simp [free])]
  simp only [present]
  rw [if_neg (not_not.mpr delivered), if_neg (not_not.mpr owns)]
  split
  · rfl
  · rfl

/-- With nothing to take, the loop puts every candidate back. -/
theorem reclaimLoop_of_spared (candidates : List Bytes) (inner : BlobStoreInner)
    (listed : ∀ blobId ∈ candidates, blobId ∈ inner.entries)
    (spared : ∀ blobId entry, inner.entries.lookup blobId = some entry →
      inner.blobHasTicket blobId = false → owner ∉ entry.deliveredOwners) :
    reclaimLoop owner additionalBytes additionalEntries candidates inner =
      { inner with insertionOrder := inner.insertionOrder ++ candidates } := by
  induction candidates generalizing inner with
  | nil => simp [BlobStoreInner.reclaimLoop]
  | cons blobId candidates ih =>
      cases full : inner.ownerHasRoom owner additionalBytes additionalEntries with
      | true =>
          unfold BlobStoreInner.reclaimLoop
          rw [if_pos full]
      | false =>
          obtain ⟨entry, present⟩ : ∃ entry, inner.entries.lookup blobId = some entry :=
            Option.isSome_iff_exists.mp (AList.lookup_isSome.mpr (listed blobId (by simp)))
          have resumed := ih (inner.pushBack blobId)
            (fun other member => listed other (List.mem_cons_of_mem _ member)) spared
          rw [reclaimLoop_skip candidates full present (spared blobId entry present), resumed]
          simp [BlobStoreInner.pushBack]

/-- Reclamation never puts an owner back on the record of deliveries. -/
theorem Reclaimed.undelivered {before after : BlobStoreInner}
    (reclaimed : Reclaimed owner before after)
    (undelivered : ∀ entry, before.entries.lookup blobId = some entry →
      owner ∉ entry.deliveredOwners) :
    ∀ entry, after.entries.lookup blobId = some entry → owner ∉ entry.deliveredOwners := by
  intro entry found
  cases reclaimed.blobs blobId with
  | untouched same => exact undelivered entry (same ▸ found)
  | released present _ delivered => exact absurd delivered (undelivered _ present)
  | dropped present _ delivered => exact absurd delivered (undelivered _ present)

/-- The first blob the loop can take, it takes, and nothing later brings it back. -/
theorem reclaimLoop_takes (candidates : List Bytes) (inner : BlobStoreInner)
    (sound : Sound sized inner (inner.insertionOrder ++ candidates))
    (full : inner.ownerHasRoom owner additionalBytes additionalEntries = false) {target : Bytes}
    (candidate : target ∈ candidates) (present : inner.entries.lookup target = some entry)
    (free : inner.blobHasTicket target = false) (delivered : owner ∈ entry.deliveredOwners) :
    ∃ blobId taken, inner.entries.lookup blobId = some taken ∧
      (reclaimLoop owner additionalBytes additionalEntries candidates inner).entries.lookup
        blobId ≠ some taken := by
  induction candidates generalizing inner with
  | nil => exact absurd candidate List.not_mem_nil
  | cons blobId candidates ih =>
      obtain ⟨first, firstPresent⟩ := sound.mem_entries blobId (by simp)
      have putBack : ∀ next : BlobStoreInner, next.insertionOrder = inner.insertionOrder →
          (next.pushBack blobId).insertionOrder ++ candidates =
            inner.insertionOrder ++ blobId :: candidates := by
        intro next sameOrder
        simp [BlobStoreInner.pushBack, sameOrder]
      by_cases taken : inner.blobHasTicket blobId = false ∧ owner ∈ first.deliveredOwners
      · obtain ⟨firstFree, firstDelivered⟩ := taken
        have owns := sound.books.delivered blobId first owner firstPresent firstDelivered
        refine ⟨blobId, first, firstPresent, ?_⟩
        rw [reclaimLoop_take candidates full firstPresent firstFree firstDelivered owns]
        -- Both ends of the iteration leave the owner off the record of deliveries.
        suffices gone : ∀ next : BlobStoreInner,
            Sound sized next (next.insertionOrder ++ candidates) →
            (∀ kept, next.entries.lookup blobId = some kept → owner ∉ kept.deliveredOwners) →
            (reclaimLoop owner additionalBytes additionalEntries candidates
              next).entries.lookup blobId ≠ some first by
          by_cases alone : (first.owners.erase owner).keys = []
          · rw [if_pos (by rw [alone]; rfl)]
            refine gone _ ?_ (by simp [lookup_removeEntry])
            rw [(removeEntry_frame (BlobStore.releaseOwner inner blobId owner first) blobId).1]
            exact sound.releaseLastOwner firstFree firstPresent owns
          · rw [if_neg (by simpa using alone)]
            refine gone _ ?_ ?_
            · rw [putBack (BlobStore.releaseOwner inner blobId owner first) rfl]
              exact (sound.releaseOwner firstFree firstPresent owns alone).setOrder _
            · intro kept found
              have same : withoutOwner first owner = kept := by
                simpa [BlobStoreInner.pushBack, lookup_releaseOwner] using found
              rw [← same]
              simp [withoutOwner]
        intro next soundNext undelivered restored
        have reclaimed := (Sound.reclaimLoop owner additionalBytes additionalEntries candidates
          next soundNext).2
        exact reclaimed.undelivered undelivered first restored firstDelivered
      · have different : target ≠ blobId := by
          rintro rfl
          cases firstPresent.symm.trans present
          exact taken ⟨free, delivered⟩
        have later : target ∈ candidates := (List.mem_cons.mp candidate).resolve_left different
        rw [reclaimLoop_skip candidates full firstPresent
          fun firstFree member => taken ⟨firstFree, member⟩]
        exact ih (inner.pushBack blobId)
          (by rw [putBack inner rfl]; exact sound.setOrder _) full later present free

/-- Reclamation for an owner that has room, or that nothing can be taken from, does nothing. -/
theorem Sound.reclaimDeliveredForOwner_of_spared (sound : Sound sized inner inner.insertionOrder)
    (spared : inner.ownerHasRoom owner additionalBytes additionalEntries = false →
      ∀ blobId entry, inner.entries.lookup blobId = some entry →
        inner.blobHasTicket blobId = false → owner ∉ entry.deliveredOwners) :
    inner.reclaimDeliveredForOwner owner additionalBytes additionalEntries = inner := by
  unfold BlobStoreInner.reclaimDeliveredForOwner
  cases full : inner.ownerHasRoom owner additionalBytes additionalEntries with
  | true => rw [if_pos rfl]
  | false =>
      rw [if_neg Bool.false_ne_true]
      refine reclaimLoop_of_spared inner.insertionOrder { inner with insertionOrder := [] } ?_
        (spared full)
      exact fun blobId member => (sound.listed.2 blobId).mp member

/-- Otherwise some blob of the store changes or goes. -/
theorem Sound.reclaimDeliveredForOwner_takes (sound : Sound sized inner inner.insertionOrder)
    (full : inner.ownerHasRoom owner additionalBytes additionalEntries = false) {target : Bytes}
    (present : inner.entries.lookup target = some entry)
    (free : inner.blobHasTicket target = false) (delivered : owner ∈ entry.deliveredOwners) :
    ∃ blobId taken, inner.entries.lookup blobId = some taken ∧
      (inner.reclaimDeliveredForOwner owner additionalBytes
        additionalEntries).entries.lookup blobId ≠ some taken := by
  unfold BlobStoreInner.reclaimDeliveredForOwner
  rw [if_neg (by simp [full])]
  have listed : target ∈ inner.insertionOrder := (sound.listed.2 target).mpr
    (AList.lookup_isSome.mp (Option.isSome_iff_exists.mpr ⟨entry, present⟩))
  exact reclaimLoop_takes inner.insertionOrder { inner with insertionOrder := [] }
    (sound.setOrder []) full listed present free delivered

/-! ### The rejected insertion -/

variable {externals : Externals}

theorem Good.lookup_prune_iff {history : List Event} {clock : Instant}
    (good : Good externals history clock inner) (now : Instant) (blobId : Bytes)
    (entry : BlobEntry) :
    (inner.prune now).entries.lookup blobId = some entry ↔
      inner.entries.lookup blobId = some entry ∧ Live now inner blobId entry := by
  obtain ⟨pruned, effect⟩ := good.prune now
  rw [effect.blobs, pruned.sound.books.blobHasTicket_iff]
  simp only [effect.tickets, Live, and_assoc]

theorem Live.mono {now later : Instant} (live : Live later inner blobId entry)
    (ordered : now ≤ later) :
    Live now inner blobId entry := by
  rcases live with ⟨ticket, ticketEntry, outstanding, future, names⟩ | recent
  · exact Or.inl ⟨ticket, ticketEntry, outstanding, ordered.trans_lt future, names⟩
  · exact Or.inr ((Nat.sub_le_sub_right ordered _).trans_lt recent)

/-- `issue_ticket` answers that a blob is not found exactly when the caller owns none of that
name after the prune. -/
theorem issueTicket_found_iff {after : BlobStoreInner} {requestAt accessAt issueAt : Instant}
    {draws : TicketDraws} {result : Except IssueTicketError BlobTicket}
    (returned : issueTicket externals inner owner blobId requestAt accessAt issueAt draws =
      some (result, after)) :
    result ≠ .error .notFound ↔
      ∃ entry, (inner.prune requestAt).entries.lookup blobId = some entry ∧
        owner ∈ entry.owners := by
  have step := issueTicketBody_step returned
  cases step with
  | notFound denied =>
      simp only [ne_eq, not_true_eq_false, false_iff, not_exists, not_and]
      exact denied
  | exhausted present owns => simpa using ⟨_, present, owns⟩
  | issued present owns => simpa using ⟨_, present, owns⟩

theorem EvictsNothing.refl (now : Instant) (inner : BlobStoreInner) :
    EvictsNothing externals now inner inner where
  unchanged := Or.inl rfl
  ticketsKept := fun _ _ found _ => found
  ticketsKnown := fun _ _ found => found
  blobsKept := fun _ _ found _ => found
  blobsKnown := fun _ _ found => found
  obtainable := by
    intro owner blobId requestAt accessAt issueAt draws result rest result' rest' _ returned
      found returned'
    exact (issueTicket_found_iff returned').mpr ((issueTicket_found_iff returned).mp found)

theorem EvictsNothing.prune {history : List Event} {clock : Instant}
    (good : Good externals history clock inner) (now : Instant) :
    EvictsNothing externals now inner (inner.prune now) where
  unchanged := Or.inr rfl
  ticketsKept := fun ticket entry found future =>
    ((good.prune now).2.tickets ticket entry).mpr ⟨found, future⟩
  ticketsKnown := fun ticket entry found => (((good.prune now).2.tickets ticket entry).mp found).1
  blobsKept := fun blobId entry found live =>
    (good.lookup_prune_iff now blobId entry).mpr ⟨found, live⟩
  blobsKnown := fun blobId entry found =>
    ((good.lookup_prune_iff now blobId entry).mp found).1
  obtainable := by
    intro owner blobId requestAt accessAt issueAt draws result rest result' rest' later returned
      found returned'
    obtain ⟨entry, present, owns⟩ := (issueTicket_found_iff returned).mp found
    obtain ⟨stored, live⟩ := (good.lookup_prune_iff requestAt blobId entry).mp present
    obtain ⟨pruned, effect⟩ := good.prune now
    refine (issueTicket_found_iff returned').mpr ⟨entry, ?_, owns⟩
    refine (pruned.lookup_prune_iff requestAt blobId entry).mpr
      ⟨(good.lookup_prune_iff now blobId entry).mpr ⟨stored, live.mono later⟩, ?_⟩
    rcases live with ⟨ticket, ticketEntry, outstanding, future, names⟩ | recent
    · exact Or.inl ⟨ticket, ticketEntry,
        (effect.tickets ticket ticketEntry).mpr ⟨outstanding, later.trans_lt future⟩,
        future, names⟩
    · exact Or.inr recent

/-- An insertion that returns no reference removes nothing but what had expired, unless it
reclaims: its arguments are valid, its owner lacks room, and a blob that no ticket pins has
been delivered to the owner.  Then, and only then, the rejected call takes a live blob. -/
theorem rejected_insert_evicts_nothing_iff {externals : Externals} {history : List Event}
    {clock pruneAt accessAt : Instant} {before after : BlobStoreInner} {owner bytes : Bytes}
    {mediaType : String} (run : Run externals history clock before)
    (rejected : insert externals before owner bytes mediaType pruneAt accessAt =
      (.returned none, after)) :
    EvictsNothing externals pruneAt before after ↔
      ¬ Reclaims before owner bytes mediaType pruneAt := by
  have good := Good.run run
  obtain ⟨pruned, effect⟩ := good.prune pruneAt
  have performed : perform externals before (.insert owner bytes mediaType pruneAt accessAt) =
      some (.inserted (.returned none), after) := by
    simp only [perform, rejected]
  cases perform_step good performed with
  | rejected invalid =>
      refine iff_of_true (EvictsNothing.refl pruneAt before) fun reclaims => ?_
      exact Bool.false_ne_true (invalid.symm.trans reclaims.1)
  | insert valid step =>
      cases step with
      | refused =>
          constructor
          · rintro evictsNothing ⟨_, full, target, entry, present, free, delivered⟩
            obtain ⟨blobId, taken, found, missing⟩ :=
              pruned.sound.reclaimDeliveredForOwner_takes full present free delivered
            obtain ⟨stored, live⟩ := (good.lookup_prune_iff pruneAt blobId taken).mp found
            exact missing (evictsNothing.blobsKept blobId taken stored live)
          · intro spares
            rw [pruned.sound.reclaimDeliveredForOwner_of_spared
              fun full blobId entry present free delivered =>
                spares ⟨valid, full, blobId, entry, present, free, delivered⟩]
            exact EvictsNothing.prune good pruneAt

/-- A device that has stored one blob and not fetched it asks for more than its quota: it is
refused and keeps the blob. -/
theorem rejected_insert_evicts_nothing_iff_undelivered :
    ∃ history before after,
      Run transparentDigest history 11 before ∧
      before.entries.keys = [[7, 8]] ∧
      insert transparentDigest before [1] oversizedContent "text/plain" 50 51 =
        (.returned none, after) ∧
      EvictsNothing transparentDigest 50 before after := by
  obtain ⟨history, before, played⟩ : ∃ history before,
      replay transparentDigest [.insert [1] [7, 8] "text/plain" 10 11] =
        some (history, 11, before) := ⟨_, _, rfl⟩
  have stored : ((replay transparentDigest [.insert [1] [7, 8] "text/plain" 10 11]).map
      fun result => (result.2.2.entries.keys, (result.2.2.prune 50).entries.keys)) =
        some ([[7, 8]], [[7, 8]]) := by decide
  have undelivered : ((replay transparentDigest [.insert [1] [7, 8] "text/plain" 10 11]).map
      fun result => ((result.2.2.prune 50).entries.lookup [7, 8]).all
        fun entry => decide ([1] ∉ entry.deliveredOwners)) = some true := by decide
  rw [played, Option.map_some, Option.some.injEq] at stored undelivered
  dsimp only at stored undelivered
  obtain ⟨keys, prunedKeys⟩ := Prod.mk.inj stored
  have run := Run.of_replay played
  have rejected := insert_oversizedContent 51 prunedKeys
  refine ⟨history, before, _, run, keys, rejected, ?_⟩
  refine (rejected_insert_evicts_nothing_iff run rejected).mpr ?_
  rintro ⟨_, _, blobId, entry, present, _, delivered⟩
  have only : blobId = [7, 8] := by
    have member : blobId ∈ (before.prune 50).entries.keys :=
      AList.lookup_isSome.mp (Option.isSome_iff_exists.mpr ⟨entry, present⟩)
    rwa [prunedKeys, List.mem_singleton] at member
  rw [← only, present, Option.all_some, decide_eq_true_eq] at undelivered
  exact undelivered delivered

/-- The same device after it has fetched the blob, thirty nanoseconds ago and far from the
idle deadline.  Until the refused request it can draw another ticket for the blob; afterwards
the blob is not found. -/
theorem rejected_insert_takes_delivered_blob :
    ∃ history before after ticket drawn lost,
      Run transparentDigest history 32 before ∧
      insert transparentDigest before [1] oversizedContent "text/plain" 50 51 =
        (.returned none, after) ∧
      issueTicket transparentDigest before [1] [7, 8] 60 61 62
        { transferIds := [6], tickets := [Vector.replicate 32 8], nowMs := 2000 } =
          some (.ok ticket, drawn) ∧
      issueTicket transparentDigest after [1] [7, 8] 60 61 62
        { transferIds := [6], tickets := [Vector.replicate 32 8], nowMs := 2000 } =
          some (.error .notFound, lost) ∧
      ¬ EvictsNothing transparentDigest 50 before after := by
  obtain ⟨history, before, played⟩ : ∃ history before,
      replay transparentDigest readvertisedCalls.tail = some (history, 32, before) :=
    ⟨_, _, rfl⟩
  have keys : ((replay transparentDigest readvertisedCalls.tail).map fun result =>
      (result.2.2.prune 50).entries.keys) = some [[7, 8]] := by decide
  have gone : ((replay transparentDigest readvertisedCalls.tail).map fun result =>
      ((((result.2.2.prune 50).reclaimDeliveredForOwner [1]
        (maxCachedBlobBytesPerDevice + 1) 1).prune 60).entries.lookup [7, 8]).isNone) =
        some true := by decide
  obtain ⟨ticket, drawn, answered⟩ : ∃ ticket drawn,
      ((replay transparentDigest readvertisedCalls.tail).bind fun result =>
        issueTicket transparentDigest result.2.2 [1] [7, 8] 60 61 62
          { transferIds := [6], tickets := [Vector.replicate 32 8], nowMs := 2000 }) =
            some (.ok ticket, drawn) := ⟨_, _, rfl⟩
  rw [played, Option.map_some, Option.some.injEq] at keys gone
  rw [played, Option.bind_some] at answered
  dsimp only at keys gone answered
  rw [Option.isNone_iff_eq_none] at gone
  refine ⟨history, before, _, ticket, drawn, _, Run.of_replay played,
    insert_oversizedContent 51 keys, answered, issueTicket_of_absent gone, fun evictsNothing => ?_⟩
  exact evictsNothing.obtainable [1] [7, 8] 60 61 62 _ _ _ _ _ (by decide) answered
    (by simp) (issueTicket_of_absent gone) rfl

end ArcRelay.BlobStore
