/-
Module: ArcRelay.Proofs.BlobStoreAvailability
Purpose: How long an advertised blob reference stays obtainable, and the re-advertisement that
  does not.
Trusted boundary: none
-/
import ArcRelay.Proofs.BlobStoreInvariant

namespace ArcRelay.BlobStore

open BlobStoreInner

variable {sized : Prop}

/-!
Reclamation takes a blob from an owner once it has been delivered to that owner.  An
insertion therefore guarantees its reference for the idle time as long as the owner is not on
record as having received the blob.  A first insertion by an owner always meets this.  A later
insertion of the same content need not: the existing-entry path refreshes the time stamp and
leaves `delivered_owners` as it was, so a blob that was fetched, dropped by the client and
advertised again is still fair game for reclamation.
-/

/-- `owner` still owns the blob, has not received it, and it was used no earlier than
`since`. -/
def Kept (owner blobId : Bytes) (since : Instant) (inner : BlobStoreInner) : Prop :=
  ∃ entry, inner.entries.lookup blobId = some entry ∧ owner ∈ entry.owners ∧
    owner ∉ entry.deliveredOwners ∧ since ≤ entry.lastAccess

variable {owner blobId : Bytes} {before after : BlobStoreInner}

theorem Kept.prune {since now : Nat} (kept : Kept owner blobId since before)
    (pruned : Pruned now before after) (timely : now < since + blobIdleTtl) :
    Kept owner blobId since after := by
  obtain ⟨entry, present, owns, undelivered, recent⟩ := kept
  refine ⟨entry, (pruned.blobs blobId entry).mpr ⟨present, Or.inr ?_⟩, owns, undelivered, recent⟩
  exact idle_lt_of_lt_deadline (timely.trans_le (Nat.add_le_add_right recent _))

variable {since : Instant}

/-- Reclamation for this owner spares what it has not received, and reclamation for another
owner leaves this one. -/
theorem Kept.reclaim {other : Bytes} (kept : Kept owner blobId since before)
    (reclaimed : Reclaimed other before after) : Kept owner blobId since after := by
  obtain ⟨entry, present, owns, undelivered, recent⟩ := kept
  cases reclaimed.blobs blobId with
  | untouched same => exact ⟨entry, same.trans present, owns, undelivered, recent⟩
  | released found _ delivered rest =>
      cases found.symm.trans present
      have different : owner ≠ other := fun same => undelivered (same ▸ delivered)
      refine ⟨_, rest, AList.mem_erase.mpr ⟨different, owns⟩, ?_, recent⟩
      exact fun member => undelivered (AList.mem_erase.mp member).2
  | dropped found _ delivered alone =>
      cases found.symm.trans present
      exact absurd (alone owner owns ▸ delivered) undelivered

variable {inner : BlobStoreInner}

/-- A written entry keeps the blob if it is another one, or keeps the owner, its record and a
recent time stamp. -/
theorem Kept.setEntry {key : Bytes} {new : BlobEntry} (kept : Kept owner blobId since inner)
    (written : key = blobId → ∀ old, inner.entries.lookup blobId = some old →
      owner ∈ old.owners → owner ∉ old.deliveredOwners →
      owner ∈ new.owners ∧ owner ∉ new.deliveredOwners ∧ since ≤ new.lastAccess) :
    Kept owner blobId since (inner.setEntry key new) := by
  obtain ⟨entry, present, owns, undelivered, recent⟩ := kept
  by_cases same : blobId = key
  · obtain ⟨newOwns, newUndelivered, newRecent⟩ :=
      written same.symm entry present owns undelivered
    exact ⟨new, by rw [lookup_setEntry, if_pos same], newOwns, newUndelivered, newRecent⟩
  · exact ⟨entry, by rw [lookup_setEntry, if_neg same, present], owns, undelivered, recent⟩

variable {externals : Externals} {mediaType : String}

theorem Kept.insertStep {actor bytes : Bytes} {now : Instant} {reply : Option BlobRef}
    (sound : Sound sized inner inner.insertionOrder) (kept : Kept owner blobId since inner)
    (later : since ≤ now)
    (step : InsertStep externals inner actor bytes mediaType now reply after) :
    Kept owner blobId since after := by
  have reclaimed := kept.reclaim (sound.reclaimDeliveredForOwner actor bytes.length 1).2
  cases step with
  | @touched _ present =>
      refine kept.setEntry fun same old found owns undelivered => ?_
      subst same
      cases present.symm.trans found
      exact ⟨owns, undelivered, later⟩
  | refused => exact reclaimed
  | @joined existing _ reclaim _ found =>
      subst reclaim
      have charged : Kept owner blobId since (chargeOwner
        (inner.reclaimDeliveredForOwner actor bytes.length 1) actor bytes.length) := reclaimed
      refine charged.setEntry fun same old oldFound owns undelivered => ?_
      subst same
      obtain rfl : existing = old := Option.some.inj (found.symm.trans oldFound)
      exact ⟨(AList.mem_insert _).mpr (Or.inr owns), undelivered, later⟩
  | stored reclaim _ absent =>
      subst reclaim
      obtain ⟨entry, present, rest⟩ := reclaimed
      have different : blobId ≠ externals.sha256 bytes := by
        rintro rfl
        rw [absent] at present
        cases present
      exact ⟨entry, (AList.lookup_insert_ne different).trans present, rest⟩

variable {accessAt : Instant}

theorem Kept.issueStep {actor requested : Bytes} {issueAt : Instant}
    {result : Except IssueTicketError BlobTicket} (kept : Kept owner blobId since inner)
    (later : since ≤ accessAt)
    (step : IssueStep inner actor requested accessAt issueAt result after) :
    Kept owner blobId since after := by
  have touched : ∀ {entry}, inner.entries.lookup requested = some entry →
      Kept owner blobId since (inner.setEntry requested { entry with lastAccess := accessAt }) := by
    intro entry present
    refine kept.setEntry fun same old found owns undelivered => ?_
    subst same
    cases present.symm.trans found
    exact ⟨owns, undelivered, later⟩
  cases step with
  | notFound => exact kept
  | exhausted present => exact touched present
  | issued present => exact touched present

variable {pruneAt : Instant}

theorem Kept.redeemStep {actor : Bytes} {transferId : UInt64} {ticket : Bytes} {checkAt : Instant}
    {result : Except String RedeemedBlob} (named : Named inner)
    (kept : Kept owner blobId since inner) (later : since ≤ accessAt)
    (unredeemed : ¬ RedeemsBlob ⟨.redeem actor transferId ticket pruneAt checkAt accessAt,
      .redeemed result⟩ owner blobId)
    (step : RedeemStep inner actor transferId ticket checkAt accessAt result after) :
    Kept owner blobId since after := by
  cases step with
  | refused => exact kept
  | @redeemed _ entry _ _ _ _ present =>
      have entries := (removeTicket_frame inner ticket).2.1
      have keptAfter : Kept owner blobId since (inner.removeTicket ticket) := by
        obtain ⟨kept, found, rest⟩ := kept
        exact ⟨kept, by rw [entries]; exact found, rest⟩
      refine keptAfter.setEntry fun same old found oldOwns undelivered => ?_
      rw [entries] at found
      subst same
      obtain rfl : entry = old := Option.some.inj (present.symm.trans found)
      have different : owner ≠ actor := by
        rintro rfl
        exact unredeemed ⟨_, _, _, _, _, _, rfl, named _ entry present⟩
      refine ⟨oldOwns, fun member => ?_, later⟩
      rcases (AList.mem_insert _).mp member with same | earlier
      · exact different same
      · exact undelivered earlier

variable {clock : Instant}

theorem Kept.callStep {history : List Event} {call : Call} {reply : Reply} {since : Nat}
    (good : Good externals history clock before) (kept : Kept owner blobId since before)
    (started : since ≤ call.pruneAt) (ordered : call.Ordered)
    (timely : call.pruneAt < since + blobIdleTtl)
    (unredeemed : ¬ RedeemsBlob ⟨call, reply⟩ owner blobId)
    (step : CallStep externals before call reply after) : Kept owner blobId since after := by
  cases step with
  | rejected => exact kept
  | @insert _ _ _ pruneAt _ _ _ _ step =>
      obtain ⟨pruned, effect⟩ := good.prune pruneAt
      exact (kept.prune effect timely).insertStep pruned.sound (started.trans ordered) step
  | @issueTicket _ _ pruneAt _ _ _ _ _ step =>
      obtain ⟨pruned, effect⟩ := good.prune pruneAt
      exact (kept.prune effect timely).issueStep (started.trans ordered.1) step
  | @redeem _ _ _ pruneAt _ _ _ _ step =>
      obtain ⟨pruned, effect⟩ := good.prune pruneAt
      exact (kept.prune effect timely).redeemStep pruned.named
        (started.trans (ordered.1.trans ordered.2)) unredeemed step

theorem Continues.clock_le {startClock : Instant} {start : BlobStoreInner} {since : List Event}
    (continued : Continues externals startClock start since clock inner) :
    startClock ≤ clock := by
  induction continued with
  | refl => exact le_rfl
  | step _ later ordered _ ih =>
      exact ih.trans (later.trans ordered.pruneAt_le)

/-- A kept blob stays kept over every continuation that ends within the idle time and in
which its owner does not receive it. -/
theorem Kept.continues {history since : List Event} {startClock : Instant}
    {start : BlobStoreInner} (run : Run externals history startClock start)
    (continued : Continues externals startClock start since clock inner)
    (kept : Kept owner blobId startClock start) (timely : clock < startClock + blobIdleTtl)
    (unredeemed : ∀ event ∈ since, ¬ RedeemsBlob event owner blobId) :
    Kept owner blobId startClock inner := by
  induction continued with
  | refl => exact kept
  | @step since clock before after call reply earlier later ordered performed
      ih =>
      have good := Good.run (run.append earlier)
      have inTime : call.pruneAt < startClock + blobIdleTtl := ordered.pruneAt_le.trans_lt timely
      have keptBefore := ih (later.trans_lt inTime)
        fun event member => unredeemed event (by simp [member])
      exact keptBefore.callStep good (earlier.clock_le.trans later) ordered inTime
        (unredeemed _ (by simp)) (perform_step good performed)

/-! ### Advertised references -/

/-- A successful insertion leaves an entry under the returned reference, owned by the caller
and used just now. -/
theorem InsertStep.advertised {bytes : Bytes} {now : Instant} {reference : BlobRef}
    (sound : Sound sized inner inner.insertionOrder) (named : Named inner)
    (step : InsertStep externals inner owner bytes mediaType now (some reference) after) :
    ∃ entry, after.entries.lookup reference.blobId = some entry ∧ owner ∈ entry.owners ∧
      entry.lastAccess = now := by
  rw [(Named.insertStep sound named step).2 reference rfl]
  cases step with
  | @touched existing _ owns =>
      exact ⟨{ existing with lastAccess := now }, by rw [lookup_setEntry, if_pos rfl], owns, rfl⟩
  | joined =>
      exact ⟨_, by rw [lookup_setEntry, if_pos rfl], (AList.mem_insert _).mpr (Or.inl rfl), rfl⟩
  | stored _ fresh =>
      subst fresh
      exact ⟨_, AList.lookup_insert _, by simp [AList.mem_keys], rfl⟩

/-- An advertised reference stays obtainable.  If `insert` returned a reference at `t` and the
entry does not record a delivery to its owner, then before `t` plus five minutes, as long as
the owner has not redeemed a ticket for the blob, `issue_ticket` does not answer that it is not
found, whatever all owners did in between. -/
theorem insert_reference_obtainable {externals : Externals} {history since : List Event}
    {owner bytes : Bytes} {mediaType : String} {pruneAt t clock requestAt : Instant}
    {reference : BlobRef} {advertised inner after : BlobStoreInner}
    {accessAt issueAt : Instant} {draws : TicketDraws}
    {result : Except IssueTicketError BlobTicket}
    (run : Run externals (⟨.insert owner bytes mediaType pruneAt t,
      .inserted (.returned (some reference))⟩ :: history) t advertised)
    (undelivered : ∀ entry, advertised.entries.lookup reference.blobId = some entry →
      owner ∉ entry.deliveredOwners)
    (continued : Continues externals t advertised since clock inner)
    (unredeemed : ∀ event ∈ since, ¬ RedeemsBlob event owner reference.blobId)
    (later : clock ≤ requestAt) (timely : requestAt < t + blobIdleTtl)
    (returned : issueTicket externals inner owner reference.blobId requestAt accessAt issueAt
      draws = some (result, after)) :
    result ≠ .error .notFound := by
  have kept : Kept owner reference.blobId t advertised := by
    cases run with
    | step earlier _ _ performed =>
        have good := Good.run earlier
        cases perform_step good performed with
        | insert _ step =>
            obtain ⟨pruned, _⟩ := good.prune pruneAt
            obtain ⟨entry, present, owns, access⟩ := step.advertised pruned.sound pruned.named
            exact ⟨entry, present, owns, undelivered entry present, access.ge⟩
  have keptBefore := kept.continues run continued (later.trans_lt timely) unredeemed
  have pruned := ((Good.run (run.append continued)).prune requestAt).2
  obtain ⟨entry, present, owns, _⟩ := keptBefore.prune pruned timely
  have step := issueTicketBody_step returned
  rintro rfl
  cases step with
  | notFound denied => exact denied entry present owns

/-- The second device of `sharedBlobCalls` has not received the blob it shares: fifty
nanoseconds later it draws a ticket for it. -/
theorem insert_reference_obtainable_shared_blob :
    ∃ history advertised result after,
      Run transparentDigest (⟨.insert [2] [7, 8] "text/plain" 40 41,
        .inserted (.returned (some ⟨[7, 8], 2, "text/plain", [7, 8]⟩))⟩ :: history) 41
        advertised ∧
      issueTicket transparentDigest advertised [2] [7, 8] 91 92 93
        { transferIds := [6], tickets := [Vector.replicate 32 8], nowMs := 2000 } =
          some (result, after) ∧
      result ≠ .error .notFound := by
  obtain ⟨history, advertised, played⟩ : ∃ history advertised,
      replay transparentDigest sharedBlobCalls = some (⟨.insert [2] [7, 8] "text/plain" 40 41,
        .inserted (.returned (some ⟨[7, 8], 2, "text/plain", [7, 8]⟩))⟩ :: history, 41,
        advertised) := ⟨_, _, rfl⟩
  have undelivered : ((replay transparentDigest sharedBlobCalls).bind fun result =>
      (result.2.2.entries.lookup [7, 8]).map fun entry => decide ([2] ∈ entry.deliveredOwners)) =
        some false := by decide
  have drawn : ((replay transparentDigest sharedBlobCalls).bind fun result =>
      issueTicket transparentDigest result.2.2 [2] [7, 8] 91 92 93
        { transferIds := [6], tickets := [Vector.replicate 32 8], nowMs := 2000 }).isSome =
          true := by decide
  rw [played, Option.bind_some] at undelivered drawn
  obtain ⟨⟨result, after⟩, returned⟩ := Option.isSome_iff_exists.mp drawn
  refine ⟨history, advertised, result, after, Run.of_replay played, returned, ?_⟩
  refine insert_reference_obtainable (Run.of_replay played) ?_ .refl (by simp) (by decide)
    (by decide) returned
  intro entry present
  simpa [present] using undelivered

/-! ### The re-advertised reference -/

/-- Content larger than the quota of one device but not than the whole cache is refused, and
on the way everything delivered to its owner is reclaimed. -/
theorem insert_oversized {bytes : Bytes}
    (valid : insertArgumentsValid owner bytes mediaType = true)
    (large : maxCachedBlobBytesPerDevice < bytes.length)
    (absent : (inner.prune pruneAt).entries.lookup (externals.sha256 bytes) = none) :
    insert externals inner owner bytes mediaType pruneAt accessAt =
      (.returned none, (inner.prune pruneAt).reclaimDeliveredForOwner owner bytes.length 1) := by
  have exceeded : ∀ store, ownerQuotaExceeded store owner bytes.length = true := by
    intro store
    have excess : maxCachedBlobBytesPerDevice <
        saturatingAdd (HashMap.count store.deviceBytes owner) bytes.length := by
      simp only [saturatingAdd, usizeMax, maxCachedBlobBytesPerDevice] at large ⊢
      omega
    simp [ownerQuotaExceeded, excess]
  simp [BlobStore.insert, valid, insertBody, absent, insertNew, exceeded]

theorem issueTicket_of_absent {issueAt : Instant} {draws : TicketDraws}
    (absent : (inner.prune pruneAt).entries.lookup blobId = none) :
    issueTicket externals inner owner blobId pruneAt accessAt issueAt draws =
      some (.error .notFound, inner.prune pruneAt) := by
  simp only [issueTicket, issueTicketBody, absent]

/-- One byte more than the quota of a device. -/
def oversizedContent : Bytes := List.replicate (maxCachedBlobBytesPerDevice + 1) 0

theorem oversizedContent_length : oversizedContent.length = maxCachedBlobBytesPerDevice + 1 :=
  List.length_replicate

theorem oversizedContent_valid : insertArgumentsValid [1] oversizedContent "text/plain" = true := by
  have nonempty : oversizedContent.isEmpty = false := by simp [oversizedContent]
  simp only [insertArgumentsValid, nonempty, oversizedContent_length]
  decide

/-- A device asks a store that holds one small blob for more than its quota. -/
theorem insert_oversizedContent (accessAt : Instant)
    (keys : (inner.prune pruneAt).entries.keys = [[7, 8]]) :
    insert transparentDigest inner [1] oversizedContent "text/plain" pruneAt accessAt =
      (.returned none, (inner.prune pruneAt).reclaimDeliveredForOwner [1]
        (maxCachedBlobBytesPerDevice + 1) 1) := by
  have other : oversizedContent ≠ [7, 8] := fun same =>
    absurd oversizedContent_length (by rw [same]; decide)
  have absent : (inner.prune pruneAt).entries.lookup
      (transparentDigest.sha256 oversizedContent) = none := by
    rw [AList.lookup_eq_none, AList.mem_keys, keys, List.mem_singleton]
    exact other
  rw [insert_oversized oversizedContent_valid
    (by rw [oversizedContent_length]; exact Nat.lt_succ_self _) absent, oversizedContent_length]

/-- One device stores a blob, receives it, and stores the same content again.  Newest call
first. -/
def readvertisedCalls : List Call :=
  [ .insert [1] [7, 8] "text/plain" 40 41,
    .redeem [1] 5 (List.replicate 32 9) 30 31 32,
    .issueTicket [1] [7, 8] 20 21 22
      { transferIds := [0, 5], tickets := [Vector.replicate 32 9], nowMs := 1000 },
    .insert [1] [7, 8] "text/plain" 10 11 ]

/-- The reference of the second insertion does not last.  The next snapshot of the same device
is refused for its size, the refused insertion reclaims the re-advertised blob, and
`issue_ticket` no longer finds it, nineteen nanoseconds after the reference was returned and
without a redemption in between. -/
theorem readvertised_reference_lost :
    ∃ history advertised lost after,
      Run transparentDigest (⟨.insert [1] [7, 8] "text/plain" 40 41,
        .inserted (.returned (some ⟨[7, 8], 2, "text/plain", [7, 8]⟩))⟩ :: history) 41
        advertised ∧
      Continues transparentDigest 41 advertised
        [⟨.insert [1] oversizedContent "text/plain" 50 51, .inserted (.returned none)⟩] 51 lost ∧
      (∀ event ∈ [⟨.insert [1] oversizedContent "text/plain" 50 51,
        .inserted (.returned none)⟩], ¬ RedeemsBlob event [1] [7, 8]) ∧
      60 < 41 + blobIdleTtl ∧
      issueTicket transparentDigest lost [1] [7, 8] 60 61 62
        { transferIds := [6], tickets := [Vector.replicate 32 8], nowMs := 2000 } =
          some (.error .notFound, after) := by
  obtain ⟨history, advertised, played⟩ : ∃ history advertised,
      replay transparentDigest readvertisedCalls = some (⟨.insert [1] [7, 8] "text/plain" 40 41,
        .inserted (.returned (some ⟨[7, 8], 2, "text/plain", [7, 8]⟩))⟩ :: history, 41,
        advertised) := ⟨_, _, rfl⟩
  have keys : ((replay transparentDigest readvertisedCalls).map fun result =>
      (result.2.2.prune 50).entries.keys) = some [[7, 8]] := by decide
  have gone : ((replay transparentDigest readvertisedCalls).map fun result =>
      ((((result.2.2.prune 50).reclaimDeliveredForOwner [1]
        (maxCachedBlobBytesPerDevice + 1) 1).prune 60).entries.lookup [7, 8]).isNone) =
        some true := by decide
  rw [played, Option.map_some, Option.some.injEq] at keys gone
  dsimp only at keys gone
  rw [Option.isNone_iff_eq_none] at gone
  have performed : perform transparentDigest advertised
      (.insert [1] oversizedContent "text/plain" 50 51) =
        some (.inserted (.returned none), (advertised.prune 50).reclaimDeliveredForOwner [1]
          (maxCachedBlobBytesPerDevice + 1) 1) := by
    rw [perform, insert_oversizedContent 51 keys]
  refine ⟨history, advertised, _, _, Run.of_replay played,
    .step .refl (by decide) (by decide) performed, ?_, by decide, issueTicket_of_absent gone⟩
  rintro event member ⟨_, _, _, _, _, _, impossible, _⟩
  rw [List.mem_singleton.mp member] at impossible
  exact absurd (congrArg Event.reply impossible) (by simp)

end ArcRelay.BlobStore
