/-
Module: ArcRelay.Proofs.BlobStorePruning
Purpose: Pruning on a deadline is the same as scanning the whole store at every call.
Trusted boundary: none
-/
import ArcRelay.Proofs.BlobStoreInvariant

namespace ArcRelay.BlobStore

open BlobStoreInner

variable {sized : Prop}

/-!
Two stores are the same up to the deadline of the next prune when they agree after
`undated`.  No operation body reads the deadline: each commutes with forgetting it.  A full
scan of a store in which nothing is due changes nothing but the deadline, so the early return
of `prune` and the full scan agree, and the two kinds of run stay in lock step.
-/

variable (inner : BlobStoreInner)

/-- The store without its prune deadline. -/
def undated : BlobStoreInner := { inner with nextPruneAt := none }

/-! ### No operation body reads the deadline -/

theorem removeEntry_undated (blobId : Bytes) :
    (undated inner).removeEntry blobId = undated (inner.removeEntry blobId) := by
  simp only [removeEntry, undated]
  cases inner.entries.lookup blobId with
  | none => rfl
  | some => rfl

theorem removeTicket_undated (ticket : Bytes) :
    (undated inner).removeTicket ticket = undated (inner.removeTicket ticket) := by
  simp only [removeTicket, undated]
  cases inner.tickets.lookup ticket with
  | none => rfl
  | some => rfl

theorem reclaimLoop_undated (owner : Bytes) (additionalBytes additionalEntries : Nat)
    (candidates : List Bytes) (inner : BlobStoreInner) :
    reclaimLoop owner additionalBytes additionalEntries candidates (undated inner) =
      undated (reclaimLoop owner additionalBytes additionalEntries candidates inner) := by
  induction candidates generalizing inner with
  | nil => rfl
  | cons blobId _ ih =>
      have room : (undated inner).ownerHasRoom owner additionalBytes additionalEntries =
          inner.ownerHasRoom owner additionalBytes additionalEntries := rfl
      have pin : (undated inner).blobHasTicket blobId = inner.blobHasTicket blobId := rfl
      have found : (undated inner).entries.lookup blobId = inner.entries.lookup blobId := rfl
      unfold reclaimLoop
      simp only [room, pin, found]
      split_ifs with full pinned
      · rfl
      · exact ih (inner.pushBack blobId)
      · cases inner.entries.lookup blobId with
        | none => exact ih inner
        | some entry =>
            simp only
            by_cases delivered : owner ∈ entry.deliveredOwners
            · rw [if_neg (not_not.mpr delivered), if_neg (not_not.mpr delivered)]
              by_cases owns : owner ∈ entry.owners
              · rw [if_neg (not_not.mpr owns), if_neg (not_not.mpr owns)]
                split_ifs with alone
                · rw [← ih, ← removeEntry_undated]
                  rfl
                · rw [← ih]
                  rfl
              · rw [if_pos owns, if_pos owns, ← ih]
                rfl
            · rw [if_pos delivered, if_pos delivered]
              exact ih (inner.pushBack blobId)

theorem reclaimDeliveredForOwner_undated (owner : Bytes) (additionalBytes additionalEntries : Nat) :
    (undated inner).reclaimDeliveredForOwner owner additionalBytes additionalEntries =
      undated (inner.reclaimDeliveredForOwner owner additionalBytes additionalEntries) := by
  have room : (undated inner).ownerHasRoom owner additionalBytes additionalEntries =
      inner.ownerHasRoom owner additionalBytes additionalEntries := rfl
  simp only [reclaimDeliveredForOwner, room]
  split_ifs with full
  · rfl
  · exact reclaimLoop_undated owner additionalBytes additionalEntries inner.insertionOrder
      { inner with insertionOrder := [] }

/-- A result together with the store it leaves, up to the deadline. -/
def undatedResult {α : Type} (result : α × BlobStoreInner) : α × BlobStoreInner :=
  (result.1, undated result.2)

theorem touchExisting_undated (owner digest : Bytes) (isExistingOwner : Bool) (now : Instant) :
    undatedResult (touchExisting (undated inner) owner digest isExistingOwner now) =
      undatedResult (touchExisting inner owner digest isExistingOwner now) := by
  simp only [touchExisting, undated, undatedResult]
  cases inner.entries.lookup digest with
  | none => rfl
  | some => rfl

theorem insertBody_undated (externals : Externals) (inner : BlobStoreInner)
    (owner bytes : Bytes) (mediaType : String) (now : Instant) :
    undatedResult (insertBody externals (undated inner) owner bytes mediaType now) =
      undatedResult (insertBody externals inner owner bytes mediaType now) := by
  have found : (undated inner).entries.lookup (externals.sha256 bytes) =
      inner.entries.lookup (externals.sha256 bytes) := rfl
  have reclaim := reclaimDeliveredForOwner_undated inner owner bytes.length 1
  have quota : ∀ store, ownerQuotaExceeded (undated store) owner bytes.length =
      ownerQuotaExceeded store owner bytes.length := fun _ => rfl
  have space : ∀ store, (undated store).makeRoomFor bytes.length =
      store.makeRoomFor bytes.length := fun _ => rfl
  simp only [insertBody, found]
  cases inner.entries.lookup (externals.sha256 bytes) with
  | some =>
      simp only [insertExisting, reclaim, quota]
      split_ifs with owns full
      · exact touchExisting_undated inner owner _ true now
      · rfl
      · exact touchExisting_undated (chargeOwner _ owner bytes.length) owner _ false now
  | none =>
      simp only [insertNew, reclaim, quota, space]
      split_ifs with full crowded
      · rfl
      · rfl
      · simp only [undatedResult, undated, chargeOwner, setEntry, BlobStoreInner.pushBack,
          BlobStoreInner.schedulePrune]

theorem issueTicketBody_undated (externals : Externals) (inner : BlobStoreInner)
    (owner blobId : Bytes) (accessAt issueAt : Instant) (draws : TicketDraws) :
    (issueTicketBody externals (undated inner) owner blobId accessAt issueAt draws).map
        undatedResult =
      (issueTicketBody externals inner owner blobId accessAt issueAt draws).map
        undatedResult := by
  have found : (undated inner).entries.lookup blobId = inner.entries.lookup blobId := rfl
  simp only [issueTicketBody, found]
  cases inner.entries.lookup blobId with
  | none => rfl
  | some entry =>
      simp only
      by_cases owns : owner ∈ entry.owners
      · rw [if_neg (not_not.mpr owns), if_neg (not_not.mpr owns)]
        set touched := inner.setEntry blobId { entry with lastAccess := accessAt } with touchedEq
        have touchedUndated : (undated inner).setEntry blobId
            { entry with lastAccess := accessAt } = undated touched := rfl
        have size : (undated touched).tickets = touched.tickets := rfl
        have count : (undated touched).deviceTickets = touched.deviceTickets := rfl
        have pickId : pickTransferId (undated touched) draws.transferIds =
            pickTransferId touched draws.transferIds := rfl
        have pickKey : pickTicket (undated touched) draws.tickets =
            pickTicket touched draws.tickets := rfl
        simp only [touchedUndated, size, count, pickId, pickKey]
        split_ifs with full
        · rfl
        · cases pickTransferId touched draws.transferIds with
          | none => rfl
          | some =>
              cases pickTicket touched draws.tickets with
              | none => rfl
              | some => rfl
      · rw [if_pos owns, if_pos owns]
        rfl

theorem redeemBody_undated (owner : Bytes) (transferId : UInt64)
    (ticket : Bytes) (checkAt accessAt : Instant) :
    undatedResult (redeemBody (undated inner) owner transferId ticket checkAt accessAt) =
      undatedResult (redeemBody inner owner transferId ticket checkAt accessAt) := by
  have found : (undated inner).tickets.lookup ticket = inner.tickets.lookup ticket := rfl
  simp only [redeemBody, found, removeTicket_undated]
  cases inner.tickets.lookup ticket with
  | none => rfl
  | some ticketEntry =>
      simp only
      split_ifs with wrongId wrongOwner expired
      · rfl
      · rfl
      · rfl
      · have kept : (undated (inner.removeTicket ticket)).entries.lookup ticketEntry.blobId =
            (inner.removeTicket ticket).entries.lookup ticketEntry.blobId := rfl
        rw [kept]
        cases (inner.removeTicket ticket).entries.lookup ticketEntry.blobId with
        | none => rfl
        | some => rfl

/-! ### A full scan with nothing due -/

theorem fullPrune_undated (now : Instant) :
    (undated inner).fullPrune now = inner.fullPrune now := rfl

/-- The blob loop over blobs that all stay rebuilds the order and changes nothing else but
the deadline. -/
theorem pruneBlobs_of_live (now : Instant) (candidates : List Bytes) (inner : BlobStoreInner)
    (live : ∀ blobId ∈ candidates, (∃ entry, inner.entries.lookup blobId = some entry) ∧
      ¬ IdleAt now inner blobId) :
    undated (candidates.foldl (pruneBlob now) inner) =
      undated { inner with insertionOrder := inner.insertionOrder ++ candidates } := by
  induction candidates generalizing inner with
  | nil => simp
  | cons blobId candidates ih =>
      obtain ⟨⟨entry, present⟩, fresh⟩ := live blobId (by simp)
      have rest : ∀ next : BlobStoreInner, next.entries = inner.entries →
          next.blobTickets = inner.blobTickets →
          ∀ other ∈ candidates, (∃ entry, next.entries.lookup other = some entry) ∧
            ¬ IdleAt now next other := by
        intro next entries tickets other member
        have sameLookup : next.entries.lookup other = inner.entries.lookup other := by
          rw [entries]
        rw [sameLookup, IdleAt.congr tickets sameLookup]
        exact live other (by simp [member])
      rw [List.foldl_cons]
      rcases pruneBlob_of_lookup now present with ⟨idle, _⟩ | ⟨_, _, step⟩ | ⟨_, step⟩
      · exact absurd idle fresh
      · rw [step, ih _ (rest (inner.pushBack blobId) rfl rfl)]
        simp [undated, BlobStoreInner.pushBack]
      · rw [step, ih _ (rest ((inner.schedulePrune _).pushBack blobId) rfl rfl)]
        simp [undated, BlobStoreInner.pushBack, BlobStoreInner.schedulePrune]

variable {inner : BlobStoreInner}

/-- A full scan of a store in which nothing is due changes nothing but the deadline. -/
theorem fullPrune_of_clean {now : Instant} (sound : Sound sized inner inner.insertionOrder)
    (clean : Pruned now inner inner) :
    undated (inner.fullPrune now) = undated inner := by
  have noneExpired : inner.expiredTickets now = [] := by
    rw [List.eq_nil_iff_forall_not_mem]
    intro ticket member
    obtain ⟨entry, present, expired⟩ := mem_expiredTickets.mp member
    exact absurd ((clean.tickets ticket entry).mp present).2 (not_lt.mpr expired)
  obtain ⟨deadline, scanned⟩ : ∃ deadline,
      inner.pruneTickets now = { inner with nextPruneAt := deadline } := by
    have same : ({ inner with nextPruneAt := none } : BlobStoreInner).expiredTickets now = [] :=
      noneExpired
    simp only [pruneTickets, same, List.foldl_nil]
    exact ⟨_, rfl⟩
  simp only [fullPrune, scanned]
  rw [pruneBlobs_of_live]
  · simp [undated]
  · intro blobId member
    obtain ⟨entry, present⟩ := sound.mem_entries blobId member
    refine ⟨⟨entry, present⟩, ?_⟩
    rintro ⟨unpinned, other, found, idle⟩
    obtain rfl : other = entry := Option.some.inj (found.symm.trans present)
    rcases ((clean.blobs blobId other).mp present).2 with pinned | recent
    · have free : inner.blobHasTicket blobId = false := unpinned
      rw [free] at pinned
      cases pinned
    · exact absurd recent (not_lt.mpr idle)

/-- A scheduled prune and a full scan leave the same store. -/
theorem prune_eq_fullPrune (sound : Sound sized inner inner.insertionOrder)
    (scheduled : Scheduled inner) (now : Instant) :
    undated (inner.prune now) = undated (inner.fullPrune now) := by
  have pruned := (sound.prune scheduled now).2.1
  have returned : inner.prune now = inner ∨ inner.prune now = inner.fullPrune now := by
    unfold BlobStoreInner.prune
    cases inner.nextPruneAt with
    | none => exact Or.inl rfl
    | some deadline =>
        by_cases notDue : now < deadline
        · exact Or.inl (if_pos notDue)
        · exact Or.inr (if_neg notDue)
  rcases returned with early | full
  · rw [early] at pruned ⊢
    exact (fullPrune_of_clean sound pruned).symm
  · rw [full]

/-! ### The two kinds of run -/

variable {externals : Externals} {history : List Event} {clock : Instant}

/-- One call on stores that agree up to the deadline, pruned either way. -/
theorem eagerPerform_of_perform {before eager after : BlobStoreInner} {call : Call}
    {reply : Reply} (good : Good externals history clock before)
    (same : undated eager = undated before)
    (performed : perform externals before call = some (reply, after)) :
    ∃ eagerAfter, eagerPerform externals eager call = some (reply, eagerAfter) ∧
      undated eagerAfter = undated after := by
  have pruned : ∀ now, undated (eager.fullPrune now) = undated (before.prune now) := by
    intro now
    rw [← fullPrune_undated eager, same, fullPrune_undated,
      prune_eq_fullPrune good.sound good.timely.scheduled]
  cases call with
  | insert owner bytes mediaType pruneAt accessAt =>
      simp only [perform, Option.some.injEq, Prod.mk.injEq, BlobStore.insert] at performed
      simp only [eagerPerform]
      cases valid : insertArgumentsValid owner bytes mediaType with
      | false =>
          simp only [valid, Bool.not_false, if_true] at performed ⊢
          obtain ⟨rfl, rfl⟩ := performed
          exact ⟨eager, rfl, same⟩
      | true =>
          simp only [valid, Bool.not_true, Bool.false_eq_true, if_false] at performed ⊢
          obtain ⟨rfl, rfl⟩ := performed
          have agree := insertBody_undated externals (eager.fullPrune pruneAt) owner bytes
            mediaType accessAt
          rw [pruned, insertBody_undated] at agree
          obtain ⟨sameReply, sameAfter⟩ := Prod.mk.inj agree
          exact ⟨_, by rw [sameReply], sameAfter.symm⟩
  | issueTicket owner blobId pruneAt accessAt issueAt draws =>
      simp only [perform, BlobStore.issueTicket, Option.map_eq_some_iff, Prod.exists,
        Prod.mk.injEq] at performed
      obtain ⟨result, after, returned, rfl, rfl⟩ := performed
      have agree := issueTicketBody_undated externals (eager.fullPrune pruneAt) owner blobId
        accessAt issueAt draws
      rw [pruned, issueTicketBody_undated, returned, Option.map_some, eq_comm,
        Option.map_eq_some_iff] at agree
      obtain ⟨⟨eagerResult, eagerAfter⟩, eagerReturned, agree⟩ := agree
      obtain ⟨rfl, sameAfter⟩ := Prod.mk.inj agree
      exact ⟨eagerAfter, by simp only [eagerPerform, eagerReturned, Option.map_some], sameAfter⟩
  | redeem owner transferId ticket pruneAt checkAt accessAt =>
      simp only [perform, BlobStore.redeem] at performed
      cases performed
      have agree := redeemBody_undated (eager.fullPrune pruneAt) owner transferId ticket checkAt
        accessAt
      rw [pruned, redeemBody_undated] at agree
      obtain ⟨sameReply, sameAfter⟩ := Prod.mk.inj agree
      simp only [eagerPerform]
      exact ⟨_, by rw [sameReply], sameAfter.symm⟩

/-- Every run has an eager run with the same calls and replies and the same store up to the
deadline. -/
theorem EagerRun.of_run (run : Run externals history clock inner) :
    ∃ eager, EagerRun externals history clock eager ∧ undated eager = undated inner := by
  induction run with
  | start clock => exact ⟨_, .start clock, rfl⟩
  | step earlier later ordered performed ih =>
      obtain ⟨eager, eagerRun, same⟩ := ih
      obtain ⟨eagerAfter, eagerPerformed, sameAfter⟩ :=
        eagerPerform_of_perform (Good.run earlier) same performed
      exact ⟨eagerAfter, .step eagerRun later ordered eagerPerformed, sameAfter⟩

/-- The calls of a history determine the eagerly pruned store. -/
theorem EagerRun.unique {otherClock : Instant} {first second : BlobStoreInner}
    (run : EagerRun externals history clock first)
    (other : EagerRun externals history otherClock second) : second = first := by
  induction run generalizing otherClock second with
  | start =>
      cases other
      rfl
  | step _ _ _ performed ih =>
      cases other with
      | step earlier' _ _ performed' =>
          obtain rfl := ih earlier'
          rw [performed] at performed'
          exact (Prod.mk.inj (Option.some.inj performed')).2.symm

/-- Scheduled pruning equals eager pruning.  After any run, a call of `prune` leaves no
expired ticket and no blob that is unpinned and idle, also when it returns early; and the
store is, up to the deadline itself, the one store that the same calls build when every prune
scans everything, with the same replies. -/
theorem scheduled_pruning_eq_eager {externals : Externals} {history : List Event}
    {clock : Instant} {inner : BlobStoreInner} (run : Run externals history clock inner) :
    (∀ now, clock ≤ now →
      (∀ ticket entry, (inner.prune now).tickets.lookup ticket = some entry →
        now < entry.expiresAt) ∧
      (∀ blobId entry, (inner.prune now).entries.lookup blobId = some entry →
        (∀ ticket outstanding, (inner.prune now).tickets.lookup ticket = some outstanding →
          outstanding.blobId ≠ blobId) →
        now < entry.lastAccess + blobIdleTtl)) ∧
    (∃ eager, EagerRun externals history clock eager) ∧
    (∀ eager, EagerRun externals history clock eager → undated eager = undated inner) := by
  refine ⟨fun now _ => ?_, ?_, ?_⟩
  · obtain ⟨good, pruned⟩ := (Good.run run).prune now
    refine ⟨fun ticket entry found => ((pruned.tickets ticket entry).mp found).2, ?_⟩
    intro blobId entry found unticketed
    rcases ((pruned.blobs blobId entry).mp found).2 with pinned | recent
    · obtain ⟨ticket, outstanding, present, names⟩ :=
        (good.sound.books.blobHasTicket_iff blobId).mp pinned
      exact absurd names (unticketed ticket outstanding present)
    · exact lt_add_of_tsub_lt_left recent
  · obtain ⟨eager, eagerRun, _⟩ := EagerRun.of_run run
    exact ⟨eager, eagerRun⟩
  · intro eager eagerRun
    obtain ⟨matching, matchingRun, same⟩ := EagerRun.of_run run
    rw [matchingRun.unique eagerRun, same]

theorem scheduled_pruning_eq_eager_shared_blob :
    ∃ history inner,
      replay transparentDigest sharedBlobCalls = some (history, 41, inner) ∧
      (∀ now, 41 ≤ now →
        (∀ ticket entry, (inner.prune now).tickets.lookup ticket = some entry →
          now < entry.expiresAt) ∧
        (∀ blobId entry, (inner.prune now).entries.lookup blobId = some entry →
          (∀ ticket outstanding, (inner.prune now).tickets.lookup ticket = some outstanding →
            outstanding.blobId ≠ blobId) →
          now < entry.lastAccess + blobIdleTtl)) ∧
      (∃ eager, EagerRun transparentDigest history 41 eager) ∧
      (∀ eager, EagerRun transparentDigest history 41 eager →
        undated eager = undated inner) := by
  have played : (replay transparentDigest sharedBlobCalls).map (fun result => result.2.1) =
      some 41 := by decide
  obtain ⟨⟨history, clock, inner⟩, found, rfl⟩ := Option.map_eq_some_iff.mp played
  exact ⟨history, inner, found, scheduled_pruning_eq_eager (Run.of_replay found)⟩

end ArcRelay.BlobStore
