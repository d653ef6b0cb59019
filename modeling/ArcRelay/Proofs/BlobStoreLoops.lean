/-
Module: ArcRelay.Proofs.BlobStoreLoops
Purpose: The two loops that take entries out of the blob cache: what each leaves behind, and
  that both keep the cache sound.
Trusted boundary: none
-/
import ArcRelay.Proofs.BlobStoreAccounting

namespace ArcRelay.BlobStore

open BlobStoreInner

/-! ### Quotas -/

/-- The six limits of the cache. -/
structure Limits (inner : BlobStoreInner) : Prop where
  bytes : inner.totalBytes ≤ maxCachedBlobBytes
  blobs : HashMap.size inner.entries ≤ maxCachedBlobs
  deviceBytes : ∀ owner, HashMap.count inner.deviceBytes owner ≤ maxCachedBlobBytesPerDevice
  deviceBlobs : ∀ owner, HashMap.count inner.deviceEntries owner ≤ maxCachedBlobsPerDevice
  tickets : HashMap.size inner.tickets ≤ maxOutstandingTickets
  deviceTickets : ∀ owner,
    HashMap.count inner.deviceTickets owner ≤ maxOutstandingTicketsPerDevice

/-- No quantity that a limit bounds has grown. -/
structure Shrinks (before after : BlobStoreInner) : Prop where
  bytes : after.totalBytes ≤ before.totalBytes
  blobs : HashMap.size after.entries ≤ HashMap.size before.entries
  deviceBytes : ∀ owner,
    HashMap.count after.deviceBytes owner ≤ HashMap.count before.deviceBytes owner
  deviceBlobs : ∀ owner,
    HashMap.count after.deviceEntries owner ≤ HashMap.count before.deviceEntries owner
  tickets : HashMap.size after.tickets ≤ HashMap.size before.tickets
  deviceTickets : ∀ owner,
    HashMap.count after.deviceTickets owner ≤ HashMap.count before.deviceTickets owner

theorem Limits.new : Limits BlobStoreInner.new where
  bytes := Nat.zero_le _
  blobs := Nat.zero_le _
  deviceBytes := fun _ => Nat.zero_le _
  deviceBlobs := fun _ => Nat.zero_le _
  tickets := Nat.zero_le _
  deviceTickets := fun _ => Nat.zero_le _

variable {before after : BlobStoreInner}

theorem Limits.shrink (limits : Limits before) (shrinks : Shrinks before after) : Limits after where
  bytes := shrinks.bytes.trans limits.bytes
  blobs := shrinks.blobs.trans limits.blobs
  deviceBytes := fun owner => (shrinks.deviceBytes owner).trans (limits.deviceBytes owner)
  deviceBlobs := fun owner => (shrinks.deviceBlobs owner).trans (limits.deviceBlobs owner)
  tickets := shrinks.tickets.trans limits.tickets
  deviceTickets := fun owner => (shrinks.deviceTickets owner).trans (limits.deviceTickets owner)

variable (inner : BlobStoreInner)

theorem Shrinks.refl : Shrinks inner inner :=
  ⟨le_rfl, le_rfl, fun _ => le_rfl, fun _ => le_rfl, le_rfl, fun _ => le_rfl⟩

theorem shrinks_removeEntry (blobId : Bytes) : Shrinks inner (inner.removeEntry blobId) := by
  unfold removeEntry
  cases inner.entries.lookup blobId with
  | none => exact .refl inner
  | some entry =>
      refine ⟨Nat.sub_le _ _, HashMap.size_erase_le _ _, ?_, ?_, le_rfl, fun _ => le_rfl⟩
      · intro owner
        simp only [HashMap.count_decrementAll entry.owners.keys_nodup]
        exact Nat.sub_le _ _
      · intro owner
        simp only [HashMap.count_decrementAll entry.owners.keys_nodup]
        exact Nat.sub_le _ _

theorem shrinks_removeTicket (ticket : Bytes) : Shrinks inner (inner.removeTicket ticket) := by
  unfold removeTicket
  cases inner.tickets.lookup ticket with
  | none => exact .refl inner
  | some =>
      refine { Shrinks.refl inner with tickets := HashMap.size_erase_le _ _, deviceTickets := ?_ }
      intro owner
      simp only [HashMap.count_decrementCounter]
      exact Nat.sub_le _ _

variable {inner : BlobStoreInner} {blobId : Bytes} {old : BlobEntry}

theorem shrinks_setEntry (new : BlobEntry) (present : inner.entries.lookup blobId = some old) :
    Shrinks inner (inner.setEntry blobId new) :=
  { Shrinks.refl inner with blobs := (HashMap.size_insert_present new present).le }

theorem shrinks_dropOwnership (inner : BlobStoreInner) (owner : Bytes) (size : Nat) :
    Shrinks inner (inner.dropOwnership owner size) := by
  refine { Shrinks.refl inner with deviceBytes := ?_, deviceBlobs := ?_ }
  · intro other
    simp only [dropOwnership, HashMap.count_decrementCounter]
    exact Nat.sub_le _ _
  · intro other
    simp only [dropOwnership, HashMap.count_decrementCounter]
    exact Nat.sub_le _ _

/-! ### Frames of the small operations -/

theorem lookup_removeEntry (inner : BlobStoreInner) (blobId other : Bytes) :
    (inner.removeEntry blobId).entries.lookup other =
      if other = blobId then none else inner.entries.lookup other := by
  unfold removeEntry
  cases present : inner.entries.lookup blobId with
  | none => exact HashMap.lookup_of_absent present other
  | some => exact HashMap.lookup_erase inner.entries blobId other

theorem lookup_of_removeEntry {other : Bytes} {entry : BlobEntry}
    (found : (inner.removeEntry blobId).entries.lookup other = some entry) :
    inner.entries.lookup other = some entry := by
  rw [lookup_removeEntry] at found
  split at found
  · cases found
  · exact found

theorem lookup_setEntry (inner : BlobStoreInner) (blobId other : Bytes) (entry : BlobEntry) :
    (inner.setEntry blobId entry).entries.lookup other =
      if other = blobId then some entry else inner.entries.lookup other :=
  HashMap.lookup_insert inner.entries blobId other entry

theorem lookup_removeTicket (inner : BlobStoreInner) (ticket other : Bytes) :
    (inner.removeTicket ticket).tickets.lookup other =
      if other = ticket then none else inner.tickets.lookup other := by
  unfold removeTicket
  cases present : inner.tickets.lookup ticket with
  | none => exact HashMap.lookup_of_absent present other
  | some => exact HashMap.lookup_erase inner.tickets ticket other

variable {ticket : Bytes}

theorem lookup_of_removeTicket {other : Bytes} {entry : TicketEntry}
    (found : (inner.removeTicket ticket).tickets.lookup other = some entry) :
    inner.tickets.lookup other = some entry := by
  rw [lookup_removeTicket] at found
  split at found
  · cases found
  · exact found

theorem removeEntry_frame (inner : BlobStoreInner) (blobId : Bytes) :
    (inner.removeEntry blobId).insertionOrder = inner.insertionOrder ∧
      (inner.removeEntry blobId).tickets = inner.tickets ∧
      (inner.removeEntry blobId).blobTickets = inner.blobTickets ∧
      (inner.removeEntry blobId).nextPruneAt = inner.nextPruneAt := by
  unfold removeEntry
  cases inner.entries.lookup blobId with
  | none => exact ⟨rfl, rfl, rfl, rfl⟩
  | some => exact ⟨rfl, rfl, rfl, rfl⟩

theorem removeTicket_frame (inner : BlobStoreInner) (ticket : Bytes) :
    (inner.removeTicket ticket).insertionOrder = inner.insertionOrder ∧
      (inner.removeTicket ticket).entries = inner.entries ∧
      (inner.removeTicket ticket).nextPruneAt = inner.nextPruneAt := by
  unfold removeTicket
  cases inner.tickets.lookup ticket with
  | none => exact ⟨rfl, rfl, rfl⟩
  | some => exact ⟨rfl, rfl, rfl⟩

variable {first second : BlobStoreInner}

/-- Whether a blob is pinned reads nothing but the ticket counts. -/
theorem blobHasTicket_congr (same : first.blobTickets = second.blobTickets) (blobId : Bytes) :
    first.blobHasTicket blobId = second.blobHasTicket blobId := by
  unfold blobHasTicket
  rw [same]

/-! ### Soundness -/

/-- The whole invariant of the cache, with the order of insertion given separately: the loops
hold part of it in a local variable. -/
structure Sound (sized : Prop) (inner : BlobStoreInner) (order : List Bytes) : Prop where
  books : Books sized inner
  owned : Owned inner
  listed : Listed inner order
  limits : Limits inner

variable {sized : Prop}

theorem Sound.new : Sound sized BlobStoreInner.new [] where
  books := Books.new
  owned := by
    intro blobId entry present
    simp [BlobStoreInner.new] at present
  listed := ⟨List.nodup_nil, by simp [BlobStoreInner.new]⟩
  limits := Limits.new

variable {order : List Bytes}

/-- Exact sizes may be asked for under a stronger condition. -/
theorem Sound.imp {stronger : Prop} (sound : Sound sized inner order) (implies : stronger → sized) :
    Sound stronger inner order :=
  ⟨sound.books.imp implies, sound.owned, sound.listed, sound.limits⟩

theorem Sound.setOrder (sound : Sound sized inner order) (field : List Bytes) :
    Sound sized { inner with insertionOrder := field } order :=
  ⟨sound.books.setOrder field, sound.owned, sound.listed, { sound.limits with }⟩

theorem Sound.setDeadline (sound : Sound sized inner order) (deadline : Option Instant) :
    Sound sized { inner with nextPruneAt := deadline } order :=
  ⟨sound.books.setDeadline deadline, sound.owned, sound.listed, { sound.limits with }⟩

theorem Sound.mem_entries (sound : Sound sized inner order) (blobId : Bytes)
    (member : blobId ∈ order) :
    ∃ entry, inner.entries.lookup blobId = some entry :=
  Option.isSome_iff_exists.mp (AList.lookup_isSome.mpr ((sound.listed.2 blobId).mp member))

variable {earlier later : List Bytes}

/-- Taking an id out of the order along with its entry. -/
theorem Listed.remove (listed : Listed before (earlier ++ blobId :: later))
    (gone : after.entries.lookup blobId = none)
    (kept : ∀ other, other ≠ blobId →
      (other ∈ after.entries ↔ other ∈ before.entries)) :
    Listed after (earlier ++ later) := by
  obtain ⟨nodup, member⟩ := listed
  have middle := List.nodup_middle.mp nodup
  obtain ⟨fresh, rest⟩ := List.nodup_cons.mp middle
  refine ⟨rest, fun other => ?_⟩
  by_cases same : other = blobId
  · subst other
    exact iff_of_false fresh (AList.lookup_eq_none.mp gone)
  · rw [kept other same, ← member other]
    simp [same]

/-- The order stays right when no key comes or goes. -/
theorem Listed.keep (listed : Listed before order)
    (kept : ∀ other, other ∈ after.entries ↔ other ∈ before.entries) : Listed after order :=
  ⟨listed.1, fun other => (listed.2 other).trans (kept other).symm⟩

theorem mem_setEntry (new : BlobEntry) (present : inner.entries.lookup blobId = some old)
    (other : Bytes) :
    other ∈ (inner.setEntry blobId new).entries ↔ other ∈ inner.entries := by
  rw [← AList.lookup_isSome, ← AList.lookup_isSome, lookup_setEntry]
  split
  next same =>
    rw [same, present]
    rfl
  next => rfl

theorem mem_removeEntry_of_ne {other : Bytes} (different : other ≠ blobId) :
    other ∈ (inner.removeEntry blobId).entries ↔ other ∈ inner.entries := by
  rw [← AList.lookup_isSome, ← AList.lookup_isSome, lookup_removeEntry, if_neg different]

/-- Dropping an unpinned entry keeps the cache sound. -/
theorem Sound.removeEntry (sound : Sound sized inner (earlier ++ blobId :: later))
    (free : inner.blobHasTicket blobId = false) :
    Sound sized (inner.removeEntry blobId) (earlier ++ later) where
  books := sound.books.removeEntry free
  owned := fun other entry found => sound.owned other entry (lookup_of_removeEntry found)
  listed := sound.listed.remove (by simp [lookup_removeEntry])
    fun other different => mem_removeEntry_of_ne different
  limits := sound.limits.shrink (shrinks_removeEntry inner blobId)

theorem Sound.removeTicket (sound : Sound sized inner order) (ticket : Bytes) :
    Sound sized (inner.removeTicket ticket) order where
  books := sound.books.removeTicket ticket
  owned := by
    intro blobId entry found
    rw [(removeTicket_frame inner ticket).2.1] at found
    exact sound.owned blobId entry found
  listed := sound.listed.keep fun other => by rw [(removeTicket_frame inner ticket).2.1]
  limits := sound.limits.shrink (shrinks_removeTicket inner ticket)

/-- Rewriting an entry in place with the same bytes and owners. -/
theorem Sound.refreshEntry (sound : Sound sized inner order) {new : BlobEntry}
    (present : inner.entries.lookup blobId = some old) (bytes : new.bytes = old.bytes)
    (owners : new.owners = old.owners)
    (delivered : ∀ owner, owner ∈ new.deliveredOwners → owner ∈ new.owners) :
    Sound sized (inner.setEntry blobId new) order where
  books := sound.books.refreshEntry present bytes owners delivered
  owned := by
    intro other entry found
    rcases HashMap.lookup_of_insert found with ⟨rfl, rfl⟩ | ⟨-, found⟩
    · rw [owners]
      exact sound.owned other old present
    · exact sound.owned other entry found
  listed := sound.listed.keep (mem_setEntry new present)
  limits := sound.limits.shrink (shrinks_setEntry new present)

/-! ### Reclamation -/

/-- What `reclaim_delivered_for_owner` may have done to one blob: nothing, or, if no ticket
pinned it and it had been delivered to `owner`, taken `owner` off its owners and dropped it
when nobody else was left. -/
inductive ReclaimedBlob (owner blobId : Bytes) (before after : BlobStoreInner) : Prop where
  | untouched (same : after.entries.lookup blobId = before.entries.lookup blobId)
  | released {entry : BlobEntry} (present : before.entries.lookup blobId = some entry)
      (free : before.blobHasTicket blobId = false) (delivered : owner ∈ entry.deliveredOwners)
      (rest : after.entries.lookup blobId = some (withoutOwner entry owner))
  | dropped {entry : BlobEntry} (present : before.entries.lookup blobId = some entry)
      (free : before.blobHasTicket blobId = false) (delivered : owner ∈ entry.deliveredOwners)
      (alone : ∀ other, other ∈ entry.owners → other = owner)
      (gone : after.entries.lookup blobId = none)

/-- What `reclaim_delivered_for_owner` may have done to the whole store. -/
structure Reclaimed (owner : Bytes) (before after : BlobStoreInner) : Prop where
  blobs : ∀ blobId, ReclaimedBlob owner blobId before after
  tickets : after.tickets = before.tickets
  blobTickets : after.blobTickets = before.blobTickets
  nextPruneAt : after.nextPruneAt = before.nextPruneAt

theorem Reclaimed.refl (owner : Bytes) (inner : BlobStoreInner) : Reclaimed owner inner inner :=
  ⟨fun _ => .untouched rfl, rfl, rfl, rfl⟩

variable {owner : Bytes} {third : BlobStoreInner}

/-- A blob given up once is not delivered to `owner` any more, so a second pass leaves it. -/
theorem ReclaimedBlob.trans (tickets : second.blobTickets = first.blobTickets)
    (early : ReclaimedBlob owner blobId first second)
    (late : ReclaimedBlob owner blobId second third) :
    ReclaimedBlob owner blobId first third := by
  have samePin := blobHasTicket_congr tickets blobId
  cases early with
  | untouched same =>
      cases late with
      | untouched same' => exact .untouched (same'.trans same)
      | released present free delivered rest =>
          exact .released (same ▸ present) (samePin ▸ free) delivered rest
      | dropped present free delivered alone gone =>
          exact .dropped (same ▸ present) (samePin ▸ free) delivered alone gone
  | released present free delivered rest =>
      have undelivered : ∀ {entry}, second.entries.lookup blobId = some entry →
          owner ∉ entry.deliveredOwners := by
        intro entry found
        rw [rest] at found
        rw [← Option.some.inj found]
        simp [withoutOwner]
      cases late with
      | untouched same => exact .released present free delivered (same.trans rest)
      | released found _ again => exact absurd again (undelivered found)
      | dropped found _ again => exact absurd again (undelivered found)
  | dropped present free delivered alone gone =>
      cases late with
      | untouched same => exact .dropped present free delivered alone (same.trans gone)
      | released found => simp [gone] at found
      | dropped found => simp [gone] at found

theorem Reclaimed.trans (early : Reclaimed owner first second)
    (late : Reclaimed owner second third) :
    Reclaimed owner first third where
  blobs := fun blobId => (early.blobs blobId).trans early.blobTickets (late.blobs blobId)
  tickets := late.tickets.trans early.tickets
  blobTickets := late.blobTickets.trans early.blobTickets
  nextPruneAt := late.nextPruneAt.trans early.nextPruneAt

theorem reclaimed_pushBack (owner : Bytes) (inner : BlobStoreInner) (blobId : Bytes) :
    Reclaimed owner inner (inner.pushBack blobId) :=
  ⟨fun _ => .untouched rfl, rfl, rfl, rfl⟩

/-- The state after one delivered, unpinned blob lost `owner`. -/
def releaseOwner (inner : BlobStoreInner) (blobId owner : Bytes) (entry : BlobEntry) :
    BlobStoreInner :=
  (inner.setEntry blobId (withoutOwner entry owner)).dropOwnership owner entry.bytes.length

theorem lookup_releaseOwner (inner : BlobStoreInner) (blobId owner other : Bytes)
    (entry : BlobEntry) :
    (releaseOwner inner blobId owner entry).entries.lookup other =
      if other = blobId then some (withoutOwner entry owner)
      else inner.entries.lookup other :=
  lookup_setEntry inner blobId other (withoutOwner entry owner)

variable {entry : BlobEntry}

theorem Limits.releaseOwner (limits : Limits inner)
    (present : inner.entries.lookup blobId = some entry) (owner : Bytes) :
    Limits (releaseOwner inner blobId owner entry) :=
  (limits.shrink (shrinks_setEntry (withoutOwner entry owner) present)).shrink
    (shrinks_dropOwnership _ owner entry.bytes.length)

/-- One owner of several gives a blob up. -/
theorem Sound.releaseOwner (sound : Sound sized inner order)
    (free : inner.blobHasTicket blobId = false)
    (present : inner.entries.lookup blobId = some entry) (owns : owner ∈ entry.owners)
    (shared : (entry.owners.erase owner).keys ≠ []) :
    Sound sized (releaseOwner inner blobId owner entry) order where
  books := sound.books.reclaimOwner free present owns
  owned := by
    intro other kept found
    rcases HashMap.lookup_of_insert found with ⟨rfl, rfl⟩ | ⟨-, found⟩
    · obtain ⟨someone, member⟩ := List.exists_mem_of_ne_nil _ shared
      exact ⟨someone, AList.mem_keys.mpr member⟩
    · exact sound.owned other kept found
  listed := sound.listed.keep (mem_setEntry (withoutOwner entry owner) present)
  limits := sound.limits.releaseOwner present owner

theorem reclaimed_releaseOwner (free : inner.blobHasTicket blobId = false)
    (present : inner.entries.lookup blobId = some entry)
    (delivered : owner ∈ entry.deliveredOwners) :
    Reclaimed owner inner (releaseOwner inner blobId owner entry) where
  blobs := by
    intro other
    by_cases same : other = blobId
    · subst other
      exact .released present free delivered (by simp [lookup_releaseOwner])
    · exact .untouched (by simp [lookup_releaseOwner, same])
  tickets := rfl
  blobTickets := rfl
  nextPruneAt := rfl

/-- The last owner gives a blob up, and the blob goes. -/
theorem Sound.releaseLastOwner (sound : Sound sized inner (earlier ++ blobId :: later))
    (free : inner.blobHasTicket blobId = false)
    (present : inner.entries.lookup blobId = some entry) (owns : owner ∈ entry.owners) :
    Sound sized ((BlobStore.releaseOwner inner blobId owner entry).removeEntry blobId)
      (earlier ++ later) where
  books := (sound.books.reclaimOwner free present owns).removeEntry free
  owned := by
    intro other kept found
    rw [lookup_removeEntry, lookup_releaseOwner] at found
    split_ifs at found
    exact sound.owned other kept found
  listed := sound.listed.remove (by simp [lookup_removeEntry]) fun other different =>
    (mem_removeEntry_of_ne different).trans (mem_setEntry (withoutOwner entry owner) present other)
  limits := (sound.limits.releaseOwner present owner).shrink (shrinks_removeEntry _ blobId)

theorem reclaimed_releaseLastOwner (free : inner.blobHasTicket blobId = false)
    (present : inner.entries.lookup blobId = some entry)
    (delivered : owner ∈ entry.deliveredOwners) (alone : (entry.owners.erase owner).keys = []) :
    Reclaimed owner inner ((releaseOwner inner blobId owner entry).removeEntry blobId) where
  blobs := by
    intro other
    by_cases same : other = blobId
    · subst other
      refine .dropped present free delivered ?_ (by simp [lookup_removeEntry])
      intro someone member
      by_contra different
      have kept : someone ∈ entry.owners.erase owner := AList.mem_erase.mpr ⟨different, member⟩
      rw [← AList.mem_keys.symm.eq, alone] at kept
      exact List.not_mem_nil kept
    · exact .untouched (by simp [lookup_removeEntry, lookup_releaseOwner, same])
  tickets := (removeEntry_frame _ blobId).2.1
  blobTickets := (removeEntry_frame _ blobId).2.2.1
  nextPruneAt := (removeEntry_frame _ blobId).2.2.2

/-- The reclamation loop: the ids passed so far are back in the order field, the candidates
are still to come. -/
theorem Sound.reclaimLoop (owner : Bytes) (additionalBytes additionalEntries : Nat)
    (candidates : List Bytes) (inner : BlobStoreInner)
    (sound : Sound sized inner (inner.insertionOrder ++ candidates)) :
    Sound sized (reclaimLoop owner additionalBytes additionalEntries candidates inner)
        (reclaimLoop owner additionalBytes additionalEntries candidates inner).insertionOrder ∧
      Reclaimed owner inner
        (reclaimLoop owner additionalBytes additionalEntries candidates inner) := by
  induction candidates generalizing inner with
  | nil => exact ⟨by simpa [BlobStoreInner.reclaimLoop] using sound, Reclaimed.refl owner inner⟩
  | cons blobId candidates ih =>
      obtain ⟨entry, present⟩ := sound.mem_entries blobId (by simp)
      -- An id that goes back to the order field: the next iteration sees the same list.
      have putBack : ∀ next : BlobStoreInner, next.insertionOrder = inner.insertionOrder →
          Sound sized next (inner.insertionOrder ++ blobId :: candidates) →
          Sound sized (next.pushBack blobId)
            ((next.pushBack blobId).insertionOrder ++ candidates) := by
        intro next sameOrder kept
        have split : (next.pushBack blobId).insertionOrder ++ candidates =
            inner.insertionOrder ++ blobId :: candidates := by
          simp [BlobStoreInner.pushBack, sameOrder]
        rw [split]
        exact kept.setOrder _
      have passed := (ih _ (putBack inner rfl sound)).imp_right
        (reclaimed_pushBack owner inner blobId).trans
      unfold BlobStoreInner.reclaimLoop
      by_cases room : inner.ownerHasRoom owner additionalBytes additionalEntries = true
      · rw [if_pos room]
        exact ⟨sound.setOrder _, ⟨fun _ => .untouched rfl, rfl, rfl, rfl⟩⟩
      rw [if_neg room]
      by_cases pinned : inner.blobHasTicket blobId = true
      · rw [if_pos pinned]
        exact passed
      rw [if_neg pinned]
      have free : inner.blobHasTicket blobId = false := by simpa using pinned
      simp only [present]
      by_cases delivered : owner ∈ entry.deliveredOwners
      · have owns := sound.books.delivered blobId entry owner present delivered
        rw [if_neg (not_not.mpr delivered), if_neg (not_not.mpr owns)]
        by_cases alone : (entry.owners.erase owner).keys = []
        · rw [if_pos (by rw [alone]; rfl)]
          have order := (removeEntry_frame
            (BlobStore.releaseOwner inner blobId owner entry) blobId).1
          have soundNext := sound.releaseLastOwner free present owns
          have reclaimedNext := reclaimed_releaseLastOwner free present delivered alone
          obtain ⟨soundAfter, reclaimed⟩ := ih _ (by rw [order]; exact soundNext)
          exact ⟨soundAfter, reclaimedNext.trans reclaimed⟩
        · rw [if_neg (by simpa using alone)]
          have soundNext := sound.releaseOwner free present owns alone
          have reclaimedNext := reclaimed_releaseOwner free present delivered
          obtain ⟨soundAfter, reclaimed⟩ := ih _
            (putBack (BlobStore.releaseOwner inner blobId owner entry) rfl soundNext)
          exact ⟨soundAfter,
            (reclaimedNext.trans (reclaimed_pushBack owner _ blobId)).trans reclaimed⟩
      · rw [if_pos delivered]
        exact passed

theorem Sound.reclaimDeliveredForOwner (sound : Sound sized inner inner.insertionOrder)
    (owner : Bytes) (additionalBytes additionalEntries : Nat) :
    Sound sized (inner.reclaimDeliveredForOwner owner additionalBytes additionalEntries)
        (inner.reclaimDeliveredForOwner owner additionalBytes
          additionalEntries).insertionOrder ∧
      Reclaimed owner inner
        (inner.reclaimDeliveredForOwner owner additionalBytes additionalEntries) := by
  unfold BlobStoreInner.reclaimDeliveredForOwner
  by_cases room : inner.ownerHasRoom owner additionalBytes additionalEntries = true
  · rw [if_pos room]
    exact ⟨sound, Reclaimed.refl owner inner⟩
  · rw [if_neg room]
    obtain ⟨soundAfter, reclaimed⟩ := Sound.reclaimLoop owner additionalBytes additionalEntries
      inner.insertionOrder { inner with insertionOrder := [] } (sound.setOrder [])
    have taken : Reclaimed owner inner { inner with insertionOrder := [] } :=
      ⟨fun _ => .untouched rfl, rfl, rfl, rfl⟩
    exact ⟨soundAfter, taken.trans reclaimed⟩

/-! ### Pruning -/

/-- A prune is scheduled no later than `bound`. -/
def ScheduledBy (inner : BlobStoreInner) (bound : Instant) : Prop :=
  ∃ deadline, inner.nextPruneAt = some deadline ∧ deadline ≤ bound

/-- The deadline of the next prune covers every ticket and every unpinned blob. -/
structure Scheduled (inner : BlobStoreInner) : Prop where
  tickets : ∀ ticket entry, inner.tickets.lookup ticket = some entry →
    ScheduledBy inner entry.expiresAt
  blobs : ∀ blobId entry, inner.entries.lookup blobId = some entry →
    inner.blobHasTicket blobId = false → ScheduledBy inner (entry.lastAccess + blobIdleTtl)

/-- What a prune at `now` leaves: the tickets that have not expired, and the blobs that such
a ticket pins or that were used within the idle time. -/
structure Pruned (now : Instant) (before after : BlobStoreInner) : Prop where
  tickets : ∀ ticket entry, after.tickets.lookup ticket = some entry ↔
    before.tickets.lookup ticket = some entry ∧ now < entry.expiresAt
  blobs : ∀ blobId entry, after.entries.lookup blobId = some entry ↔
    before.entries.lookup blobId = some entry ∧
      (after.blobHasTicket blobId = true ∨ now - entry.lastAccess < blobIdleTtl)

theorem ScheduledBy.mono {bound later : Instant} (scheduled : ScheduledBy inner bound)
    (ordered : bound ≤ later) :
    ScheduledBy inner later := by
  obtain ⟨deadline, next, early⟩ := scheduled
  exact ⟨deadline, next, early.trans ordered⟩

theorem ScheduledBy.schedulePrune {bound : Instant} (scheduled : ScheduledBy inner bound)
    (deadline : Instant) :
    ScheduledBy (inner.schedulePrune deadline) bound := by
  obtain ⟨next, found, early⟩ := scheduled
  refine ⟨min next deadline, ?_, (Nat.min_le_left _ _).trans early⟩
  simp [BlobStoreInner.schedulePrune, found]

theorem scheduledBy_schedulePrune (inner : BlobStoreInner) (deadline : Instant) :
    ScheduledBy (inner.schedulePrune deadline) deadline := by
  unfold ScheduledBy BlobStoreInner.schedulePrune
  cases inner.nextPruneAt with
  | none => exact ⟨deadline, rfl, le_rfl⟩
  | some next => exact ⟨min next deadline, rfl, Nat.min_le_right _ _⟩

variable {now : Instant}

theorem mem_expiredTickets :
    ticket ∈ inner.expiredTickets now ↔
      ∃ entry, inner.tickets.lookup ticket = some entry ∧ entry.expiresAt ≤ now := by
  unfold expiredTickets
  simp only [List.mem_map, List.mem_filter, decide_eq_true_eq]
  constructor
  · rintro ⟨⟨key, entry⟩, ⟨member, expired⟩, rfl⟩
    exact ⟨entry, AList.mem_lookup_iff.mpr member, expired⟩
  · rintro ⟨entry, present, expired⟩
    exact ⟨⟨ticket, entry⟩, ⟨AList.mem_lookup_iff.mp present, expired⟩, rfl⟩

/-- Removing a list of tickets leaves the others and everything else alone. -/
theorem removeTickets_frame (tickets : List Bytes) (inner : BlobStoreInner) :
    (tickets.foldl removeTicket inner).entries = inner.entries ∧
      (tickets.foldl removeTicket inner).insertionOrder = inner.insertionOrder ∧
      ∀ other, (tickets.foldl removeTicket inner).tickets.lookup other =
        if other ∈ tickets then none else inner.tickets.lookup other := by
  induction tickets generalizing inner with
  | nil => simp
  | cons ticket _ ih =>
      obtain ⟨entries, order, lookup⟩ := ih (inner.removeTicket ticket)
      have frame := removeTicket_frame inner ticket
      refine ⟨entries.trans frame.2.1, order.trans frame.1, fun other => ?_⟩
      rw [List.foldl_cons, lookup, lookup_removeTicket]
      by_cases same : other = ticket <;> simp [same]

theorem Sound.removeTickets (tickets : List Bytes) (sound : Sound sized inner order) :
    Sound sized (tickets.foldl BlobStoreInner.removeTicket inner) order := by
  induction tickets generalizing inner with
  | nil => exact sound
  | cons ticket _ ih =>
      exact ih (sound.removeTicket ticket)

theorem pruneTickets_frame (inner : BlobStoreInner) (now : Instant) :
    (inner.pruneTickets now).entries = inner.entries ∧
      (inner.pruneTickets now).insertionOrder = inner.insertionOrder ∧
      ∀ ticket entry, (inner.pruneTickets now).tickets.lookup ticket = some entry ↔
        inner.tickets.lookup ticket = some entry ∧ now < entry.expiresAt := by
  obtain ⟨entries, order, lookup⟩ :=
    removeTickets_frame (inner.expiredTickets now) { inner with nextPruneAt := none }
  refine ⟨entries, order, fun ticket entry => ?_⟩
  have remaining : (inner.pruneTickets now).tickets.lookup ticket =
      if ticket ∈ inner.expiredTickets now then none else inner.tickets.lookup ticket :=
    lookup ticket
  rw [remaining]
  by_cases expired : ticket ∈ inner.expiredTickets now
  · obtain ⟨found, present, past⟩ := mem_expiredTickets.mp expired
    rw [if_pos expired]
    constructor
    · exact nofun
    · rintro ⟨same, future⟩
      rw [present] at same
      rw [Option.some.inj same] at past
      exact absurd past (not_le.mpr future)
  · rw [if_neg expired]
    constructor
    · intro present
      refine ⟨present, not_le.mp fun past => ?_⟩
      exact expired (mem_expiredTickets.mpr ⟨entry, present, past⟩)
    · exact And.left

theorem Sound.pruneTickets (sound : Sound sized inner order) (now : Instant) :
    Sound sized (inner.pruneTickets now) order :=
  (Sound.removeTickets (inner.expiredTickets now) (sound.setDeadline none)).setDeadline _

/-- The recomputed deadline is no later than the expiry of any remaining ticket. -/
theorem scheduledBy_pruneTickets (inner : BlobStoreInner) (now : Instant) {entry : TicketEntry}
    (present : (inner.pruneTickets now).tickets.lookup ticket = some entry) :
    ScheduledBy (inner.pruneTickets now) entry.expiresAt := by
  set expiries := (inner.pruneTickets now).tickets.entries.map fun ticket => ticket.2.expiresAt
    with expiriesEq
  have member : entry.expiresAt ∈ expiries :=
    List.mem_map.mpr ⟨⟨ticket, entry⟩, AList.mem_lookup_iff.mp present, rfl⟩
  cases least : expiries.min? with
  | none =>
      rw [List.min?_eq_none_iff] at least
      rw [least] at member
      exact absurd member List.not_mem_nil
  | some deadline =>
      exact ⟨deadline, least, (List.min?_eq_some_iff.mp least).2 _ member⟩

/-- The blob loop of a prune drops this blob: no ticket pins it and it has been idle. -/
def IdleAt (now : Instant) (inner : BlobStoreInner) (blobId : Bytes) : Prop :=
  inner.blobHasTicket blobId = false ∧
    ∃ entry, inner.entries.lookup blobId = some entry ∧ blobIdleTtl ≤ now - entry.lastAccess

/-- One iteration of the blob loop on a blob that is present. -/
theorem pruneBlob_of_lookup (now : Instant) (present : inner.entries.lookup blobId = some entry) :
    (IdleAt now inner blobId ∧ pruneBlob now inner blobId = inner.removeEntry blobId) ∨
      (¬ IdleAt now inner blobId ∧ inner.blobHasTicket blobId = true ∧
        pruneBlob now inner blobId = inner.pushBack blobId) ∨
      (¬ IdleAt now inner blobId ∧
        pruneBlob now inner blobId =
          (inner.schedulePrune (entry.lastAccess + blobIdleTtl)).pushBack blobId) := by
  have idleIff : IdleAt now inner blobId ↔
      inner.blobHasTicket blobId = false ∧ blobIdleTtl ≤ now - entry.lastAccess := by
    simp [IdleAt, present]
  cases pinned : inner.blobHasTicket blobId with
  | true => simp [pruneBlob, present, pinned, idleIff]
  | false =>
      by_cases idle : blobIdleTtl ≤ now - entry.lastAccess
      · simp [pruneBlob, present, pinned, idleIff, idle]
      · simp [pruneBlob, present, pinned, idleIff, idle]

/-- What the blob loop has done after passing the ids of `passed`. -/
structure BlobsPruned (now : Instant) (passed : List Bytes) (before after : BlobStoreInner) :
    Prop where
  tickets : after.tickets = before.tickets
  blobTickets : after.blobTickets = before.blobTickets
  dropped : ∀ blobId ∈ passed, IdleAt now before blobId → after.entries.lookup blobId = none
  kept : ∀ blobId, ¬ (blobId ∈ passed ∧ IdleAt now before blobId) →
    after.entries.lookup blobId = before.entries.lookup blobId
  scheduled : ∀ bound, ScheduledBy before bound → ScheduledBy after bound
  rescheduled : ∀ blobId ∈ passed, ∀ entry, after.entries.lookup blobId = some entry →
    after.blobHasTicket blobId = false → ScheduledBy after (entry.lastAccess + blobIdleTtl)

theorem IdleAt.congr (tickets : second.blobTickets = first.blobTickets)
    (lookup : second.entries.lookup blobId = first.entries.lookup blobId) :
    IdleAt now second blobId ↔ IdleAt now first blobId := by
  unfold IdleAt
  rw [blobHasTicket_congr tickets, lookup]

theorem BlobsPruned.cons {ids : List Bytes} (fresh : blobId ∉ ids)
    (head : BlobsPruned now [blobId] first second) (tail : BlobsPruned now ids second third) :
    BlobsPruned now (blobId :: ids) first third := by
  have sameElsewhere : ∀ other, other ≠ blobId →
      second.entries.lookup other = first.entries.lookup other := by
    intro other different
    exact head.kept other fun ⟨member, _⟩ => different (List.mem_singleton.mp member)
  have sameHere : third.entries.lookup blobId = second.entries.lookup blobId :=
    tail.kept blobId fun ⟨member, _⟩ => fresh member
  refine
    { tickets := tail.tickets.trans head.tickets
      blobTickets := tail.blobTickets.trans head.blobTickets
      dropped := ?_
      kept := ?_
      scheduled := fun bound early => tail.scheduled bound (head.scheduled bound early)
      rescheduled := ?_ }
  · intro other member idle
    by_cases same : other = blobId
    · subst other
      rw [sameHere]
      exact head.dropped blobId (by simp) idle
    · refine tail.dropped other (by simpa [same] using member) ?_
      exact (IdleAt.congr head.blobTickets (sameElsewhere other same)).mpr idle
  · intro other live
    by_cases same : other = blobId
    · subst other
      rw [sameHere]
      exact head.kept blobId fun ⟨_, idle⟩ => live ⟨by simp, idle⟩
    · rw [← sameElsewhere other same]
      refine tail.kept other fun ⟨member, idle⟩ => live ⟨by simp [member], ?_⟩
      exact (IdleAt.congr head.blobTickets (sameElsewhere other same)).mp idle
  · intro other member entry found free
    by_cases same : other = blobId
    · subst other
      rw [sameHere] at found
      rw [blobHasTicket_congr tail.blobTickets] at free
      exact tail.scheduled _ (head.rescheduled blobId (by simp) entry found free)
    · exact tail.rescheduled other (by simpa [same] using member) entry found free

/-- One iteration of the blob loop. -/
theorem Sound.pruneBlob {candidates : List Bytes}
    (sound : Sound sized inner (inner.insertionOrder ++ blobId :: candidates)) (now : Instant) :
    Sound sized (pruneBlob now inner blobId)
        ((pruneBlob now inner blobId).insertionOrder ++ candidates) ∧
      BlobsPruned now [blobId] inner (pruneBlob now inner blobId) := by
  obtain ⟨entry, present⟩ := sound.mem_entries blobId (by simp)
  rcases pruneBlob_of_lookup now present with ⟨idle, step⟩ | ⟨live, pinned, step⟩ |
      ⟨live, step⟩
  · -- Idle and unpinned: the entry goes and its id is not put back.
    rw [step]
    have frame := removeEntry_frame inner blobId
    refine ⟨by rw [frame.1]; exact sound.removeEntry idle.1, ?_⟩
    refine
      { tickets := frame.2.1
        blobTickets := frame.2.2.1
        dropped := ?_
        kept := ?_
        scheduled := ?_
        rescheduled := ?_ }
    · intro other member _
      simp [lookup_removeEntry, List.mem_singleton.mp member]
    · intro other live
      have different : other ≠ blobId := by
        rintro rfl
        exact live ⟨by simp, idle⟩
      simp [lookup_removeEntry, different]
    · intro bound scheduled
      unfold ScheduledBy
      rw [frame.2.2.2]
      exact scheduled
    · intro other member found kept
      simp [lookup_removeEntry, List.mem_singleton.mp member] at kept
  · -- Pinned by a ticket: kept, and its own ticket already bounds the deadline.
    rw [step]
    refine ⟨by simpa [BlobStoreInner.pushBack] using sound.setOrder _, ?_⟩
    refine
      { tickets := rfl
        blobTickets := rfl
        dropped := fun other member idle => absurd (List.mem_singleton.mp member ▸ idle) live
        kept := fun _ _ => rfl
        scheduled := fun _ scheduled => scheduled
        rescheduled := ?_ }
    intro other member found _ free
    have unpinned : inner.blobHasTicket blobId = false := List.mem_singleton.mp member ▸ free
    simp [pinned] at unpinned
  · -- Used recently: kept, with a deadline at the end of its idle time.
    rw [step]
    have order : ((inner.schedulePrune (entry.lastAccess + blobIdleTtl)).pushBack
        blobId).insertionOrder ++ candidates =
        inner.insertionOrder ++ blobId :: candidates := by
      simp [BlobStoreInner.pushBack, BlobStoreInner.schedulePrune]
    refine ⟨by rw [order]; exact (sound.setDeadline _).setOrder _, ?_⟩
    refine
      { tickets := rfl
        blobTickets := rfl
        dropped := fun other member idle => absurd (List.mem_singleton.mp member ▸ idle) live
        kept := fun _ _ => rfl
        scheduled := fun _ scheduled => scheduled.schedulePrune _
        rescheduled := ?_ }
    intro other member found kept _
    obtain rfl := List.mem_singleton.mp member
    have entryEq : entry = found := Option.some.inj (present.symm.trans kept)
    rw [← entryEq]
    exact scheduledBy_schedulePrune inner _

/-- The whole blob loop: the ids passed so far are back in the order field. -/
theorem Sound.pruneBlobs {candidates : List Bytes}
    (sound : Sound sized inner (inner.insertionOrder ++ candidates)) (now : Instant) :
    Sound sized (candidates.foldl (BlobStoreInner.pruneBlob now) inner)
        (candidates.foldl (BlobStoreInner.pruneBlob now) inner).insertionOrder ∧
      BlobsPruned now candidates inner
        (candidates.foldl (BlobStoreInner.pruneBlob now) inner) := by
  induction candidates generalizing inner with
  | nil =>
      exact ⟨by simpa using sound, rfl, rfl, nofun, fun _ _ => rfl, fun _ early => early, nofun⟩
  | cons blobId candidates ih =>
      have fresh : blobId ∉ candidates := by
        have suffix := (List.nodup_append.mp sound.listed.1).2.1
        exact (List.nodup_cons.mp suffix).1
      obtain ⟨soundNext, head⟩ := sound.pruneBlob now
      obtain ⟨soundAfter, tail⟩ := ih soundNext
      exact ⟨soundAfter, head.cons fresh tail⟩

/-- Once the loop has passed every blob, exactly the pinned and the recently used remain. -/
theorem BlobsPruned.lookup_iff {passed : List Bytes}
    (pruned : BlobsPruned now passed before after)
    (listed : before.entries.lookup blobId = some entry → blobId ∈ passed) :
    after.entries.lookup blobId = some entry ↔
      before.entries.lookup blobId = some entry ∧
        (after.blobHasTicket blobId = true ∨ now - entry.lastAccess < blobIdleTtl) := by
  have idleIff : before.entries.lookup blobId = some entry →
      (IdleAt now before blobId ↔
        ¬ (after.blobHasTicket blobId = true ∨ now - entry.lastAccess < blobIdleTtl)) := by
    intro present
    rw [blobHasTicket_congr pruned.blobTickets, not_or, not_lt, Bool.not_eq_true]
    simp [IdleAt, present]
  constructor
  · intro found
    by_cases gone : blobId ∈ passed ∧ IdleAt now before blobId
    · rw [pruned.dropped blobId gone.1 gone.2] at found
      cases found
    · rw [pruned.kept blobId gone] at found
      refine ⟨found, ?_⟩
      by_contra idle
      exact gone ⟨listed found, (idleIff found).mpr idle⟩
  · rintro ⟨present, live⟩
    rw [pruned.kept blobId fun gone => (idleIff present).mp gone.2 live]
    exact present

/-- The full scan keeps the cache sound, removes exactly what is due, and leaves a deadline
that covers the rest. -/
theorem Sound.fullPrune (sound : Sound sized inner inner.insertionOrder) (now : Instant) :
    Sound sized (inner.fullPrune now) (inner.fullPrune now).insertionOrder ∧
      Pruned now inner (inner.fullPrune now) ∧ Scheduled (inner.fullPrune now) := by
  obtain ⟨entries, order, tickets⟩ := pruneTickets_frame inner now
  have soundScanned : Sound sized { inner.pruneTickets now with insertionOrder := [] }
      ([] ++ (inner.pruneTickets now).insertionOrder) := by
    rw [List.nil_append, order]
    exact (sound.pruneTickets now).setOrder []
  obtain ⟨soundAfter, blobsPruned⟩ := soundScanned.pruneBlobs now
  change BlobsPruned now (inner.pruneTickets now).insertionOrder _ (inner.fullPrune now)
    at blobsPruned
  have sameTickets : (inner.fullPrune now).tickets = (inner.pruneTickets now).tickets :=
    blobsPruned.tickets
  have listed : ∀ blobId entry, inner.entries.lookup blobId = some entry →
      blobId ∈ (inner.pruneTickets now).insertionOrder := by
    intro blobId entry present
    rw [order, sound.listed.2, ← AList.lookup_isSome, present]
    rfl
  have blobs : ∀ blobId entry, (inner.fullPrune now).entries.lookup blobId = some entry ↔
      inner.entries.lookup blobId = some entry ∧
        ((inner.fullPrune now).blobHasTicket blobId = true ∨
          now - entry.lastAccess < blobIdleTtl) := by
    intro blobId entry
    rw [← entries]
    exact blobsPruned.lookup_iff fun present => listed blobId entry (entries ▸ present)
  refine ⟨soundAfter, ⟨?_, blobs⟩, ?_, ?_⟩
  · intro ticket entry
    rw [sameTickets]
    exact tickets ticket entry
  · intro ticket entry present
    rw [sameTickets] at present
    exact blobsPruned.scheduled _ (scheduledBy_pruneTickets inner now present)
  · intro blobId entry present free
    have passed := listed blobId entry ((blobs blobId entry).mp present).1
    exact blobsPruned.rescheduled blobId passed entry present free

theorem idle_lt_of_lt_deadline {now lastAccess : Nat}
    (later : now < lastAccess + blobIdleTtl) : now - lastAccess < blobIdleTtl := by
  have positive : 0 < blobIdleTtl := by decide
  omega

/-- `prune` removes exactly what is due also when it returns early. -/
theorem Sound.prune (sound : Sound sized inner inner.insertionOrder) (scheduled : Scheduled inner)
    (now : Instant) :
    Sound sized (inner.prune now) (inner.prune now).insertionOrder ∧
      Pruned now inner (inner.prune now) ∧ Scheduled (inner.prune now) := by
  -- Without a due deadline neither a ticket nor an unpinned blob can be due.
  have early : (∀ deadline, inner.nextPruneAt = some deadline → now < deadline) →
      Pruned now inner inner := by
    intro notDue
    have future : ∀ {bound}, ScheduledBy inner bound → now < bound := by
      rintro bound ⟨deadline, next, covered⟩
      exact (notDue deadline next).trans_le covered
    constructor
    · intro ticket entry
      exact ⟨fun present => ⟨present, future (scheduled.tickets ticket entry present)⟩, And.left⟩
    · intro blobId entry
      refine ⟨fun present => ⟨present, ?_⟩, And.left⟩
      cases pinned : inner.blobHasTicket blobId with
      | true => exact Or.inl rfl
      | false =>
          have later := future (scheduled.blobs blobId entry present pinned)
          exact Or.inr (idle_lt_of_lt_deadline later)
  unfold BlobStoreInner.prune
  cases next : inner.nextPruneAt with
  | none => exact ⟨sound, early (by simp [next]), scheduled⟩
  | some deadline =>
      simp only
      by_cases notDue : now < deadline
      · rw [if_pos notDue]
        refine ⟨sound, early ?_, scheduled⟩
        intro other same
        rw [next] at same
        exact Option.some.inj same ▸ notDue
      · rw [if_neg notDue]
        exact sound.fullPrune now

end ArcRelay.BlobStore
