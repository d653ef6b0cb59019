/-
Module: ArcRelay.Proofs.BlobStoreAccounting
Purpose: The derived maps of the blob cache agree with its entries and tickets, and every
  operation keeps them so.
Trusted boundary: none
-/
import ArcRelay.Server.BlobStore

namespace ArcRelay.BlobStore

open BlobStoreInner

/-! ### What the derived maps stand for -/

/-- The bytes of one entry. -/
def entrySize (_ : Bytes) (entry : BlobEntry) : Nat := entry.bytes.length

/-- A measure of one entry, counted for `owner` only if it is among the owners. -/
def owned (measure : BlobEntry → Nat) (owner : Bytes) (_ : Bytes) (entry : BlobEntry) : Nat :=
  if owner ∈ entry.owners then measure entry else 0

/-- The bytes of one entry as charged to an owner. -/
def ownedBytes : Bytes → Bytes → BlobEntry → Nat := owned fun entry => entry.bytes.length

/-- One entry as counted for an owner. -/
def ownedEntries : Bytes → Bytes → BlobEntry → Nat := owned fun _ => 1

/-- One ticket as counted for a blob. -/
def ticketsFor (blobId : Bytes) (_ : Bytes) (ticket : TicketEntry) : Nat :=
  if ticket.blobId = blobId then 1 else 0

/-- One ticket as counted for an owner. -/
def ticketsOf (owner : Bytes) (_ : Bytes) (ticket : TicketEntry) : Nat :=
  if ticket.owner = owner then 1 else 0

/-- The six derived maps agree with `entries` and `tickets`, delivery is recorded for owners
only, every ticket pins an entry of its own owner, and no subtraction has clipped.

`insert` charges an owner that joins a known digest for the size of what it passed, so the
byte counts are right, and their subtractions do not clip, as long as equal digests mean equal
sizes.  `sized` carries this condition; everything else holds without it.

Neither `insertionOrder` nor `nextPruneAt` occurs here: the loops of `prune` and
`reclaim_delivered_for_owner` take the order apart while the books stay balanced. -/
structure Books (sized : Prop) (inner : BlobStoreInner) : Prop where
  totalBytes : inner.totalBytes = HashMap.total inner.entries entrySize
  deviceBytes : sized → ∀ owner,
    HashMap.count inner.deviceBytes owner = HashMap.total inner.entries (ownedBytes owner)
  deviceEntries : ∀ owner,
    HashMap.count inner.deviceEntries owner = HashMap.total inner.entries (ownedEntries owner)
  delivered : ∀ blobId entry owner, inner.entries.lookup blobId = some entry →
    owner ∈ entry.deliveredOwners → owner ∈ entry.owners
  blobTickets : ∀ blobId,
    HashMap.count inner.blobTickets blobId = HashMap.total inner.tickets (ticketsFor blobId)
  deviceTickets : ∀ owner,
    HashMap.count inner.deviceTickets owner = HashMap.total inner.tickets (ticketsOf owner)
  transferIds : ∀ value, value ∈ inner.transferIds ↔
    ∃ ticket entry, inner.tickets.lookup ticket = some entry ∧ entry.transferId = value
  transferIdsDistinct : ∀ first second firstEntry secondEntry,
    inner.tickets.lookup first = some firstEntry →
    inner.tickets.lookup second = some secondEntry →
    firstEntry.transferId = secondEntry.transferId → first = second
  pinned : ∀ ticket entry, inner.tickets.lookup ticket = some entry →
    ∃ blob, inner.entries.lookup entry.blobId = some blob ∧ entry.owner ∈ blob.owners
  notSaturated : sized → inner.saturated = false

variable {sized : Prop}

/-- Every entry has an owner. -/
def Owned (inner : BlobStoreInner) : Prop :=
  ∀ blobId entry, inner.entries.lookup blobId = some entry → ∃ owner, owner ∈ entry.owners

/-- `order` lists exactly the keys of `entries`, each once. -/
def Listed (inner : BlobStoreInner) (order : List Bytes) : Prop :=
  order.Nodup ∧ ∀ blobId, blobId ∈ order ↔ blobId ∈ inner.entries

variable {inner : BlobStoreInner}

/-- A blob counts as pinned exactly when some ticket names it. -/
theorem Books.blobHasTicket_iff (books : Books sized inner) (blobId : Bytes) :
    inner.blobHasTicket blobId = true ↔
      ∃ ticket entry, inner.tickets.lookup ticket = some entry ∧ entry.blobId = blobId := by
  have counted : inner.blobHasTicket blobId = true ↔
      0 < HashMap.count inner.blobTickets blobId := by
    unfold blobHasTicket HashMap.count
    cases inner.blobTickets.lookup blobId <;> simp
  rw [counted, books.blobTickets blobId]
  exact HashMap.total_holders_pos

variable {blobId ticket : Bytes}

theorem Books.no_ticket (books : Books sized inner) (free : inner.blobHasTicket blobId = false)
    {entry : TicketEntry} (present : inner.tickets.lookup ticket = some entry) :
    entry.blobId ≠ blobId := by
  intro same
  have pinned := (books.blobHasTicket_iff blobId).mpr ⟨ticket, entry, present, same⟩
  rw [free] at pinned
  exact Bool.false_ne_true pinned

theorem Books.new : Books sized BlobStoreInner.new where
  totalBytes := rfl
  deviceBytes := fun _ _ => rfl
  deviceEntries := fun _ => rfl
  delivered := by simp [BlobStoreInner.new]
  blobTickets := fun _ => rfl
  deviceTickets := fun _ => rfl
  transferIds := by simp [BlobStoreInner.new]
  transferIdsDistinct := by simp [BlobStoreInner.new]
  pinned := by simp [BlobStoreInner.new]
  notSaturated := fun _ => rfl

theorem Books.imp {stronger : Prop} (books : Books sized inner) (implies : stronger → sized) :
    Books stronger inner :=
  { books with
    deviceBytes := fun exact => books.deviceBytes (implies exact)
    notSaturated := fun exact => books.notSaturated (implies exact) }

/-- The books do not read the order of insertion. -/
theorem Books.setOrder (books : Books sized inner) (order : List Bytes) :
    Books sized { inner with insertionOrder := order } :=
  { books with }

/-- The books do not read the prune deadline. -/
theorem Books.setDeadline (books : Books sized inner) (deadline : Option Instant) :
    Books sized { inner with nextPruneAt := deadline } :=
  { books with }

theorem Books.schedulePrune (books : Books sized inner) (deadline : Instant) :
    Books sized (inner.schedulePrune deadline) :=
  books.setDeadline _

theorem Books.pushBack (books : Books sized inner) (blobId : Bytes) :
    Books sized (inner.pushBack blobId) :=
  books.setOrder _

/-! ### Removing an entry -/

variable {owner : Bytes} {entry : BlobEntry}

/-- An owner of an entry is charged at least that entry. -/
theorem Books.charged (books : Books sized inner) (exact : sized)
    (present : inner.entries.lookup blobId = some entry) (owns : owner ∈ entry.owners) :
    entry.bytes.length ≤ HashMap.count inner.deviceBytes owner ∧
      1 ≤ HashMap.count inner.deviceEntries owner := by
  have bytes := HashMap.weight_le_total (ownedBytes owner) present
  have count := HashMap.weight_le_total (ownedEntries owner) present
  rw [books.deviceBytes exact, books.deviceEntries]
  simp only [ownedBytes, ownedEntries, owned, owns, if_true] at bytes count
  exact ⟨bytes, count⟩

/-- Removing a present entry; with exact sizes no subtraction clips. -/
theorem removeEntry_of_lookup (books : Books sized inner)
    (present : inner.entries.lookup blobId = some entry) :
    ∃ saturated, (sized → saturated = false) ∧
      inner.removeEntry blobId =
        { inner with
          entries := inner.entries.erase blobId
          totalBytes := inner.totalBytes - entry.bytes.length
          deviceBytes := decrementAll inner.deviceBytes entry.owners.keys entry.bytes.length
          deviceEntries := decrementAll inner.deviceEntries entry.owners.keys 1
          saturated := saturated } := by
  refine ⟨(inner.removeEntry blobId).saturated, fun exact => ?_,
    by simp only [BlobStoreInner.removeEntry, present]⟩
  have enough : entry.bytes.length ≤ inner.totalBytes := by
    rw [books.totalBytes]
    exact HashMap.weight_le_total entrySize present
  have bytesKept : anyClips inner.deviceBytes entry.bytes.length entry.owners.keys = false :=
    HashMap.anyClips_eq_false entry.owners.keys_nodup fun owner owns =>
      (books.charged exact present (AList.mem_keys.mpr owns)).1
  have entriesKept : anyClips inner.deviceEntries 1 entry.owners.keys = false :=
    HashMap.anyClips_eq_false entry.owners.keys_nodup fun owner owns =>
      (books.charged exact present (AList.mem_keys.mpr owns)).2
  simp [BlobStoreInner.removeEntry, present, bytesKept, entriesKept, Nat.not_lt_of_le enough,
    books.notSaturated exact]

variable {measure : BlobEntry → Nat} {entries : HashMap Bytes BlobEntry}
    {counters : HashMap Bytes Nat}

/-- Counters that track an owned measure keep doing so when an entry goes and each of its
owners is debited. -/
theorem tracked_erase (present : entries.lookup blobId = some entry) (owner : Bytes)
    (tracked : HashMap.count counters owner = HashMap.total entries (owned measure owner)) :
    HashMap.count (decrementAll counters entry.owners.keys (measure entry)) owner =
      HashMap.total (entries.erase blobId) (owned measure owner) := by
  have erased := HashMap.total_erase (owned measure owner) present
  rw [HashMap.count_decrementAll entry.owners.keys_nodup, tracked]
  simp only [← AList.mem_keys]
  simp only [owned] at erased ⊢
  omega

/-- Dropping an entry that no ticket names balances the books. -/
theorem Books.removeEntry (books : Books sized inner) (free : inner.blobHasTicket blobId = false) :
    Books sized (inner.removeEntry blobId) := by
  cases present : inner.entries.lookup blobId with
  | none => simpa [BlobStoreInner.removeEntry, present] using books
  | some =>
      obtain ⟨saturated, exactly, removed⟩ := removeEntry_of_lookup books present
      rw [removed]
      refine
        { books with
          totalBytes := ?_
          deviceBytes := fun exact owner =>
            tracked_erase present owner (books.deviceBytes exact owner)
          deviceEntries := fun owner => tracked_erase present owner (books.deviceEntries owner)
          delivered := fun otherId other owner kept =>
            books.delivered otherId other owner (HashMap.lookup_of_erase kept).2
          pinned := ?_
          notSaturated := exactly }
      · have erased := HashMap.total_erase entrySize present
        have balance := books.totalBytes
        simp only [entrySize] at erased balance ⊢
        omega
      · intro ticket ticketEntry outstanding
        have different := books.no_ticket free outstanding
        simpa [AList.lookup_erase_ne different] using books.pinned ticket ticketEntry outstanding

/-! ### Removing a ticket -/

theorem removeTicket_of_lookup {entry : TicketEntry} (books : Books sized inner)
    (present : inner.tickets.lookup ticket = some entry) :
    inner.removeTicket ticket =
      { inner with
        tickets := inner.tickets.erase ticket
        transferIds := inner.transferIds.erase entry.transferId
        blobTickets := decrementCounter inner.blobTickets entry.blobId 1
        deviceTickets := decrementCounter inner.deviceTickets entry.owner 1 } := by
  have blobKept : counterClips inner.blobTickets entry.blobId 1 = false := by
    apply HashMap.counterClips_eq_false
    rw [books.blobTickets]
    simpa [ticketsFor] using HashMap.weight_le_total (ticketsFor entry.blobId) present
  have deviceKept : counterClips inner.deviceTickets entry.owner 1 = false := by
    apply HashMap.counterClips_eq_false
    rw [books.deviceTickets]
    simpa [ticketsOf] using HashMap.weight_le_total (ticketsOf entry.owner) present
  simp [BlobStoreInner.removeTicket, present, blobKept, deviceKept]

theorem Books.removeTicket (books : Books sized inner) (ticket : Bytes) :
    Books sized (inner.removeTicket ticket) := by
  cases present : inner.tickets.lookup ticket with
  | none => simpa [BlobStoreInner.removeTicket, present] using books
  | some entry =>
      rw [removeTicket_of_lookup books present]
      refine
        { books with
          blobTickets := ?_
          deviceTickets := ?_
          transferIds := ?_
          transferIdsDistinct := fun first second firstEntry secondEntry firstKept secondKept =>
            books.transferIdsDistinct first second firstEntry secondEntry
              (HashMap.lookup_of_erase firstKept).2 (HashMap.lookup_of_erase secondKept).2
          pinned := fun other otherEntry kept =>
            books.pinned other otherEntry (HashMap.lookup_of_erase kept).2 }
      · intro blobId
        have erased := HashMap.total_erase (ticketsFor blobId) present
        simp only [HashMap.count_decrementCounter, books.blobTickets]
        simp only [ticketsFor, eq_comm (a := blobId)] at erased ⊢
        omega
      · intro owner
        have erased := HashMap.total_erase (ticketsOf owner) present
        simp only [HashMap.count_decrementCounter, books.deviceTickets]
        simp only [ticketsOf, eq_comm (a := owner)] at erased ⊢
        omega
      · intro value
        simp only [AList.mem_erase, books.transferIds]
        constructor
        · rintro ⟨different, other, otherEntry, otherPresent, rfl⟩
          refine ⟨other, otherEntry, ?_, rfl⟩
          rw [AList.lookup_erase_ne, otherPresent]
          rintro rfl
          rw [present] at otherPresent
          exact different (congrArg _ (Option.some.inj otherPresent).symm)
        · rintro ⟨other, otherEntry, kept, rfl⟩
          obtain ⟨different, kept⟩ := HashMap.lookup_of_erase kept
          refine ⟨fun sameId => different ?_, other, otherEntry, kept, rfl⟩
          exact books.transferIdsDistinct other ticket otherEntry entry kept present sameId

/-! ### Changing an entry in place -/

variable {old : BlobEntry}

/-- Whatever is written over an entry, if it has its owners, the tickets on it stay good, and
deliveries are to owners if they are in what is written. -/
theorem Books.rewritten (books : Books sized inner) {new : BlobEntry}
    (present : inner.entries.lookup blobId = some old)
    (owners : ∀ owner ∈ old.owners, owner ∈ new.owners)
    (delivered : ∀ owner, owner ∈ new.deliveredOwners → owner ∈ new.owners) :
    (∀ otherId other owner, (inner.entries.insert blobId new).lookup otherId = some other →
      owner ∈ other.deliveredOwners → owner ∈ other.owners) ∧
    ∀ ticket entry, inner.tickets.lookup ticket = some entry →
      ∃ blob, (inner.entries.insert blobId new).lookup entry.blobId = some blob ∧
        entry.owner ∈ blob.owners := by
  constructor
  · intro otherId other owner found
    rcases HashMap.lookup_of_insert found with ⟨rfl, rfl⟩ | ⟨-, found⟩
    · exact delivered owner
    · exact books.delivered otherId other owner found
  · intro ticket entry outstanding
    obtain ⟨blob, found, owns⟩ := books.pinned ticket entry outstanding
    rw [HashMap.lookup_insert]
    split
    next same =>
      rw [same, present] at found
      exact ⟨new, rfl, owners _ (Option.some.inj found ▸ owns)⟩
    next => exact ⟨blob, found, owns⟩

/-- A changed entry with the same bytes and owners leaves the books balanced. -/
theorem Books.refreshEntry (books : Books sized inner) {new : BlobEntry}
    (present : inner.entries.lookup blobId = some old) (bytes : new.bytes = old.bytes)
    (owners : new.owners = old.owners)
    (delivered : ∀ owner, owner ∈ new.deliveredOwners → owner ∈ new.owners) :
    Books sized (inner.setEntry blobId new) := by
  obtain ⟨toOwners, pinned⟩ := books.rewritten present (fun _ => owners ▸ id) delivered
  refine
    { books with
      totalBytes := ?_
      deviceBytes := fun exact owner => ?_
      deviceEntries := fun owner => ?_
      delivered := toOwners
      pinned := pinned }
  · refine books.totalBytes.trans (HashMap.total_insert_congr present ?_).symm
    simp [entrySize, bytes]
  · refine (books.deviceBytes exact owner).trans (HashMap.total_insert_congr present ?_).symm
    simp [ownedBytes, owned, bytes, owners]
  · refine (books.deviceEntries owner).trans (HashMap.total_insert_congr present ?_).symm
    simp [ownedEntries, owned, owners]

/-- An entry after one owner gave it up. -/
def withoutOwner (entry : BlobEntry) (owner : Bytes) : BlobEntry :=
  { entry with
    deliveredOwners := entry.deliveredOwners.erase owner
    owners := entry.owners.erase owner }

/-- Counters that track an owned measure keep doing so when one owner of one entry is
removed and debited. -/
theorem tracked_release (present : entries.lookup blobId = some entry)
    (owns : owner ∈ entry.owners) (kept : measure (withoutOwner entry owner) = measure entry)
    (other : Bytes)
    (tracked : HashMap.count counters other = HashMap.total entries (owned measure other)) :
    HashMap.count (decrementCounter counters owner (measure entry)) other =
      HashMap.total (entries.insert blobId (withoutOwner entry owner))
        (owned measure other) := by
  have exchanged := HashMap.total_insert_present (withoutOwner entry owner)
    (owned measure other) present
  rw [HashMap.count_decrementCounter, tracked]
  by_cases same : other = owner
  · subst other
    simp only [owned, owns, if_true, withoutOwner, AList.mem_erase, ne_eq,
      not_true_eq_false, false_and, if_false] at exchanged ⊢
    omega
  · simp only [owned, kept] at exchanged ⊢
    simp only [withoutOwner, AList.mem_erase, ne_eq, same,
      not_false_eq_true, true_and, if_false] at exchanged ⊢
    omega

/-- Reclaiming one delivered, unpinned entry from one owner balances the books. -/
theorem Books.reclaimOwner (books : Books sized inner) (free : inner.blobHasTicket blobId = false)
    (present : inner.entries.lookup blobId = some entry) (owns : owner ∈ entry.owners) :
    Books sized ((inner.setEntry blobId (withoutOwner entry owner)).dropOwnership owner
      entry.bytes.length) := by
  refine
    { books with
      totalBytes := books.totalBytes.trans (HashMap.total_insert_congr present rfl).symm
      deviceBytes := fun exact other =>
        tracked_release present owns rfl other (books.deviceBytes exact other)
      deviceEntries := fun other =>
        tracked_release present owns rfl other (books.deviceEntries other)
      delivered := ?_
      pinned := ?_
      notSaturated := ?_ }
  · intro otherId other candidate found
    rcases HashMap.lookup_of_insert found with ⟨rfl, rfl⟩ | ⟨-, found⟩
    · simp only [withoutOwner, AList.mem_erase]
      exact fun member => ⟨member.1, books.delivered otherId entry candidate present member.2⟩
    · exact books.delivered otherId other candidate found
  · intro ticket ticketEntry outstanding
    have different := books.no_ticket free outstanding
    simpa [setEntry, dropOwnership, AList.lookup_insert_ne different] using
      books.pinned ticket ticketEntry outstanding
  · intro exact
    have charged := books.charged exact present owns
    simp [dropOwnership, setEntry, books.notSaturated exact,
      HashMap.counterClips_eq_false charged.1, HashMap.counterClips_eq_false charged.2]

/-! ### Adding an owner, an entry, a ticket -/

/-- Counters that track an owned measure keep doing so when one owner joins one entry and is
charged. -/
theorem tracked_join {new : BlobEntry} (present : entries.lookup blobId = some old)
    (foreign : owner ∉ old.owners) (owners : new.owners = old.owners.insert owner ())
    (kept : measure new = measure old) (other : Bytes)
    (tracked : HashMap.count counters other = HashMap.total entries (owned measure other)) :
    HashMap.count (counters.insert owner (HashMap.count counters owner + measure old)) other =
      HashMap.total (entries.insert blobId new) (owned measure other) := by
  have exchanged := HashMap.total_insert_present new (owned measure other) present
  rw [HashMap.count_insert_add, tracked]
  by_cases same : other = owner
  · subst other
    simp only [owned, kept, owners, foreign, if_false, if_true, AList.mem_insert,
      true_or] at exchanged ⊢
    omega
  · simp only [owned, kept, owners, AList.mem_insert, same, false_or, if_false] at exchanged ⊢
    omega

/-- Counters that track an owned measure keep doing so when a new entry appears and its
single owner is charged. -/
theorem tracked_new (measure : BlobEntry → Nat) (absent : entries.lookup blobId = none)
    (owners : entry.owners = AList.singleton owner ()) (other : Bytes)
    (tracked : HashMap.count counters other = HashMap.total entries (owned measure other)) :
    HashMap.count (counters.insert owner (HashMap.count counters owner + measure entry)) other =
      HashMap.total (entries.insert blobId entry) (owned measure other) := by
  rw [HashMap.count_insert_add, tracked, HashMap.total_insert_new _ _ absent]
  simp [owned, owners, AList.mem_keys]

/-- Within an owner's quota the saturating charge is the plain sum. -/
theorem chargeOwner_of_quota {bytes : Nat} (room : ownerQuotaExceeded inner owner bytes = false) :
    HashMap.count inner.deviceBytes owner + bytes ≤ maxCachedBlobBytesPerDevice ∧
      HashMap.count inner.deviceEntries owner < maxCachedBlobsPerDevice ∧
      chargeOwner inner owner bytes =
        { inner with
          deviceBytes :=
            inner.deviceBytes.insert owner (HashMap.count inner.deviceBytes owner + bytes)
          deviceEntries :=
            inner.deviceEntries.insert owner (HashMap.count inner.deviceEntries owner + 1) } := by
  simp only [ownerQuotaExceeded, Bool.or_eq_false_iff, decide_eq_false_iff_not, not_lt,
    not_le] at room
  obtain ⟨bytesRoom, entriesRoom⟩ := room
  have bytesSum : HashMap.count inner.deviceBytes owner + bytes ≤
      maxCachedBlobBytesPerDevice := by
    simp only [saturatingAdd, maxCachedBlobBytesPerDevice, usizeMax] at bytesRoom ⊢
    omega
  refine ⟨bytesSum, entriesRoom, ?_⟩
  have bytesPlain : saturatingAdd (HashMap.count inner.deviceBytes owner) bytes =
      HashMap.count inner.deviceBytes owner + bytes := by
    simp only [saturatingAdd, maxCachedBlobBytesPerDevice, usizeMax] at bytesSum ⊢
    omega
  have entriesPlain : saturatingAdd (HashMap.count inner.deviceEntries owner) 1 =
      HashMap.count inner.deviceEntries owner + 1 := by
    simp only [saturatingAdd, maxCachedBlobsPerDevice, usizeMax] at entriesRoom ⊢
    omega
  rw [chargeOwner, bytesPlain, entriesPlain]

/-- An owner that joins a present entry of the charged size balances the books. -/
theorem Books.joinOwner (books : Books sized inner) {new : BlobEntry} {bytes : Nat}
    (present : inner.entries.lookup blobId = some old) (foreign : owner ∉ old.owners)
    (size : sized → bytes = old.bytes.length) (sameBytes : new.bytes = old.bytes)
    (owners : new.owners = old.owners.insert owner ())
    (sameDelivered : new.deliveredOwners = old.deliveredOwners)
    (room : ownerQuotaExceeded inner owner bytes = false) :
    Books sized ((chargeOwner inner owner bytes).setEntry blobId new) := by
  rw [(chargeOwner_of_quota room).2.2]
  have grown : ∀ someone ∈ old.owners, someone ∈ new.owners := fun someone owns => by
    rw [owners, AList.mem_insert]
    exact .inr owns
  obtain ⟨toOwners, pinned⟩ := books.rewritten present grown fun someone member =>
    grown someone (books.delivered blobId old someone present (sameDelivered ▸ member))
  refine
    { books with
      totalBytes := ?_
      deviceBytes := fun exact other => ?_
      deviceEntries := fun other =>
        tracked_join present foreign owners rfl other (books.deviceEntries other)
      delivered := toOwners
      pinned := pinned }
  · refine books.totalBytes.trans (HashMap.total_insert_congr present ?_).symm
    simp [entrySize, sameBytes]
  · rw [size exact]
    exact tracked_join present foreign owners (by rw [sameBytes]) other
      (books.deviceBytes exact other)

/-- A new entry with one charged owner balances the books. -/
theorem Books.insertEntry (books : Books sized inner)
    (absent : inner.entries.lookup blobId = none)
    (owners : entry.owners = AList.singleton owner ()) (undelivered : entry.deliveredOwners = ∅)
    (room : ownerQuotaExceeded inner owner entry.bytes.length = false) :
    Books sized (chargeOwner
      ({ inner with totalBytes := inner.totalBytes + entry.bytes.length }.setEntry blobId entry)
      owner entry.bytes.length) := by
  have room' : ownerQuotaExceeded
      ({ inner with totalBytes := inner.totalBytes + entry.bytes.length }.setEntry blobId entry)
      owner entry.bytes.length = false := room
  rw [(chargeOwner_of_quota room').2.2]
  refine
    { books with
      totalBytes := ?_
      deviceBytes := fun exact other =>
        tracked_new (fun entry => entry.bytes.length) absent owners other
          (books.deviceBytes exact other)
      deviceEntries := fun other =>
        tracked_new (fun _ => 1) absent owners other (books.deviceEntries other)
      delivered := ?_
      pinned := ?_ }
  · have inserted := HashMap.total_insert_new entry entrySize absent
    have balance := books.totalBytes
    simp only [setEntry, inserted, balance, entrySize]
  · intro otherId other candidate found
    rcases HashMap.lookup_of_insert found with ⟨rfl, rfl⟩ | ⟨-, found⟩
    · simp [undelivered]
    · exact books.delivered otherId other candidate found
  · intro ticket ticketEntry outstanding
    obtain ⟨blob, found, owns⟩ := books.pinned ticket ticketEntry outstanding
    exact ⟨blob, HashMap.lookup_insert_of_absent absent found, owns⟩

/-- A fresh ticket on an entry of its owner balances the books. -/
theorem Books.recordTicket (books : Books sized inner) {entry : TicketEntry} {blob : BlobEntry}
    (freshTicket : inner.tickets.lookup ticket = none)
    (freshId : entry.transferId ∉ inner.transferIds)
    (present : inner.entries.lookup entry.blobId = some blob) (owns : entry.owner ∈ blob.owners) :
    Books sized (recordTicket inner ticket entry) := by
  refine
    { books with
      blobTickets := ?_
      deviceTickets := ?_
      transferIds := ?_
      transferIdsDistinct := ?_
      pinned := ?_ }
  · intro blobId
    have inserted := HashMap.total_insert_new entry (ticketsFor blobId) freshTicket
    have counted := HashMap.count_insert_add inner.blobTickets entry.blobId blobId 1
    rw [books.blobTickets blobId] at counted
    refine counted.trans (Eq.trans ?_ inserted.symm)
    simp [ticketsFor, eq_comm]
  · intro owner
    have inserted := HashMap.total_insert_new entry (ticketsOf owner) freshTicket
    have counted := HashMap.count_insert_add inner.deviceTickets entry.owner owner 1
    rw [books.deviceTickets owner] at counted
    refine counted.trans (Eq.trans ?_ inserted.symm)
    simp [ticketsOf, eq_comm]
  · intro value
    simp only [BlobStore.recordTicket, BlobStoreInner.schedulePrune, AList.mem_insert,
      books.transferIds]
    constructor
    · rintro (rfl | ⟨other, otherEntry, found, rfl⟩)
      · exact ⟨ticket, entry, by simp, rfl⟩
      · exact ⟨other, otherEntry, HashMap.lookup_insert_of_absent freshTicket found, rfl⟩
    · rintro ⟨other, otherEntry, found, rfl⟩
      rcases HashMap.lookup_of_insert found with ⟨-, rfl⟩ | ⟨-, found⟩
      · exact .inl rfl
      · exact .inr ⟨other, otherEntry, found, rfl⟩
  · intro first second firstEntry secondEntry firstFound secondFound sameId
    -- An old ticket cannot carry the new transfer id: it would be among `transferIds`.
    have clash : ∀ other otherEntry, inner.tickets.lookup other = some otherEntry →
        otherEntry.transferId ≠ entry.transferId := by
      intro other otherEntry found same
      exact freshId ((books.transferIds _).mpr ⟨other, otherEntry, found, same⟩)
    rcases HashMap.lookup_of_insert firstFound with ⟨rfl, rfl⟩ | ⟨-, firstKept⟩
    · rcases HashMap.lookup_of_insert secondFound with ⟨rfl, rfl⟩ | ⟨-, secondKept⟩
      · rfl
      · exact absurd sameId.symm (clash second secondEntry secondKept)
    · rcases HashMap.lookup_of_insert secondFound with ⟨rfl, rfl⟩ | ⟨-, secondKept⟩
      · exact absurd sameId (clash first firstEntry firstKept)
      · exact books.transferIdsDistinct first second firstEntry secondEntry firstKept
          secondKept sameId
  · intro other otherEntry found
    rcases HashMap.lookup_of_insert found with ⟨rfl, rfl⟩ | ⟨-, found⟩
    · exact ⟨blob, present, owns⟩
    · exact books.pinned other otherEntry found

end ArcRelay.BlobStore
