/-
Module: ArcRelay.Server.BlobStore
Purpose: The shared content-addressed blob cache: insertion, download tickets, redemption, and
  the two expiry paths.
Trusted boundary: SHA-256 and the wire chunk size are parameters of the model; random draws
  and clock readings are arguments of each call.
-/
import ArcRelay.Library.HashMap
import ArcRelay.Library.Runtime

namespace ArcRelay

namespace BlobStore

def maxCachedBlobBytes : Nat := 64 * 1024 * 1024
def maxCachedBlobBytesPerDevice : Nat := 32 * 1024 * 1024
def maxCachedBlobs : Nat := 4096
def maxCachedBlobsPerDevice : Nat := 1024
def maxOutstandingTickets : Nat := 4096
def maxOutstandingTicketsPerDevice : Nat := 128
def blobIdleTtl : Nat := seconds (5 * 60)
def ticketTtl : Nat := seconds 30

end BlobStore

open BlobStore

/-- The wire reference to a cached blob. -/
structure BlobRef where
  blobId : Bytes
  size : Nat
  mediaType : String
  sha256 : Bytes
deriving Repr, DecidableEq

inductive IssueTicketError where
  | notFound
  | resourceExhausted
deriving Repr, DecidableEq

structure BlobEntry where
  reference : BlobRef
  bytes : Bytes
  lastAccess : Instant
  owners : HashSet Bytes
  deliveredOwners : HashSet Bytes

structure TicketEntry where
  transferId : UInt64
  blobId : Bytes
  owner : Bytes
  expiresAt : Instant
deriving Repr, DecidableEq

/-- The wire ticket handed to the owner.  `expiresAtMs` is wall-clock time and is only ever
shown to the client. -/
structure BlobTicket where
  transferId : UInt64
  ticket : Bytes
  blob : BlobRef
  chunkSize : Nat
  expiresAtMs : Int
deriving Repr, DecidableEq

structure RedeemedBlob where
  reference : BlobRef
  bytes : Bytes
deriving Repr, DecidableEq

/-- The state behind the store's mutex.

`saturated` is a ghost: it is set when a `saturating_sub` of the source would clip at zero,
and no operation reads it. -/
structure BlobStoreInner where
  entries : HashMap Bytes BlobEntry
  insertionOrder : List Bytes
  tickets : HashMap Bytes TicketEntry
  transferIds : HashSet UInt64
  blobTickets : HashMap Bytes Nat
  deviceBytes : HashMap Bytes Nat
  deviceEntries : HashMap Bytes Nat
  deviceTickets : HashMap Bytes Nat
  totalBytes : Nat
  nextPruneAt : Option Instant
  saturated : Bool

namespace BlobStoreInner

/-- `BlobStore::new`. -/
def new : BlobStoreInner where
  entries := ∅
  insertionOrder := []
  tickets := ∅
  transferIds := ∅
  blobTickets := ∅
  deviceBytes := ∅
  deviceEntries := ∅
  deviceTickets := ∅
  totalBytes := 0
  nextPruneAt := none
  saturated := false

variable (inner : BlobStoreInner)

def schedulePrune (deadline : Instant) : BlobStoreInner :=
  { inner with
    nextPruneAt := some <|
      match inner.nextPruneAt with
      | none => deadline
      | some next => min next deadline }

def ownerHasRoom (owner : Bytes) (bytes entries : Nat) : Bool :=
  decide (saturatingAdd (HashMap.count inner.deviceBytes owner) bytes ≤
      maxCachedBlobBytesPerDevice) &&
    decide (saturatingAdd (HashMap.count inner.deviceEntries owner) entries ≤
      maxCachedBlobsPerDevice)

def blobHasTicket (blobId : Bytes) : Bool :=
  match inner.blobTickets.lookup blobId with
  | some count => decide (0 < count)
  | none => false

/-- `remove_entry`: drop a blob and take its bytes back from every owner. -/
def removeEntry (blobId : Bytes) : BlobStoreInner :=
  match inner.entries.lookup blobId with
  | none => inner
  | some entry =>
      { inner with
        entries := inner.entries.erase blobId
        totalBytes := inner.totalBytes - entry.bytes.length
        deviceBytes := decrementAll inner.deviceBytes entry.owners.keys entry.bytes.length
        deviceEntries := decrementAll inner.deviceEntries entry.owners.keys 1
        saturated := inner.saturated || decide (inner.totalBytes < entry.bytes.length) ||
          anyClips inner.deviceBytes entry.bytes.length entry.owners.keys ||
          anyClips inner.deviceEntries 1 entry.owners.keys }

/-- `remove_ticket`: drop a ticket and its two counts. -/
def removeTicket (ticket : Bytes) : BlobStoreInner :=
  match inner.tickets.lookup ticket with
  | none => inner
  | some entry =>
      { inner with
        tickets := inner.tickets.erase ticket
        transferIds := inner.transferIds.erase entry.transferId
        blobTickets := decrementCounter inner.blobTickets entry.blobId 1
        deviceTickets := decrementCounter inner.deviceTickets entry.owner 1
        saturated := inner.saturated || counterClips inner.blobTickets entry.blobId 1 ||
          counterClips inner.deviceTickets entry.owner 1 }

/-- `insertion_order.push_back`. -/
def pushBack (blobId : Bytes) : BlobStoreInner :=
  { inner with insertionOrder := inner.insertionOrder ++ [blobId] }

/-- `entries.get_mut`: write a changed entry back under its key. -/
def setEntry (blobId : Bytes) (entry : BlobEntry) : BlobStoreInner :=
  { inner with entries := inner.entries.insert blobId entry }

/-- The two `decrement_counter` calls of the reclamation loop. -/
def dropOwnership (owner : Bytes) (size : Nat) : BlobStoreInner :=
  { inner with
    deviceBytes := decrementCounter inner.deviceBytes owner size
    deviceEntries := decrementCounter inner.deviceEntries owner 1
    saturated := inner.saturated || counterClips inner.deviceBytes owner size ||
      counterClips inner.deviceEntries owner 1 }

/-- The `while` loop of `reclaim_delivered_for_owner` over the blob ids taken out of
`insertion_order`, followed by the `extend` with the ids it did not reach. -/
def reclaimLoop (owner : Bytes) (additionalBytes additionalEntries : Nat) :
    List Bytes → BlobStoreInner → BlobStoreInner
  | [], inner => inner
  | blobId :: candidates, inner =>
      if inner.ownerHasRoom owner additionalBytes additionalEntries then
        -- `break`: this id and every later candidate go back in order.
        { inner with insertionOrder := inner.insertionOrder ++ blobId :: candidates }
      else if inner.blobHasTicket blobId then
        reclaimLoop owner additionalBytes additionalEntries candidates (inner.pushBack blobId)
      else
        match inner.entries.lookup blobId with
        | none => reclaimLoop owner additionalBytes additionalEntries candidates inner
        | some entry =>
            if owner ∉ entry.deliveredOwners then
              reclaimLoop owner additionalBytes additionalEntries candidates
                (inner.pushBack blobId)
            else
              -- `delivered_owners.remove` has already happened when `owners.remove` is tried.
              let delivered :=
                { entry with deliveredOwners := entry.deliveredOwners.erase owner }
              if owner ∉ entry.owners then
                reclaimLoop owner additionalBytes additionalEntries candidates
                  ((inner.setEntry blobId delivered).pushBack blobId)
              else
                let reclaimed := { delivered with owners := entry.owners.erase owner }
                let inner :=
                  (inner.setEntry blobId reclaimed).dropOwnership owner entry.bytes.length
                if reclaimed.owners.keys.isEmpty then
                  reclaimLoop owner additionalBytes additionalEntries candidates
                    (inner.removeEntry blobId)
                else
                  reclaimLoop owner additionalBytes additionalEntries candidates
                    (inner.pushBack blobId)

def reclaimDeliveredForOwner (owner : Bytes)
    (additionalBytes additionalEntries : Nat) : BlobStoreInner :=
  if inner.ownerHasRoom owner additionalBytes additionalEntries then inner
  else
    reclaimLoop owner additionalBytes additionalEntries inner.insertionOrder
      { inner with insertionOrder := [] }

/-- The tickets a full prune removes. -/
def expiredTickets (now : Instant) : List Bytes :=
  (inner.tickets.entries.filter fun ticket => decide (ticket.2.expiresAt ≤ now)).map (·.1)

/-- One iteration of the blob loop of `prune`. -/
def pruneBlob (now : Instant) (inner : BlobStoreInner) (blobId : Bytes) : BlobStoreInner :=
  let pinned := inner.blobHasTicket blobId
  match inner.entries.lookup blobId with
  | none => inner.removeEntry blobId
  | some entry =>
      if !pinned && decide (blobIdleTtl ≤ now - entry.lastAccess) then
        inner.removeEntry blobId
      else
        let inner :=
          if !pinned then inner.schedulePrune (entry.lastAccess + blobIdleTtl) else inner
        inner.pushBack blobId

/-- The ticket half of the body of `prune`. -/
def pruneTickets (now : Instant) : BlobStoreInner :=
  let inner := { inner with nextPruneAt := none }
  let inner := (inner.expiredTickets now).foldl removeTicket inner
  { inner with
    nextPruneAt := (inner.tickets.entries.map fun ticket => ticket.2.expiresAt).min? }

/-- The body of `prune` once its deadline test has passed. -/
def fullPrune (now : Instant) : BlobStoreInner :=
  let inner := inner.pruneTickets now
  inner.insertionOrder.foldl (pruneBlob now) { inner with insertionOrder := [] }

/-- `prune` returns at once while no deadline is due. -/
def prune (now : Instant) : BlobStoreInner :=
  match inner.nextPruneAt with
  | none => inner
  | some deadline => if now < deadline then inner else inner.fullPrune now

def makeRoomFor (additionalBytes : Nat) : Bool :=
  if maxCachedBlobBytes < additionalBytes then false
  else
    -- `prune` has already removed entries whose reference lifetime elapsed.  A still-live
    -- reference is never evicted merely to create a newer one.
    decide (inner.entries.size < maxCachedBlobs) &&
      decide (saturatingAdd inner.totalBytes additionalBytes ≤ maxCachedBlobBytes)

end BlobStoreInner

namespace BlobStore

open BlobStoreInner

/-- What the store takes from other crates: the digest and `MAX_BLOB_CHUNK_SIZE`. -/
structure Externals where
  sha256 : Bytes → Bytes
  maxBlobChunkSize : Nat

/-- The argument checks of `insert`. -/
def insertArgumentsValid (owner bytes : Bytes) (mediaType : String) : Bool :=
  !(owner.isEmpty || decide (128 < owner.length) || bytes.isEmpty ||
    decide (maxCachedBlobBytes < bytes.length) || decide (mediaType = "") ||
    decide (256 < mediaType.utf8ByteSize) || mediaType.toList.any charIsControl)

variable (inner : BlobStoreInner)

/-- `insert` exceeds the owner's quota even after reclamation. -/
def ownerQuotaExceeded (owner : Bytes) (bytes : Nat) : Bool :=
  decide (maxCachedBlobBytesPerDevice <
      saturatingAdd (HashMap.count inner.deviceBytes owner) bytes) ||
    decide (maxCachedBlobsPerDevice ≤ HashMap.count inner.deviceEntries owner)

/-- The two quota counters after `owner` took on one more blob. -/
def chargeOwner (owner : Bytes) (bytes : Nat) : BlobStoreInner :=
  { inner with
    deviceBytes := inner.deviceBytes.insert owner
      (saturatingAdd (HashMap.count inner.deviceBytes owner) bytes)
    deviceEntries := inner.deviceEntries.insert owner
      (saturatingAdd (HashMap.count inner.deviceEntries owner) 1) }

/-- The tail of the existing-entry path: refresh the entry, add the owner if it is new. -/
def touchExisting (owner digest : Bytes) (isExistingOwner : Bool)
    (now : Instant) : CallOutcome (Option BlobRef) × BlobStoreInner :=
  match inner.entries.lookup digest with
  | none => (.panicked "entry was checked", inner)
  | some existing =>
      let owners :=
        if isExistingOwner then existing.owners else existing.owners.insert owner ()
      let touched := { existing with lastAccess := now, owners := owners }
      (.returned (some touched.reference), inner.setEntry digest touched)

/-- `insert` on a digest the store already holds. -/
def insertExisting (owner digest : Bytes) (bytes : Bytes)
    (existing : BlobEntry) (now : Instant) :
    CallOutcome (Option BlobRef) × BlobStoreInner :=
  if owner ∈ existing.owners then touchExisting inner owner digest true now
  else
    let inner := inner.reclaimDeliveredForOwner owner bytes.length 1
    if ownerQuotaExceeded inner owner bytes.length then (.returned none, inner)
    else touchExisting (chargeOwner inner owner bytes.length) owner digest false now

/-- `insert` on a digest the store does not hold. -/
def insertNew (owner digest : Bytes) (bytes : Bytes)
    (mediaType : String) (now : Instant) : CallOutcome (Option BlobRef) × BlobStoreInner :=
  let inner := inner.reclaimDeliveredForOwner owner bytes.length 1
  if ownerQuotaExceeded inner owner bytes.length then (.returned none, inner)
  else if !inner.makeRoomFor bytes.length then (.returned none, inner)
  else
    let reference : BlobRef :=
      { blobId := digest, size := bytes.length, mediaType := mediaType, sha256 := digest }
    let entry : BlobEntry :=
      { reference := reference, bytes := bytes, lastAccess := now,
        owners := AList.singleton owner (), deliveredOwners := ∅ }
    let inner := { inner with totalBytes := saturatingAdd inner.totalBytes bytes.length }
    let inner := inner.schedulePrune (now + blobIdleTtl)
    let inner := (inner.pushBack digest).setEntry digest entry
    (.returned (some reference), chargeOwner inner owner bytes.length)

variable (externals : Externals)

/-- `insert` once its arguments are valid and the store is pruned. -/
def insertBody (inner : BlobStoreInner) (owner bytes : Bytes)
    (mediaType : String) (accessAt : Instant) :
    CallOutcome (Option BlobRef) × BlobStoreInner :=
  let digest := externals.sha256 bytes
  match inner.entries.lookup digest with
  | some existing => insertExisting inner owner digest bytes existing accessAt
  | none => insertNew inner owner digest bytes mediaType accessAt

/-- `BlobStore::insert`.  `pruneAt` and `accessAt` are the two clock readings the call
makes, in that order. -/
def insert (inner : BlobStoreInner) (owner bytes : Bytes)
    (mediaType : String) (pruneAt accessAt : Instant) :
    CallOutcome (Option BlobRef) × BlobStoreInner :=
  if !insertArgumentsValid owner bytes mediaType then (.returned none, inner)
  else insertBody externals (inner.prune pruneAt) owner bytes mediaType accessAt

/-- The first draw the transfer-id loop breaks with. -/
def pickTransferId (draws : List UInt64) : Option UInt64 :=
  (draws.map (· &&& i64Max)).find? fun value =>
    decide (value ≠ 0) && decide (value ∉ inner.transferIds)

/-- The first draw the ticket loop breaks with. -/
def pickTicket (draws : List (Vector UInt8 32)) : Option Bytes :=
  (draws.map (·.toList)).find? fun value => decide (value ∉ inner.tickets)

/-- The state change of a successful `issue_ticket`. -/
def recordTicket (ticket : Bytes) (entry : TicketEntry) : BlobStoreInner :=
  let inner := inner.schedulePrune entry.expiresAt
  { inner with
    tickets := inner.tickets.insert ticket entry
    transferIds := inner.transferIds.insert entry.transferId ()
    blobTickets := inner.blobTickets.insert entry.blobId
      (HashMap.count inner.blobTickets entry.blobId + 1)
    deviceTickets := inner.deviceTickets.insert entry.owner
      (HashMap.count inner.deviceTickets entry.owner + 1) }

/-- The random source and the wall clock as one `issue_ticket` call sees them. -/
structure TicketDraws where
  transferIds : List UInt64
  tickets : List (Vector UInt8 32)
  nowMs : Int
deriving Repr, DecidableEq

/-- `issue_ticket` once the store is pruned.  `none` means that one of the two random loops
has not found a fresh value among the given draws, so the call has not returned. -/
def issueTicketBody (inner : BlobStoreInner) (owner blobId : Bytes)
    (accessAt issueAt : Instant) (draws : TicketDraws) :
    Option (Except IssueTicketError BlobTicket × BlobStoreInner) :=
  match inner.entries.lookup blobId with
  | none => some (.error .notFound, inner)
  | some entry =>
      if owner ∉ entry.owners then some (.error .notFound, inner)
      else
        let inner := inner.setEntry blobId { entry with lastAccess := accessAt }
        if maxOutstandingTickets ≤ inner.tickets.size ∨
            maxOutstandingTicketsPerDevice ≤ HashMap.count inner.deviceTickets owner then
          some (.error .resourceExhausted, inner)
        else do
          let transferId ← pickTransferId inner draws.transferIds
          let ticket ← pickTicket inner draws.tickets
          let issued : BlobTicket :=
            { transferId := transferId
              ticket := ticket
              blob := entry.reference
              chunkSize := externals.maxBlobChunkSize
              expiresAtMs := draws.nowMs + 30000 }
          pure (.ok issued, recordTicket inner ticket
            { transferId := transferId
              blobId := blobId
              owner := owner
              expiresAt := issueAt + ticketTtl })

/-- `BlobStore::issue_ticket`.  The three readings are the one of `prune`, the one stored
as `last_access` and the one the expiry is computed from. -/
def issueTicket (inner : BlobStoreInner) (owner blobId : Bytes)
    (pruneAt accessAt issueAt : Instant) (draws : TicketDraws) :
    Option (Except IssueTicketError BlobTicket × BlobStoreInner) :=
  issueTicketBody externals (inner.prune pruneAt) owner blobId accessAt issueAt draws

/-- `redeem` once the store is pruned. -/
def redeemBody (owner : Bytes) (transferId : UInt64) (ticket : Bytes)
    (checkAt accessAt : Instant) : Except String RedeemedBlob × BlobStoreInner :=
  match inner.tickets.lookup ticket with
  | none => (.error "blob ticket is invalid or expired", inner)
  | some ticketEntry =>
      if ticketEntry.transferId ≠ transferId then
        (.error "blob transfer id does not match ticket", inner)
      else if ticketEntry.owner ≠ owner then
        (.error "blob ticket belongs to another device", inner)
      else if ticketEntry.expiresAt ≤ checkAt then
        (.error "blob ticket expired", inner)
      else
        let inner := inner.removeTicket ticket
        match inner.entries.lookup ticketEntry.blobId with
        | none => (.error "blob was evicted", inner)
        | some entry =>
            let delivered :=
              { entry with
                lastAccess := accessAt
                deliveredOwners := entry.deliveredOwners.insert owner () }
            (.ok { reference := delivered.reference, bytes := delivered.bytes },
              inner.setEntry ticketEntry.blobId delivered)

/-- `BlobStore::redeem`.  The three readings are the one of `prune`, the one the expiry is
compared with and the one stored as `last_access`. -/
def redeem (owner : Bytes) (transferId : UInt64) (ticket : Bytes)
    (pruneAt checkAt accessAt : Instant) : Except String RedeemedBlob × BlobStoreInner :=
  redeemBody (inner.prune pruneAt) owner transferId ticket checkAt accessAt

end BlobStore

end ArcRelay
