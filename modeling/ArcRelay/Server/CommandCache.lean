/-
Module: ArcRelay.Server.CommandCache
Purpose: The cache of finished commands and the register of commands in flight, with its
  expiry, its per-device budgets and its global budget.
Trusted boundary: the encoded length of a response is an argument; clock readings are
  arguments of each call.
-/
import ArcRelay.Library.HashMap
import ArcRelay.Library.Runtime

namespace ArcRelay

def commandCacheTtl : Nat := seconds (5 * 60)
def maxCachedCommandsPerDevice : Nat := 256
def maxCachedCommandBytesPerDevice : Nat := 8 * 1024 * 1024
def maxCachedCommandsGlobal : Nat := 1024
def maxCachedCommandBytesGlobal : Nat := 64 * 1024 * 1024

structure CommandCacheKey where
  devicePublicKey : Bytes
  idempotencyKey : Bytes
deriving Repr, DecidableEq

/-- A command whose result is still awaited.  `resultTx` names the channel its waiters
watch. -/
structure InFlightCommand (Channel : Type) where
  command : Bytes
  resultTx : Channel

structure CachedCommand (Response : Type) where
  command : Bytes
  response : Response
  createdAt : Instant
  size : Nat

/-- `duration_since` is zero for a reading in the future. -/
def CachedCommand.expired {Response : Type} (now : Instant) (entry : CachedCommand Response) :
    Bool :=
  decide (commandCacheTtl ≤ now - entry.createdAt)

/-- Why a finished command is not, or no longer, in the cache.  `replaced` is the removal
with which `insert` begins; `oversized` is an `insert` that stores nothing. -/
inductive RemovalReason where
  | expired | globalLimit | deviceLimit | oversized | replaced
deriving Repr, DecidableEq

structure Removal where
  key : CommandCacheKey
  reason : RemovalReason
deriving Repr, DecidableEq

/-- The state behind the cache's mutex.

`removals` is a ghost: what left the cache, latest first.  No operation reads it. -/
structure CommandCache (Response Channel : Type) where
  entries : HashMap CommandCacheKey (CachedCommand Response)
  inFlight : HashMap CommandCacheKey (InFlightCommand Channel)
  insertionOrder : List CommandCacheKey
  perDeviceBytes : HashMap Bytes Nat
  perDeviceEntries : HashMap Bytes Nat
  totalBytes : Nat
  removals : List Removal

namespace CommandCache

variable {Response Channel : Type}

/-- `CommandCache::default`. -/
def new : CommandCache Response Channel where
  entries := ∅
  inFlight := ∅
  insertionOrder := []
  perDeviceBytes := ∅
  perDeviceEntries := ∅
  totalBytes := 0
  removals := []

variable (cache : CommandCache Response Channel)

/-- `remove_entry`: drop an entry and take its size back from the counters. -/
def removeEntry (key : CommandCacheKey) (reason : RemovalReason) : CommandCache Response Channel :=
  match cache.entries.lookup key with
  | none => cache
  | some entry =>
      { cache with
        entries := cache.entries.erase key
        totalBytes := cache.totalBytes - entry.size
        perDeviceBytes := decrementCounter cache.perDeviceBytes key.devicePublicKey entry.size
        perDeviceEntries := decrementCounter cache.perDeviceEntries key.devicePublicKey 1
        removals := ⟨key, reason⟩ :: cache.removals }

def globalLimitsExceeded : Bool :=
  decide (maxCachedCommandsGlobal < HashMap.size cache.entries) ||
    decide (maxCachedCommandBytesGlobal < cache.totalBytes)

/-- The first loop of `prune`, over the keys of `insertion_order` from its front. -/
def expireLoop (now : Instant) :
    List CommandCacheKey → CommandCache Response Channel → CommandCache Response Channel
  | [], cache => { cache with insertionOrder := [] }
  | key :: order, cache =>
      if (cache.entries.lookup key).all (CachedCommand.expired now) then
        expireLoop now order (cache.removeEntry key .expired)
      else { cache with insertionOrder := key :: order }

/-- The second loop of `prune`. -/
def evictLoop : List CommandCacheKey → CommandCache Response Channel → CommandCache Response Channel
  | [], cache => { cache with insertionOrder := [] }
  | key :: order, cache =>
      if cache.globalLimitsExceeded then
        evictLoop order (cache.removeEntry key .globalLimit)
      else { cache with insertionOrder := key :: order }

def prune (now : Instant) : CommandCache Response Channel :=
  let cache := expireLoop now cache.insertionOrder cache
  evictLoop cache.insertionOrder cache

/-- The condition `enforce_device_limits` tests before its loop and in it. -/
def deviceOverBudget (device : Bytes) : Bool :=
  (cache.perDeviceEntries.lookup device).any (fun count =>
      decide (maxCachedCommandsPerDevice < count)) ||
    (cache.perDeviceBytes.lookup device).any (fun bytes =>
      decide (maxCachedCommandBytesPerDevice < bytes))

/-- The `while` loop of `enforce_device_limits` for one device.  Each round takes a key out of
`insertion_order`, so as many rounds as it has keys are enough. -/
def enforceDeviceLoop (device : Bytes) :
    Nat → CommandCache Response Channel → CommandCache Response Channel
  | 0, cache => cache
  | rounds + 1, cache =>
      if cache.deviceOverBudget device then
        match cache.insertionOrder.find? (fun key => key.devicePublicKey = device) with
        | none => cache
        | some key =>
            -- the first key of the device is also the first occurrence of that key
            enforceDeviceLoop device rounds
              (removeEntry { cache with insertionOrder := cache.insertionOrder.erase key } key
                .deviceLimit)
      else cache

def enforceDeviceLimits : CommandCache Response Channel :=
  let overBudget := cache.perDeviceEntries.keys.filter cache.deviceOverBudget
  overBudget.foldl (fun cache device =>
    enforceDeviceLoop device cache.insertionOrder.length cache) cache

/-- What `insert` charges for an entry. -/
def chargedSize (key : CommandCacheKey) (command : Bytes) (encodedLen : Nat) : Nat :=
  saturatingAdd (saturatingAdd key.idempotencyKey.length command.length) encodedLen

/-- The counters, the entry and its place in the queue. -/
def store (key : CommandCacheKey)
    (entry : CachedCommand Response) : CommandCache Response Channel :=
  { cache with
    totalBytes := saturatingAdd cache.totalBytes entry.size
    perDeviceBytes := cache.perDeviceBytes.insert key.devicePublicKey
      (HashMap.count cache.perDeviceBytes key.devicePublicKey + entry.size)
    perDeviceEntries := cache.perDeviceEntries.insert key.devicePublicKey
      (HashMap.count cache.perDeviceEntries key.devicePublicKey + 1)
    entries := cache.entries.insert key entry
    insertionOrder := cache.insertionOrder ++ [key] }

/-- `insert`.  `createdAt` and `pruneAt` are the two clock readings the call makes. -/
def insert (key : CommandCacheKey) (command : Bytes)
    (response : Response) (encodedLen : Nat) (createdAt pruneAt : Instant) :
    CommandCache Response Channel :=
  let cache := cache.removeEntry key .replaced
  let cache :=
    { cache with insertionOrder := cache.insertionOrder.filter fun existing => existing ≠ key }
  let size := chargedSize key command encodedLen
  if maxCachedCommandBytesPerDevice < size || maxCachedCommandBytesGlobal < size then
    { cache with removals := ⟨key, .oversized⟩ :: cache.removals }
  else
    let cache := cache.store key
      { command := command, response := response, createdAt := createdAt, size := size }
    cache.enforceDeviceLimits.prune pruneAt

end CommandCache

end ArcRelay
