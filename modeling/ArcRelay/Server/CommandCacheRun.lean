/-
Module: ArcRelay.Server.CommandCacheRun
Purpose: Runs of the command cache: sequences of insertions and prunings under a clock that
  never goes back, and the points at which its loops would give up.
Trusted boundary: none beyond ArcRelay.Server.CommandCache
-/
import ArcRelay.Server.CommandCache

namespace ArcRelay.CommandCache

variable {Response Channel : Type}

/-!
The cache sits behind a mutex, so a run is a sequence of calls.  Each call carries the clock
readings it makes; an insertion that stores nothing makes none.
-/

/-- The test with which `insert` turns an entry away. -/
def oversized (key : CommandCacheKey) (command : Bytes) (encodedLen : Nat) : Bool :=
  maxCachedCommandBytesPerDevice < chargedSize key command encodedLen ||
    maxCachedCommandBytesGlobal < chargedSize key command encodedLen

inductive CacheCall (Response : Type) where
  | insert (key : CommandCacheKey) (command : Bytes) (response : Response) (encodedLen : Nat)
      (createdAt pruneAt : Instant)
  | prune (now : Instant)

/-- The clock readings of a call, in the order the source makes them. -/
def CacheCall.readings : CacheCall Response → List Instant
  | .insert key command _ encodedLen createdAt pruneAt =>
      if oversized key command encodedLen then [] else [createdAt, pruneAt]
  | .prune now => [now]

/-- The reading against which a call checks expiry, if it gets that far. -/
def CacheCall.checkedAt : CacheCall Response → Option Instant
  | .insert key command _ encodedLen _ pruneAt =>
      if oversized key command encodedLen then none else some pruneAt
  | .prune now => some now

variable (cache : CommandCache Response Channel)

def CacheCall.perform : CacheCall Response → CommandCache Response Channel
  | .insert key command response encodedLen createdAt pruneAt =>
      cache.insert key command response encodedLen createdAt pruneAt
  | .prune now => cache.prune now

/-- The cache after a sequence of calls on a new one. -/
def runCalls (calls : List (CacheCall Response)) : CommandCache Response Channel :=
  calls.foldl CacheCall.perform new

/-- No clock reading of a run is before an earlier one. -/
def MonotoneClock (calls : List (CacheCall Response)) : Prop :=
  (calls.flatMap CacheCall.readings).Pairwise (· ≤ ·)

instance (calls : List (CacheCall Response)) : Decidable (MonotoneClock calls) :=
  inferInstanceAs (Decidable (List.Pairwise _ _))

/-!
The eviction loops pop a queue while a limit is exceeded and give up when there is nothing left
to pop.  The following follow the loops and say whether they end that way.
-/

/-- The second loop of `prune` finds the queue empty while the limits are exceeded. -/
def evictEscapes : List CommandCacheKey → CommandCache Response Channel → Bool
  | [], cache => cache.globalLimitsExceeded
  | key :: order, cache =>
      cache.globalLimitsExceeded && evictEscapes order (cache.removeEntry key .globalLimit)

def pruneEscapes (now : Instant) : Bool :=
  evictEscapes (expireLoop now cache.insertionOrder cache).insertionOrder
    (expireLoop now cache.insertionOrder cache)

/-- The device loop finds no key of the device in the queue while it is over its budget, or is
still over it when the rounds run out. -/
def deviceLoopEscapes (device : Bytes) : Nat → CommandCache Response Channel → Bool
  | 0, cache => cache.deviceOverBudget device
  | rounds + 1, cache =>
      cache.deviceOverBudget device &&
        match cache.insertionOrder.find? (fun key => key.devicePublicKey = device) with
        | none => true
        | some key =>
            deviceLoopEscapes device rounds
              (removeEntry { cache with insertionOrder := cache.insertionOrder.erase key } key
                .deviceLimit)

/-- Some device loop of `enforce_device_limits` escapes. -/
def devicesEscape : List Bytes → CommandCache Response Channel → Bool
  | [], _ => false
  | device :: devices, cache =>
      deviceLoopEscapes device cache.insertionOrder.length cache ||
        devicesEscape devices (enforceDeviceLoop device cache.insertionOrder.length cache)

/-- What `insert` stores, before any limit is enforced. -/
def stored (key : CommandCacheKey) (command : Bytes)
    (response : Response) (encodedLen : Nat) (createdAt : Instant) :
    CommandCache Response Channel :=
  let cache := cache.removeEntry key .replaced
  store { cache with insertionOrder := cache.insertionOrder.filter fun existing => existing ≠ key }
    key ⟨command, response, createdAt, chargedSize key command encodedLen⟩

/-- What `insert` leaves of it once the devices are cut back to their limits. -/
def cutBack (key : CommandCacheKey) (command : Bytes)
    (response : Response) (encodedLen : Nat) (createdAt : Instant) :
    CommandCache Response Channel :=
  (cache.stored key command response encodedLen createdAt).enforceDeviceLimits

/-- Some eviction loop of the call escapes. -/
def CacheCall.escapes : CacheCall Response → Bool
  | .insert key command response encodedLen createdAt pruneAt =>
      if oversized key command encodedLen then false
      else
        let stored := cache.stored key command response encodedLen createdAt
        devicesEscape (stored.perDeviceEntries.keys.filter stored.deviceOverBudget) stored ||
          pruneEscapes stored.enforceDeviceLimits pruneAt
  | .prune now => pruneEscapes cache now

end ArcRelay.CommandCache
