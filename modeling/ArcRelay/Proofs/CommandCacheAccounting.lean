/-
Module: ArcRelay.Proofs.CommandCacheAccounting
Purpose: The queue and the counters of the command cache against its entries, and each loop of
  the cache as the removal of a stretch of the queue.
Trusted boundary: none
-/
import ArcRelay.Library.Queues
import ArcRelay.Server.CommandCache

namespace ArcRelay.CommandCache

variable {Response Channel : Type}

/-!
The cache keeps its entries in a map, their order of insertion in a queue, and three counters
beside them.  `Accounts order cache` says that all of these agree, for a queue that a loop may
hold outside the cache while it runs.

Each loop takes keys out of the queue and their entries out of the map.  So a loop is described
by the keys it takes: `removeAll` drops them, and `Accounts.removeAll` says once that the
bookkeeping follows.  What is left to say about each loop is which keys it takes and when it
stops.
-/

/-- What an entry adds to the byte count of `device`. -/
def deviceSize (device : Bytes) (key : CommandCacheKey) (entry : CachedCommand Response) : Nat :=
  if device = key.devicePublicKey then entry.size else 0

/-- What an entry adds to the entry count of `device`. -/
def deviceEntry (device : Bytes) (key : CommandCacheKey) (_entry : CachedCommand Response) : Nat :=
  if device = key.devicePublicKey then 1 else 0

/-- `second` was not created before `first`, as far as both are cached. -/
def CreatedInOrder (cache : CommandCache Response Channel) (first second : CommandCacheKey) :
    Prop :=
  ∀ earlier later, cache.entries.lookup first = some earlier →
    cache.entries.lookup second = some later → earlier.createdAt ≤ later.createdAt

/-- The queue enumerates the entries by age, and the counters are sums over the entries. -/
structure Accounts (order : List CommandCacheKey) (cache : CommandCache Response Channel) :
    Prop where
  nodup : order.Nodup
  enumerates : ∀ key, key ∈ order ↔ key ∈ cache.entries
  byAge : order.Pairwise cache.CreatedInOrder
  totalBytes : cache.totalBytes = HashMap.total cache.entries fun _ entry => entry.size
  deviceBytes : ∀ device, HashMap.count cache.perDeviceBytes device =
    HashMap.total cache.entries (deviceSize device)
  deviceEntries : ∀ device, HashMap.count cache.perDeviceEntries device =
    HashMap.total cache.entries (deviceEntry device)

theorem accounts_new : Accounts [] (new : CommandCache Response Channel) where
  nodup := List.nodup_nil
  enumerates := by simp [new]
  byAge := List.Pairwise.nil
  totalBytes := rfl
  deviceBytes := fun _ => rfl
  deviceEntries := fun _ => rfl

/-- The cache with another queue. -/
def requeue (cache : CommandCache Response Channel) (order : List CommandCacheKey) :
    CommandCache Response Channel :=
  { cache with insertionOrder := order }

variable {order : List CommandCacheKey} {cache : CommandCache Response Channel}

/-- The queue stored in the cache plays no part in the bookkeeping. -/
theorem Accounts.requeue (accounts : Accounts order cache) (other : List CommandCacheKey) :
    Accounts order (cache.requeue other) :=
  ⟨accounts.nodup, accounts.enumerates, accounts.byAge, accounts.totalBytes,
    accounts.deviceBytes, accounts.deviceEntries⟩

/-! ### Removing entries -/

theorem lookup_removeEntry (cache : CommandCache Response Channel) (key other : CommandCacheKey)
    (reason : RemovalReason) :
    (cache.removeEntry key reason).entries.lookup other =
      if other = key then none else cache.entries.lookup other := by
  unfold removeEntry
  by_cases same : other = key
  · subst other
    cases found : cache.entries.lookup key with
    | none => simp [found]
    | some => simp
  · cases found : cache.entries.lookup key with
    | none => simp [same]
    | some => simp [same, AList.lookup_erase_ne same]

/-- A counter that loses the weight of an entry follows the total without it. -/
theorem count_removed {entries : HashMap CommandCacheKey (CachedCommand Response)}
    {counters : HashMap Bytes Nat} {key : CommandCacheKey} {entry : CachedCommand Response}
    (weight : Bytes → CommandCacheKey → CachedCommand Response → Nat) (amount : Nat)
    (present : entries.lookup key = some entry)
    (weighs : ∀ device, weight device key entry =
      if device = key.devicePublicKey then amount else 0)
    (counts : ∀ device, HashMap.count counters device = HashMap.total entries (weight device))
    (device : Bytes) :
    HashMap.count (decrementCounter counters key.devicePublicKey amount) device =
      HashMap.total (entries.erase key) (weight device) := by
  have erased := HashMap.total_erase (weight device) present
  rw [HashMap.count_decrementCounter, counts device, ← weighs device]
  omega

theorem Accounts.removeEntry (accounts : Accounts order cache) (key : CommandCacheKey)
    (reason : RemovalReason) :
    Accounts (order.erase key) (cache.removeEntry key reason) := by
  cases present : cache.entries.lookup key with
  | none =>
      have absent : key ∉ order := by
        rw [accounts.enumerates]
        exact AList.lookup_eq_none.mp present
      have unchanged : cache.removeEntry key reason = cache := by
        simp only [CommandCache.removeEntry, present]
      rw [unchanged, List.erase_of_not_mem absent]
      exact accounts
  | some entry =>
      have lookup := fun other => lookup_removeEntry cache key other reason
      have shape : cache.removeEntry key reason =
          { cache with
            entries := cache.entries.erase key
            totalBytes := cache.totalBytes - entry.size
            perDeviceBytes := decrementCounter cache.perDeviceBytes key.devicePublicKey entry.size
            perDeviceEntries := decrementCounter cache.perDeviceEntries key.devicePublicKey 1
            removals := ⟨key, reason⟩ :: cache.removals } := by
        simp only [CommandCache.removeEntry, present]
      constructor
      · exact accounts.nodup.erase key
      · intro other
        rw [accounts.nodup.mem_erase_iff, accounts.enumerates other, shape, AList.mem_erase]
      · apply (accounts.byAge.sublist List.erase_sublist).imp
        intro first second inOrder earlier later firstFound secondFound
        rw [lookup] at firstFound secondFound
        split at firstFound
        · cases firstFound
        · split at secondFound
          · cases secondFound
          · exact inOrder earlier later firstFound secondFound
      · have erased := HashMap.total_erase (fun _ entry => entry.size) present
        rw [shape]
        dsimp only
        rw [accounts.totalBytes]
        omega
      · rw [shape]
        exact count_removed deviceSize entry.size present (fun _ => rfl) accounts.deviceBytes
      · rw [shape]
        exact count_removed deviceEntry 1 present (fun _ => rfl) accounts.deviceEntries

/-- Drop the entries of a list of keys, one after the other. -/
def removeAll (reason : RemovalReason) (keys : List CommandCacheKey)
    (cache : CommandCache Response Channel) : CommandCache Response Channel :=
  keys.foldl (fun cache key => cache.removeEntry key reason) cache

theorem lookup_removeAll (reason : RemovalReason) (keys : List CommandCacheKey)
    (cache : CommandCache Response Channel) (other : CommandCacheKey) :
    (cache.removeAll reason keys).entries.lookup other =
      if other ∈ keys then none else cache.entries.lookup other := by
  induction keys generalizing cache with
  | nil => simp [removeAll]
  | cons key _ ih =>
      have rest := ih (cache.removeEntry key reason)
      simp only [removeAll, List.foldl_cons] at rest ⊢
      rw [rest, lookup_removeEntry]
      by_cases same : other = key
      · simp [same]
      · simp [same]

theorem Accounts.removeAll (accounts : Accounts order cache) (reason : RemovalReason)
    (keys : List CommandCacheKey) :
    Accounts (order.diff keys) (cache.removeAll reason keys) := by
  induction keys generalizing order cache with
  | nil => exact accounts
  | cons key _ ih =>
      rw [List.diff_cons]
      exact ih (accounts.removeEntry key reason)

/-! ### Sums along the queue -/

theorem Accounts.size_eq (accounts : Accounts order cache) :
    HashMap.size cache.entries = order.length :=
  HashMap.size_eq_length accounts.nodup accounts.enumerates

theorem Accounts.total_eq (accounts : Accounts order cache)
    (weight : CommandCacheKey → CachedCommand Response → Nat) :
    HashMap.total cache.entries weight =
      (order.map fun key => ((cache.entries.lookup key).map (weight key)).getD 0).sum :=
  HashMap.total_eq_sum accounts.nodup accounts.enumerates weight

/-- The total over a queue of one key is the weight of its entry. -/
theorem Accounts.total_single {key : CommandCacheKey} (accounts : Accounts [key] cache)
    {entry : CachedCommand Response} (found : cache.entries.lookup key = some entry)
    (weight : CommandCacheKey → CachedCommand Response → Nat) :
    HashMap.total cache.entries weight = weight key entry := by
  rw [accounts.total_eq weight]
  simp [found]

/-! ### The loops of `prune` -/

/-- What the first loop of `prune` asks of the key at the front of the queue. -/
def expiredAt (cache : CommandCache Response Channel) (now : Instant) (key : CommandCacheKey) :
    Bool :=
  (cache.entries.lookup key).all (CachedCommand.expired now)

/-- The first loop takes expired keys from the front of the queue and ends at one that is
not. -/
theorem expireLoop_spec (now : Instant) (nodup : order.Nodup)
    (cache : CommandCache Response Channel) :
    ∃ gone rest, order = gone ++ rest ∧ (∀ key ∈ gone, cache.expiredAt now key = true) ∧
      (∀ key ∈ rest.head?, cache.expiredAt now key = false) ∧
      expireLoop now order cache = (cache.removeAll .expired gone).requeue rest := by
  induction order generalizing cache with
  | nil => exact ⟨[], [], rfl, by simp, by simp, rfl⟩
  | cons key order ih =>
      rcases List.nodup_cons.mp nodup with ⟨fresh, restNodup⟩
      rw [expireLoop]
      change ∃ gone rest, _ ∧ _ ∧ _ ∧ (if cache.expiredAt now key then _ else _) = _
      by_cases expired : cache.expiredAt now key
      · -- the removed key does not occur again, so the verdict on the others stands
        have same : ∀ other ∈ order,
            (cache.removeEntry key .expired).expiredAt now other = cache.expiredAt now other := by
          intro other member
          have different : other ≠ key := by
            rintro rfl
            exact fresh member
          simp only [expiredAt, lookup_removeEntry, if_neg different]
        rcases ih restNodup (cache.removeEntry key .expired) with
          ⟨gone, rest, rfl, taken, stopped, result⟩
        refine ⟨key :: gone, rest, rfl, ?_, ?_, ?_⟩
        · intro other member
          rcases List.mem_cons.mp member with rfl | member
          · exact expired
          · rw [← same other (List.mem_append_left rest member)]
            exact taken other member
        · intro other member
          rw [← same other (List.mem_append_right gone (List.mem_of_mem_head? member))]
          exact stopped other member
        · rw [if_pos expired, result]
          rfl
      · refine ⟨[], key :: order, rfl, by simp, by simpa using expired, ?_⟩
        rw [if_neg expired]
        rfl

/-- The condition of the second loop, after `taken` was evicted. -/
def exceedsWithout (cache : CommandCache Response Channel) (taken : List CommandCacheKey) : Bool :=
  (cache.removeAll .globalLimit taken).globalLimitsExceeded

theorem evictLoop_spec (order : List CommandCacheKey) (cache : CommandCache Response Channel) :
    ∃ gone rest, TakesFront cache.exceedsWithout order gone rest ∧
      evictLoop order cache = (cache.removeAll .globalLimit gone).requeue rest := by
  induction order generalizing cache with
  | nil => exact ⟨[], [], TakesFront.nil _, rfl⟩
  | cons key order ih =>
      rw [evictLoop]
      by_cases exceeded : cache.globalLimitsExceeded
      · rcases ih (cache.removeEntry key .globalLimit) with
          ⟨gone, rest, onward, result⟩
        refine ⟨key :: gone, rest, TakesFront.cons exceeded onward, ?_⟩
        rw [if_pos exceeded, result]
        rfl
      · refine ⟨[], key :: order, TakesFront.stop _ (Bool.eq_false_of_not_eq_true exceeded), ?_⟩
        rw [if_neg exceeded]
        rfl

/-! ### The loop of `enforce_device_limits` -/

/-- The keys of a device, oldest first. -/
def deviceOrder (device : Bytes) (order : List CommandCacheKey) : List CommandCacheKey :=
  order.filter fun key => key.devicePublicKey = device

/-- The condition of the device loop, after `taken` was evicted. -/
def overBudgetWithout (cache : CommandCache Response Channel) (device : Bytes)
    (taken : List CommandCacheKey) : Bool :=
  (cache.removeAll .deviceLimit taken).deviceOverBudget device

theorem removeEntry_requeue (cache : CommandCache Response Channel) (order : List CommandCacheKey)
    (key : CommandCacheKey) (reason : RemovalReason) :
    (cache.requeue order).removeEntry key reason =
      (cache.removeEntry key reason).requeue order := by
  simp only [removeEntry, requeue]
  cases found : cache.entries.lookup key with
  | none => rfl
  | some => rfl

theorem insertionOrder_removeEntry (cache : CommandCache Response Channel)
    (key : CommandCacheKey) (reason : RemovalReason) :
    (cache.removeEntry key reason).insertionOrder = cache.insertionOrder := by
  unfold removeEntry
  cases found : cache.entries.lookup key with
  | none => rfl
  | some => rfl

theorem removeAll_requeue (cache : CommandCache Response Channel) (order : List CommandCacheKey)
    (keys : List CommandCacheKey) (reason : RemovalReason) :
    (cache.requeue order).removeAll reason keys = (cache.removeAll reason keys).requeue order := by
  induction keys generalizing cache with
  | nil => rfl
  | cons key _ ih =>
      rw [removeAll, List.foldl_cons, removeEntry_requeue]
      exact ih (cache.removeEntry key reason)

/-- The device loop takes the device's own keys from the oldest on.  As many rounds as the
device has keys are enough for it to end by itself. -/
theorem enforceDeviceLoop_spec (device : Bytes) {rounds : Nat}
    (enough : (deviceOrder device cache.insertionOrder).length ≤ rounds) :
    ∃ gone rest, TakesFront (cache.overBudgetWithout device)
        (deviceOrder device cache.insertionOrder) gone rest ∧
      enforceDeviceLoop device rounds cache =
        (cache.removeAll .deviceLimit gone).requeue (cache.insertionOrder.diff gone) := by
  induction rounds generalizing cache with
  | zero =>
      rw [List.length_eq_zero_iff.mp (Nat.le_zero.mp enough)]
      exact ⟨[], [], TakesFront.nil _, rfl⟩
  | succ rounds ih =>
      rw [enforceDeviceLoop]
      by_cases overBudget : cache.deviceOverBudget device
      · rw [if_pos overBudget]
        cases own : deviceOrder device cache.insertionOrder with
        | nil =>
            have missing : cache.insertionOrder.find? (fun key => key.devicePublicKey = device) =
                none := by
              rw [← List.head?_filter]
              exact congrArg List.head? own
            rw [missing]
            exact ⟨[], [], TakesFront.nil _, rfl⟩
        | cons key keys =>
            have found : cache.insertionOrder.find? (fun key => key.devicePublicKey = device) =
                some key := by
              rw [← List.head?_filter]
              exact congrArg List.head? own
            have remaining :
                deviceOrder device (cache.insertionOrder.erase key) = keys := by
              rw [deviceOrder, ← List.erase_filter]
              exact (congrArg (List.erase · key) own).trans (List.erase_cons_head key keys)
            rw [found]
            change ∃ gone rest, _ ∧ enforceDeviceLoop device rounds
              ((cache.requeue (cache.insertionOrder.erase key)).removeEntry key .deviceLimit) = _
            rw [removeEntry_requeue]
            have shorter : (deviceOrder device ((cache.removeEntry key .deviceLimit).requeue
                (cache.insertionOrder.erase key)).insertionOrder).length ≤ rounds := by
              change (deviceOrder device (cache.insertionOrder.erase key)).length ≤ rounds
              rw [own, List.length_cons] at enough
              rw [remaining]
              omega
            rcases ih shorter with ⟨gone, rest, onward, result⟩
            have condition : ((cache.removeEntry key .deviceLimit).requeue
                (cache.insertionOrder.erase key)).overBudgetWithout device =
                fun taken => cache.overBudgetWithout device (key :: taken) := by
              funext taken
              rw [overBudgetWithout, removeAll_requeue]
              rfl
            rw [condition] at onward
            change TakesFront _ (deviceOrder device (cache.insertionOrder.erase key)) gone rest
              at onward
            rw [remaining] at onward
            refine ⟨key :: gone, rest, TakesFront.cons overBudget onward, ?_⟩
            rw [result, removeAll_requeue, List.diff_cons]
            rfl
      · refine ⟨[], _, TakesFront.stop _ (Bool.eq_false_of_not_eq_true overBudget), ?_⟩
        rw [if_neg overBudget]
        rfl

end ArcRelay.CommandCache
