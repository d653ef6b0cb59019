/-
Module: ArcRelay.Proofs.CommandCacheLimits
Purpose: The limits of the command cache in terms of its entries, and what pruning, storing and
  cutting a device back make of a cache with sound accounts.
Trusted boundary: none
-/
import ArcRelay.Proofs.CommandCacheAccounting
import ArcRelay.Server.CommandCacheRun

namespace ArcRelay.CommandCache

variable {Response Channel : Type}

/-! ### Limits in terms of entries -/

/-- A device holds at most 256 entries and 8 MiB. -/
structure DeviceWithin (cache : CommandCache Response Channel) (device : Bytes) : Prop where
  entries : HashMap.total cache.entries (deviceEntry device) ≤ maxCachedCommandsPerDevice
  bytes : HashMap.total cache.entries (deviceSize device) ≤ maxCachedCommandBytesPerDevice

/-- The cache holds at most 1024 entries and 64 MiB. -/
structure GloballyWithin (cache : CommandCache Response Channel) : Prop where
  entries : HashMap.size cache.entries ≤ maxCachedCommandsGlobal
  bytes : (HashMap.total cache.entries fun _ entry => entry.size) ≤ maxCachedCommandBytesGlobal

/-- Both limits hold, the second for every device. -/
structure WithinLimits (cache : CommandCache Response Channel) : Prop where
  global : GloballyWithin cache
  devices : ∀ device, DeviceWithin cache device

theorem any_limit_lt (counter : Option Nat) (limit : Nat) :
    counter.any (fun count => decide (limit < count)) = decide (limit < counter.getD 0) := by
  cases counter with
  | none => simp
  | some => simp

variable {order : List CommandCacheKey} {cache : CommandCache Response Channel}

theorem Accounts.overBudget_eq_false (accounts : Accounts order cache) (device : Bytes) :
    cache.deviceOverBudget device = false ↔ DeviceWithin cache device := by
  have entries := accounts.deviceEntries device
  have bytes := accounts.deviceBytes device
  unfold HashMap.count at entries bytes
  rw [deviceOverBudget, any_limit_lt, any_limit_lt, entries, bytes, Bool.or_eq_false_iff,
    decide_eq_false_iff_not, decide_eq_false_iff_not, not_lt, not_lt]
  exact ⟨fun both => ⟨both.1, both.2⟩, fun within => ⟨within.entries, within.bytes⟩⟩

theorem Accounts.exceeded_eq_false (accounts : Accounts order cache) :
    cache.globalLimitsExceeded = false ↔ GloballyWithin cache := by
  rw [globalLimitsExceeded, accounts.totalBytes, Bool.or_eq_false_iff, decide_eq_false_iff_not,
    decide_eq_false_iff_not, not_lt, not_lt]
  exact ⟨fun both => ⟨both.1, both.2⟩, fun within => ⟨within.entries, within.bytes⟩⟩

/-- `small` holds no entry that `large` does not hold. -/
def Included (small large : CommandCache Response Channel) : Prop :=
  ∀ key entry, small.entries.lookup key = some entry → large.entries.lookup key = some entry

theorem Included.trans {first second third : CommandCache Response Channel}
    (one : Included first second) (two : Included second third) : Included first third :=
  fun key entry found => two key entry (one key entry found)

variable {device : Bytes}

theorem DeviceWithin.shrink {small large : CommandCache Response Channel}
    (within : DeviceWithin large device) (included : Included small large) :
    DeviceWithin small device :=
  ⟨(HashMap.total_le_total included _).trans within.entries,
    (HashMap.total_le_total included _).trans within.bytes⟩

theorem GloballyWithin.shrink {small large : CommandCache Response Channel}
    (within : GloballyWithin large) (included : Included small large) : GloballyWithin small := by
  have entries := HashMap.total_le_total included (fun _ _ => 1)
  rw [HashMap.total_one, HashMap.total_one] at entries
  exact ⟨entries.trans within.entries, (HashMap.total_le_total included _).trans within.bytes⟩

theorem included_removeAll (reason : RemovalReason) (keys : List CommandCacheKey)
    (cache : CommandCache Response Channel) : Included (cache.removeAll reason keys) cache := by
  intro key entry found
  rw [lookup_removeAll] at found
  split at found
  · cases found
  · exact found

/-! ### Each loop ends within its limit -/

/-- A cache that is over a limit has an entry to evict. -/
theorem exists_of_exceeded (accounts : Accounts order cache)
    (exceeded : cache.globalLimitsExceeded = true) :
    ∃ key entry, cache.entries.lookup key = some entry := by
  by_contra vacant
  have empty : ∀ weight, HashMap.total cache.entries weight = 0 := by
    intro weight
    by_contra nonzero
    rcases HashMap.exists_of_total_pos (Nat.pos_of_ne_zero nonzero) with ⟨key, entry, found, _⟩
    exact vacant ⟨key, entry, found⟩
  have within : GloballyWithin cache := by
    constructor
    · rw [← HashMap.total_one, empty]
      exact Nat.zero_le _
    · rw [empty]
      exact Nat.zero_le _
  rw [accounts.exceeded_eq_false.mpr within] at exceeded
  cases exceeded

theorem exists_of_overBudget (accounts : Accounts order cache)
    (exceeded : cache.deviceOverBudget device = true) :
    ∃ key entry, cache.entries.lookup key = some entry ∧ key.devicePublicKey = device := by
  by_contra vacant
  have empty : ∀ weight, (∀ key entry, device ≠ key.devicePublicKey → weight key entry = 0) →
      HashMap.total cache.entries weight = 0 := by
    intro weight foreign
    by_contra nonzero
    rcases HashMap.exists_of_total_pos (Nat.pos_of_ne_zero nonzero) with
      ⟨key, entry, found, positive⟩
    by_cases own : device = key.devicePublicKey
    · exact vacant ⟨key, entry, found, own.symm⟩
    · rw [foreign key entry own] at positive
      exact absurd positive (Nat.lt_irrefl 0)
  have within : DeviceWithin cache device := by
    constructor
    · rw [empty (deviceEntry device) (fun key entry foreign => if_neg foreign)]
      exact Nat.zero_le _
    · rw [empty (deviceSize device) (fun key entry foreign => if_neg foreign)]
      exact Nat.zero_le _
  rw [(accounts.overBudget_eq_false device).mpr within] at exceeded
  cases exceeded

variable {gone rest : List CommandCacheKey}

/-- The second loop of `prune` does not end at an empty queue with the limits exceeded. -/
theorem Accounts.exceedsWithout_gone (accounts : Accounts order cache)
    (takes : TakesFront cache.exceedsWithout order gone rest) :
    cache.exceedsWithout gone = false := by
  rcases takes.stops with drained | stopped
  · by_contra exceeded
    rw [Bool.not_eq_false] at exceeded
    rcases exists_of_exceeded (accounts.removeAll .globalLimit gone) exceeded with
      ⟨key, entry, found⟩
    rw [lookup_removeAll] at found
    split at found
    · cases found
    next kept =>
      have queued : key ∈ order := by
        rw [accounts.enumerates, ← AList.lookup_isSome, found]
        rfl
      rw [takes.splits, drained, List.append_nil] at queued
      exact kept queued
  · exact stopped

/-- The device loop does not end without a key of the device and over its budget. -/
theorem Accounts.overBudgetWithout_gone (accounts : Accounts cache.insertionOrder cache)
    (takes : TakesFront (cache.overBudgetWithout device)
      (deviceOrder device cache.insertionOrder) gone rest) :
    cache.overBudgetWithout device gone = false := by
  rcases takes.stops with drained | stopped
  · by_contra exceeded
    rw [Bool.not_eq_false] at exceeded
    rcases exists_of_overBudget (accounts.removeAll .deviceLimit gone) exceeded with
      ⟨key, entry, found, own⟩
    rw [lookup_removeAll] at found
    split at found
    · cases found
    next kept =>
      have queued : key ∈ deviceOrder device cache.insertionOrder := by
        apply List.mem_filter.mpr
        rw [accounts.enumerates, ← AList.lookup_isSome, found]
        exact ⟨rfl, decide_eq_true own⟩
      rw [takes.splits, drained, List.append_nil] at queued
      exact kept queued
  · exact stopped

theorem evictEscapes_eq (order : List CommandCacheKey) (cache : CommandCache Response Channel) :
    evictEscapes order cache = (evictLoop order cache).globalLimitsExceeded := by
  induction order generalizing cache with
  | nil => rfl
  | cons _ _ ih =>
      rw [evictEscapes, evictLoop]
      by_cases exceeded : cache.globalLimitsExceeded
      · rw [if_pos exceeded, exceeded, Bool.true_and]
        exact ih _
      · rw [if_neg exceeded, Bool.eq_false_of_not_eq_true exceeded]
        exact (Bool.eq_false_of_not_eq_true exceeded).symm

theorem deviceLoopEscapes_eq (device : Bytes) (rounds : Nat)
    (cache : CommandCache Response Channel) :
    deviceLoopEscapes device rounds cache =
      (enforceDeviceLoop device rounds cache).deviceOverBudget device := by
  induction rounds generalizing cache with
  | zero => rfl
  | succ _ ih =>
      rw [deviceLoopEscapes, enforceDeviceLoop]
      by_cases exceeded : cache.deviceOverBudget device
      · rw [if_pos exceeded, exceeded, Bool.true_and]
        cases cache.insertionOrder.find? (fun key => key.devicePublicKey = device) with
        | none => exact exceeded.symm
        | some => exact ih _
      · rw [if_neg exceeded, Bool.eq_false_of_not_eq_true exceeded]
        rfl

/-! ### Pruning -/

/-- What `prune` leaves of a cache with sound accounts. -/
structure Pruned (before after : CommandCache Response Channel) (now : Instant) : Prop where
  accounts : Accounts after.insertionOrder after
  within : GloballyWithin after
  included : Included after before
  fresh : ∀ key entry, after.entries.lookup key = some entry → entry.expired now = false

variable {now : Instant}

/-- An expired entry stays expired in the eyes of everything older. -/
theorem expired_of_older {first second : CachedCommand Response}
    (older : first.createdAt ≤ second.createdAt) (fresh : first.expired now = false) :
    second.expired now = false := by
  simp only [CachedCommand.expired, decide_eq_false_iff_not, not_le] at fresh ⊢
  exact (Nat.sub_le_sub_left older now).trans_lt fresh

variable {key : CommandCacheKey} {entry : CachedCommand Response}

/-- What is left after the expired front of an aged queue is not expired. -/
theorem Accounts.fresh_rest (accounts : Accounts (gone ++ rest) cache)
    (stopped : ∀ key ∈ rest.head?, cache.expiredAt now key = false) (kept : key ∉ gone)
    (found : cache.entries.lookup key = some entry) : entry.expired now = false := by
  have queued : key ∈ gone ++ rest := by
    rw [accounts.enumerates, ← AList.lookup_isSome, found]
    rfl
  have inRest : key ∈ rest := (List.mem_append.mp queued).resolve_left kept
  cases rest with
  | nil => cases inRest
  | cons first =>
      have front : cache.expiredAt now first = false := stopped first rfl
      rcases List.mem_cons.mp inRest with rfl | later
      · simpa [expiredAt, found] using front
      · have aged := List.pairwise_append.mp accounts.byAge
        have inOrder := List.rel_of_pairwise_cons aged.2.1 later
        cases firstFound : cache.entries.lookup first with
        | none => simp [expiredAt, firstFound] at front
        | some oldest =>
            have fresh : oldest.expired now = false := by
              simpa [expiredAt, firstFound] using front
            exact expired_of_older (inOrder oldest entry firstFound found) fresh

theorem diff_append_left : (gone ++ rest).diff gone = rest := by
  induction gone with
  | nil => rfl
  | cons _ _ ih =>
      rw [List.cons_append, List.diff_cons, List.erase_cons_head, ih]

/-- Which keys the two loops of `prune` take, and what is left. -/
structure PruneLoops (cache : CommandCache Response Channel) (now : Instant)
    (expired evicted rest : List CommandCacheKey) : Prop where
  splits : cache.insertionOrder = expired ++ (evicted ++ rest)
  expires : ∀ key ∈ expired, cache.expiredAt now key = true
  spares : ∀ key entry, key ∉ expired → cache.entries.lookup key = some entry →
    entry.expired now = false
  evicts : TakesFront (cache.removeAll .expired expired).exceedsWithout (evicted ++ rest) evicted
    rest
  result : cache.prune now =
    ((cache.removeAll .expired expired).removeAll .globalLimit evicted).requeue rest

variable {expired : List CommandCacheKey}

theorem Accounts.expired_front (accounts : Accounts (expired ++ rest) cache) :
    Accounts rest (cache.removeAll .expired expired) := by
  have remaining := accounts.removeAll .expired expired
  rwa [diff_append_left] at remaining

theorem exceedsWithout_requeue (cache : CommandCache Response Channel)
    (order : List CommandCacheKey) :
    (cache.requeue order).exceedsWithout = cache.exceedsWithout := by
  funext taken
  rw [exceedsWithout, removeAll_requeue]
  rfl

theorem prune_spec (now : Instant) (accounts : Accounts cache.insertionOrder cache) :
    ∃ expired evicted rest, PruneLoops cache now expired evicted rest := by
  rcases expireLoop_spec now accounts.nodup cache with
    ⟨expired, queue, split, taken, stopped, expiry⟩
  rcases evictLoop_spec queue ((cache.removeAll .expired expired).requeue queue) with
    ⟨evicted, rest, takes, eviction⟩
  rw [exceedsWithout_requeue] at takes
  rw [split] at accounts
  refine ⟨expired, evicted, rest, by rw [split, takes.splits], taken, ?_, takes.splits ▸ takes, ?_⟩
  · intro key entry kept found
    exact accounts.fresh_rest stopped kept found
  · rw [prune, expiry]
    exact eviction.trans (by rw [removeAll_requeue]; rfl)

variable {evicted : List CommandCacheKey}

/-- The accounts, the global limit and the age of what is left follow from the loops. -/
theorem PruneLoops.pruned (loops : PruneLoops cache now expired evicted rest)
    (accounts : Accounts cache.insertionOrder cache) : Pruned cache (cache.prune now) now := by
  rw [loops.splits] at accounts
  have afterExpiry := accounts.expired_front
  have remaining := afterExpiry.removeAll .globalLimit evicted
  rw [diff_append_left] at remaining
  rw [loops.result]
  constructor
  · exact remaining.requeue rest
  · exact (remaining.requeue rest).exceeded_eq_false.mp
      (afterExpiry.exceedsWithout_gone loops.evicts)
  · exact (included_removeAll _ _ _).trans (included_removeAll _ _ _)
  · intro key entry found
    have present := included_removeAll .globalLimit evicted _ key entry found
    rw [lookup_removeAll] at present
    split at present
    · cases present
    next kept =>
      exact loops.spares key entry kept present

theorem PruneLoops.lookup (loops : PruneLoops cache now expired evicted rest)
    (key : CommandCacheKey) :
    (cache.prune now).entries.lookup key =
      if key ∈ evicted ∨ key ∈ expired then none else cache.entries.lookup key := by
  rw [loops.result]
  change (removeAll _ _ _).entries.lookup key = _
  rw [lookup_removeAll, lookup_removeAll]
  by_cases evicted : key ∈ evicted
  · simp [evicted]
  · simp [evicted]

theorem pruneEscapes_eq_false (now : Instant) (accounts : Accounts cache.insertionOrder cache) :
    pruneEscapes cache now = false := by
  rcases prune_spec now accounts with ⟨expired, evicted, rest, loops⟩
  have pruned := loops.pruned accounts
  rw [pruneEscapes, evictEscapes_eq]
  exact pruned.accounts.exceeded_eq_false.mpr pruned.within

/-! ### Storing an entry -/

theorem lookup_stored (cache : CommandCache Response Channel) (key other : CommandCacheKey)
    (command : Bytes) (response : Response) (encodedLen : Nat) (createdAt : Instant) :
    (cache.stored key command response encodedLen createdAt).entries.lookup other =
      if other = key then
        some ⟨command, response, createdAt, chargedSize key command encodedLen⟩
      else cache.entries.lookup other := by
  change AList.lookup other ((cache.removeEntry key .replaced).entries.insert key _) = _
  by_cases same : other = key
  · subst other
    rw [if_pos rfl, AList.lookup_insert]
  · rw [if_neg same, AList.lookup_insert_ne same, lookup_removeEntry, if_neg same]

theorem erase_eq_filter_ne (nodup : order.Nodup) (key : CommandCacheKey) :
    order.filter (fun existing => existing ≠ key) = order.erase key := by
  rw [nodup.erase_eq_filter]
  congr 1
  funext existing
  by_cases same : existing = key
  · simp [same]
  · simp [same]

theorem Accounts.insertionOrder_stored (accounts : Accounts cache.insertionOrder cache)
    (key : CommandCacheKey) (command : Bytes) (response : Response) (encodedLen : Nat)
    (createdAt : Instant) :
    (cache.stored key command response encodedLen createdAt).insertionOrder =
      cache.insertionOrder.erase key ++ [key] := by
  change (cache.removeEntry key .replaced).insertionOrder.filter (fun existing => existing ≠ key)
    ++ [key] = _
  rw [insertionOrder_removeEntry, erase_eq_filter_ne accounts.nodup]

/-- A stored entry is charged to the counters and goes to the back of the queue. -/
theorem Accounts.store (accounts : Accounts order cache) (vacant : key ∉ order)
    (latest : ∀ other earlier, cache.entries.lookup other = some earlier →
      earlier.createdAt ≤ entry.createdAt) (room : cache.totalBytes + entry.size ≤ usizeMax) :
    Accounts (order ++ [key]) (cache.store key entry) := by
  have absent : cache.entries.lookup key = none :=
    AList.lookup_eq_none.mpr ((accounts.enumerates key).not.mp vacant)
  have others : ∀ other, other ≠ key →
      (cache.store key entry).entries.lookup other = cache.entries.lookup other :=
    fun other different => AList.lookup_insert_ne different
  have own : (cache.store key entry).entries.lookup key = some entry := AList.lookup_insert _
  have different : ∀ other ∈ order, other ≠ key := by
    rintro other member rfl
    exact vacant member
  constructor
  · apply List.nodup_append.mpr
    refine ⟨accounts.nodup, List.nodup_singleton key, ?_⟩
    intro other member last isLast
    rw [List.mem_singleton.mp isLast]
    exact different other member
  · intro other
    change _ ↔ other ∈ cache.entries.insert key entry
    rw [List.mem_append, List.mem_singleton, AList.mem_insert, accounts.enumerates, or_comm]
  · apply List.pairwise_append.mpr
    refine ⟨?_, List.pairwise_singleton _ key, ?_⟩
    · apply accounts.byAge.imp_of_mem
      intro first second firstMember secondMember inOrder earlier later firstFound secondFound
      rw [others first (different first firstMember)] at firstFound
      rw [others second (different second secondMember)] at secondFound
      exact inOrder earlier later firstFound secondFound
    · intro first member last isLast earlier later firstFound lastFound
      rw [others first (different first member)] at firstFound
      rw [List.mem_singleton.mp isLast, own] at lastFound
      cases lastFound
      exact latest first earlier firstFound
  · change saturatingAdd cache.totalBytes entry.size = HashMap.total (cache.entries.insert key entry) _
    rw [HashMap.total_insert_new entry _ absent, ← accounts.totalBytes]
    exact min_eq_left room
  · intro device
    change HashMap.count (cache.perDeviceBytes.insert key.devicePublicKey _) device =
      HashMap.total (cache.entries.insert key entry) _
    rw [HashMap.count_insert_add, HashMap.total_insert_new entry _ absent,
      accounts.deviceBytes device]
    rfl
  · intro device
    change HashMap.count (cache.perDeviceEntries.insert key.devicePublicKey _) device =
      HashMap.total (cache.entries.insert key entry) _
    rw [HashMap.count_insert_add, HashMap.total_insert_new entry _ absent,
      accounts.deviceEntries device]
    rfl

variable {command : Bytes} {encodedLen : Nat}

theorem chargedSize_le (fits : oversized key command encodedLen = false) :
    chargedSize key command encodedLen ≤ maxCachedCommandBytesPerDevice := by
  rw [oversized, Bool.or_eq_false_iff, decide_eq_false_iff_not, not_lt] at fits
  exact fits.1

theorem Accounts.stored (accounts : Accounts cache.insertionOrder cache)
    (within : GloballyWithin cache) (response : Response) {createdAt : Instant}
    (fits : oversized key command encodedLen = false)
    (latest : ∀ other earlier, cache.entries.lookup other = some earlier →
      earlier.createdAt ≤ createdAt) :
    Accounts (cache.insertionOrder.erase key ++ [key])
      (cache.stored key command response encodedLen createdAt) := by
  have vacated := (accounts.removeEntry key .replaced).requeue
    ((cache.removeEntry key .replaced).insertionOrder.filter fun existing => existing ≠ key)
  apply vacated.store
  · exact accounts.nodup.not_mem_erase
  · intro other earlier found
    change (cache.removeEntry key .replaced).entries.lookup other = _ at found
    rw [lookup_removeEntry] at found
    split at found
    · cases found
    · exact latest other earlier found
  · have shrunk : Included (cache.removeEntry key .replaced) cache :=
      included_removeAll .replaced [key] cache
    have bytes : (cache.removeEntry key .replaced).totalBytes ≤ maxCachedCommandBytesGlobal := by
      rw [(accounts.removeEntry key .replaced).totalBytes]
      exact (within.shrink shrunk).bytes
    have size := chargedSize_le fits
    have bound : maxCachedCommandBytesGlobal + maxCachedCommandBytesPerDevice ≤ usizeMax := by
      decide
    exact (Nat.add_le_add bytes size).trans bound

/-! ### Cutting a device back -/

/-- A device that is over its budget has a counter of entries. -/
theorem Accounts.counted_of_overBudget (accounts : Accounts order cache)
    (exceeded : cache.deviceOverBudget device = true) :
    device ∈ cache.perDeviceEntries.keys := by
  rcases exists_of_overBudget accounts exceeded with ⟨key, entry, found, rfl⟩
  have weighs := HashMap.weight_le_total (deviceEntry key.devicePublicKey) found
  rw [← accounts.deviceEntries, deviceEntry, if_pos rfl] at weighs
  by_contra uncounted
  have missing : cache.perDeviceEntries.lookup key.devicePublicKey = none :=
    AList.lookup_eq_none.mpr uncounted
  rw [HashMap.count, missing] at weighs
  exact absurd weighs (by decide)

/-- When one device alone can be over its budget, its loop is the only one that runs. -/
theorem Accounts.overBudget_devices (accounts : Accounts order cache)
    (others : ∀ other, other ≠ device → DeviceWithin cache other) :
    cache.perDeviceEntries.keys.filter cache.deviceOverBudget =
      if cache.deviceOverBudget device then [device] else [] := by
  have foreign : ∀ other ∈ cache.perDeviceEntries.keys.filter cache.deviceOverBudget,
      other = device := by
    intro other member
    by_contra different
    have exceeded := (List.mem_filter.mp member).2
    rw [(accounts.overBudget_eq_false other).mpr (others other different)] at exceeded
    cases exceeded
  have nodup := cache.perDeviceEntries.keys_nodup.filter cache.deviceOverBudget
  by_cases exceeded : cache.deviceOverBudget device
  · rw [if_pos exceeded]
    apply List.perm_singleton.mp
    apply (List.perm_ext_iff_of_nodup nodup (List.nodup_singleton device)).mpr
    intro other
    rw [List.mem_singleton]
    constructor
    · exact foreign other
    · rintro rfl
      exact List.mem_filter.mpr ⟨accounts.counted_of_overBudget exceeded, exceeded⟩
  · rw [if_neg exceeded]
    apply List.eq_nil_iff_forall_not_mem.mpr
    intro other member
    rw [foreign other member] at member
    exact exceeded (List.mem_filter.mp member).2

/-- Which keys `enforce_device_limits` takes when one device alone can be over its budget. -/
structure CutsBack (cache : CommandCache Response Channel) (device : Bytes)
    (gone rest : List CommandCacheKey) : Prop where
  takes : TakesFront (cache.overBudgetWithout device) (deviceOrder device cache.insertionOrder)
    gone rest
  result : cache.enforceDeviceLimits =
    (cache.removeAll .deviceLimit gone).requeue (cache.insertionOrder.diff gone)

theorem enforceDeviceLimits_spec (accounts : Accounts cache.insertionOrder cache)
    (others : ∀ other, other ≠ device → DeviceWithin cache other) :
    ∃ gone rest, CutsBack cache device gone rest := by
  by_cases exceeded : cache.deviceOverBudget device
  · rcases enforceDeviceLoop_spec device (List.length_filter_le _ cache.insertionOrder) with
      ⟨gone, rest, takes, result⟩
    refine ⟨gone, rest, takes, ?_⟩
    rw [enforceDeviceLimits, accounts.overBudget_devices others, if_pos exceeded]
    exact result
  · refine ⟨[], _, TakesFront.stop _ (Bool.eq_false_of_not_eq_true exceeded), ?_⟩
    rw [enforceDeviceLimits, accounts.overBudget_devices others, if_neg exceeded]
    rfl

namespace CutsBack

variable (cuts : CutsBack cache device gone rest)

include cuts

theorem accounts (accounts : Accounts cache.insertionOrder cache) :
    Accounts cache.enforceDeviceLimits.insertionOrder cache.enforceDeviceLimits := by
  rw [cuts.result]
  exact (accounts.removeAll .deviceLimit gone).requeue _

theorem lookup (key : CommandCacheKey) : cache.enforceDeviceLimits.entries.lookup key =
      if key ∈ gone then none else cache.entries.lookup key := by
  rw [cuts.result]
  exact lookup_removeAll _ _ _ _

theorem included : Included cache.enforceDeviceLimits cache := by
  rw [cuts.result]
  exact included_removeAll _ _ _

/-- Only keys of the device are taken. -/
theorem own (taken : key ∈ gone) : key.devicePublicKey = device := by
  have member : key ∈ deviceOrder device cache.insertionOrder := by
    rw [cuts.takes.splits]
    exact List.mem_append_left rest taken
  exact of_decide_eq_true (List.mem_filter.mp member).2

theorem within (accounts : Accounts cache.insertionOrder cache)
    (others : ∀ other, other ≠ device → DeviceWithin cache other) (other : Bytes) :
    DeviceWithin cache.enforceDeviceLimits other := by
  by_cases same : other = device
  · subst other
    apply ((cuts.accounts accounts).overBudget_eq_false device).mp
    rw [cuts.result]
    exact accounts.overBudgetWithout_gone cuts.takes
  · exact (others other same).shrink cuts.included

end CutsBack

theorem devicesEscape_eq_false (accounts : Accounts cache.insertionOrder cache)
    (others : ∀ other, other ≠ device → DeviceWithin cache other) :
    devicesEscape (cache.perDeviceEntries.keys.filter cache.deviceOverBudget) cache = false := by
  rw [accounts.overBudget_devices others]
  by_cases exceeded : cache.deviceOverBudget device
  · rcases enforceDeviceLoop_spec device (List.length_filter_le _ cache.insertionOrder) with
      ⟨gone, rest, takes, result⟩
    have ended := accounts.overBudgetWithout_gone takes
    rw [if_pos exceeded, devicesEscape, devicesEscape, Bool.or_false, deviceLoopEscapes_eq, result]
    exact ended
  · rw [if_neg exceeded]
    rfl

/-! ### Insertion -/

theorem insert_of_oversized (cache : CommandCache Response Channel) (response : Response)
    (createdAt pruneAt : Instant) (large : oversized key command encodedLen = true) :
    cache.insert key command response encodedLen createdAt pruneAt =
      { (cache.removeEntry key .replaced).requeue
          ((cache.removeEntry key .replaced).insertionOrder.filter fun existing => existing ≠ key)
        with removals := ⟨key, .oversized⟩ :: (cache.removeEntry key .replaced).removals } :=
  if_pos large

theorem insert_of_fits (cache : CommandCache Response Channel) (response : Response)
    (createdAt pruneAt : Instant) (fits : oversized key command encodedLen = false) :
    cache.insert key command response encodedLen createdAt pruneAt =
      (cache.stored key command response encodedLen createdAt).enforceDeviceLimits.prune
        pruneAt := by
  have unexceeded : ¬ oversized key command encodedLen = true := by simp [fits]
  exact if_neg unexceeded

/-- Storing an entry adds to its own device alone. -/
theorem DeviceWithin.stored {other : Bytes} (within : DeviceWithin cache other) (command : Bytes)
    (response : Response) (encodedLen : Nat) (createdAt : Instant)
    (different : other ≠ key.devicePublicKey) :
    DeviceWithin (cache.stored key command response encodedLen createdAt) other := by
  have shrunk : Included (cache.removeEntry key .replaced) cache :=
    included_removeAll .replaced [key] cache
  have absent : (cache.removeEntry key .replaced).entries.lookup key = none := by
    rw [lookup_removeEntry, if_pos rfl]
  have vacated := within.shrink shrunk
  constructor
  · change HashMap.total ((cache.removeEntry key .replaced).entries.insert key _) _ ≤ _
    rw [HashMap.total_insert_new _ _ absent, deviceEntry, if_neg different]
    exact vacated.entries
  · change HashMap.total ((cache.removeEntry key .replaced).entries.insert key _) _ ≤ _
    rw [HashMap.total_insert_new _ _ absent, deviceSize, if_neg different]
    exact vacated.bytes

/-- The device loop stops before the entry just stored: alone it is within the budget. -/
theorem CutsBack.spares_last {before : List CommandCacheKey}
    (cuts : CutsBack cache key.devicePublicKey gone rest)
    (accounts : Accounts cache.insertionOrder cache)
    (last : cache.insertionOrder = before ++ [key])
    (found : cache.entries.lookup key = some entry)
    (small : entry.size ≤ maxCachedCommandBytesPerDevice) : key ∉ gone := by
  have queue : deviceOrder key.devicePublicKey cache.insertionOrder =
      deviceOrder key.devicePublicKey before ++ [key] := by
    rw [last, deviceOrder, List.filter_append]
    simp [deviceOrder]
  have nodup : (deviceOrder key.devicePublicKey cache.insertionOrder).Nodup :=
    accounts.nodup.filter _
  have fresh : key ∉ deviceOrder key.devicePublicKey before := by
    rw [queue] at nodup
    intro member
    exact (List.nodup_append.mp nodup).2.2 key member key (List.mem_singleton_self key) rfl
  have takes := cuts.takes
  rw [queue] at takes nodup
  apply takes.keeps_last nodup
  have removed := accounts.removeAll .deviceLimit (deviceOrder key.devicePublicKey before)
  have kept : (cache.removeAll .deviceLimit (deviceOrder key.devicePublicKey before)).entries.lookup
      key = some entry := by
    rw [lookup_removeAll, if_neg fresh, found]
  -- all other entries of the device are among those taken before it
  have foreign : ∀ other content, other ≠ key →
      (cache.removeAll .deviceLimit (deviceOrder key.devicePublicKey before)).entries.lookup other =
        some content → key.devicePublicKey ≠ other.devicePublicKey := by
    intro other content different present same
    rw [lookup_removeAll] at present
    split at present
    · cases present
    next untaken =>
      have queued : other ∈ cache.insertionOrder := by
        rw [accounts.enumerates, ← AList.lookup_isSome, present]
        rfl
      rw [last, List.mem_append, List.mem_singleton] at queued
      exact untaken (List.mem_filter.mpr
        ⟨queued.resolve_right different, decide_eq_true same.symm⟩)
  apply (removed.overBudget_eq_false key.devicePublicKey).mpr
  constructor
  · rw [HashMap.total_eq_weight (deviceEntry key.devicePublicKey) kept
      (fun other content different present => if_neg (foreign other content different present)),
      deviceEntry, if_pos rfl]
    decide
  · rw [HashMap.total_eq_weight (deviceSize key.devicePublicKey) kept
      (fun other content different present => if_neg (foreign other content different present)),
      deviceSize, if_pos rfl]
    exact small

/-- The loops of `prune` spare the last entry of the queue while it is fresh: alone it is within
the global limits. -/
theorem PruneLoops.spares_last {before : List CommandCacheKey}
    (loops : PruneLoops cache now expired evicted rest)
    (accounts : Accounts cache.insertionOrder cache)
    (last : cache.insertionOrder = before ++ [key])
    (found : cache.entries.lookup key = some entry) (fresh : entry.expired now = false)
    (small : entry.size ≤ maxCachedCommandBytesGlobal) :
    (cache.prune now).entries.lookup key = some entry := by
  have unexpired : key ∉ expired := by
    intro member
    have verdict := loops.expires key member
    rw [expiredAt, found, Option.all_some, fresh] at verdict
    cases verdict
  have splits := loops.splits
  rw [last] at splits
  rcases exists_of_append_singleton splits unexpired with ⟨queue, ends, prior⟩
  have takes := loops.evicts
  rw [ends] at takes
  rw [loops.splits, ends] at accounts
  have afterExpiry := accounts.expired_front
  have unqueued : key ∉ queue := by
    intro member
    exact (List.nodup_append.mp afterExpiry.nodup).2.2 key member key
      (List.mem_singleton_self key) rfl
  have unevicted : key ∉ evicted := by
    apply takes.keeps_last afterExpiry.nodup
    have removed := afterExpiry.removeAll .globalLimit queue
    rw [diff_append_left] at removed
    have kept : ((cache.removeAll .expired expired).removeAll .globalLimit queue).entries.lookup
        key = some entry := by
      rw [lookup_removeAll, if_neg unqueued, lookup_removeAll, if_neg unexpired, found]
    apply removed.exceeded_eq_false.mpr
    constructor
    · rw [removed.size_eq, List.length_singleton]
      decide
    · rw [removed.total_single kept]
      exact small
  rw [loops.lookup, if_neg (by simp [unexpired, unevicted]), found]

end ArcRelay.CommandCache
