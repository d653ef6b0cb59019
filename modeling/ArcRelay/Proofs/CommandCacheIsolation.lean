/-
Module: ArcRelay.Proofs.CommandCacheIsolation
Purpose: What an insertion for one device can do to the entries of another.
Trusted boundary: none
-/
import ArcRelay.Proofs.CommandCacheRepresentation

namespace ArcRelay.CommandCache

variable {Response Channel : Type}

/-!
An insertion cuts back the device it is for, and then prunes the cache as a whole.  The first
stage takes entries of that device alone.  The second takes an unexpired entry only while the
global limits are exceeded, and they cannot be exceeded by four devices that are each within
their own limits.
-/

variable {cache : CommandCache Response Channel}

/-- The entries of at most four devices, each within its limits, are within the global ones. -/
theorem globallyWithin_of_devices {devices : List Bytes} (few : devices.length ≤ 4)
    (within : ∀ device, DeviceWithin cache device)
    (covered : ∀ key entry, cache.entries.lookup key = some entry →
      key.devicePublicKey ∈ devices) : GloballyWithin cache := by
  have bounded : ∀ (weight : Bytes → Nat) (limit : Nat), (∀ device, weight device ≤ limit) →
      (devices.map weight).sum ≤ 4 * limit := by
    intro weight limit each
    calc (devices.map weight).sum
        ≤ (devices.map weight).length * limit := by
          apply List.sum_le_card_nsmul
          intro value member
          rcases List.mem_map.mp member with ⟨device, _, rfl⟩
          exact each device
      _ ≤ 4 * limit := by
          rw [List.length_map]
          exact Nat.mul_le_mul_right limit few
  constructor
  · rw [← HashMap.total_one]
    calc HashMap.total cache.entries (fun _ _ => 1)
        ≤ (devices.map fun device => HashMap.total cache.entries (deviceEntry device)).sum :=
          HashMap.total_le_sum_classes CommandCacheKey.devicePublicKey devices _ covered
      _ ≤ 4 * maxCachedCommandsPerDevice := bounded _ _ fun device => (within device).entries
      _ ≤ maxCachedCommandsGlobal := by decide
  · calc (HashMap.total cache.entries fun _ entry => entry.size)
        ≤ (devices.map fun device => HashMap.total cache.entries (deviceSize device)).sum :=
          HashMap.total_le_sum_classes CommandCacheKey.devicePublicKey devices _ covered
      _ ≤ 4 * maxCachedCommandBytesPerDevice := bounded _ _ fun device => (within device).bytes
      _ ≤ maxCachedCommandBytesGlobal := by decide

variable {key : CommandCacheKey}

/-- An unexpired entry that pruning removes was evicted by the global limits. -/
theorem PruneLoops.exceeded_of_lost {now : Instant} {expired evicted rest : List CommandCacheKey}
    (loops : PruneLoops cache now expired evicted rest)
    (accounts : Accounts cache.insertionOrder cache) {entry : CachedCommand Response}
    (found : cache.entries.lookup key = some entry) (fresh : entry.expired now = false)
    (lost : (cache.prune now).entries.lookup key = none) :
    ¬ GloballyWithin cache := by
  intro within
  have unexpired : key ∉ expired := by
    intro member
    have verdict := loops.expires key member
    rw [expiredAt, found, Option.all_some, fresh] at verdict
    cases verdict
  rw [loops.lookup] at lost
  have taken : key ∈ evicted := by
    by_contra kept
    rw [if_neg (by simp [kept, unexpired]), found] at lost
    cases lost
  cases shape : evicted with
  | nil =>
      rw [shape] at taken
      cases taken
  | cons first others =>
      have exceeded := loops.evicts.needed [] first others shape
      rw [loops.splits] at accounts
      have kept := within.shrink (included_removeAll .expired expired cache)
      rw [exceedsWithout, removeAll, List.foldl_nil,
        accounts.expired_front.exceeded_eq_false.mpr kept] at exceeded
      cases exceeded

/-- The guarantees of an insertion towards other devices, and the order in which it evicts the
entries of its own. -/
structure Isolates (before : CommandCache Response Channel) (key : CommandCacheKey)
    (command : Bytes) (response : Response) (encodedLen : Nat) (createdAt pruneAt : Instant) :
    Prop where
  /-- An entry that fits is stored and its device cut back, and then the cache is pruned. -/
  stages : oversized key command encodedLen = false →
    before.insert key command response encodedLen createdAt pruneAt =
      (before.cutBack key command response encodedLen createdAt).prune pruneAt
  /-- Cutting back leaves other devices alone and its own within the limits. -/
  cutsOwn : oversized key command encodedLen = false →
    DeviceWithin (before.cutBack key command response encodedLen createdAt) key.devicePublicKey ∧
    ∀ other, other.devicePublicKey ≠ key.devicePublicKey →
      (before.cutBack key command response encodedLen createdAt).entries.lookup other =
        before.entries.lookup other
  /-- Another device loses an unexpired entry only to the global limits. -/
  global : ∀ other entry, other.devicePublicKey ≠ key.devicePublicKey →
    before.entries.lookup other = some entry → entry.expired pruneAt = false →
    (before.insert key command response encodedLen createdAt pruneAt).entries.lookup other =
      none →
    ¬ GloballyWithin (before.cutBack key command response encodedLen createdAt)
  /-- With four devices in all, another device loses no unexpired entry. -/
  fourDevices : ∀ devices : List Bytes, devices.length ≤ 4 → key.devicePublicKey ∈ devices →
    (∀ other entry, before.entries.lookup other = some entry →
      other.devicePublicKey ∈ devices) →
    ∀ other entry, other.devicePublicKey ≠ key.devicePublicKey →
      before.entries.lookup other = some entry → entry.expired pruneAt = false →
      (before.insert key command response encodedLen createdAt pruneAt).entries.lookup other =
        some entry
  /-- The device limits take the oldest entries of the device, and no more than they have to. -/
  oldestFirst : oversized key command encodedLen = false →
    ∃ gone rest,
      deviceOrder key.devicePublicKey
          (before.stored key command response encodedLen createdAt).insertionOrder =
        gone ++ rest ∧
      (∀ other, (before.cutBack key command response encodedLen createdAt).entries.lookup other =
        if other ∈ gone then none
        else (before.stored key command response encodedLen createdAt).entries.lookup other) ∧
      (∀ old ∈ gone, ∀ young ∈ rest,
        (before.stored key command response encodedLen createdAt).CreatedInOrder old young) ∧
      ∀ earlier next later, gone = earlier ++ next :: later →
        ¬ DeviceWithin ((before.stored key command response encodedLen createdAt).removeAll
          .deviceLimit earlier) key.devicePublicKey

variable {command : Bytes} {encodedLen : Nat}

theorem lookup_insert_oversized (cache : CommandCache Response Channel) {other : CommandCacheKey}
    (response : Response) (createdAt pruneAt : Instant)
    (large : oversized key command encodedLen = true)
    (different : other.devicePublicKey ≠ key.devicePublicKey) :
    (cache.insert key command response encodedLen createdAt pruneAt).entries.lookup other =
      cache.entries.lookup other := by
  have distinct : other ≠ key := by
    rintro rfl
    exact different rfl
  rw [insert_of_oversized cache response createdAt pruneAt large]
  change (cache.removeEntry key .replaced).entries.lookup other = _
  rw [lookup_removeEntry, if_neg distinct]

/-- An entry that is not stored leaves the other devices as they were. -/
theorem isolates_oversized (cache : CommandCache Response Channel) (response : Response)
    (createdAt pruneAt : Instant) (large : oversized key command encodedLen = true) :
    Isolates cache key command response encodedLen createdAt pruneAt where
  stages := by
    intro fits
    rw [large] at fits
    cases fits
  cutsOwn := by
    intro fits
    rw [large] at fits
    cases fits
  global := by
    intro other entry different found _ lost
    rw [lookup_insert_oversized cache response createdAt pruneAt large different, found] at lost
    cases lost
  fourDevices := by
    intro devices _ _ _ other entry different found _
    rw [lookup_insert_oversized cache response createdAt pruneAt large different, found]
  oldestFirst := by
    intro fits
    rw [large] at fits
    cases fits

theorem Sound.isolates {readings : List Instant} (sound : Sound cache readings)
    (response : Response) {createdAt : Instant} (pruneAt : Instant)
    (fits : oversized key command encodedLen = false)
    (latest : ∀ earlier ∈ readings, earlier ≤ createdAt) :
    Isolates cache key command response encodedLen createdAt pruneAt := by
  have stores := sound.stores response fits latest
  rcases enforceDeviceLimits_spec stores.accounts stores.others with ⟨gone, rest, cuts⟩
  have accounts := cuts.accounts stores.accounts
  have within := cuts.within stores.accounts stores.others
  rcases prune_spec pruneAt accounts with ⟨expired, evicted, left, loops⟩
  have foreign : ∀ other : CommandCacheKey, other.devicePublicKey ≠ key.devicePublicKey →
      (cache.cutBack key command response encodedLen createdAt).entries.lookup other =
        cache.entries.lookup other := by
    intro other different
    have distinct : other ≠ key := by
      rintro rfl
      exact different rfl
    have spared : other ∉ gone := fun taken => different (cuts.own taken)
    rw [cutBack, cuts.lookup, if_neg spared, lookup_stored, if_neg distinct]
  have global : ∀ (other : CommandCacheKey) entry, other.devicePublicKey ≠ key.devicePublicKey →
      cache.entries.lookup other = some entry → entry.expired pruneAt = false →
      (cache.insert key command response encodedLen createdAt pruneAt).entries.lookup other =
        none →
      ¬ GloballyWithin (cache.cutBack key command response encodedLen createdAt) := by
    intro other entry different found fresh lost
    rw [insert_of_fits cache response createdAt pruneAt fits] at lost
    exact loops.exceeded_of_lost accounts ((foreign other different).trans found) fresh lost
  refine ⟨insert_of_fits cache response createdAt pruneAt,
    fun _ => ⟨within key.devicePublicKey, foreign⟩, global, ?_, ?_⟩
  · intro devices few own covered other entry different found fresh
    have small : GloballyWithin (cache.cutBack key command response encodedLen createdAt) := by
      apply globallyWithin_of_devices few within
      intro held content present
      have storedContent := cuts.included held content present
      rw [lookup_stored] at storedContent
      split at storedContent
      next same =>
        rw [same]
        exact own
      · exact covered held content storedContent
    cases kept : (cache.insert key command response encodedLen createdAt pruneAt).entries.lookup
        other with
    | none => exact absurd small (global other entry different found fresh kept)
    | some content =>
        have before : (cache.cutBack key command response encodedLen createdAt).entries.lookup
            other = some content := by
          rw [insert_of_fits cache response createdAt pruneAt fits] at kept
          exact (loops.pruned accounts).included other content kept
        rw [foreign other different, found] at before
        exact before.symm
  · intro _
    refine ⟨gone, rest, cuts.takes.splits, cuts.lookup, ?_, ?_⟩
    · have aged : (deviceOrder key.devicePublicKey
          (cache.stored key command response encodedLen createdAt).insertionOrder).Pairwise _ :=
        stores.accounts.byAge.sublist List.filter_sublist
      rw [cuts.takes.splits] at aged
      exact (List.pairwise_append.mp aged).2.2
    · intro earlier next later shape inside
      have exceeded := cuts.takes.needed earlier next later shape
      have removed := stores.accounts.removeAll .deviceLimit earlier
      rw [overBudgetWithout, (removed.overBudget_eq_false _).mpr inside] at exceeded
      cases exceeded

/-- Every insertion of a run isolates the device it is for from the others. -/
theorem insert_isolates_devices (calls : List (CacheCall Response)) (key : CommandCacheKey)
    (command : Bytes) (response : Response) (encodedLen : Nat) (createdAt pruneAt : Instant)
    (clock : MonotoneClock
      (calls ++ [.insert key command response encodedLen createdAt pruneAt])) :
    Isolates (runCalls calls : CommandCache Response Channel) key command response encodedLen
      createdAt pruneAt := by
  by_cases large : oversized key command encodedLen = true
  · exact isolates_oversized _ response createdAt pruneAt large
  · apply (sound_runCalls clock.of_append).isolates response pruneAt
      (Bool.eq_false_of_not_eq_true large)
    intro earlier member
    apply clock.latest earlier member
    rw [CacheCall.readings, if_neg large]
    simp

/-- One device has an entry, another one a response of five megabytes. -/
def twoDevices : List (CacheCall Unit) :=
  [.insert ⟨[1], [2]⟩ [7] () 1 3 4, .insert ⟨[9], [2]⟩ [8] () (5 * 1024 * 1024) 5 6]

/-- Five megabytes more cost the other device its own older entry, and the first one nothing. -/
theorem insert_isolates_devices_twoDevices :
    MonotoneClock (twoDevices ++ [.insert ⟨[9], [3]⟩ [8] () (5 * 1024 * 1024) 7 8]) ∧
      Isolates (runCalls twoDevices : CommandCache Unit Unit) ⟨[9], [3]⟩ [8] ()
        (5 * 1024 * 1024) 7 8 ∧
      ((runCalls twoDevices : CommandCache Unit Unit).insert ⟨[9], [3]⟩ [8] () (5 * 1024 * 1024)
        7 8).insertionOrder = [⟨[1], [2]⟩, ⟨[9], [3]⟩] ∧
      ((runCalls twoDevices : CommandCache Unit Unit).insert ⟨[9], [3]⟩ [8] () (5 * 1024 * 1024)
        7 8).removals = [⟨⟨[9], [2]⟩, .deviceLimit⟩] :=
  ⟨by decide +kernel, insert_isolates_devices _ _ _ _ _ _ _ (by decide +kernel),
    by decide +kernel, by decide +kernel⟩

end ArcRelay.CommandCache
