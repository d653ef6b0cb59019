/-
Module: ArcRelay.Proofs.CommandCacheRepresentation
Purpose: The representation of the command cache over every run of insertions and prunings.
Trusted boundary: none
-/
import ArcRelay.Proofs.CommandCacheLimits

namespace ArcRelay.CommandCache

variable {Response Channel : Type}

/-!
Between calls the queue and the counters agree with the entries and every limit holds.  An
insertion keeps this because only the device it stores for can come over its budget, and the
loop for that device runs before the global one.  The entry it stores is the youngest of the
cache, so both loops would get to it last, and alone it is within every limit.
-/

/-! ### Runs -/

/-- What every state between calls satisfies: the accounts, the limits, and entries created at
readings of the run. -/
structure Sound (cache : CommandCache Response Channel) (readings : List Instant) : Prop where
  accounts : Accounts cache.insertionOrder cache
  within : WithinLimits cache
  created : ∀ key entry, cache.entries.lookup key = some entry → entry.createdAt ∈ readings

theorem sound_new : Sound (new : CommandCache Response Channel) [] where
  accounts := accounts_new
  within := ⟨⟨Nat.zero_le _, Nat.zero_le _⟩, fun _ => ⟨Nat.zero_le _, Nat.zero_le _⟩⟩
  created := by
    intro key entry found
    cases found

variable {cache : CommandCache Response Channel} {readings : List Instant}

theorem Sound.prune (sound : Sound cache readings) (now : Instant) (more : List Instant) :
    Sound (cache.prune now) (readings ++ more) := by
  rcases prune_spec now sound.accounts with ⟨expired, evicted, rest, loops⟩
  have pruned := loops.pruned sound.accounts
  refine ⟨pruned.accounts, ⟨pruned.within, ?_⟩, ?_⟩
  · intro device
    exact (sound.within.devices device).shrink pruned.included
  · intro key entry found
    exact List.mem_append_left more (sound.created key entry (pruned.included key entry found))

variable {key : CommandCacheKey} {command : Bytes} {encodedLen : Nat}

/-- An entry too large to be stored only vacates its key. -/
theorem Sound.insert_oversized (sound : Sound cache readings) (response : Response)
    (createdAt pruneAt : Instant) (large : oversized key command encodedLen = true) :
    Sound (cache.insert key command response encodedLen createdAt pruneAt) readings := by
  rw [insert_of_oversized cache response createdAt pruneAt large]
  have shrunk : Included (cache.removeEntry key .replaced) cache :=
    included_removeAll .replaced [key] cache
  have queue : (cache.removeEntry key .replaced).insertionOrder.filter
      (fun existing => existing ≠ key) = cache.insertionOrder.erase key := by
    rw [insertionOrder_removeEntry, erase_eq_filter_ne sound.accounts.nodup]
  rw [queue]
  have vacated := sound.accounts.removeEntry key .replaced
  refine ⟨⟨vacated.nodup, vacated.enumerates, vacated.byAge, vacated.totalBytes,
    vacated.deviceBytes, vacated.deviceEntries⟩, ⟨?_, ?_⟩, ?_⟩
  · have within := sound.within.global.shrink shrunk
    exact ⟨within.entries, within.bytes⟩
  · intro device
    have within := (sound.within.devices device).shrink shrunk
    exact ⟨within.entries, within.bytes⟩
  · intro other entry found
    exact sound.created other entry (shrunk other entry found)

/-- What an insertion that stores its entry meets: the stored cache has sound accounts, and only
the device of the entry can be over its budget. -/
structure Stores (cache : CommandCache Response Channel) (device : Bytes) : Prop where
  accounts : Accounts cache.insertionOrder cache
  others : ∀ other, other ≠ device → DeviceWithin cache other

variable {createdAt : Instant}

theorem Sound.stores (sound : Sound cache readings) (response : Response)
    (fits : oversized key command encodedLen = false)
    (latest : ∀ earlier ∈ readings, earlier ≤ createdAt) :
    Stores (cache.stored key command response encodedLen createdAt) key.devicePublicKey where
  accounts := by
    rw [sound.accounts.insertionOrder_stored]
    apply sound.accounts.stored sound.within.global response fits
    intro other earlier found
    exact latest earlier.createdAt (sound.created other earlier found)
  others := fun other different =>
    (sound.within.devices other).stored command response encodedLen createdAt different

theorem Sound.insert_fits (sound : Sound cache readings) (response : Response) (pruneAt : Instant)
    (fits : oversized key command encodedLen = false)
    (latest : ∀ earlier ∈ readings, earlier ≤ createdAt) :
    Sound (cache.insert key command response encodedLen createdAt pruneAt)
      (readings ++ [createdAt, pruneAt]) := by
  have stores := sound.stores response fits latest
  rcases enforceDeviceLimits_spec stores.accounts stores.others with ⟨gone, rest, cuts⟩
  rcases prune_spec pruneAt (cuts.accounts stores.accounts) with ⟨expired, evicted, left, loops⟩
  have pruned := loops.pruned (cuts.accounts stores.accounts)
  rw [insert_of_fits cache response createdAt pruneAt fits]
  refine ⟨pruned.accounts, ⟨pruned.within, ?_⟩, ?_⟩
  · intro device
    exact (cuts.within stores.accounts stores.others device).shrink pruned.included
  · intro other entry found
    have present := cuts.included other entry (pruned.included other entry found)
    rw [lookup_stored] at present
    split at present
    · cases present
      simp
    · exact List.mem_append_left _ (sound.created other entry present)

theorem Sound.perform (sound : Sound cache readings) (call : CacheCall Response)
    (monotone : ∀ earlier ∈ readings, ∀ later ∈ call.readings, earlier ≤ later) :
    Sound (call.perform cache) (readings ++ call.readings) := by
  cases call with
  | prune now => exact sound.prune now [now]
  | insert key command response encodedLen createdAt pruneAt =>
      by_cases large : oversized key command encodedLen = true
      · rw [CacheCall.readings, if_pos large, List.append_nil]
        exact sound.insert_oversized response createdAt pruneAt large
      · rw [CacheCall.readings, if_neg large] at monotone ⊢
        apply sound.insert_fits response pruneAt (Bool.eq_false_of_not_eq_true large)
        intro earlier member
        exact monotone earlier member createdAt (by simp)

variable {calls : List (CacheCall Response)}

theorem MonotoneClock.of_append {more : List (CacheCall Response)}
    (clock : MonotoneClock (calls ++ more)) : MonotoneClock calls := by
  rw [MonotoneClock, List.flatMap_append] at clock
  exact (List.pairwise_append.mp clock).1

theorem MonotoneClock.latest {call : CacheCall Response} (clock : MonotoneClock (calls ++ [call])) :
    ∀ earlier ∈ calls.flatMap CacheCall.readings, ∀ later ∈ call.readings, earlier ≤ later := by
  rw [MonotoneClock, List.flatMap_append, List.flatMap_singleton] at clock
  exact (List.pairwise_append.mp clock).2.2

theorem runCalls_append (calls : List (CacheCall Response)) (call : CacheCall Response) :
    (runCalls (calls ++ [call]) : CommandCache Response Channel) =
      call.perform (runCalls calls) := by
  rw [runCalls, List.foldl_append]
  rfl

theorem sound_runCalls (clock : MonotoneClock calls) :
    Sound (runCalls calls : CommandCache Response Channel)
      (calls.flatMap CacheCall.readings) := by
  induction calls using List.reverseRecOn with
  | nil => exact sound_new
  | append_singleton _ call ih =>
      rw [runCalls_append, List.flatMap_append, List.flatMap_singleton]
      exact (ih clock.of_append).perform call clock.latest

/-- What one call of a run guarantees: no eviction loop gives up, nothing that was expired when
expiry was checked is left, and an entry that fits is there with what was inserted, unless the
clock moved on by the time to live between the two readings of the call. -/
structure CallGuarantee (before : CommandCache Response Channel) (call : CacheCall Response) :
    Prop where
  evicts : call.escapes before = false
  fresh : ∀ now ∈ call.checkedAt, ∀ key entry,
    (call.perform before).entries.lookup key = some entry → entry.expired now = false
  stores : ∀ key command response encodedLen createdAt pruneAt,
    call = .insert key command response encodedLen createdAt pruneAt →
    chargedSize key command encodedLen ≤ maxCachedCommandBytesPerDevice →
    pruneAt - createdAt < commandCacheTtl →
    ∃ entry, (call.perform before).entries.lookup key = some entry ∧ entry.command = command ∧
      entry.response = response

theorem oversized_eq_false
    (small : chargedSize key command encodedLen ≤ maxCachedCommandBytesPerDevice) :
    oversized key command encodedLen = false := by
  have global : chargedSize key command encodedLen ≤ maxCachedCommandBytesGlobal :=
    small.trans (by decide)
  rw [oversized, Bool.or_eq_false_iff, decide_eq_false_iff_not, decide_eq_false_iff_not, not_lt,
    not_lt]
  exact ⟨small, global⟩

theorem Sound.prune_guarantee (sound : Sound cache readings) (now : Instant) :
    CallGuarantee cache (.prune now) where
  evicts := pruneEscapes_eq_false now sound.accounts
  fresh := by
    intro checked isNow key entry found
    cases isNow
    rcases prune_spec now sound.accounts with ⟨expired, evicted, rest, loops⟩
    exact (loops.pruned sound.accounts).fresh key entry found
  stores := by
    intro key command response encodedLen createdAt pruneAt isInsert
    cases isInsert

/-- The entry just stored is the youngest, and neither loop gets to it. -/
theorem Stores.keeps_entry {entry : CachedCommand Response} {before : List CommandCacheKey}
    {pruneAt : Instant} (stores : Stores cache key.devicePublicKey)
    (last : cache.insertionOrder = before ++ [key])
    (found : cache.entries.lookup key = some entry)
    (small : entry.size ≤ maxCachedCommandBytesPerDevice) (fresh : entry.expired pruneAt = false) :
    (cache.enforceDeviceLimits.prune pruneAt).entries.lookup key = some entry := by
  rcases enforceDeviceLimits_spec stores.accounts stores.others with ⟨gone, rest, cuts⟩
  have accounts := cuts.accounts stores.accounts
  rcases prune_spec pruneAt accounts with ⟨expired, evicted, left, loops⟩
  have spared : key ∉ gone := cuts.spares_last stores.accounts last found small
  have order : cache.enforceDeviceLimits.insertionOrder = before.diff gone ++ [key] := by
    have nodup := stores.accounts.nodup
    rw [cuts.result]
    change cache.insertionOrder.diff gone = _
    rw [last] at nodup ⊢
    rw [nodup.sdiff_eq_filter, (List.nodup_append.mp nodup).1.sdiff_eq_filter, List.filter_append]
    simp [spared]
  apply loops.spares_last accounts order _ fresh (small.trans (by decide))
  rw [cuts.lookup, if_neg spared, found]

theorem Sound.insert_guarantee (sound : Sound cache readings) (response : Response)
    (pruneAt : Instant) (fits : oversized key command encodedLen = false)
    (latest : ∀ earlier ∈ readings, earlier ≤ createdAt) :
    CallGuarantee cache (.insert key command response encodedLen createdAt pruneAt) := by
  have stores := sound.stores response fits latest
  rcases enforceDeviceLimits_spec stores.accounts stores.others with ⟨gone, rest, cuts⟩
  have accounts := cuts.accounts stores.accounts
  constructor
  · rw [CacheCall.escapes, if_neg (by simp [fits])]
    dsimp only
    rw [devicesEscape_eq_false stores.accounts stores.others,
      pruneEscapes_eq_false pruneAt accounts]
    rfl
  · intro now checked other entry found
    rw [CacheCall.checkedAt, if_neg (by simp [fits])] at checked
    cases checked
    rcases prune_spec pruneAt accounts with ⟨expired, evicted, left, loops⟩
    rw [CacheCall.perform, insert_of_fits cache response createdAt pruneAt fits] at found
    exact (loops.pruned accounts).fresh other entry found
  · intro ownKey ownCommand ownResponse ownLen created pruned same small soon
    cases same
    have last := sound.accounts.insertionOrder_stored key command response encodedLen createdAt
    have found := lookup_stored cache key key command response encodedLen createdAt
    rw [if_pos rfl] at found
    refine ⟨⟨command, response, createdAt, chargedSize key command encodedLen⟩, ?_, rfl, rfl⟩
    rw [CacheCall.perform, insert_of_fits cache response createdAt pruneAt fits]
    apply stores.keeps_entry last found small
    exact decide_eq_false (not_le.mpr soon)

theorem insert_oversized_guarantee (cache : CommandCache Response Channel) (response : Response)
    (createdAt pruneAt : Instant) (large : oversized key command encodedLen = true) :
    CallGuarantee cache (.insert key command response encodedLen createdAt pruneAt) where
  evicts := if_pos large
  fresh := by
    intro now checked
    rw [CacheCall.checkedAt, if_pos large] at checked
    cases checked
  stores := by
    intro ownKey ownCommand ownResponse ownLen created pruned same small
    cases same
    rw [oversized_eq_false small] at large
    cases large

theorem Sound.guarantee (sound : Sound cache readings) (call : CacheCall Response)
    (monotone : ∀ earlier ∈ readings, ∀ later ∈ call.readings, earlier ≤ later) :
    CallGuarantee cache call := by
  cases call with
  | prune now => exact sound.prune_guarantee now
  | insert key command response encodedLen createdAt pruneAt =>
      by_cases large : oversized key command encodedLen = true
      · exact insert_oversized_guarantee cache response createdAt pruneAt large
      · apply sound.insert_guarantee response pruneAt (Bool.eq_false_of_not_eq_true large)
        intro earlier member
        rw [CacheCall.readings, if_neg large] at monotone
        exact monotone earlier member createdAt (by simp)

/-- In every state between the calls of a run the queue enumerates the entries by age, the
counters are exact and all limits hold; and every call of the run keeps its guarantee. -/
theorem commandCache_represents_entries (calls : List (CacheCall Response))
    (clock : MonotoneClock calls) :
    Accounts (runCalls calls : CommandCache Response Channel).insertionOrder
        (runCalls calls : CommandCache Response Channel) ∧
      WithinLimits (runCalls calls : CommandCache Response Channel) ∧
      ∀ earlier call later, calls = earlier ++ call :: later →
        CallGuarantee (runCalls earlier : CommandCache Response Channel) call := by
  have sound : Sound (runCalls calls : CommandCache Response Channel) _ := sound_runCalls clock
  refine ⟨sound.accounts, sound.within, ?_⟩
  intro earlier call later shape
  rw [shape, List.append_cons] at clock
  have upTo := clock.of_append
  exact (sound_runCalls upTo.of_append).guarantee call upTo.latest

def sampleKey : CommandCacheKey := ⟨[1], [2]⟩

/-- A key is inserted twice, and then the cache is pruned. -/
def replacedKey : List (CacheCall Unit) :=
  [.insert sampleKey [7] () 1 3 4, .insert sampleKey [8] () 2 5 5, .prune 9]

/-- The second insertion finds the first entry, replaces it and keeps its own: one key, four bytes,
one removal. -/
theorem commandCache_represents_entries_replacedKey :
    MonotoneClock replacedKey ∧
      Accounts [sampleKey] (runCalls replacedKey : CommandCache Unit Unit) ∧
      WithinLimits (runCalls replacedKey : CommandCache Unit Unit) ∧
      CallGuarantee (runCalls [.insert sampleKey [7] () 1 3 4] : CommandCache Unit Unit)
        (.insert sampleKey [8] () 2 5 5) ∧
      (runCalls replacedKey : CommandCache Unit Unit).totalBytes = 4 ∧
      (runCalls replacedKey : CommandCache Unit Unit).removals = [⟨sampleKey, .replaced⟩] := by
  obtain ⟨accounts, within, guarantee⟩ := commandCache_represents_entries
    replacedKey (by decide)
  exact ⟨by decide, accounts, within, guarantee [_] _ [_] rfl, rfl, rfl⟩

/-- An insertion whose second clock reading is five minutes after its first expires the entry it
has just stored. -/
theorem inserted_entry_expires_in_insert :
    MonotoneClock [(.insert sampleKey [7] () 1 0 commandCacheTtl : CacheCall Unit)] ∧
      chargedSize sampleKey [7] 1 ≤ maxCachedCommandBytesPerDevice ∧
      (runCalls [.insert sampleKey [7] () 1 0 commandCacheTtl] :
        CommandCache Unit Unit).entries.lookup sampleKey = none :=
  ⟨by decide, by decide, rfl⟩

end ArcRelay.CommandCache
