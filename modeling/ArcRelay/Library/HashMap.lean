/-
Module: ArcRelay.Library.HashMap
Purpose: Finite hash maps and hash sets with weighted totals and counters, the vocabulary in
  which the stores keep their derived bookkeeping.
Trusted boundary: none
-/
import Mathlib

namespace ArcRelay

/-!
A hash map is a list of entries with distinct keys.  The key discipline travels with the
value, so no operation can produce two entries for one key.  Only the order in which a map
is iterated is visible in the list, and no lookup, total or count depends on it.

Two derived readings of a map recur wherever a store keeps quotas:

* `HashMap.total` adds a weight over all entries (bytes held, entries owned by a device);
* `HashMap.count` reads a map of naturals as a counter that is zero where it has no entry.
-/

/-- A finite map with distinct keys. -/
abbrev HashMap (K V : Type) := AList (fun _ : K => V)

/-- A finite set is a map to the unit type. -/
abbrev HashSet (α : Type) := HashMap α Unit

namespace HashMap

variable {K V : Type}

/-- The weight of all entries together. -/
def total (map : HashMap K V) (weight : K → V → Nat) : Nat :=
  (map.entries.map fun entry => weight entry.1 entry.2).sum

/-- The number of entries. -/
def size (map : HashMap K V) : Nat := map.entries.length

@[simp] theorem size_empty : size (∅ : HashMap K V) = 0 := rfl

/-- The number of entries is the total of the constant weight one. -/
theorem total_one (map : HashMap K V) : map.total (fun _ _ => 1) = map.size := by
  simp [total, size]

variable {map : HashMap K V}

/-- Any enumeration of the keys is a permutation of them. -/
theorem keys_perm {keys : List K} (nodup : keys.Nodup)
    (enumerates : ∀ key, key ∈ keys ↔ key ∈ map) : map.keys.Perm keys := by
  apply (List.perm_ext_iff_of_nodup map.keys_nodup nodup).mpr
  intro key
  rw [enumerates key, AList.mem_keys]

theorem size_eq_length {keys : List K} (nodup : keys.Nodup)
    (enumerates : ∀ key, key ∈ keys ↔ key ∈ map) : map.size = keys.length := by
  simpa [size, AList.keys, List.keys] using (keys_perm nodup enumerates).length_eq

variable {small large : HashMap K V} {key : K}

/-- A map that keeps every key and has one more is larger. -/
theorem size_lt_size (kept : ∀ other ∈ small, other ∈ large) (new : key ∈ large)
    (fresh : key ∉ small) :
    small.size < large.size := by
  have distinct : (key :: small.keys).Nodup := List.nodup_cons.mpr ⟨fresh, small.keys_nodup⟩
  have within : ∀ other ∈ key :: small.keys, other ∈ large.keys := by
    intro other member
    rcases List.mem_cons.mp member with rfl | member
    · exact new
    · exact kept other member
  simpa [size, AList.keys, List.keys] using (distinct.subperm within).length_le

variable [DecidableEq K] {value new : V} {other : K}

/-- What is found after an erasure was there before, under another key. -/
theorem lookup_of_erase (found : (map.erase key).lookup other = some value) :
    other ≠ key ∧ map.lookup other = some value := by
  have different : other ≠ key := by
    rintro rfl
    rw [AList.lookup_erase] at found
    cases found
  exact ⟨different, (AList.lookup_erase_ne different).symm.trans found⟩

theorem lookup_erase (map : HashMap K V) (key other : K) :
    (map.erase key).lookup other = if other = key then none else map.lookup other := by
  split
  next same => rw [same, AList.lookup_erase]
  next different => exact AList.lookup_erase_ne different

theorem lookup_of_absent (absent : map.lookup key = none) (other : K) :
    map.lookup other = if other = key then none else map.lookup other := by
  split
  next same => rw [same, absent]
  next => rfl

theorem lookup_insert (map : HashMap K V) (key other : K) (new : V) :
    (map.insert key new).lookup other = if other = key then some new else map.lookup other := by
  split
  next same => rw [same, AList.lookup_insert]
  next different => exact AList.lookup_insert_ne different

/-- What is found after an insertion is new, or was there before under another key. -/
theorem lookup_of_insert (found : (map.insert key new).lookup other = some value) :
    other = key ∧ new = value ∨ other ≠ key ∧ map.lookup other = some value := by
  rw [lookup_insert] at found
  split at found
  next same => exact .inl ⟨same, Option.some.inj found⟩
  next different => exact .inr ⟨different, found⟩

/-- An insertion under a new key leaves what is there. -/
theorem lookup_insert_of_absent (absent : map.lookup key = none)
    (found : map.lookup other = some value) : (map.insert key new).lookup other = some value := by
  rw [AList.lookup_insert_ne, found]
  rintro rfl
  rw [absent] at found
  cases found

/-- A total added up along an enumeration of the keys. -/
theorem total_eq_sum {keys : List K} (nodup : keys.Nodup)
    (enumerates : ∀ key, key ∈ keys ↔ key ∈ map) (weight : K → V → Nat) :
    map.total weight = (keys.map fun key => ((map.lookup key).map (weight key)).getD 0).sum := by
  rw [← ((keys_perm nodup enumerates).map _).sum_eq, AList.keys, List.keys, List.map_map, total]
  congr 1
  apply List.map_congr_left
  rintro ⟨key, value⟩ member
  have present : map.lookup key = some value := AList.mem_lookup_iff.mpr member
  simp [present]

/-- Two weights that agree on the entries of a map have the same total. -/
theorem total_congr {first second : K → V → Nat}
    (agree : ∀ key value, map.lookup key = some value → first key value = second key value) :
    map.total first = map.total second := by
  unfold total
  congr 1
  apply List.map_congr_left
  rintro ⟨key, value⟩ member
  exact agree key value (AList.mem_lookup_iff.mpr member)

/-- Splitting off one entry: the entries are a permutation of that entry and the rest. -/
theorem entries_perm_erase (present : map.lookup key = some value) :
    map.entries.Perm (⟨key, value⟩ :: (map.erase key).entries) := by
  have reinsert : (map.erase key).insert key value = ⟨⟨key, value⟩ :: (map.erase key).entries, _⟩ :=
    AList.insert_of_notMem (by simp [AList.mem_erase])
  have sameLookup : ∀ other, ((map.erase key).insert key value).lookup other = map.lookup other := by
    intro other
    by_cases same : other = key
    · subst other
      rw [AList.lookup_insert, present]
    · rw [AList.lookup_insert_ne same, AList.lookup_erase_ne same]
  have perm := List.lookup_ext map.nodupKeys ((map.erase key).insert key value).nodupKeys
    (fun other found => by
      have := sameLookup other
      simp only [AList.lookup] at this
      rw [this])
  rw [reinsert] at perm
  exact perm

theorem total_erase (weight : K → V → Nat) (present : map.lookup key = some value) :
    total (map.erase key) weight + weight key value = total map weight := by
  have perm := ((entries_perm_erase present).map fun entry => weight entry.1 entry.2).sum_eq
  simp only [List.map_cons, List.sum_cons] at perm
  unfold total
  omega

theorem total_insert_new (value : V) (weight : K → V → Nat) (absent : map.lookup key = none) :
    total (map.insert key value) weight = total map weight + weight key value := by
  have fresh : key ∉ map := AList.lookup_eq_none.mp absent
  unfold total
  rw [AList.entries_insert_of_notMem fresh]
  simp [Nat.add_comm]

/-- Replacing the value of a present key exchanges its weight. -/
theorem total_insert_present {old : V} (new : V) (weight : K → V → Nat)
    (present : map.lookup key = some old) :
    total (map.insert key new) weight + weight key old =
      total map weight + weight key new := by
  have erased := total_erase weight present
  have entries : (map.insert key new).entries = ⟨key, new⟩ :: (map.erase key).entries :=
    AList.entries_insert
  have inserted :
      total (map.insert key new) weight = weight key new + total (map.erase key) weight := by
    simp only [total, entries, List.map_cons, List.sum_cons]
  omega

theorem total_insert_congr {old : V} {weight : K → V → Nat} (present : map.lookup key = some old)
    (same : weight key new = weight key old) :
    total (map.insert key new) weight = total map weight := by
  have exchanged := total_insert_present new weight present
  omega

theorem weight_le_total (weight : K → V → Nat) (present : map.lookup key = some value) :
    weight key value ≤ map.total weight := by
  have := total_erase weight present
  omega

theorem size_erase_le (map : HashMap K V) (key : K) : size (map.erase key) ≤ size map := by
  cases present : map.lookup key with
  | none =>
      have same : (map.erase key).entries = map.entries :=
        List.kerase_of_notMem_keys (AList.lookup_eq_none.mp present)
      simp [size, same]
  | some =>
      have erased := total_erase (fun _ _ => 1) present
      simp only [total_one] at erased
      omega

theorem size_insert_new (value : V) (absent : map.lookup key = none) :
    size (map.insert key value) = size map + 1 := by
  simpa only [total_one] using total_insert_new value (fun _ _ => 1) absent

theorem size_insert_present {old : V} (new : V) (present : map.lookup key = some old) :
    size (map.insert key new) = size map := by
  simpa only [total_one, Nat.add_right_cancel_iff] using
    total_insert_present new (fun _ _ => 1) present

theorem size_insert_le (map : HashMap K V) (key : K) (value : V) :
    size (map.insert key value) ≤ size map + 1 := by
  cases present : map.lookup key with
  | none => rw [size_insert_new value present]
  | some =>
      rw [size_insert_present value present]
      exact Nat.le_succ _

/-- Items entered under their own keys, in order. -/
def indexed (key : V → K) (items : List V) (map : HashMap K V) : HashMap K V :=
  items.foldl (fun map item => map.insert (key item) item) map

theorem indexed_append (key : V → K) (first second : List V) (map : HashMap K V) :
    indexed key (first ++ second) map = indexed key second (indexed key first map) :=
  List.foldl_append

variable {items : List V}

theorem mem_indexed {key : V → K} {name : K} :
    name ∈ indexed key items map ↔ name ∈ map ∨ name ∈ items.map key := by
  induction items generalizing map with
  | nil => simp [indexed]
  | cons _ _ ih =>
      rw [indexed, List.foldl_cons, ← indexed, ih, AList.mem_insert,
        List.map_cons, List.mem_cons]
      tauto

theorem size_indexed_le (key : V → K) (items : List V) (map : HashMap K V) :
    size (indexed key items map) ≤ size map + items.length := by
  induction items generalizing map with
  | nil => exact le_rfl
  | cons item _ ih =>
      have rest := ih (map.insert (key item) item)
      have first := size_insert_le map (key item) item
      rw [indexed, List.foldl_cons, ← indexed, List.length_cons]
      omega

theorem lookup_indexed_of_notMem {key : V → K} {name : K} (absent : name ∉ items.map key) :
    (indexed key items map).lookup name = map.lookup name := by
  induction items generalizing map with
  | nil => rfl
  | cons _ _ ih =>
      rw [List.map_cons, List.mem_cons, not_or] at absent
      rw [indexed, List.foldl_cons, ← indexed, ih absent.2,
        AList.lookup_insert_ne absent.1]

/-- Items with distinct keys are all found. -/
theorem lookup_indexed {key : V → K} (map : HashMap K V) (distinct : (items.map key).Nodup)
    {item : V} (member : item ∈ items) :
    (indexed key items map).lookup (key item) = some item := by
  induction items generalizing map with
  | nil => cases member
  | cons _ _ ih =>
      rw [List.map_cons, List.nodup_cons] at distinct
      rw [indexed, List.foldl_cons, ← indexed]
      rcases List.mem_cons.mp member with rfl | member
      · rw [lookup_indexed_of_notMem distinct.1, AList.lookup_insert]
      · exact ih _ distinct.2 member

/-- A total is positive only if some entry weighs something. -/
theorem exists_of_total_pos {weight : K → V → Nat} (positive : 0 < map.total weight) :
    ∃ key value, map.lookup key = some value ∧ 0 < weight key value := by
  by_contra none
  have zero : map.total weight = map.total (fun _ _ => 0) := by
    apply total_congr
    intro key value present
    by_contra nonzero
    exact none ⟨key, value, present, Nat.pos_of_ne_zero nonzero⟩
  have nothing : map.total (fun _ _ => 0) = 0 := by
    simp [total]
  omega

/-- A total of holders is positive if there is one. -/
theorem total_holders_pos {holds : K → V → Prop} [∀ key value, Decidable (holds key value)] :
    0 < map.total (fun key value => if holds key value then 1 else 0) ↔
      ∃ key value, map.lookup key = some value ∧ holds key value := by
  constructor
  · intro positive
    obtain ⟨key, value, present, weighs⟩ := exists_of_total_pos positive
    exact ⟨key, value, present, by_contra fun free => by simp [free] at weighs⟩
  · rintro ⟨key, value, present, held⟩
    refine lt_of_lt_of_le ?_ (weight_le_total _ present)
    rw [if_pos held]
    exact Nat.one_pos

/-- Fewer entries weigh no more. -/
theorem total_le_total
    (included : ∀ key value, small.lookup key = some value → large.lookup key = some value)
    (weight : K → V → Nat) : small.total weight ≤ large.total weight := by
  have subset : small.entries ⊆ large.entries := by
    rintro ⟨key, value⟩ member
    exact AList.mem_lookup_iff.mp (included key value (AList.mem_lookup_iff.mpr member))
  rcases List.subperm_of_subset small.nodupKeys.nodup subset with ⟨middle, perm, sublist⟩
  unfold total
  rw [← (perm.map _).sum_eq]
  exact (sublist.map _).sum_le_sum (fun _ _ => Nat.zero_le _)

theorem total_mono {light heavy : K → V → Nat}
    (lighter : ∀ key value, map.lookup key = some value → light key value ≤ heavy key value) :
    map.total light ≤ map.total heavy := by
  apply List.sum_le_sum
  rintro ⟨key, value⟩ member
  exact lighter key value (AList.mem_lookup_iff.mpr member)

omit [DecidableEq K] in
theorem total_add (map : HashMap K V) (first second : K → V → Nat) :
    map.total (fun key value => first key value + second key value) =
      map.total first + map.total second :=
  List.sum_map_add

/-- Entries that fall into a list of classes weigh no more than the classes together. -/
theorem total_le_sum_classes {C : Type} [DecidableEq C] (classify : K → C) (classes : List C)
    (weight : K → V → Nat)
    (covered : ∀ key value, map.lookup key = some value → classify key ∈ classes) :
    map.total weight ≤ (classes.map fun kind =>
      map.total fun key value => if kind = classify key then weight key value else 0).sum := by
  have together : ∀ kinds : List C,
      (kinds.map fun kind =>
        map.total fun key value => if kind = classify key then weight key value else 0).sum =
      map.total fun key value =>
        (kinds.map fun kind => if kind = classify key then weight key value else 0).sum := by
    intro kinds
    induction kinds with
    | nil => simp [total]
    | cons _ _ ih =>
        simp only [List.map_cons, List.sum_cons]
        rw [ih, ← total_add]
  rw [together]
  apply total_mono
  intro key value present
  apply List.single_le_sum (fun _ _ => Nat.zero_le _)
  exact List.mem_map.mpr ⟨classify key, covered key value present, if_pos rfl⟩

/-- When all other entries weigh nothing, a total is the weight of one entry. -/
theorem total_eq_weight (weight : K → V → Nat) (present : map.lookup key = some value)
    (others : ∀ other content, other ≠ key → map.lookup other = some content →
      weight other content = 0) : map.total weight = weight key value := by
  have rest : total (map.erase key) weight = 0 := by
    by_contra nonzero
    rcases exists_of_total_pos (Nat.pos_of_ne_zero nonzero) with ⟨other, content, found, positive⟩
    obtain ⟨different, found⟩ := lookup_of_erase found
    have zero := others other content different found
    omega
  have erased := total_erase weight present
  omega

end HashMap

/-! ### Counters -/

/-- A map of naturals read as a counter: a missing key counts zero. -/
def HashMap.count {K : Type} [DecidableEq K] (map : HashMap K Nat) (key : K) : Nat :=
  (map.lookup key).getD 0

/-- Subtract from a counter and drop it when it reaches zero.  A missing key stays
missing. -/
def decrementCounter {K : Type} [DecidableEq K] (map : HashMap K Nat) (key : K)
    (amount : Nat) : HashMap K Nat :=
  match map.lookup key with
  | some value =>
      if value - amount = 0 then map.erase key else map.insert key (value - amount)
  | none => map

/-- The subtraction `decrementCounter` performs at `key` goes below zero. -/
def counterClips {K : Type} [DecidableEq K] (map : HashMap K Nat) (key : K) (amount : Nat) : Bool :=
  match map.lookup key with
  | some value => decide (value < amount)
  | none => false

namespace HashMap

variable {K : Type} [DecidableEq K]

@[simp] theorem count_empty (key : K) : count (∅ : HashMap K Nat) key = 0 := rfl

@[simp] theorem count_insert_self (map : HashMap K Nat) (key : K) (value : Nat) :
    count (map.insert key value) key = value := by
  simp [count]

theorem count_insert_of_ne (map : HashMap K Nat) {key other : K} (value : Nat)
    (different : other ≠ key) : count (map.insert key value) other = count map other := by
  simp [count, AList.lookup_insert_ne different]

/-- Writing a counter back with an increment adds to that key alone. -/
theorem count_insert_add (map : HashMap K Nat) (key other : K) (amount : Nat) :
    count (map.insert key (count map key + amount)) other =
      count map other + if other = key then amount else 0 := by
  by_cases same : other = key
  · subst other
    simp
  · simp [count_insert_of_ne map _ same, same]

theorem count_decrementCounter (map : HashMap K Nat) (key other : K) (amount : Nat) :
    count (decrementCounter map key amount) other =
      count map other - if other = key then amount else 0 := by
  unfold decrementCounter
  cases found : map.lookup key with
  | none =>
      by_cases same : other = key
      · subst other
        simp [count, found]
      · simp [same]
  | some value =>
      by_cases same : other = key
      · subst other
        by_cases zero : value - amount = 0
        · simp [count, found, zero]
        · simp [count, found, zero]
      · by_cases zero : value - amount = 0
        · simp [count, zero, same, AList.lookup_erase_ne same]
        · simp [count, zero, same, AList.lookup_insert_ne same]

theorem counterClips_eq_false {map : HashMap K Nat} {key : K} {amount : Nat}
    (enough : amount ≤ count map key) : counterClips map key amount = false := by
  unfold counterClips
  cases found : map.lookup key with
  | none => rfl
  | some value =>
      have : amount ≤ value := by simpa [count, found] using enough
      simpa using this

end HashMap

/-- Subtract the same amount at every key of a list. -/
def decrementAll {K : Type} [DecidableEq K] (map : HashMap K Nat) (keys : List K)
    (amount : Nat) : HashMap K Nat :=
  keys.foldl (fun counters key => decrementCounter counters key amount) map

/-- Some subtraction of `decrementAll` goes below zero. -/
def anyClips {K : Type} [DecidableEq K] (map : HashMap K Nat) (amount : Nat) : List K → Bool
  | [] => false
  | key :: keys =>
      counterClips map key amount || anyClips (decrementCounter map key amount) amount keys

namespace HashMap

variable {K : Type} [DecidableEq K]

theorem count_decrementAll {keys : List K} (nodup : keys.Nodup) (map : HashMap K Nat)
    (amount : Nat) (other : K) :
    count (decrementAll map keys amount) other =
      count map other - if other ∈ keys then amount else 0 := by
  induction keys generalizing map with
  | nil => simp [decrementAll]
  | cons key _ ih =>
      obtain ⟨fresh, rest⟩ := List.nodup_cons.mp nodup
      have step := ih rest (decrementCounter map key amount)
      simp only [decrementAll, List.foldl_cons] at step ⊢
      rw [step, count_decrementCounter]
      by_cases same : other = key
      · subst other
        simp [fresh]
      · simp [same]

theorem anyClips_eq_false {keys : List K} (nodup : keys.Nodup) {map : HashMap K Nat}
    {amount : Nat} (enough : ∀ key ∈ keys, amount ≤ count map key) :
    anyClips map amount keys = false := by
  induction keys generalizing map with
  | nil => rfl
  | cons key keys ih =>
      obtain ⟨fresh, rest⟩ := List.nodup_cons.mp nodup
      have head := counterClips_eq_false (enough key (by simp))
      have tail : anyClips (decrementCounter map key amount) amount keys = false := by
        apply ih rest
        intro other member
        have different : other ≠ key := by
          rintro rfl
          exact fresh member
        rw [count_decrementCounter]
        simpa [different] using enough other (by simp [member])
      simp [anyClips, head, tail]

end HashMap

end ArcRelay
