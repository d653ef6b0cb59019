/-
Module: ArcRelay.Library.Versioned
Purpose: Lists of versioned items, one for each key: the version of a key, and the merge that
  keeps the newer item of every key.
Trusted boundary: none
-/
import Mathlib

namespace ArcRelay

variable {Item Key Rank : Type} [DecidableEq Key] [LinearOrder Rank]

/-!
A list of items stands for the map from keys to versions, below everything where a key does not
occur.  Maps are ordered key by key, and the merge of two lists stands for the join of their maps.
-/

/-- The greatest version the list has for a key. -/
def versionOf (key : Item → Key) (rank : Item → Rank) (items : List Item) (wanted : Key) :
    WithBot Rank :=
  items.foldr (fun item best => if key item = wanted then max ↑(rank item) best else best) ⊥

section Version

variable {key : Item → Key} {rank : Item → Rank} {items : List Item} {wanted : Key}

theorem versionOf_le_iff {bound : WithBot Rank} :
    versionOf key rank items wanted ≤ bound ↔
      ∀ item ∈ items, key item = wanted → ↑(rank item) ≤ bound := by
  induction items with
  | nil => simp [versionOf]
  | cons _ _ ih =>
      rw [List.forall_mem_cons, ← ih, versionOf, List.foldr_cons]
      split
      next same =>
        rw [max_le_iff]
        exact and_congr_left fun _ => ⟨fun within _ => within, fun within => within same⟩
      next other => exact ⟨fun within => ⟨fun same => absurd same other, within⟩, And.right⟩

theorem coe_le_versionOf_iff {least : Rank} :
    ↑least ≤ versionOf key rank items wanted ↔
      ∃ item ∈ items, key item = wanted ∧ least ≤ rank item := by
  induction items with
  | nil => simp [versionOf]
  | cons _ _ ih =>
      rw [List.exists_mem_cons_iff, ← ih, versionOf, List.foldr_cons]
      split
      next same =>
        rw [le_max_iff, WithBot.coe_le_coe]
        exact or_congr_left ⟨fun within => ⟨same, within⟩, And.right⟩
      next other => exact ⟨.inr, fun either => either.resolve_left fun found => other found.1⟩

theorem le_versionOf {item : Item} (member : item ∈ items) :
    ↑(rank item) ≤ versionOf key rank items (key item) :=
  coe_le_versionOf_iff.mpr ⟨item, member, rfl, le_rfl⟩

/-- Where keys are distinct the version of a key is that of its item. -/
theorem versionOf_of_mem (distinct : (items.map key).Nodup) {item : Item} (member : item ∈ items) :
    versionOf key rank items (key item) = ↑(rank item) := by
  refine le_antisymm (versionOf_le_iff.mpr fun other found same => ?_) (le_versionOf member)
  rw [List.inj_on_of_nodup_map distinct found member same]

theorem versionOf_eq_bot_iff : versionOf key rank items wanted = ⊥ ↔ wanted ∉ items.map key := by
  rw [← le_bot_iff, versionOf_le_iff]
  simp

end Version

/-! ### Merging -/

/-- The item itself, or the newer one of the same key in the other list. -/
def newer (key : Item → Key) (rank : Item → Rank) (others : List Item) (item : Item) : Item :=
  match others.find? fun other => key other = key item with
  | some other => if rank item < rank other then other else item
  | none => item

/-- Every key of either list, with its newer item. -/
def mergeNewest (key : Item → Key) (rank : Item → Rank) (items others : List Item) : List Item :=
  items.map (newer key rank others) ++
    others.filter fun other => key other ∉ items.map key

section Merge

variable {key : Item → Key} {rank : Item → Rank} {items others : List Item}

theorem newer_cases (key : Item → Key) (rank : Item → Rank) (others : List Item) (item : Item) :
    newer key rank others item = item ∨
      newer key rank others item ∈ others ∧ key (newer key rank others item) = key item := by
  unfold newer
  split
  next other found =>
    split
    · exact .inr ⟨List.mem_of_find?_eq_some found, by simpa using List.find?_some found⟩
    · exact .inl rfl
  · exact .inl rfl

theorem key_newer (item : Item) : key (newer key rank others item) = key item := by
  rcases newer_cases key rank others item with same | ⟨-, same⟩
  · rw [same]
  · exact same

theorem le_rank_newer (item : Item) : rank item ≤ rank (newer key rank others item) := by
  unfold newer
  split
  · split
    next later => exact later.le
    · exact le_rfl
  · exact le_rfl

theorem le_rank_newer_of_mem (distinct : (others.map key).Nodup) {item other : Item}
    (member : other ∈ others) (same : key other = key item) :
    rank other ≤ rank (newer key rank others item) := by
  have found : others.find? (fun other => key other = key item) = some other := by
    have present : (others.find? fun other => key other = key item).isSome :=
      List.find?_isSome.mpr ⟨other, member, decide_eq_true same⟩
    obtain ⟨first, found⟩ := Option.isSome_iff_exists.mp present
    have alike : key first = key item := by simpa using List.find?_some found
    rw [found, List.inj_on_of_nodup_map distinct (List.mem_of_find?_eq_some found) member
      (alike.trans same.symm)]
  rw [newer, found]
  dsimp only
  split
  · exact le_rfl
  next earlier => exact not_lt.mp earlier

theorem mergeNewest_nodup (distinct : (items.map key).Nodup)
    (othersDistinct : (others.map key).Nodup) :
    ((mergeNewest key rank items others).map key).Nodup := by
  rw [mergeNewest, List.map_append, List.map_map]
  have keys : items.map (key ∘ newer key rank others) = items.map key :=
    List.map_congr_left fun item _ => key_newer item
  rw [keys, List.nodup_append']
  refine ⟨distinct, othersDistinct.sublist (List.filter_sublist.map key), ?_⟩
  intro found inItems inOthers
  obtain ⟨other, member, rfl⟩ := List.mem_map.mp inOthers
  exact (by simpa using (List.mem_filter.mp member).2 : key other ∉ items.map key) inItems

/-- The merge stands for the join. -/
theorem versionOf_mergeNewest (distinct : (others.map key).Nodup) :
    versionOf key rank (mergeNewest key rank items others) =
      versionOf key rank items ⊔ versionOf key rank others := by
  funext wanted
  rw [Pi.sup_apply]
  refine le_antisymm (versionOf_le_iff.mpr fun item member same => ?_) (sup_le ?_ ?_)
  · subst same
    rcases List.mem_append.mp member with merged | kept
    · obtain ⟨original, inItems, rfl⟩ := List.mem_map.mp merged
      rcases newer_cases key rank others original with unchanged | ⟨inOthers, -⟩
      · rw [unchanged]
        exact le_sup_of_le_left (le_versionOf inItems)
      · exact le_sup_of_le_right (le_versionOf inOthers)
    · exact le_sup_of_le_right (le_versionOf (List.mem_filter.mp kept).1)
  · refine versionOf_le_iff.mpr fun item member same => coe_le_versionOf_iff.mpr ?_
    exact ⟨newer key rank others item, List.mem_append_left _ (List.mem_map_of_mem member),
      (key_newer item).trans same, le_rank_newer item⟩
  · refine versionOf_le_iff.mpr fun other member same => coe_le_versionOf_iff.mpr ?_
    by_cases shared : key other ∈ items.map key
    · obtain ⟨item, inItems, alike⟩ := List.mem_map.mp shared
      exact ⟨newer key rank others item, List.mem_append_left _ (List.mem_map_of_mem inItems),
        (key_newer item).trans (alike.trans same),
        le_rank_newer_of_mem distinct member alike.symm⟩
    · exact ⟨other, List.mem_append_right _ (List.mem_filter.mpr ⟨member, decide_eq_true shared⟩),
        same, le_rfl⟩

end Merge

end ArcRelay
