/-
Module: ArcRelay.Library.SharedHolds
Purpose: Items held by several holders at once, the counter of their holders, and the down and
  up edges that tell a device which items are held at all.
Trusted boundary: none
-/
import ArcRelay.Library.HashMap

namespace ArcRelay

/-!
Each holder presses and lifts items on its own.  A device that is told about the items sees
only edges: an item goes down with its first holder and up with its last.  The counter keeps
the number of holders and drops an item that reaches zero.  `Tracks` relates the counter to
the set of items that are down on the device; every change of the counter comes with the
edges that keep the relation, and those edges never contradict the device: nothing that is up
goes up again, and nothing that is down goes down again unless the edge is marked as a repeat.
-/

/-- A change of one item on the device. -/
inductive Edge (T : Type) where
  | down (item : T) (repeats : Bool)
  | up (item : T)
deriving Repr, DecidableEq

section

variable {T : Type} [DecidableEq T]

/-- The items that are down after one edge. -/
def applyEdge (native : Finset T) : Edge T → Finset T
  | .down item _ => insert item native
  | .up item => native.erase item

/-- The items that are down after a list of edges. -/
def applyEdges (native : Finset T) (edges : List (Edge T)) : Finset T :=
  edges.foldl applyEdge native

/-- One edge does not contradict what is down. -/
def LegalEdge (native : Finset T) : Edge T → Prop
  | .down item repeats => item ∉ native ∨ repeats = true
  | .up item => item ∈ native

/-- No edge of a list contradicts what is down when it arrives. -/
def Legal (native : Finset T) : List (Edge T) → Prop
  | [] => True
  | edge :: edges => LegalEdge native edge ∧ Legal (applyEdge native edge) edges

@[simp] theorem applyEdges_nil (native : Finset T) : applyEdges native [] = native := rfl

@[simp] theorem applyEdges_cons (native : Finset T) (edge : Edge T) (edges : List (Edge T)) :
    applyEdges native (edge :: edges) = applyEdges (applyEdge native edge) edges := rfl

theorem applyEdges_append (native : Finset T) (first second : List (Edge T)) :
    applyEdges native (first ++ second) = applyEdges (applyEdges native first) second :=
  List.foldl_append

variable {native : Finset T}

theorem legal_append {first second : List (Edge T)} :
    Legal native (first ++ second) ↔
      Legal native first ∧ Legal (applyEdges native first) second := by
  induction first generalizing native with
  | nil => simp [Legal]
  | cons _ _ ih =>
      simp only [List.cons_append, Legal, applyEdges_cons, ih, and_assoc]

/-- One more holder of an item. -/
def raiseCount (counts : HashMap T Nat) (item : T) : HashMap T Nat :=
  counts.insert item (HashMap.count counts item + 1)

/-- One holder of an item fewer, and whether that was the last. -/
def decrementCount (counts : HashMap T Nat) (item : T) : Bool × HashMap T Nat :=
  match counts.lookup item with
  | none => (false, counts)
  | some count =>
      if count - 1 = 0 then (true, counts.erase item)
      else (false, counts.insert item (count - 1))

/-- One holder fewer of each item in turn, and the items that lost their last holder. -/
def drainCounts (counts : HashMap T Nat) : List T → List T × HashMap T Nat
  | [] => ([], counts)
  | item :: items =>
      let (last, counts) := decrementCount counts item
      let (released, counts) := drainCounts counts items
      (if last then item :: released else released, counts)

/-- The device shows exactly the items with a holder, and no counter is left at zero. -/
structure Tracks (counts : HashMap T Nat) (native : Finset T) : Prop where
  positive : ∀ item count, counts.lookup item = some count → 0 < count
  down : ∀ item, item ∈ native ↔ 0 < HashMap.count counts item

theorem Tracks.empty : Tracks (∅ : HashMap T Nat) (∅ : Finset T) where
  positive := by simp
  down := by simp

@[simp] theorem count_raiseCount (counts : HashMap T Nat) (item other : T) :
    HashMap.count (raiseCount counts item) other =
      HashMap.count counts other + if other = item then 1 else 0 :=
  HashMap.count_insert_add counts item other 1

variable {counts : HashMap T Nat}

/-- A new holder: the item goes down if it is the first. -/
theorem Tracks.raise (tracks : Tracks counts native) (item : T) (repeats : Bool) :
    let edges := if HashMap.count counts item = 0 then [Edge.down item repeats] else []
    Legal native edges ∧ Tracks (raiseCount counts item) (applyEdges native edges) := by
  have positive : ∀ other count, (raiseCount counts item).lookup other = some count →
      0 < count := by
    intro other count found
    rcases HashMap.lookup_of_insert found with ⟨rfl, rfl⟩ | ⟨-, found⟩
    · exact Nat.succ_pos _
    · exact tracks.positive other count found
  by_cases first : HashMap.count counts item = 0
  · have up : item ∉ native := by
      rw [tracks.down, first]
      exact Nat.lt_irrefl 0
    simp only [first, if_true]
    refine ⟨⟨Or.inl up, trivial⟩, positive, fun other => ?_⟩
    by_cases same : other = item
    · simp [applyEdge, same]
    · simp [applyEdge, same, tracks.down]
  · simp only [first, if_false]
    refine ⟨trivial, positive, fun other => ?_⟩
    rw [applyEdges_nil, tracks.down, count_raiseCount]
    by_cases same : other = item
    · subst other
      simp
      omega
    · simp [same]

/-- The counter after one holder gave an item up. -/
theorem count_decrementCount (counts : HashMap T Nat) (item other : T) :
    HashMap.count (decrementCount counts item).2 other =
      HashMap.count counts other - if other = item then 1 else 0 := by
  have same : (decrementCount counts item).2 = decrementCounter counts item 1 := by
    unfold decrementCount decrementCounter
    cases counts.lookup item with
    | none => rfl
    | some =>
        simp only
        split_ifs <;> rfl
  rw [same, HashMap.count_decrementCounter]

variable {item : T}

/-- An item with a holder loses one: it goes up if that was the last. -/
theorem Tracks.lower (tracks : Tracks counts native) (held : 0 < HashMap.count counts item) :
    let edges := if (decrementCount counts item).1 then [Edge.up item] else []
    Legal native edges ∧ Tracks (decrementCount counts item).2 (applyEdges native edges) := by
  have isDown : item ∈ native := (tracks.down item).mpr held
  cases found : counts.lookup item with
  | none => simp [HashMap.count, found] at held
  | some count =>
      have countEq : HashMap.count counts item = count := by simp [HashMap.count, found]
      by_cases last : count - 1 = 0
      · have result : decrementCount counts item = (true, counts.erase item) := by
          simp [decrementCount, found, last]
        simp only [result, if_true]
        refine ⟨⟨isDown, trivial⟩, ?_, fun other => ?_⟩
        · exact fun other remaining kept =>
            tracks.positive other remaining (HashMap.lookup_of_erase kept).2
        · have counted := count_decrementCount counts item other
          rw [result] at counted
          simp only [counted, applyEdges_cons, applyEdges_nil, applyEdge, Finset.mem_erase,
            tracks.down]
          by_cases same : other = item
          · subst other
            simp only [ne_eq, not_true_eq_false, false_and, countEq, last, if_true, lt_self_iff_false]
          · simp [same]
      · have result : decrementCount counts item =
            (false, counts.insert item (count - 1)) := by
          simp [decrementCount, found, last]
        simp only [result, Bool.false_eq_true, if_false]
        refine ⟨trivial, ?_, fun other => ?_⟩
        · intro other remaining kept
          rcases HashMap.lookup_of_insert kept with ⟨rfl, rfl⟩ | ⟨-, kept⟩
          · exact Nat.pos_of_ne_zero last
          · exact tracks.positive other remaining kept
        · have counted := count_decrementCount counts item other
          rw [result] at counted
          rw [applyEdges_nil, tracks.down, counted]
          by_cases same : other = item
          · subst other
            simp only [if_true, countEq]
            omega
          · simp [same]

/-- A repeated down edge for an item that is down changes nothing. -/
theorem Tracks.redundant (tracks : Tracks counts native) (held : 0 < HashMap.count counts item) :
    Legal native [Edge.down item true] ∧
      Tracks counts (applyEdges native [Edge.down item true]) := by
  have isDown : item ∈ native := (tracks.down item).mpr held
  refine ⟨⟨Or.inr rfl, trivial⟩, ?_⟩
  simpa [applyEdge, Finset.insert_eq_of_mem isDown] using tracks

variable {items : List T}

theorem count_drainCounts (nodup : items.Nodup) (counts : HashMap T Nat) (other : T) :
    HashMap.count (drainCounts counts items).2 other =
      HashMap.count counts other - if other ∈ items then 1 else 0 := by
  induction items generalizing counts with
  | nil => simp [drainCounts]
  | cons item _ ih =>
      obtain ⟨fresh, rest⟩ := List.nodup_cons.mp nodup
      simp only [drainCounts, ih rest, count_decrementCount]
      by_cases same : other = item
      · subst other
        simp [fresh]
      · simp [same]

/-- Giving up a list of distinct held items: each goes up if it lost its last holder. -/
theorem Tracks.drain (nodup : items.Nodup) (tracks : Tracks counts native)
    (held : ∀ item ∈ items, 0 < HashMap.count counts item) :
    Legal native ((drainCounts counts items).1.map Edge.up) ∧
      Tracks (drainCounts counts items).2
        (applyEdges native ((drainCounts counts items).1.map Edge.up)) := by
  induction items generalizing counts native with
  | nil => exact ⟨trivial, tracks⟩
  | cons item items ih =>
      obtain ⟨fresh, rest⟩ := List.nodup_cons.mp nodup
      obtain ⟨legal, lowered⟩ := tracks.lower (held item (by simp))
      have stillHeld : ∀ other ∈ items,
          0 < HashMap.count (decrementCount counts item).2 other := by
        intro other member
        have different : other ≠ item := by
          rintro rfl
          exact fresh member
        rw [count_decrementCount]
        simpa [different] using held other (by simp [member])
      obtain ⟨restLegal, restTracks⟩ := ih rest lowered stillHeld
      have split : (drainCounts counts (item :: items)).1.map Edge.up =
          (if (decrementCount counts item).1 then [Edge.up item] else []) ++
            (drainCounts (decrementCount counts item).2 items).1.map Edge.up := by
        simp only [drainCounts]
        split_ifs <;> simp
      rw [split, legal_append, applyEdges_append]
      exact ⟨⟨legal, restLegal⟩, restTracks⟩

/-! ### One holder in hand -/

/-- One holder's set is in hand, and `others` counts the remaining holders of each item. -/
structure HeldBy (others : T → Nat) (held : HashSet T) (counts : HashMap T Nat)
    (native : Finset T) : Prop where
  tracks : Tracks counts native
  counted : ∀ item,
    HashMap.count counts item = others item + if item ∈ held then 1 else 0

variable {others : T → Nat} {held : HashSet T}

theorem HeldBy.count_pos (holding : HeldBy others held counts native) (member : item ∈ held) :
    0 < HashMap.count counts item := by
  rw [holding.counted item, if_pos member]
  exact Nat.succ_pos _

/-- The holder in hand presses an item it does not hold. -/
theorem HeldBy.press (holding : HeldBy others held counts native) (fresh : item ∉ held)
    (repeats : Bool) :
    let edges := if HashMap.count (raiseCount counts item) item = 1 then
      [Edge.down item repeats] else []
    Legal native edges ∧
      HeldBy others (held.insert item ()) (raiseCount counts item) (applyEdges native edges) := by
  have first : HashMap.count (raiseCount counts item) item = 1 ↔
      HashMap.count counts item = 0 := by simp
  simp only [first]
  obtain ⟨legal, tracks⟩ := holding.tracks.raise item repeats
  refine ⟨legal, tracks, fun other => ?_⟩
  rw [count_raiseCount, holding.counted]
  by_cases same : other = item
  · subst other
    simp [fresh]
  · simp [same]

/-- The holder in hand gives up an item it holds. -/
theorem HeldBy.lift (holding : HeldBy others held counts native) (member : item ∈ held) :
    let edges := if (decrementCount counts item).1 then [Edge.up item] else []
    Legal native edges ∧
      HeldBy others (held.erase item) (decrementCount counts item).2
        (applyEdges native edges) := by
  obtain ⟨legal, tracks⟩ := holding.tracks.lower (holding.count_pos member)
  refine ⟨legal, tracks, fun other => ?_⟩
  rw [count_decrementCount, holding.counted]
  by_cases same : other = item
  · subst other
    simp [member]
  · simp [same]

/-- The holder in hand gives up everything, in any order. -/
theorem HeldBy.drain (holding : HeldBy others held counts native) (perm : items.Perm held.keys) :
    Legal native ((drainCounts counts items).1.map Edge.up) ∧
      HeldBy others ∅ (drainCounts counts items).2
        (applyEdges native ((drainCounts counts items).1.map Edge.up)) := by
  have nodup : items.Nodup := perm.nodup_iff.mpr held.keys_nodup
  have member : ∀ item, item ∈ items ↔ item ∈ held := fun item =>
    perm.mem_iff.trans AList.mem_keys.symm
  obtain ⟨legal, tracks⟩ := holding.tracks.drain nodup fun item listed =>
    holding.count_pos ((member item).mp listed)
  refine ⟨legal, tracks, fun other => ?_⟩
  rw [count_drainCounts nodup, holding.counted]
  by_cases listed : other ∈ items
  · simp [listed, (member other).mp listed]
  · have absent : other ∉ held := fun held => listed ((member other).mpr held)
    simp [listed, absent]

end

end ArcRelay
