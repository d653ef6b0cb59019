/-
Module: ArcRelay.Library.SlidingWindow
Purpose: A rate limiter that keeps the times of what it accepted, drops the old ones from the
  front, and accepts while fewer than its limit are left.
Trusted boundary: none
-/
import Mathlib

namespace ArcRelay

/-!
The limiter's queue is a suffix of everything it ever accepted.  What was dropped from it is at
least a span old, and stays so on a clock that does not go back; what is kept is younger once the
queue has been cleaned.  Hence a full queue means that the last span is full, and a queue with
room means that the item `limit` places back is at least a span old.
-/

/-- The times that are less than a span old, cleaned from the front only. -/
def withinSpan (span now : Nat) (times : List Nat) : List Nat :=
  times.dropWhile fun time => decide (span ≤ now - time)

/-- A limiter that has accepted at the times `accepted`, oldest first, and keeps `kept`. -/
structure Window (span limit : Nat) (accepted kept : List Nat) (clock : Nat) : Prop where
  dropped : ∃ old, accepted = old ++ kept ∧ ∀ time ∈ old, time + span ≤ clock
  sorted : accepted.Pairwise (· ≤ ·)
  past : ∀ time ∈ accepted, time ≤ clock
  bounded : kept.length ≤ limit
  /-- Of `limit + 1` consecutive times the last is at least a span after the first. -/
  spread : ∀ front first middle last rest, accepted = front ++ first :: (middle ++ last :: rest) →
    middle.length + 1 = limit → first + span ≤ last

namespace Window

variable {span limit clock now : Nat} {accepted kept : List Nat}

theorem start (span limit clock : Nat) : Window span limit [] [] clock where
  dropped := ⟨[], rfl, fun _ member => nomatch member⟩
  sorted := .nil
  past := fun _ member => nomatch member
  bounded := Nat.zero_le limit
  spread := fun front first middle last rest split => by simp at split

variable (window : Window span limit accepted kept clock)

include window

theorem later (forward : clock ≤ now) : Window span limit accepted kept now where
  dropped := by
    obtain ⟨old, split, gone⟩ := window.dropped
    exact ⟨old, split, fun time member => (gone time member).trans forward⟩
  sorted := window.sorted
  past := fun time member => (window.past time member).trans forward
  bounded := window.bounded
  spread := window.spread

theorem kept_sorted : kept.Pairwise (· ≤ ·) := by
  obtain ⟨old, split, -⟩ := window.dropped
  have sorted := window.sorted
  rw [split, List.pairwise_append] at sorted
  exact sorted.2.1

/-- Cleaning drops only what is a span old. -/
theorem clean : Window span limit accepted (withinSpan span clock kept) clock where
  dropped := by
    obtain ⟨old, split, gone⟩ := window.dropped
    refine ⟨old ++ kept.takeWhile fun time => decide (span ≤ clock - time), ?_, ?_⟩
    · rw [List.append_assoc, withinSpan, List.takeWhile_append_dropWhile, split]
    · intro time member
      rcases List.mem_append.mp member with member | member
      · exact gone time member
      · have expired : span ≤ clock - time := by simpa using List.mem_takeWhile_imp member
        have past := window.past time
          (split ▸ List.mem_append_right _ ((List.takeWhile_sublist _).mem member))
        omega
  sorted := window.sorted
  past := window.past
  bounded := ((List.dropWhile_sublist _).length_le).trans window.bounded
  spread := window.spread

/-- After cleaning everything kept is less than a span old. -/
theorem recent : ∀ time ∈ withinSpan span clock kept, clock < time + span := by
  have sorted := window.clean.kept_sorted
  intro time member
  cases left : withinSpan span clock kept with
  | nil => simp [left] at member
  | cons first =>
      have young : ¬ span ≤ clock - first := by
        have head := List.head?_dropWhile_not (fun time => decide (span ≤ clock - time)) kept
        rw [← withinSpan, left] at head
        simpa using head
      rw [left] at sorted member
      have after : first ≤ time := by
        rcases List.mem_cons.mp member with rfl | member
        · exact le_rfl
        · exact List.rel_of_pairwise_cons sorted member
      omega

/-- When there is room, the item `limit` places back has been dropped. -/
theorem full_span (room : kept.length < limit)
    {front middle : List Nat} {first : Nat} (split : accepted = front ++ first :: middle)
    (count : middle.length + 1 = limit) : first + span ≤ clock := by
  obtain ⟨old, same, gone⟩ := window.dropped
  refine gone first ?_
  rcases List.append_eq_append_iff.mp (same.symm.trans split) with
    ⟨between, -, long⟩ | ⟨between, rfl, short⟩
  · rw [long, List.length_append, List.length_cons] at room
    omega
  · cases between with
    | nil =>
        rw [List.nil_append] at short
        rw [← short, List.length_cons] at room
        omega
    | cons =>
        cases (List.cons.inj short).1
        simp

theorem accept (room : kept.length < limit) :
    Window span limit (accepted ++ [clock]) (kept ++ [clock]) clock where
  dropped := by
    obtain ⟨old, split, gone⟩ := window.dropped
    exact ⟨old, by rw [split, List.append_assoc], gone⟩
  sorted := by
    refine List.pairwise_append.mpr ⟨window.sorted, List.pairwise_singleton _ _, ?_⟩
    intro time member last new
    rw [List.mem_singleton.mp new]
    exact window.past time member
  past := fun time member => by
    rcases List.mem_append.mp member with member | member
    · exact window.past time member
    · exact (List.mem_singleton.mp member).le
  bounded := by
    rw [List.length_append, List.length_singleton]
    exact room
  spread := by
    intro front first middle last rest split count
    rcases List.eq_nil_or_concat rest with rfl | ⟨earlier, newest, rfl⟩
    · have halves : accepted ++ [clock] = (front ++ first :: middle) ++ [last] := by
        rw [split, List.append_assoc, List.cons_append]
      have before := List.append_inj_left' halves rfl
      cases List.append_inj_right' halves rfl
      exact window.full_span room before count
    · have halves : accepted ++ [clock] =
          (front ++ first :: (middle ++ last :: earlier)) ++ [newest] := by
        rw [split]
        simp
      exact window.spread front first middle last earlier (List.append_inj_left' halves rfl) count

end Window

end ArcRelay
