/-
Module: ArcRelay.Library.Separators
Purpose: The ways to split a list at a separator that may occur in the parts, and may overlap
  itself.
Trusted boundary: none
-/
import Mathlib

namespace ArcRelay

/-!
Two parts joined by a separator can be told apart only if the separator occurs once.  When it
occurs again further back, the second occurrence lies in the second part, or the two occurrences
overlap; the overlap is then an end and a beginning of the separator.
-/

variable {α : Type}

/-- The separator begins with `start`, ends with `rest`, and `overlap` is what the two leave. -/
structure Overlap (separator start overlap rest : List α) : Prop where
  moved : start ≠ []
  shared : overlap ≠ []
  ends : separator = start ++ overlap
  begins : separator = overlap ++ rest

/-- An overlap is fixed by how far the separator is moved. -/
theorem Overlap.eq_of_length {separator start overlap rest : List α}
    (overlaps : Overlap separator start overlap rest) :
    start = separator.take start.length ∧ overlap = separator.drop start.length ∧
      rest = separator.drop (separator.length - start.length) := by
  have short : overlap.length = separator.length - start.length := by
    rw [overlaps.ends, List.length_append, Nat.add_sub_cancel_left]
  refine ⟨?_, ?_, ?_⟩
  · rw [overlaps.ends, List.take_left]
  · rw [overlaps.ends, List.drop_left]
  · rw [← short, overlaps.begins, List.drop_left]

/-- All splits of a list at a separator that lie behind a given one. -/
theorem split_later_iff {separator front back laterFront laterBack : List α}
    (nonempty : separator ≠ []) :
    (front ++ separator ++ back = laterFront ++ separator ++ laterBack ∧
      front.length < laterFront.length) ↔
      (∃ middle, laterFront = front ++ separator ++ middle ∧
        back = middle ++ separator ++ laterBack) ∨
      ∃ start overlap rest, Overlap separator start overlap rest ∧ laterFront = front ++ start ∧
        back = rest ++ laterBack := by
  constructor
  · rintro ⟨same, later⟩
    rw [List.append_assoc, List.append_assoc] at same
    rcases List.append_eq_append_iff.mp same with ⟨gap, rfl, moved⟩ | ⟨gap, shorter, -⟩
    · have positive : gap ≠ [] := by
        rintro rfl
        simp at later
      rcases List.append_eq_append_iff.mp moved with ⟨middle, rfl, rest⟩ | ⟨overlap, ends, rest⟩
      · left
        refine ⟨middle, (List.append_assoc _ _ _).symm, ?_⟩
        rw [rest, List.append_assoc]
      · by_cases touching : overlap = []
        · -- The second occurrence begins where the first one ends.
          subst touching
          rw [List.append_nil] at ends
          subst ends
          exact .inl ⟨[], by rw [List.append_nil], by simpa using rest.symm⟩
        · right
          have short : overlap.length < separator.length := by
            rw [ends, List.length_append]
            have := List.length_pos_iff.mpr positive
            omega
          rcases List.append_eq_append_iff.mp rest with ⟨tail, longer, -⟩ | ⟨tail, begins, remaining⟩
          · rw [longer, List.length_append] at short
            omega
          · exact ⟨gap, overlap, tail, ⟨positive, touching, ends, begins⟩, rfl, remaining⟩
    · rw [shorter, List.length_append] at later
      omega
  · rintro (⟨middle, rfl, rfl⟩ | ⟨start, overlap, rest, overlaps, rfl, rfl⟩)
    · have positive := List.length_pos_iff.mpr nonempty
      refine ⟨by simp only [List.append_assoc], ?_⟩
      simp only [List.length_append]
      omega
    · have positive := List.length_pos_iff.mpr overlaps.moved
      refine ⟨?_, by rw [List.length_append]; omega⟩
      calc front ++ separator ++ (rest ++ laterBack)
          = front ++ (start ++ overlap) ++ (rest ++ laterBack) := by rw [← overlaps.ends]
        _ = front ++ start ++ (overlap ++ rest) ++ laterBack := by simp only [List.append_assoc]
        _ = front ++ start ++ separator ++ laterBack := by rw [← overlaps.begins]

end ArcRelay
