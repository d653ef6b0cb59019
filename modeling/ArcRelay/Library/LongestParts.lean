/-
Module: ArcRelay.Library.LongestParts
Purpose: The longest beginning and the longest end of a list that fit a condition.
Trusted boundary: none
-/
import Mathlib

namespace ArcRelay

variable {Item : Type} {fits stricter : List Item → Prop} {whole part other : List Item}

/-- `part` begins `whole`, fits, and so does no longer beginning. -/
structure LongestBeginning (fits : List Item → Prop) (whole part : List Item) : Prop where
  begins : part <+: whole
  within : fits part
  longest : ∀ other, other <+: whole → fits other → other <+: part

namespace LongestBeginning

theorem unique (first : LongestBeginning fits whole part)
    (second : LongestBeginning fits whole other) : part = other := by
  apply (second.longest part first.begins first.within).eq_of_length_le
  exact (first.longest other second.begins second.within).length_le

/-- A list that fits is its own longest beginning. -/
theorem self (within : fits whole) : LongestBeginning fits whole whole :=
  ⟨List.prefix_refl whole, within, fun _ begins _ => begins⟩

/-- Cutting by a weaker condition first makes no difference. -/
theorem nested (outer : LongestBeginning fits whole part)
    (inner : LongestBeginning stricter part other) (implied : ∀ list, stricter list → fits list) :
    LongestBeginning stricter whole other where
  begins := inner.begins.trans outer.begins
  within := inner.within
  longest := by
    intro list begins within
    apply inner.longest list _ within
    exact outer.longest list begins (implied list within)

end LongestBeginning

/-- `part` ends `whole`, fits, and so does no longer end. -/
structure LongestEnd (fits : List Item → Prop) (whole part : List Item) : Prop where
  ends : part <:+ whole
  within : fits part
  longest : ∀ other, other <:+ whole → fits other → other <:+ part

namespace LongestEnd

/-- Ends that fit are ends of one another, so an end that fits is the longest if the next one
does not. -/
theorem of_stop {front : List Item} {item : Item}
    (closed : ∀ shorter longer, shorter <:+ longer → fits longer → fits shorter)
    (within : fits part) (stops : ¬fits (item :: part)) :
    LongestEnd fits (front ++ item :: part) part where
  ends := (List.suffix_cons item part).trans (List.suffix_append front (item :: part))
  within := within
  longest := by
    intro other ends fitting
    rcases List.suffix_or_suffix_of_suffix ends (List.suffix_append front (item :: part)) with
      shorter | longer
    · rcases List.suffix_cons_iff.mp shorter with rfl | shorter
      · exact absurd fitting stops
      · exact shorter
    · exact absurd (closed _ _ longer fitting) stops

end LongestEnd

end ArcRelay
