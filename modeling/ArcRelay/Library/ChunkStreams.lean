/-
Module: ArcRelay.Library.ChunkStreams
Purpose: Sequences delivered in pieces that carry their position and mark the last one.
Trusted boundary: none
-/
import Mathlib

namespace ArcRelay

/-!
A sender cuts a sequence into pieces, each with the position of its first item and a mark on the
final one.  `Delivers` says that pieces carry exactly the items they should from a position on; it
is built piece by piece, the way senders and receivers go through them.  `delivers_iff` reads the
same off the list of pieces as a whole.
-/

structure Piece (α : Type) where
  offset : Nat
  data : List α
  final : Bool

variable {α : Type}

/-- The pieces continue one another from `position` to a final one, and carry `items`. -/
inductive Delivers : Nat → List (Piece α) → List α → Prop where
  | last {position : Nat} {piece : Piece α} (placed : piece.offset = position)
      (final : piece.final = true) : Delivers position [piece] piece.data
  | more {position : Nat} {piece : Piece α} {pieces : List (Piece α)} {items : List α}
      (placed : piece.offset = position) (unfinished : piece.final = false)
      (rest : Delivers (position + piece.data.length) pieces items) :
      Delivers position (piece :: pieces) (piece.data ++ items)

/-- Each piece stands where the pieces before it end. -/
def Contiguous (position : Nat) (pieces : List (Piece α)) : Prop :=
  ∀ index piece, pieces[index]? = some piece →
    piece.offset = position + ((pieces.take index).flatMap (·.data)).length

/-- The last piece is final, and no other is. -/
def EndsOnce (pieces : List (Piece α)) : Prop :=
  ∃ front last, pieces = front ++ [last] ∧ last.final = true ∧
    ∀ piece ∈ front, piece.final = false

variable {position : Nat} {piece : Piece α} {pieces : List (Piece α)}

theorem contiguous_cons :
    Contiguous position (piece :: pieces) ↔
      piece.offset = position ∧ Contiguous (position + piece.data.length) pieces := by
  constructor
  · intro contiguous
    refine ⟨contiguous 0 piece rfl, fun index later found => ?_⟩
    rw [contiguous (index + 1) later found, List.take_succ_cons, List.flatMap_cons,
      List.length_append, Nat.add_assoc]
  · rintro ⟨placed, rest⟩ index later found
    cases index with
    | zero =>
        obtain rfl : piece = later := Option.some.inj found
        exact placed
    | succ index =>
        rw [rest index later found, List.take_succ_cons, List.flatMap_cons, List.length_append,
          Nat.add_assoc]

theorem endsOnce_singleton : EndsOnce [piece] ↔ piece.final = true := by
  constructor
  · rintro ⟨front, last, split, final, -⟩
    rw [← List.nil_append [piece]] at split
    obtain ⟨-, same⟩ := List.append_inj' split rfl
    rw [List.singleton_inj.mp same]
    exact final
  · exact fun final => ⟨[], piece, rfl, final, fun _ none => nomatch none⟩

theorem endsOnce_cons {next : Piece α} :
    EndsOnce (piece :: next :: pieces) ↔ piece.final = false ∧ EndsOnce (next :: pieces) := by
  constructor
  · rintro ⟨front, last, split, final, others⟩
    cases front with
    | nil => cases split
    | cons _ front =>
        obtain ⟨rfl, rest⟩ := List.cons.inj split
        exact ⟨others _ (.head _), front, last, rest, final,
          fun other member => others other (.tail _ member)⟩
  · rintro ⟨unfinished, front, last, split, final, others⟩
    refine ⟨piece :: front, last, by rw [split, List.cons_append], final, fun other member => ?_⟩
    rcases List.mem_cons.mp member with rfl | member
    · exact unfinished
    · exact others other member

/-- The pieces laid end to end are the items. -/
theorem Delivers.flatMap_data {items : List α} (delivers : Delivers position pieces items) :
    pieces.flatMap (·.data) = items := by
  induction delivers with
  | last => simp
  | more _ _ _ ih =>
      rw [List.flatMap_cons, ih]

theorem delivers_iff {items : List α} :
    Delivers position pieces items ↔
      Contiguous position pieces ∧ EndsOnce pieces ∧ pieces.flatMap (·.data) = items := by
  constructor
  · intro delivers
    refine ⟨?_, ?_, delivers.flatMap_data⟩
    · induction delivers with
      | last placed =>
          exact contiguous_cons.mpr ⟨placed, fun _ _ found => nomatch found⟩
      | more placed _ _ ih =>
          exact contiguous_cons.mpr ⟨placed, ih⟩
    · induction delivers with
      | last _ final => exact endsOnce_singleton.mpr final
      | @more _ _ _ _ _ unfinished rest ih =>
          cases rest with
          | last => exact endsOnce_cons.mpr ⟨unfinished, ih⟩
          | more => exact endsOnce_cons.mpr ⟨unfinished, ih⟩
  · rintro ⟨contiguous, ends, rfl⟩
    induction pieces generalizing position with
    | nil =>
        obtain ⟨front, last, split, -⟩ := ends
        simp at split
    | cons _ pieces ih =>
        obtain ⟨placed, continued⟩ := contiguous_cons.mp contiguous
        cases pieces with
        | nil =>
            rw [List.flatMap_cons, List.flatMap_nil, List.append_nil]
            exact .last placed (endsOnce_singleton.mp ends)
        | cons =>
            obtain ⟨unfinished, ends⟩ := endsOnce_cons.mp ends
            exact .more placed unfinished (ih continued ends)

end ArcRelay
