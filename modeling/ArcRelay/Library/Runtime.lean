/-
Module: ArcRelay.Library.Runtime
Purpose: The machine vocabulary shared by the models: bytes, clock readings, saturating
  arithmetic, classes of characters, slices in chunks, and calls that may panic.
Trusted boundary: none
-/
import Mathlib

namespace ArcRelay

/-- A byte vector. -/
abbrev Bytes := List UInt8

/-- A reading of the monotonic clock, in nanoseconds. -/
abbrev Instant := Nat

/-- Whole seconds as a clock difference. -/
def seconds (count : Nat) : Nat := count * 1000000000

/-- `usize::MAX` on a 64-bit host. -/
def usizeMax : Nat := 2 ^ 64 - 1

/-- `usize::saturating_add`. -/
def saturatingAdd (left right : Nat) : Nat := min (left + right) usizeMax

/-- `i64::MAX as u64`: random identifiers are kept in the positive signed 63-bit range. -/
def i64Max : UInt64 := 0x7fffffffffffffff

/-- `char::is_control`: the Unicode general category Cc. -/
def charIsControl (c : Char) : Bool :=
  decide (c.toNat < 0x20) || (decide (0x7f ≤ c.toNat) && decide (c.toNat < 0xa0))

/-- `char::is_whitespace`: the Unicode property White_Space. -/
def charIsWhitespace (c : Char) : Bool :=
  decide (0x9 ≤ c.toNat ∧ c.toNat ≤ 0xd) || decide (0x2000 ≤ c.toNat ∧ c.toNat ≤ 0x200a) ||
    decide (c.toNat ∈ [0x20, 0x85, 0xa0, 0x1680, 0x2028, 0x2029, 0x202f, 0x205f, 0x3000])

/-- `u8::is_ascii_hexdigit`, on a character. -/
def isAsciiHexdigit (c : Char) : Bool :=
  decide ('0' ≤ c ∧ c ≤ '9') || decide ('a' ≤ c ∧ c ≤ 'f') || decide ('A' ≤ c ∧ c ≤ 'F')

/-- `value.trim().is_empty()`. -/
def isBlank (value : String) : Bool := value.toList.all charIsWhitespace

/-- `String::into_bytes`. -/
def utf8 (value : String) : Bytes := value.toUTF8.data.toList

/-- `String::from_utf8`. -/
def fromUtf8 (bytes : Bytes) : Option String := String.fromUTF8? ⟨bytes.toArray⟩

@[simp] theorem fromUtf8_utf8 (value : String) : fromUtf8 (utf8 value) = some value := by
  have bytesKept : (⟨(utf8 value).toArray⟩ : ByteArray) = value.toUTF8 := by
    rw [utf8, Array.toArray_toList]
  rw [fromUtf8, bytesKept, String.fromUTF8?, String.toUTF8_eq_toByteArray,
    dif_pos value.isValidUTF8]
  rfl

/-- In lists related item by item, every item of the second has its partner in the first. -/
theorem exists_of_forall₂_right {First Second : Type} {related : First → Second → Prop}
    {firsts : List First} {seconds : List Second} (each : List.Forall₂ related firsts seconds)
    {second : Second} (member : second ∈ seconds) : ∃ first ∈ firsts, related first second := by
  induction each with
  | nil => cases member
  | cons here _ ih =>
      rcases List.mem_cons.mp member with rfl | later
      · exact ⟨_, .head _, here⟩
      · obtain ⟨first, listed, there⟩ := ih later
        exact ⟨first, .tail _ listed, there⟩

/-- `?` that went through. -/
theorem except_bind_ok {Failure First Second : Type} {result : Except Failure First}
    {rest : First → Except Failure Second} {value : Second}
    (succeeded : (result >>= rest) = .ok value) :
    ∃ first, result = .ok first ∧ rest first = .ok value := by
  cases result with
  | error => cases succeeded
  | ok first => exact ⟨first, rfl, succeeded⟩

/-- `map_err` keeps a success. -/
theorem mapError_ok {Failure Other Value : Type} {result : Except Failure Value}
    {convert : Failure → Other} {value : Value} (succeeded : result.mapError convert = .ok value) :
    result = .ok value := by
  cases result with
  | error => cases succeeded
  | ok =>
      cases succeeded
      rfl

/-- Item by item without a failure. -/
theorem mapM_ok {Failure Item Value : Type} {run : Item → Except Failure Value}
    {value : Item → Value} {items : List Item} (each : ∀ item ∈ items, run item = .ok (value item)) :
    items.mapM run = .ok (items.map value) := by
  induction items with
  | nil => rfl
  | cons item _ ih =>
      rw [List.mapM_cons, each item (.head _),
        ih fun other member => each other (.tail _ member)]
      rfl

/-- Decoding item by item undoes encoding item by item. -/
theorem mapM_map_ok {Failure Item Code : Type} {encode : Item → Code}
    {decode : Code → Except Failure Item} {items : List Item}
    (undo : ∀ item ∈ items, decode (encode item) = .ok item) :
    (items.map encode).mapM decode = .ok items := by
  rw [List.mapM_map]
  exact (mapM_ok undo).trans (by rw [List.map_id'])

/-- The recursion of `chunks`; every round takes an item. -/
def chunkRounds {α : Type} (size : Nat) : Nat → List α → List (List α)
  | 0, _ => []
  | _ + 1, [] => []
  | rounds + 1, item :: items =>
      (item :: items).take size :: chunkRounds size rounds ((item :: items).drop size)

/-- `slice::chunks`, for a positive size. -/
def chunks {α : Type} (size : Nat) (items : List α) : List (List α) :=
  chunkRounds size items.length items

theorem flatten_chunkRounds {α : Type} {size rounds : Nat} {items : List α} (positive : 0 < size)
    (enough : items.length ≤ rounds) : (chunkRounds size rounds items).flatten = items := by
  induction rounds generalizing items with
  | zero =>
      rw [List.length_eq_zero_iff.mp (Nat.le_zero.mp enough)]
      rfl
  | succ rounds ih =>
      cases items with
      | nil => rfl
      | cons item items =>
          have shorter : ((item :: items).drop size).length ≤ rounds := by
            simp only [List.length_drop, List.length_cons] at enough ⊢
            omega
          rw [chunkRounds, List.flatten_cons, ih shorter, List.take_append_drop]

/-- Chunks laid end to end are the slice. -/
theorem flatten_chunks {α : Type} {size : Nat} (items : List α) (positive : 0 < size) :
    (chunks size items).flatten = items :=
  flatten_chunkRounds positive le_rfl

theorem length_le_of_mem_chunks {α : Type} {size : Nat} {items chunk : List α}
    (member : chunk ∈ chunks size items) : chunk.length ≤ size := by
  unfold chunks at member
  generalize items.length = rounds at member
  induction rounds generalizing items with
  | zero => cases member
  | succ _ ih =>
      cases items with
      | nil => cases member
      | cons =>
          rcases List.mem_cons.mp member with rfl | member
          · exact List.length_take_le size _
          · exact ih member

theorem ne_nil_of_mem_chunks {α : Type} {size : Nat} {items chunk : List α} (positive : 0 < size)
    (member : chunk ∈ chunks size items) : chunk ≠ [] := by
  unfold chunks at member
  generalize items.length = rounds at member
  induction rounds generalizing items with
  | zero => cases member
  | succ _ ih =>
      cases items with
      | nil => cases member
      | cons =>
          rcases List.mem_cons.mp member with rfl | member
          · simp [Nat.ne_of_gt positive]
          · exact ih member

/-- How a call under a mutex ends: with a value, or in a failed `expect`. -/
inductive CallOutcome (α : Type) where
  | returned (value : α)
  | panicked (message : String)
deriving Repr, DecidableEq

end ArcRelay
