/-
Module: ArcRelay.Proofs.TextBounds
Purpose: Cut texts are the longest that fit, whatever their characters, and an action output
  snapshot keeps the longest end of the lines.
Trusted boundary: none
-/
import ArcRelay.Library.LongestParts
import ArcRelay.Server.Texts

namespace ArcRelay

open String

/-! ### Boundaries -/

variable {chars : List Char}

/-- A boundary is where a beginning of the text ends. -/
theorem isCharBoundary_iff {index : Nat} :
    isCharBoundary chars index = true ↔ ∃ part, part <+: chars ∧ utf8Len part = index := by
  induction chars generalizing index with
  | nil =>
      cases index with
      | zero => simp [isCharBoundary]
      | succ => simp [isCharBoundary]
  | cons c _ ih =>
      cases index with
      | zero =>
          simp only [isCharBoundary, true_iff]
          exact ⟨[], List.nil_prefix, rfl⟩
      | succ =>
          rw [isCharBoundary]
          split
          next short =>
            simp only [Bool.false_eq_true, false_iff]
            rintro ⟨part, begins, size⟩
            cases part with
            | nil => cases size
            | cons =>
                obtain ⟨rfl, -⟩ := List.cons_prefix_cons.mp begins
                rw [utf8Len_cons] at size
                omega
          next long =>
            rw [ih]
            constructor
            · rintro ⟨part, begins, size⟩
              refine ⟨c :: part, (List.prefix_cons_inj c).mpr begins, ?_⟩
              rw [utf8Len_cons, size]
              omega
            · rintro ⟨part, begins, size⟩
              cases part with
              | nil => cases size
              | cons _ part =>
                  obtain ⟨rfl, rest⟩ := List.cons_prefix_cons.mp begins
                  rw [utf8Len_cons] at size
                  exact ⟨part, rest, by omega⟩

theorem isCharBoundary_zero (chars : List Char) : isCharBoundary chars 0 = true := by
  cases chars <;> rfl

theorem boundaryBelow_le (chars : List Char) (maximum : Nat) :
    boundaryBelow chars maximum ≤ maximum := by
  induction maximum with
  | zero => exact le_rfl
  | succ maximum ih =>
      rw [boundaryBelow]
      split
      · exact le_rfl
      · exact ih.trans (Nat.le_succ maximum)

theorem isCharBoundary_boundaryBelow (chars : List Char) (maximum : Nat) :
    isCharBoundary chars (boundaryBelow chars maximum) = true := by
  induction maximum with
  | zero => exact isCharBoundary_zero chars
  | succ _ ih =>
      rw [boundaryBelow]
      split
      next boundary => exact boundary
      next => exact ih

theorem le_boundaryBelow {maximum index : Nat} (boundary : isCharBoundary chars index = true)
    (within : index ≤ maximum) :
    index ≤ boundaryBelow chars maximum := by
  induction maximum with
  | zero => exact within
  | succ _ ih =>
      rw [boundaryBelow]
      split
      next => exact within
      next inside =>
        apply ih
        apply Nat.le_of_lt_succ
        apply lt_of_le_of_ne within
        rintro rfl
        exact inside boundary

/-- The loop stops: position `0` is a boundary. -/
theorem boundarySearch_eq {rounds maximum : Nat} (enough : maximum < rounds) :
    boundarySearch chars rounds maximum = some (boundaryBelow chars maximum) := by
  induction maximum generalizing rounds with
  | zero =>
      cases rounds with
      | zero => cases enough
      | succ => rw [boundarySearch, if_pos (isCharBoundary_zero chars), boundaryBelow]
  | succ _ ih =>
      cases rounds with
      | zero => cases enough
      | succ =>
          rw [boundarySearch, boundaryBelow]
          split
          · rfl
          · exact ih (Nat.lt_of_succ_lt_succ enough)

/-! ### Cutting -/

theorem takeBytes_longest (chars : List Char) (size : Nat) :
    LongestBeginning (fun part => utf8Len part ≤ size) chars (takeBytes chars size) := by
  induction chars generalizing size with
  | nil => exact .self (Nat.zero_le size)
  | cons c _ ih =>
      rw [takeBytes]
      split
      next room =>
        have rest := ih (size - c.utf8Size)
        refine ⟨(List.prefix_cons_inj c).mpr rest.begins, ?_, fun other begins within => ?_⟩
        · have within := rest.within
          rw [utf8Len_cons]
          omega
        · cases other with
          | nil => exact List.nil_prefix
          | cons first other =>
              obtain ⟨rfl, shorter⟩ := List.cons_prefix_cons.mp begins
              rw [utf8Len_cons] at within
              exact (List.prefix_cons_inj first).mpr (rest.longest other shorter (by omega))
      next full =>
        refine ⟨List.nil_prefix, Nat.zero_le size, fun other begins within => ?_⟩
        cases other with
        | nil => exact List.nil_prefix
        | cons =>
            obtain ⟨rfl, -⟩ := List.cons_prefix_cons.mp begins
            rw [utf8Len_cons] at within
            omega

variable (value : String)

theorem utf8ByteSize_eq_utf8Len : value.utf8ByteSize = utf8Len value.toList := by
  rw [← utf8ByteSize_ofList, ofList_toList]

/-- `truncate_utf8` keeps the longest beginning that has at most `maximum` bytes. -/
theorem truncateUtf8_longest (maximum : Nat) :
    LongestBeginning (fun part => utf8Len part ≤ maximum) value.toList
      (truncateUtf8 value maximum).toList := by
  rw [truncateUtf8]
  split
  next short =>
    rw [utf8ByteSize_eq_utf8Len] at short
    exact .self short
  next =>
    rw [toList_ofList]
    have taken := takeBytes_longest value.toList (boundaryBelow value.toList maximum)
    refine ⟨taken.begins, taken.within.trans (boundaryBelow_le _ _), fun other begins within => ?_⟩
    apply taken.longest other begins
    exact le_boundaryBelow (isCharBoundary_iff.mpr ⟨other, begins, rfl⟩) within

/-- Neither does the loop go on forever nor the cut panic. -/
theorem runTruncateUtf8_eq {rounds maximum : Nat} (enough : maximum < rounds) :
    runTruncateUtf8 rounds value maximum = some (truncateUtf8 value maximum) := by
  rw [runTruncateUtf8, truncateUtf8]
  split
  next => rfl
  next long =>
    have within := (boundaryBelow_le value.toList maximum).trans (Nat.le_of_not_le long)
    rw [boundarySearch_eq enough, Option.bind_some, stringTruncate,
      if_neg (Nat.not_lt_of_le within), if_pos (isCharBoundary_boundaryBelow _ _)]

theorem truncateUtf8_le (maximum : Nat) : (truncateUtf8 value maximum).utf8ByteSize ≤ maximum := by
  rw [utf8ByteSize_eq_utf8Len]
  exact (truncateUtf8_longest value maximum).within

/-- Cutting twice is cutting once. -/
theorem truncateUtf8_truncateUtf8 {smaller larger : Nat}
    (ordered : smaller ≤ larger) :
    truncateUtf8 (truncateUtf8 value larger) smaller = truncateUtf8 value smaller := by
  have twice := (truncateUtf8_longest value larger).nested
    (truncateUtf8_longest (truncateUtf8 value larger) smaller) fun _ within => within.trans ordered
  exact toList_inj.mp (twice.unique (truncateUtf8_longest value smaller))

/-! ### Sanitized texts -/

theorem charIsControl_replaceControl (c : Char) : charIsControl (replaceControl c) = false := by
  rw [replaceControl]
  split
  next => decide
  next printable => exact Bool.eq_false_iff.mpr printable

theorem replaceControl_of_printable {c : Char} (printable : charIsControl c = false) :
    replaceControl c = c := by
  rw [replaceControl, printable]
  rfl

theorem charIsControl_of_mem_sanitizeText {value : String} {maximum : Nat} {c : Char}
    (member : c ∈ (sanitizeText value maximum).toList) : charIsControl c = false := by
  have begins := (truncateUtf8_longest (ofList (value.toList.map replaceControl)) maximum).begins
  rw [toList_ofList] at begins
  obtain ⟨original, -, rfl⟩ := List.mem_map.mp (begins.subset member)
  exact charIsControl_replaceControl original

/-- A sanitized text has nothing left to replace, only to cut. -/
theorem sanitizeText_sanitizeText {smaller larger : Nat}
    (ordered : smaller ≤ larger) :
    sanitizeText (sanitizeText value larger) smaller = sanitizeText value smaller := by
  have replaced : (sanitizeText value larger).toList.map replaceControl =
      (sanitizeText value larger).toList := by
    conv_rhs => rw [← List.map_id (sanitizeText value larger).toList]
    apply List.map_congr_left
    intro c member
    exact replaceControl_of_printable (charIsControl_of_mem_sanitizeText member)
  rw [sanitizeText, replaced, ofList_toList]
  exact truncateUtf8_truncateUtf8 _ ordered

/-- Texts are bounded as their readers rely on: a cut text is the longest that fits, its loop ends
and its cut does not panic; a sanitized text fits, has no control characters, and stays as it is
when it is sanitized again. -/
theorem text_bounding (value : String) (maximum : Nat) :
    (∀ rounds > maximum, boundarySearch value.toList rounds maximum =
      some (boundaryBelow value.toList maximum)) ∧
    (∀ rounds > maximum, runTruncateUtf8 rounds value maximum =
      some (truncateUtf8 value maximum)) ∧
    LongestBeginning (fun part => utf8Len part ≤ maximum) value.toList
      (truncateUtf8 value maximum).toList ∧
    (sanitizeText value maximum).utf8ByteSize ≤ maximum ∧
    (∀ c ∈ (sanitizeText value maximum).toList, charIsControl c = false) ∧
    sanitizeText value maximum =
      truncateUtf8 (ofList (value.toList.map fun c => if charIsControl c then ' ' else c)) maximum ∧
    sanitizeText (sanitizeText value maximum) maximum = sanitizeText value maximum ∧
    ∀ smaller ≤ maximum,
      sanitizeText (sanitizeText value maximum) smaller = sanitizeText value smaller := by
  refine ⟨fun rounds enough => boundarySearch_eq enough,
    fun rounds enough => runTruncateUtf8_eq value enough, truncateUtf8_longest value maximum,
    truncateUtf8_le _ maximum, fun c member => charIsControl_of_mem_sanitizeText member, rfl,
    sanitizeText_sanitizeText value le_rfl, fun smaller ordered => ?_⟩
  exact sanitizeText_sanitizeText value ordered

/-! ### Action output -/

namespace Subscriptions

/-- A line as a snapshot shows it. -/
def cutLine (line : String) : String := truncateUtf8 line maxActionOutputLineBytes

def lineBytes (lines : List String) : Nat := (lines.map String.utf8ByteSize).sum

/-- Lines a snapshot has room for. -/
def SnapshotRoom (lines : List String) : Prop :=
  lines.length ≤ maxActionOutputLines ∧ lineBytes lines ≤ maxActionOutputSnapshotBytes

theorem SnapshotRoom.of_sublist {part lines : List String} (room : SnapshotRoom lines)
    (fewer : part.Sublist lines) : SnapshotRoom part := by
  refine ⟨fewer.length_le.trans room.1, le_trans ?_ room.2⟩
  exact (fewer.map _).sum_le_sum fun _ _ => Nat.zero_le _

theorem SnapshotRoom.of_suffix (part lines : List String) (ends : part <:+ lines)
    (room : SnapshotRoom lines) : SnapshotRoom part := room.of_sublist ends.sublist

/-- There is always room for one line. -/
theorem snapshotRoom_cutLine (line : String) : SnapshotRoom [cutLine line] := by
  constructor
  · exact Nat.succ_le_of_lt (by decide)
  · have short : (cutLine line).utf8ByteSize ≤ maxActionOutputLineBytes := truncateUtf8_le _ _
    simp only [lineBytes, List.map_cons, List.map_nil, List.sum_cons, List.sum_nil, add_zero]
    exact short.trans (by decide)

/-- The loop stops where a longer end would have no room. -/
theorem selectLines_longest {rest selected : List String} {total : Nat}
    (counted : total = lineBytes selected) (room : SnapshotRoom selected) :
    LongestEnd SnapshotRoom ((rest.map cutLine).reverse ++ selected)
      (selectLines rest selected total) := by
  induction rest generalizing selected total with
  | nil => exact ⟨List.suffix_refl _, room, fun _ ends _ => ends⟩
  | cons line rest ih =>
      have whole : ((line :: rest).map cutLine).reverse ++ selected =
          (rest.map cutLine).reverse ++ cutLine line :: selected := by simp
      have longer : lineBytes (cutLine line :: selected) = total + (cutLine line).utf8ByteSize := by
        rw [counted, lineBytes, List.map_cons, List.sum_cons, Nat.add_comm, lineBytes]
      rw [whole, selectLines]
      split
      next many =>
        apply LongestEnd.of_stop SnapshotRoom.of_suffix room
        intro fitting
        exact absurd fitting.1 (Nat.not_le_of_gt (Nat.lt_succ_of_le many))
      next few =>
        dsimp only
        split
        next large =>
          apply LongestEnd.of_stop SnapshotRoom.of_suffix room
          intro fitting
          have within := fitting.2
          rw [longer] at within
          exact absurd (lt_of_lt_of_le large (Nat.min_le_left _ _)) (Nat.not_lt_of_le within)
        next small =>
          apply ih longer.symm
          refine ⟨Nat.lt_of_not_le few, ?_⟩
          rw [longer]
          have sum : min (total + (cutLine line).utf8ByteSize) usizeMax ≤
              maxActionOutputSnapshotBytes := Nat.le_of_not_lt small
          have limit : maxActionOutputSnapshotBytes < usizeMax := by decide
          omega

theorem boundedActionOutput_longest (lines : List String) :
    LongestEnd SnapshotRoom (lines.map cutLine) (boundedActionOutput lines) := by
  have empty : SnapshotRoom [] := ⟨Nat.zero_le _, Nat.zero_le _⟩
  have selected : LongestEnd SnapshotRoom ((lines.reverse.map cutLine).reverse ++ [])
      (boundedActionOutput lines) := selectLines_longest rfl empty
  rw [List.map_reverse, List.reverse_reverse, List.append_nil] at selected
  exact selected

/-- A snapshot keeps the longest end of the lines that it has room for, always the last line, and
a further line brings none back that was left out. -/
theorem action_output_keeps_newest (lines : List String) :
    LongestEnd SnapshotRoom (lines.map cutLine) (boundedActionOutput lines) ∧
    (boundedActionOutput lines = [] → lines = []) ∧
    ∀ line, ∃ kept, kept <:+ boundedActionOutput lines ∧
      boundedActionOutput (lines ++ [line]) = kept ++ [cutLine line] := by
  have longest := boundedActionOutput_longest lines
  refine ⟨longest, fun nothing => ?_, fun line => ?_⟩
  · rcases List.eq_nil_or_concat lines with rfl | ⟨front, last, rfl⟩
    · rfl
    · rw [nothing, List.concat_eq_append, List.map_append] at longest
      have kept := longest.longest [cutLine last] (List.suffix_append _ _)
        (snapshotRoom_cutLine last)
      cases List.suffix_nil.mp kept
  · have later := boundedActionOutput_longest (lines ++ [line])
    rw [List.map_append] at later
    obtain ⟨kept, same⟩ := later.longest [cutLine line] (List.suffix_append _ _)
      (snapshotRoom_cutLine line)
    refine ⟨kept, ?_, same.symm⟩
    have ends : kept <:+ lines.map cutLine := by
      obtain ⟨front, joined⟩ := later.ends
      rw [← same, ← List.append_assoc] at joined
      exact ⟨front, List.append_cancel_right joined⟩
    apply longest.longest kept ends
    apply later.within.of_sublist
    rw [← same]
    exact List.sublist_append_left kept _

end Subscriptions

end ArcRelay
