/-
Module: ArcRelay.Proofs.SyncAddresses
Purpose: Which clipboard contents are told apart by what their content address is computed from.
Trusted boundary: none
-/
import ArcRelay.Library.Separators
import ArcRelay.Proofs.SyncPayloadSizes

namespace ArcRelay.ClipboardSync

open ClipboardReplication

/-!
The content digest reads the HTML, a separator, the text and, where there is RTF, another separator
and the RTF.  The separators may occur in the parts, so one input can be read in several ways:
`Resplit` lists the ways to find the first separator.  Kinds are told apart by their first byte,
and a text or an image alone by all that follows.
-/

/-! ### Contents -/

/-- The contents that records of a kind can have. -/
inductive Admitted : ContentKind → SyncContent → Prop where
  | text {text : String} (nonempty : text ≠ "") : Admitted .text { text := some text }
  | html {text html : String} {rtf : Option String} (htmlNonempty : html ≠ "")
      (rtfNonempty : ∀ content, rtf = some content → content ≠ "") :
      Admitted .html { text := some text, html := some html, rtf := rtf }
  | image {bytes : Bytes} (nonempty : bytes ≠ []) : Admitted .image { imagePng := some bytes }

theorem utf8_eq_nil {value : String} : utf8 value = [] ↔ value = "" := by
  constructor
  · intro empty
    have decoded := fromUtf8_utf8 value
    rw [empty] at decoded
    exact (Option.some.inj ((fromUtf8_utf8 "").symm.trans decoded)).symm
  · rintro rfl
    rfl

/-- What the decoder takes in has admitted content, unless it has none. -/
theorem admitted_of_accepted {platform : SyncPlatform} {uploads later : UploadMoment platform.sha256}
    {nowMs : Int} {record : WireSyncRecord} {deviceId deviceName : String} {accepted : SyncRecord}
    (returned : syncRecordFromProto platform nowMs uploads.view later.view record deviceId
      deviceName = .returned (.ok accepted))
    (filled : ¬(record.deleted = true ∨ accepted.kind = .files)) :
    Admitted accepted.kind (contentOf accepted) := by
  have outcome := syncRecordFromProto_outcome platform nowMs uploads.view later.view record deviceId
    deviceName
  rw [returned] at outcome
  cases outcome with
  | accepted _ resolved =>
      cases resolved with
      | bare none =>
          simp only [contentless, Bool.or_eq_true, decide_eq_true_eq] at none
          exact absurd none filled
      | text _ _ nonempty => exact .text nonempty
      | @html _ html _ _ rtfRef _ _ htmlFetched rtfFetched =>
          have htmlFound := UploadMoment.length_fetched (UploadMoment.fetch_of_fetchText htmlFetched)
          refine .html (mt utf8_eq_nil.mpr htmlFound.1) fun content present => ?_
          cases rtfRef with
          | none =>
              cases rtfFetched
              cases present
          | some =>
              obtain ⟨text, equal, fetched⟩ := UploadMoment.fetch_of_fetchRtf rtfFetched
              cases equal
              cases present
              exact mt utf8_eq_nil.mpr (UploadMoment.length_fetched fetched).1
      | image _ _ fetched => exact .image (UploadMoment.length_fetched fetched).1

theorem admitted_of_accepted_short : Admitted .html (contentOf (shortAccepted 2)) :=
  admitted_of_accepted (shortRecord_accepted (.inr rfl)) (by decide)

/-! ### Separators -/

theorem utf8_append (first second : String) : utf8 (first ++ second) = utf8 first ++ utf8 second := by
  simp [utf8]

theorem utf8_injective {first second : String} (same : utf8 first = utf8 second) :
    first = second := by
  have decoded := fromUtf8_utf8 first
  rw [same, fromUtf8_utf8] at decoded
  exact (Option.some.inj decoded).symm

def textSeparator : String := "\x00text\x00"

def rtfSeparator : String := "\x00rtf\x00"

/-- The RTF and its separator, where there is any. -/
def rtfPart : Option String → String
  | none => ""
  | some rtf => rtfSeparator ++ rtf

/-- The ways to read two texts joined by the first separator. -/
inductive Resplit (html text : String) : String → String → Prop where
  | same : Resplit html text html text
  /-- The text has the separator in it. -/
  | inText {front back : String} (found : text = front ++ textSeparator ++ back) :
      Resplit html text (html ++ textSeparator ++ front) back
  /-- The text continues the end of the separator. -/
  | atText {back : String} (found : text = "text\x00" ++ back) :
      Resplit html text (html ++ "\x00text") back
  /-- The HTML has the separator in it. -/
  | inHtml {front back : String} (found : html = front ++ textSeparator ++ back) :
      Resplit html text front (back ++ textSeparator ++ text)
  /-- The HTML ends like the separator begins. -/
  | atHtml {front : String} (found : html = front ++ "\x00text") :
      Resplit html text front ("text\x00" ++ text)

/-- The separator overlaps itself in one way. -/
theorem overlap_textSeparator {start overlap rest : List Char} :
    Overlap textSeparator.toList start overlap rest ↔
      start = "\x00text".toList ∧ overlap = ['\x00'] ∧ rest = "text\x00".toList := by
  constructor
  · intro overlaps
    obtain ⟨startEq, overlapEq, restEq⟩ := overlaps.eq_of_length
    have positive := List.length_pos_iff.mpr overlaps.moved
    have short : start.length < 6 := by
      have total := congrArg List.length overlaps.ends
      have shared := List.length_pos_iff.mpr overlaps.shared
      rw [List.length_append] at total
      have six : textSeparator.toList.length = 6 := by decide
      omega
    have begins := overlaps.begins
    rw [overlapEq, restEq] at begins
    generalize start.length = moved at *
    have moves : ∀ moved < 6, 0 < moved → textSeparator.toList =
        textSeparator.toList.drop moved ++
          textSeparator.toList.drop (textSeparator.toList.length - moved) → moved = 5 := by
      decide
    obtain rfl := moves moved short positive begins
    exact ⟨startEq, overlapEq, restEq⟩
  · rintro ⟨rfl, rfl, rfl⟩
    exact ⟨by decide, by decide, by decide, by decide⟩

variable {html text otherHtml otherText : String}

/-- Later splits, read as texts. -/
theorem resplit_of_later
    (same : html ++ textSeparator ++ text = otherHtml ++ textSeparator ++ otherText)
    (later : html.toList.length < otherHtml.toList.length) :
    (∃ middle, otherHtml = html ++ textSeparator ++ middle ∧
        text = middle ++ textSeparator ++ otherText) ∨
      otherHtml = html ++ "\x00text" ∧ text = "text\x00" ++ otherText := by
  have lists := congrArg String.toList same
  simp only [String.toList_append] at lists
  rcases (split_later_iff (by decide)).mp ⟨lists, later⟩ with
    ⟨middle, front, back⟩ | ⟨start, overlap, rest, overlaps, front, back⟩
  · left
    refine ⟨String.ofList middle, ?_, ?_⟩
    · apply String.toList_injective
      simpa using front
    · apply String.toList_injective
      simpa using back
  · right
    obtain ⟨rfl, rfl, rfl⟩ := overlap_textSeparator.mp overlaps
    constructor
    · apply String.toList_injective
      simpa using front
    · apply String.toList_injective
      simpa using back

theorem resplit_iff :
    html ++ textSeparator ++ text = otherHtml ++ textSeparator ++ otherText ↔
      Resplit html text otherHtml otherText := by
  constructor
  · intro same
    rcases lt_trichotomy html.toList.length otherHtml.toList.length with later | level | earlier
    · rcases resplit_of_later same later with ⟨middle, rfl, found⟩ | ⟨rfl, found⟩
      · exact .inText found
      · exact .atText found
    · have lists := congrArg String.toList same
      simp only [String.toList_append, List.append_assoc] at lists
      obtain ⟨first, rest⟩ := List.append_inj lists level
      obtain rfl := String.toList_injective first
      obtain rfl := String.toList_injective (List.append_cancel_left rest)
      exact .same
    · rcases resplit_of_later same.symm earlier with ⟨middle, found, rfl⟩ | ⟨found, rfl⟩
      · exact .inHtml found
      · exact .atHtml found
  · intro resplit
    cases resplit with
    | same => rfl
    | inText found =>
        rw [found]
        simp only [String.append_assoc]
    | atText found =>
        rw [found]
        apply String.toList_injective
        simp [textSeparator]
    | inHtml found =>
        rw [found]
        simp only [String.append_assoc]
    | atHtml found =>
        rw [found]
        apply String.toList_injective
        simp [textSeparator]

/-! ### What the digest reads -/

theorem digestInput_html (text html : String) (rtf : Option String) :
    digestInput .html { text := some text, html := some html, rtf := rtf } =
      utf8 "rich-text\x00" ++ utf8 (html ++ textSeparator ++ (text ++ rtfPart rtf)) := by
  cases rtf with
  | none => simp [digestInput, rtfPart, textSeparator, utf8_append]
  | some => simp [digestInput, rtfPart, textSeparator, rtfSeparator, utf8_append]

variable {rtf : Option String}

/-- Two rich texts that the digest does not tell apart. -/
theorem digestInput_html_eq {otherRtf : Option String} :
    digestInput .html { text := some otherText, html := some otherHtml, rtf := otherRtf } =
        digestInput .html { text := some text, html := some html, rtf := rtf } ↔
      Resplit html (text ++ rtfPart rtf) otherHtml (otherText ++ rtfPart otherRtf) := by
  rw [digestInput_html, digestInput_html, List.append_right_inj, ← resplit_iff]
  exact ⟨fun same => (utf8_injective same).symm, fun same => congrArg utf8 same.symm⟩

/-- The first byte tells the kind. -/
theorem kind_of_digestInput {kind otherKind : ContentKind} {content other : SyncContent}
    (admitted : Admitted kind content) (otherAdmitted : Admitted otherKind other)
    (same : digestInput otherKind other = digestInput kind content) : otherKind = kind := by
  have text : (utf8 "text\x00").head? = some 116 := by decide +kernel
  have html : (utf8 "rich-text\x00").head? = some 114 := by decide +kernel
  have image : (utf8 "image\x00").head? = some 105 := by decide +kernel
  have first := congrArg List.head? same
  cases admitted with
  | text =>
      cases otherAdmitted with
      | text => rfl
      | html => simp [digestInput, List.head?_append, text, html] at first
      | image => simp [digestInput, List.head?_append, text, image] at first
  | html =>
      cases otherAdmitted with
      | text => simp [digestInput, List.head?_append, text, html] at first
      | html => rfl
      | image => simp [digestInput, List.head?_append, html, image] at first
  | image =>
      cases otherAdmitted with
      | text => simp [digestInput, List.head?_append, text, image] at first
      | html => simp [digestInput, List.head?_append, html, image] at first
      | image => rfl

/-! ### Which contents are told apart -/

/-- A rich text whose digest input can be read in one way. -/
structure Unambiguous (text html : String) (rtf : Option String) : Prop where
  plain : rtf = none
  textWithoutRtf : ∀ front back, text = front ++ rtfSeparator ++ back → back = ""
  textWithoutSeparator : ∀ front back, text ≠ front ++ textSeparator ++ back
  textNotContinued : ∀ back, text ≠ "text\x00" ++ back
  htmlWithoutSeparator : ∀ front back, html = front ++ textSeparator ++ back → front = ""
  htmlNotContinued : ∀ front, html = front ++ "\x00text" → front = ""

def UniquelyAddressed : ContentKind → SyncContent → Prop
  | .html, content => ∀ text html, content.text = some text → content.html = some html →
      Unambiguous text html content.rtf
  | _, _ => True

theorem Unambiguous.eq_of_digestInput {otherRtf : Option String}
    (unambiguous : Unambiguous text html rtf) (otherNonempty : otherHtml ≠ "")
    (otherRtfNonempty : ∀ content, otherRtf = some content →
      content ≠ "")
    (same : digestInput .html { text := some otherText, html := some otherHtml, rtf := otherRtf } =
      digestInput .html { text := some text, html := some html, rtf := rtf }) :
    otherText = text ∧ otherHtml = html ∧ otherRtf = rtf := by
  obtain rfl := unambiguous.plain
  have resplit := digestInput_html_eq.mp same
  rw [rtfPart, String.append_empty] at resplit
  generalize joined : otherText ++ rtfPart otherRtf = rest at resplit
  cases resplit with
  | same =>
      cases otherRtf with
      | none =>
          rw [rtfPart, String.append_empty] at joined
          exact ⟨joined, rfl, rfl⟩
      | some content =>
          rw [rtfPart, ← String.append_assoc] at joined
          exact absurd (unambiguous.textWithoutRtf _ _ joined.symm) (otherRtfNonempty content rfl)
  | inText found => exact absurd found (unambiguous.textWithoutSeparator _ _)
  | atText found => exact absurd found (unambiguous.textNotContinued _)
  | inHtml found => exact absurd (unambiguous.htmlWithoutSeparator _ _ found) otherNonempty
  | atHtml found => exact absurd (unambiguous.htmlNotContinued _ found) otherNonempty

theorem append_ne_self {front extra : String} (nonempty : extra ≠ "") : front ++ extra ≠ front := by
  intro same
  have lists := congrArg String.toList same
  rw [String.toList_append, List.append_right_eq_self] at lists
  exact nonempty (String.toList_injective lists)

/-- A rich text that is told apart from all others can be read in one way: every other reading is
the content of another record. -/
theorem unambiguous_of_unique (htmlNonempty : html ≠ "")
    (rtfNonempty : ∀ content, rtf = some content → content ≠ "")
    (unique : ∀ other, Admitted .html other → digestInput .html other =
      digestInput .html { text := some text, html := some html, rtf := rtf } →
      other = { text := some text, html := some html, rtf := rtf }) :
    Unambiguous text html rtf := by
  have read : ∀ otherHtml otherText, otherHtml ≠ "" →
      Resplit html (text ++ rtfPart rtf) otherHtml otherText →
        otherHtml = html ∧ otherText = text ∧ rtf = none := by
    intro otherHtml otherText nonempty resplit
    have equal := unique { text := some otherText, html := some otherHtml } (.html nonempty nofun)
      (digestInput_html_eq.mpr (by rwa [rtfPart, String.append_empty]))
    simp only [SyncContent.mk.injEq, Option.some.injEq] at equal
    exact ⟨equal.2.1, equal.1, equal.2.2.1.symm⟩
  obtain rfl := (read html (text ++ rtfPart rtf) htmlNonempty .same).2.2
  rw [rtfPart, String.append_empty] at read
  constructor
  · rfl
  · intro front back found
    by_contra nonempty
    have equal := unique { text := some front, html := some html, rtf := some back }
      (.html htmlNonempty (by rintro _ ⟨rfl⟩; exact nonempty)) (digestInput_html_eq.mpr ?_)
    · simp at equal
    · rw [rtfPart, rtfPart, String.append_empty, ← String.append_assoc, ← found]
      exact .same
  · intro front back found
    have grown := (read _ back ?_ (.inText found)).1
    · rw [String.append_assoc] at grown
      exact append_ne_self (by simp [textSeparator]) grown
    · simp [htmlNonempty]
  · intro back found
    have grown := (read _ back ?_ (.atText found)).1
    · exact append_ne_self (by decide) grown
    · simp [htmlNonempty]
  · intro front back found
    by_contra nonempty
    have shrunk := (read front _ nonempty (.inHtml found)).1
    rw [found, String.append_assoc] at shrunk
    exact append_ne_self (by simp [textSeparator]) shrunk.symm
  · intro front found
    by_contra nonempty
    have shrunk := (read front _ nonempty (.atHtml found)).1
    rw [found] at shrunk
    exact append_ne_self (by decide) shrunk.symm

/-- No other content has the digest input of a content exactly if, for a rich text, there is no RTF
and the separators occur nowhere else. -/
theorem digest_input_unique_iff {kind : ContentKind} {content : SyncContent}
    (admitted : Admitted kind content) :
    (∀ otherKind other, Admitted otherKind other →
      digestInput otherKind other = digestInput kind content →
        otherKind = kind ∧ other = content) ↔
      UniquelyAddressed kind content := by
  cases admitted with
  | @text text nonempty =>
      refine ⟨fun _ => trivial, fun _ otherKind other otherAdmitted same => ?_⟩
      obtain rfl := kind_of_digestInput (.text nonempty) otherAdmitted same
      cases otherAdmitted with
      | @text otherText =>
          have equal : otherText = text := utf8_injective (List.append_cancel_left same)
          rw [equal]
          exact ⟨rfl, rfl⟩
  | @html text html _ htmlNonempty rtfNonempty =>
      constructor
      · rintro unique _ _ ⟨rfl⟩ ⟨rfl⟩
        exact unambiguous_of_unique htmlNonempty rtfNonempty
          fun other otherAdmitted same => (unique .html other otherAdmitted same).2
      · intro unambiguous otherKind other otherAdmitted same
        obtain rfl := kind_of_digestInput (.html htmlNonempty rtfNonempty) otherAdmitted same
        cases otherAdmitted with
        | html otherNonempty otherRtfNonempty =>
            obtain ⟨rfl, rfl, rfl⟩ := (unambiguous text html rfl rfl).eq_of_digestInput otherNonempty
              otherRtfNonempty same
            exact ⟨rfl, rfl⟩
  | @image bytes nonempty =>
      refine ⟨fun _ => trivial, fun _ otherKind other otherAdmitted same => ?_⟩
      obtain rfl := kind_of_digestInput (.image nonempty) otherAdmitted same
      cases otherAdmitted with
      | @image otherBytes =>
          have equal : otherBytes = bytes := List.append_cancel_left same
          rw [equal]
          exact ⟨rfl, rfl⟩

/-! ### One address for two contents -/

def plainHtml : Bytes := utf8 "a"

/-- HTML with the separator in it. -/
def separatedHtml : Bytes := utf8 "a\x00text\x00b"

/-- Both have been uploaded. -/
def ambiguousMoment : UploadMoment shortPlatform.sha256 where
  events := [.insert (htmlCall plainHtml) (.ok ()), .insert (htmlCall separatedHtml) (.ok ())]
  state :=
    ⟨((htmlCall separatedHtml).run shortPlatform.sha256
      ((htmlCall plainHtml).run shortPlatform.sha256 {}).2).2, 0⟩
  now := 0
  run := .step (.step .start (htmlCall_throughUpload _ _ (by decide +kernel) (by decide +kernel))
      (by rfl))
    (htmlCall_throughUpload _ _ (by decide +kernel) (by decide +kernel)) (by rfl)
  order := le_rfl

/-- One of the records has the separator in its text, the other in its HTML. -/
def textSeparated : WireSyncRecord := htmlRecord "b\x00text\x00c" plainHtml plainHtml.length

def htmlSeparated : WireSyncRecord := htmlRecord "c" separatedHtml separatedHtml.length

/-- Both are taken in, with different content under the same address. -/
theorem ambiguous_contents_accepted :
    ∃ first second,
      syncRecordFromProto shortPlatform 0 ambiguousMoment.view ambiguousMoment.view textSeparated
        "pad" "Pad" = .returned (.ok first) ∧
      syncRecordFromProto shortPlatform 0 ambiguousMoment.view ambiguousMoment.view htmlSeparated
        "pad" "Pad" = .returned (.ok second) ∧
      digestInput first.kind (contentOf first) = digestInput second.kind (contentOf second) ∧
      first.syncId = second.syncId ∧ contentOf first ≠ contentOf second := by
  refine ⟨acceptedRecord shortPlatform textSeparated .html .copy
      { text := some "b\x00text\x00c", html := some "a" } "pad" "Pad",
    acceptedRecord shortPlatform htmlSeparated .html .copy
      { text := some "c", html := some "a\x00text\x00b" } "pad" "Pad", ?_, ?_, ?_, ?_, ?_⟩
  · decide +kernel
  · decide +kernel
  · decide +kernel
  · decide +kernel
  · decide +kernel

/-- A short fragment with no room for separators is told apart from everything else. -/
theorem digest_input_unique_iff_fragment :
    Admitted .html { text := some "b", html := some "a" } ∧
      ∀ otherKind other, Admitted otherKind other →
        digestInput otherKind other = digestInput .html { text := some "b", html := some "a" } →
          otherKind = .html ∧ other = { text := some "b", html := some "a" } := by
  have admitted : Admitted .html { text := some "b", html := some "a" } :=
    .html (by decide) (fun _ none => nomatch none)
  refine ⟨admitted, (digest_input_unique_iff admitted).mpr ?_⟩
  rintro _ _ ⟨rfl⟩ ⟨rfl⟩
  have room : ∀ {value separator : String}, value.length < separator.length → ∀ front back,
      value ≠ front ++ separator ++ back := by
    rintro _ separator short front back rfl
    rw [String.length_append, String.length_append] at short
    omega
  constructor
  · rfl
  · exact fun front back found => absurd found (room (by decide) front back)
  · exact room (by decide)
  · intro back found
    refine absurd (found.trans ?_) (room (by decide : "b".length < "text\x00".length) "" back)
    rw [String.empty_append]
  · exact fun front back found => absurd found (room (by decide) front back)
  · intro front found
    refine absurd (found.trans ?_) (room (by decide : "a".length < "\x00text".length) front "")
    rw [String.append_empty]

end ArcRelay.ClipboardSync
