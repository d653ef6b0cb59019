/-
Module: ArcRelay.Proofs.SyncIngestion
Purpose: A clipboard record from a client is taken in without a panic, under the identity of the
  connection and with the content of its kind; what the client claims about devices has no effect.
Trusted boundary: none
-/
import ArcRelay.Proofs.UploadStore
import ArcRelay.Server.ClipboardSync

namespace ArcRelay.ClipboardSync

open ClipboardReplication

/-!
The validator and the decoder look at the payload one after the other.  `Validated` is what the
first leaves for the second: a kind and a change that are known, and a payload that fits the kind.
With it the decoder has one case for each kind, and none of them is a panic.
-/

/-! ### What validation establishes -/

/-- The payload is the one the kind asks for. -/
inductive PayloadFits : ContentKind → Option Payload → Prop where
  | text {text : String} (nonempty : text ≠ "") : PayloadFits .text (some (.text text))
  | html {plainText : String} {html : BlobRef} {rtf : Option BlobRef}
      (htmlValid : validClipboardBlobRef (some html) "text/html; charset=utf-8" (16 * 1024 * 1024))
      (rtfValid : ∀ reference, rtf = some reference →
        validClipboardBlobRef (some reference) "text/rtf" (16 * 1024 * 1024)) :
      PayloadFits .html (some (.richText plainText (some html) rtf))
  | image {image : BlobRef}
      (valid : validClipboardBlobRef (some image) "image/png" (20 * 1024 * 1024)) :
      PayloadFits .image (some (.image image))
  | files : PayloadFits .files none

variable {kind : ContentKind}

theorem payloadFits_of_valid {payload : Option Payload}
    (valid : validatePayload payload kind = .ok ()) : PayloadFits kind payload := by
  rcases payload with _ | text | ⟨plainText, html, rtf⟩ | image
  · cases kind with
    | files => exact .files
    | _ => cases valid
  · cases kind with
    | text =>
        simp only [validatePayload] at valid
        split at valid
        next fits => exact .text fits.1
        next => cases valid
    | _ => cases valid
  · cases kind with
    | html =>
        simp only [validatePayload] at valid
        split at valid
        next => cases valid
        next fits =>
          simp only [Bool.or_eq_true, not_or, Bool.not_eq_true, Bool.not_eq_false'] at fits
          obtain ⟨⟨-, htmlValid⟩, rtfValid⟩ := fits
          cases html with
          | none => cases htmlValid
          | some html =>
              refine .html htmlValid fun reference present => ?_
              rw [present] at rtfValid
              simpa using rtfValid
    | _ => cases valid
  · cases kind with
    | image =>
        simp only [validatePayload] at valid
        split at valid
        next fits => exact .image fits
        next => cases valid
    | _ => cases valid

structure Validated (platform : SyncPlatform) (record : WireSyncRecord) (kind : ContentKind)
    (changeKind : ChangeKind) : Prop where
  knownKind : platform.contentKind record.kind = some kind
  knownChange : platform.changeKind record.changeKind = some changeKind
  gone : record.deleted = true → record.payload = none
  payload : record.deleted = false → PayloadFits kind record.payload

theorem unless_ok {condition : Prop} [Decidable condition] {reason : String}
    {rest : Except String Unit} (ok : (if condition then .error reason else rest) = .ok ()) :
    rest = .ok () := by
  split at ok
  next => cases ok
  next => exact ok

variable {record : WireSyncRecord}

theorem validated_of_ok {platform : SyncPlatform} {nowMs : Int}
    (valid : validateClipboardSyncRecord platform nowMs record = .ok ()) :
    ∃ kind changeKind, Validated platform record kind changeKind := by
  rw [validateClipboardSyncRecord] at valid
  have valid := unless_ok (unless_ok (unless_ok (unless_ok (unless_ok (unless_ok valid)))))
  split at valid
  next kind changeKind knownKind knownChange =>
    refine ⟨kind, changeKind, knownKind, knownChange, fun deleted => ?_, fun live => ?_⟩
    · rw [if_pos deleted] at valid
      split at valid
      next => cases valid
      next none => exact Option.not_isSome_iff_eq_none.mp none
    · rw [live, if_neg Bool.false_ne_true] at valid
      exact payloadFits_of_valid valid
  next => cases valid

/-! ### What the decoder makes of it -/

/-- The content of a record, and where it comes from. -/
inductive Resolved (uploads later : UploadView) (record : WireSyncRecord) :
    ContentKind → SyncContent → Prop where
  | bare {kind : ContentKind} (none : contentless record kind = true) :
      Resolved uploads later record kind {}
  | text {text : String} (live : record.deleted = false)
      (payload : record.payload = some (.text text)) (nonempty : text ≠ "") :
      Resolved uploads later record .text { text := some text }
  | html {plainText html : String} {htmlRef : BlobRef} {rtf : Option String}
      {rtfRef : Option BlobRef} (live : record.deleted = false)
      (payload : record.payload = some (.richText plainText (some htmlRef) rtfRef))
      (htmlFetched : uploads.fetchHtml htmlRef = .ok html)
      (rtfFetched : later.fetchRtf rtfRef = .ok rtf) :
      Resolved uploads later record .html { text := some plainText, html := some html, rtf := rtf }
  | image {image : BlobRef} {bytes : Bytes} (live : record.deleted = false)
      (payload : record.payload = some (.image image))
      (fetched : uploads.fetch image "image/png" = some bytes) :
      Resolved uploads later record .image { imagePng := some bytes }

variable {uploads : UploadView}

/-- Content that fits its kind is resolved or reported missing. -/
theorem resolveContent_of_fits {later : UploadView} (live : record.deleted = false)
    (content : kind ≠ .files) (fits : PayloadFits kind record.payload) :
    (∃ reason, resolveContent uploads later record.payload = .returned (.error reason)) ∨
      ∃ content, resolveContent uploads later record.payload = .returned (.ok content) ∧
        Resolved uploads later record kind content := by
  generalize found : record.payload = payload at fits ⊢
  cases fits with
  | text nonempty => exact .inr ⟨_, rfl, .text live found nonempty⟩
  | @html _ htmlRef rtfRef =>
      rw [resolveContent]
      cases htmlFetched : uploads.fetchHtml htmlRef with
      | error reason => exact .inl ⟨reason, rfl⟩
      | ok html =>
          cases rtfFetched : later.fetchRtf rtfRef with
          | error reason => exact .inl ⟨reason, rfl⟩
          | ok => exact .inr ⟨_, rfl, .html live found htmlFetched rtfFetched⟩
  | @image image =>
      rw [resolveContent]
      cases fetched : uploads.fetch image "image/png" with
      | none => exact .inl ⟨_, rfl⟩
      | some => exact .inr ⟨_, rfl, .image live found fetched⟩
  | files => exact absurd rfl content

/-- How the decoder can end: with a reason, or with the record of the host. -/
inductive SyncOutcome (platform : SyncPlatform) (uploads later : UploadView)
    (record : WireSyncRecord) (deviceId deviceName : String) :
    CallOutcome (Except String SyncRecord) → Prop where
  | rejected (reason : String) :
      SyncOutcome platform uploads later record deviceId deviceName (.returned (.error reason))
  | accepted {kind : ContentKind} {changeKind : ChangeKind} {content : SyncContent}
      (validated : Validated platform record kind changeKind)
      (resolved : Resolved uploads later record kind content) :
      SyncOutcome platform uploads later record deviceId deviceName
        (.returned (.ok (acceptedRecord platform record kind changeKind content deviceId
          deviceName)))

theorem syncRecordFromProto_outcome (platform : SyncPlatform) (nowMs : Int)
    (uploads later : UploadView) (record : WireSyncRecord) (deviceId deviceName : String) :
    SyncOutcome platform uploads later record deviceId deviceName
      (syncRecordFromProto platform nowMs uploads later record deviceId deviceName) := by
  rw [syncRecordFromProto]
  cases valid : validateClipboardSyncRecord platform nowMs record with
  | error reason => exact .rejected reason
  | ok =>
      obtain ⟨kind, changeKind, validated⟩ := validated_of_ok valid
      simp only [validated.knownKind, validated.knownChange]
      by_cases none : contentless record kind = true
      · simp only [if_pos none]
        exact .accepted validated (.bare none)
      · simp only [if_neg none]
        simp only [contentless, Bool.or_eq_true, not_or, Bool.not_eq_true,
          decide_eq_true_eq] at none
        rcases resolveContent_of_fits none.1 none.2 (validated.payload none.1) with
          ⟨reason, failed⟩ | ⟨content, resolves, resolved⟩
        · rw [failed]
          exact .rejected reason
        · rw [resolves]
          exact .accepted validated resolved

/-! ### Identity -/

/-- The fields of a record that hold content. -/
def contentOf (record : SyncRecord) : SyncContent :=
  ⟨record.text, record.html, record.rtf, record.imagePng⟩

/-- The content fields that a record of some kind has, and no others. -/
def HasContentOf (payload : Option Payload) (content : SyncContent) : ContentKind → Prop
  | .text => content.text.isSome ∧ content.html = none ∧ content.rtf = none ∧
      content.imagePng = none
  | .html => content.text.isSome ∧ content.html.isSome ∧ content.imagePng = none ∧
      (content.rtf.isSome ↔ ∃ plainText html rtf, payload = some (.richText plainText html (some rtf)))
  | .image => content.text = none ∧ content.html = none ∧ content.rtf = none ∧
      content.imagePng.isSome
  | .files => content = {}

/-- The record without what the client claims: devices, their names, the syntax of the text and
the id of its content. -/
def WireSyncRecord.unclaimed (record : WireSyncRecord) : WireSyncRecord :=
  { record with
    syncId := ""
    sourceDeviceId := ""
    sourceDeviceName := ""
    updatedByDeviceId := ""
    favoriteUpdatedByDeviceId := ""
    textSyntaxJson := "" }

theorem UploadView.fetchRtf_isSome {reference : Option BlobRef} {rtf : Option String}
    (fetched : uploads.fetchRtf reference = .ok rtf) :
    rtf.isSome = reference.isSome := by
  cases reference with
  | none =>
      cases fetched
      rfl
  | some reference =>
      rw [UploadView.fetchRtf] at fetched
      generalize uploads.fetchText reference "text/rtf" "clipboard RTF upload is unavailable"
        "clipboard RTF upload is not UTF-8" = result at fetched
      cases result with
      | error => cases fetched
      | ok =>
          cases fetched
          rfl

theorem Resolved.hasContentOf {later : UploadView} {content : SyncContent}
    (resolved : Resolved uploads later record kind content)
    (some : ¬(record.deleted = true ∨ kind = .files)) :
    HasContentOf record.payload content kind := by
  cases resolved with
  | bare none =>
      simp only [contentless, Bool.or_eq_true, decide_eq_true_eq] at none
      exact absurd none some
  | text => exact ⟨rfl, rfl, rfl, rfl⟩
  | html _ payload _ rtfFetched =>
      refine ⟨rfl, rfl, rfl, ?_⟩
      rw [payload, UploadView.fetchRtf_isSome rtfFetched, Option.isSome_iff_exists]
      simp
  | image => exact ⟨rfl, rfl, rfl, rfl⟩

/-- Two records that agree but for claims, and for the id where the content gives it, are accepted
as the same record. -/
theorem acceptedRecord_congr (platform : SyncPlatform) {first second : WireSyncRecord}
    (kind : ContentKind) (same : first.unclaimed = second.unclaimed)
    (id : contentless first kind = true → first.syncId = second.syncId) (changeKind : ChangeKind)
    (content : SyncContent) (deviceId deviceName : String) :
    acceptedRecord platform first kind changeKind content deviceId deviceName =
      acceptedRecord platform second kind changeKind content deviceId deviceName := by
  simp only [WireSyncRecord.unclaimed, WireSyncRecord.mk.injEq, true_and] at same
  obtain ⟨-, width, height, preview, sourceApp, captured, revision, favorite, favoriteRevision, -, -,
    deleted, -, live, -⟩ := same
  have empty : contentless first kind = contentless second kind := by
    rw [contentless, contentless, deleted]
  have ids : (if contentless first kind then first.syncId
      else clipboardSyncId platform kind content) =
        if contentless second kind then second.syncId
        else clipboardSyncId platform kind content := by
    rw [← empty]
    split
    next none => exact id none
    next => rfl
  simp only [acceptedRecord, ids, width, height, preview, sourceApp, captured, revision, favorite,
    favoriteRevision, deleted, live]

/-- Whatever the record, the upload store and the device: the decoder does not panic.  A record it
accepts carries the identity of the connection and no labels, has content exactly in the fields of
its kind, and is addressed by that content.  And two valid records that differ only in what they
claim, and in the id where it is computed, are accepted as the same record. -/
theorem sync_ingestion_trusts_connection (platform : SyncPlatform) (uploads later : UploadView)
    (deviceId deviceName : String) :
    (∀ nowMs record, ∃ result,
      syncRecordFromProto platform nowMs uploads later record deviceId deviceName =
        .returned result) ∧
    (∀ nowMs record accepted,
      syncRecordFromProto platform nowMs uploads later record deviceId deviceName =
        .returned (.ok accepted) →
      accepted.sourceDeviceId = deviceId ∧ accepted.updatedByDeviceId = deviceId ∧
      accepted.favoriteUpdatedByDeviceId = deviceId ∧ accepted.sourceDeviceName = deviceName ∧
      accepted.labels = [] ∧ accepted.labelMemberships = [] ∧
      platform.contentKind record.kind = some accepted.kind ∧
      (record.deleted = true ∨ accepted.kind = .files → contentOf accepted = {}) ∧
      (¬(record.deleted = true ∨ accepted.kind = .files) →
        HasContentOf record.payload (contentOf accepted) accepted.kind ∧
        accepted.syncId = clipboardSyncId platform accepted.kind (contentOf accepted))) ∧
    ∀ firstMs secondMs first second,
      validateClipboardSyncRecord platform firstMs first = .ok () →
      validateClipboardSyncRecord platform secondMs second = .ok () →
      first.unclaimed = second.unclaimed →
      (first.deleted = true ∨ platform.contentKind first.kind = some .files →
        first.syncId = second.syncId) →
      syncRecordFromProto platform firstMs uploads later first deviceId deviceName =
        syncRecordFromProto platform secondMs uploads later second deviceId deviceName := by
  refine ⟨fun nowMs record => ?_, fun nowMs record accepted returned => ?_,
    fun firstMs secondMs first second firstValid secondValid same id => ?_⟩
  · have outcome := syncRecordFromProto_outcome platform nowMs uploads later record deviceId
      deviceName
    generalize syncRecordFromProto platform nowMs uploads later record deviceId deviceName = result
      at outcome ⊢
    cases outcome with
    | rejected => exact ⟨_, rfl⟩
    | accepted => exact ⟨_, rfl⟩
  · have outcome := syncRecordFromProto_outcome platform nowMs uploads later record deviceId
      deviceName
    rw [returned] at outcome
    cases outcome with
    | @accepted _ _ _ validated resolved =>
        refine ⟨rfl, rfl, rfl, rfl, rfl, rfl, validated.knownKind, fun empty => ?_, fun filled => ?_⟩
        · cases resolved with
          | bare => rfl
          | text live => simp [acceptedRecord, live] at empty
          | html live => simp [acceptedRecord, live] at empty
          | image live => simp [acceptedRecord, live] at empty
        · refine ⟨resolved.hasContentOf filled, if_neg ?_⟩
          simpa [contentless, acceptedRecord] using filled
  · obtain ⟨kind, changeKind, validated⟩ := validated_of_ok firstValid
    have equal := fun changeKind content => acceptedRecord_congr platform kind same (fun none => by
      simp only [contentless, Bool.or_eq_true, decide_eq_true_eq] at none
      exact id (none.imp_right fun files => by rw [validated.knownKind, files])) changeKind content
        deviceId deviceName
    simp only [WireSyncRecord.unclaimed, WireSyncRecord.mk.injEq, true_and] at same
    obtain ⟨kinds, -, -, -, -, -, -, -, -, -, -, deletions, changes, -, payloads⟩ := same
    have empty : contentless first kind = contentless second kind := by
      rw [contentless, contentless, deletions]
    simp only [syncRecordFromProto, firstValid, secondValid, ← kinds, ← changes, ← payloads,
      ← empty, validated.knownKind, validated.knownChange, equal]

end ArcRelay.ClipboardSync
