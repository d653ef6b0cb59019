/-
Module: ArcRelay.Proofs.SyncPayloadSizes
Purpose: The content of an accepted record has the sizes its references declare exactly if they
  declare the sizes of the uploads, which nobody compares.
Trusted boundary: none
-/
import ArcRelay.Proofs.BlobTransfer
import ArcRelay.Proofs.ReplicaReception
import ArcRelay.Proofs.SyncIngestion

namespace ArcRelay.ClipboardSync

open ClipboardReplication ClipboardUploadStore

/-!
A reference carries a size, and so does the first message of an upload.  The upload stream holds
the second to what it receives; the validator holds the first to a limit; the decoder looks up the
upload by id, digest and media type alone.  So what ties a reference to its upload is that the two
sizes happen to agree.
-/

/-! ### The store at a moment -/

/-- An insertion that an upload stream makes. -/
def ThroughUpload (_ : UploadState) : UploadEvent → Prop
  | .insert call _ => ∃ (opened : ClipboardBlobUploadOpen) (chunks : List ClipboardBlobUploadChunk),
      opened.accepted = true ∧
      uploadPassed opened.uploadId opened.size chunks = some call.bytes ∧
      call.uploadId = opened.uploadId ∧ call.expectedSha256 = opened.sha256 ∧
      call.mediaType = opened.mediaType
  | .get .. => True

/-- It leaves the store as the handler of the stream does. -/
theorem ThroughUpload.handled {state : UploadState} {call : UploadInsert}
    {answer : Except String Unit} (through : ThroughUpload state (.insert call answer))
    (sha256 : Bytes → Bytes) (maxBlobChunkSize : Nat) :
    ∃ opened chunks, (handleClipboardBlobUpload sha256 maxBlobChunkSize state.store opened chunks
      call.pruneAt call.storedAt).uploads = (call.run sha256 state.store).2 := by
  obtain ⟨opened, chunks, accepted, passed, id, digest, media⟩ := through
  refine ⟨opened, chunks, ?_⟩
  rw [handleClipboardBlobUpload_uploads, accepted, passed, UploadInsert.run, id, digest, media]

/-- A store filled by upload streams, at the time of a lookup. -/
structure UploadMoment (sha256 : Bytes → Bytes) where
  events : List UploadEvent
  state : UploadState
  now : Instant
  run : RunsWhere (uploadSystem sha256) ThroughUpload events state
  order : state.clock ≤ now

def UploadMoment.view {sha256 : Bytes → Bytes} (moment : UploadMoment sha256) : UploadView :=
  ⟨moment.state.store, moment.now⟩

/-- Every event of a run met the condition. -/
theorem RunsWhere.condition_of_mem {State Event : Type} {system : TransitionSystem State Event}
    {condition : State → Event → Prop} {events : List Event} {state : State}
    (run : RunsWhere system condition events state) {event : Event} (member : event ∈ events) :
    ∃ before, condition before event := by
  induction run with
  | start => cases member
  | step _ meets _ ih =>
      rcases List.mem_append.mp member with old | new
      · exact ih old
      · rw [List.mem_singleton.mp new]
        exact ⟨_, meets⟩

namespace UploadMoment

variable {sha256 : Bytes → Bytes} (moment : UploadMoment sha256)

/-- The upload that a lookup would find was opened with the size the reference declares. -/
def Sized (reference : BlobRef) (mediaType : String) : Prop :=
  ∀ call, LatestInsert moment.events (reference.blobId, mediaType) call →
    call.bytes.length = reference.size

variable {moment}
variable {reference : BlobRef} {mediaType : String}

/-- A lookup finds the bytes of the latest upload. -/
theorem latest_of_fetch {bytes : Bytes}
    (fetched : moment.view.fetch reference mediaType = some bytes) :
    ∃ call, LatestInsert moment.events (reference.blobId, mediaType) call ∧ call.bytes = bytes := by
  obtain ⟨upload, found, -, -, rfl⟩ := get_eq_some.mp fetched
  have ordered := uploadsInOrder_of_runs (moment.run.weaken fun _ _ _ => trivial)
  obtain ⟨call, latest, rfl⟩ := ordered.filed.held _ _ found
  exact ⟨call, latest, rfl⟩

theorem length_fetched_iff {bytes : Bytes}
    (fetched : moment.view.fetch reference mediaType = some bytes) :
    bytes.length = reference.size ↔ moment.Sized reference mediaType := by
  obtain ⟨call, latest, rfl⟩ := latest_of_fetch fetched
  constructor
  · intro size other otherLatest
    rw [otherLatest.unique latest]
    exact size
  · exact fun sized => sized call latest

/-- What is found is as large as an upload can be. -/
theorem length_fetched {bytes : Bytes}
    (fetched : moment.view.fetch reference mediaType = some bytes) :
    bytes ≠ [] ∧ bytes.length ≤ 20 * 1024 * 1024 := by
  obtain ⟨call, ⟨before, after, split, -, -⟩, rfl⟩ := latest_of_fetch fetched
  have member : UploadEvent.insert call (.ok ()) ∈ moment.events := by
    rw [split]
    exact List.mem_append_right _ (.head _)
  obtain ⟨-, opened, chunks, accepted, passed, -⟩ := RunsWhere.condition_of_mem moment.run member
  obtain ⟨-, -, -, -, -, size⟩ := uploadPassed_iff.mp passed
  simp only [ClipboardBlobUploadOpen.accepted, Bool.not_eq_true', Bool.or_eq_false_iff] at accepted
  constructor
  · rw [← List.length_pos_iff, size]
    exact Nat.pos_of_ne_zero (of_decide_eq_false accepted.1.1.2)
  · rw [size]
    exact Nat.not_lt.mp (of_decide_eq_false accepted.1.2)

/-- A text that is found has the bytes of its upload. -/
theorem fetch_of_fetchText {view : UploadView} {unavailable notUtf8 text : String}
    (fetched : view.fetchText reference mediaType unavailable notUtf8 = .ok text) :
    view.fetch reference mediaType = some (utf8 text) := by
  rw [UploadView.fetchText] at fetched
  cases found : view.fetch reference mediaType with
  | none =>
      rw [found] at fetched
      cases fetched
  | some bytes =>
      simp only [found] at fetched
      cases decoded : fromUtf8 bytes with
      | none =>
          rw [decoded] at fetched
          cases fetched
      | some =>
          rw [decoded] at fetched
          cases fetched
          rw [utf8_of_fromUtf8 decoded]

theorem fetch_of_fetchRtf {view : UploadView} {rtf : Option String}
    (fetched : view.fetchRtf (some reference) = .ok rtf) :
    ∃ text, rtf = some text ∧ view.fetch reference "text/rtf" = some (utf8 text) := by
  rw [UploadView.fetchRtf] at fetched
  cases found : view.fetchText reference "text/rtf" "clipboard RTF upload is unavailable"
      "clipboard RTF upload is not UTF-8" with
  | error =>
      rw [found] at fetched
      cases fetched
  | ok text =>
      rw [found] at fetched
      cases fetched
      exact ⟨text, rfl, fetch_of_fetchText found⟩

end UploadMoment

/-! ### Sizes -/

/-- The contents of a record have the sizes its references declare. -/
def DeclaredSizes (payload : Option Payload) (accepted : SyncRecord) : Prop :=
  match payload with
  | some (.richText _ (some html) rtf) =>
      accepted.html.map (fun text => (utf8 text).length) = some html.size ∧
        accepted.rtf.map (fun text => (utf8 text).length) = rtf.map (·.size)
  | some (.image image) => accepted.imagePng.map List.length = some image.size
  | _ => True

/-- The references declare the sizes of the uploads they will be resolved from. -/
def UploadedSizes {sha256 : Bytes → Bytes} (uploads later : UploadMoment sha256)
    (payload : Option Payload) : Prop :=
  match payload with
  | some (.richText _ (some html) rtf) =>
      uploads.Sized html "text/html; charset=utf-8" ∧
        ∀ reference, rtf = some reference → later.Sized reference "text/rtf"
  | some (.image image) => uploads.Sized image "image/png"
  | _ => True

/-- No content of a record is larger than `richMaximum` and `imageMaximum`. -/
structure SizesWithin (richMaximum imageMaximum : Nat) (accepted : SyncRecord) : Prop where
  html : ∀ html, accepted.html = some html → (utf8 html).length ≤ richMaximum
  rtf : ∀ rtf, accepted.rtf = some rtf → (utf8 rtf).length ≤ richMaximum
  image : ∀ image, accepted.imagePng = some image → image.length ≤ imageMaximum

section Accepted

variable {platform : SyncPlatform} {uploads later : UploadMoment platform.sha256}
  {record : WireSyncRecord} {kind : ContentKind} {changeKind : ChangeKind} {content : SyncContent}
  {deviceId deviceName : String}

theorem Resolved.sizes_iff (validated : Validated platform record kind changeKind)
    (resolved : Resolved uploads.view later.view record kind content) :
    DeclaredSizes record.payload
        (acceptedRecord platform record kind changeKind content deviceId deviceName) ↔
      UploadedSizes uploads later record.payload := by
  cases resolved with
  | bare none =>
      have missing : record.payload = Option.none := by
        by_cases deleted : record.deleted = true
        · exact validated.gone deleted
        · obtain rfl : kind = .files := by
            simpa [contentless, deleted] using none
          have fits := validated.payload (Bool.not_eq_true _ ▸ deleted)
          generalize record.payload = payload at fits
          cases fits
          rfl
      rw [missing]
      exact Iff.rfl
  | text _ payload =>
      rw [payload]
      exact Iff.rfl
  | @html _ _ _ _ rtfRef _ payload htmlFetched rtfFetched =>
      rw [payload]
      have htmlSize := UploadMoment.length_fetched_iff (UploadMoment.fetch_of_fetchText htmlFetched)
      refine and_congr (Option.some_inj.trans htmlSize) ?_
      cases rtfRef with
      | none =>
          cases rtfFetched
          simp [acceptedRecord]
      | some =>
          obtain ⟨text, rfl, found⟩ := UploadMoment.fetch_of_fetchRtf rtfFetched
          have rtfSize := UploadMoment.length_fetched_iff found
          simpa [acceptedRecord] using rtfSize
  | image _ payload fetched =>
      rw [payload]
      exact Option.some_inj.trans (UploadMoment.length_fetched_iff fetched)

/-- Without anything to resolve nothing is too large. -/
theorem SizesWithin.of_empty {richMaximum imageMaximum : Nat} {accepted : SyncRecord}
    (html : accepted.html = none) (rtf : accepted.rtf = none) (image : accepted.imagePng = none) :
    SizesWithin richMaximum imageMaximum accepted where
  html := fun _ found => absurd (html.symm.trans found) nofun
  rtf := fun _ found => absurd (rtf.symm.trans found) nofun
  image := fun _ found => absurd (image.symm.trans found) nofun

theorem Resolved.sizesWithin (resolved : Resolved uploads.view later.view record kind content) :
    SizesWithin (20 * 1024 * 1024) (20 * 1024 * 1024)
      (acceptedRecord platform record kind changeKind content deviceId deviceName) := by
  cases resolved with
  | bare => exact .of_empty rfl rfl rfl
  | text => exact .of_empty rfl rfl rfl
  | @html _ _ _ _ rtfRef _ _ htmlFetched rtfFetched =>
      constructor
      · intro text found
        cases found
        exact (UploadMoment.length_fetched (UploadMoment.fetch_of_fetchText htmlFetched)).2
      · intro text found
        cases found
        cases rtfRef with
        | none => cases rtfFetched
        | some =>
            obtain ⟨text, equal, fetched⟩ := UploadMoment.fetch_of_fetchRtf rtfFetched
            cases equal
            exact (UploadMoment.length_fetched fetched).2
      · intro image found
        cases found
  | image _ _ fetched =>
      constructor
      · intro text found
        cases found
      · intro text found
        cases found
      · intro image found
        cases found
        exact (UploadMoment.length_fetched fetched).2

/-- Sizes that are as declared are within the limits on declarations. -/
theorem DeclaredSizes.sizesWithin (validated : Validated platform record kind changeKind)
    (resolved : Resolved uploads.view later.view record kind content)
    (declared : DeclaredSizes record.payload
      (acceptedRecord platform record kind changeKind content deviceId deviceName)) :
    SizesWithin (16 * 1024 * 1024) (20 * 1024 * 1024)
      (acceptedRecord platform record kind changeKind content deviceId deviceName) := by
  have limit : ∀ {reference : BlobRef} {mediaType : String} {maximum : Nat},
      validClipboardBlobRef (some reference) mediaType maximum = true →
        reference.size ≤ maximum := by
    intro reference mediaType maximum valid
    simp only [validClipboardBlobRef, Option.any_some, Bool.and_eq_true, decide_eq_true_eq] at valid
    exact valid.1.2
  cases resolved with
  | bare => exact .of_empty rfl rfl rfl
  | text => exact .of_empty rfl rfl rfl
  | @html _ html _ _ rtfRef live payload =>
      have fits := validated.payload live
      rw [payload] at fits declared
      cases fits with
      | html htmlValid rtfValid =>
          obtain ⟨htmlSize, rtfSize⟩ := declared
          constructor
          · intro text found
            cases found
            exact (Option.some_inj.mp htmlSize).le.trans (limit htmlValid)
          · intro text found
            cases found
            cases rtfRef with
            | none => cases rtfSize
            | some reference =>
                exact (Option.some_inj.mp rtfSize).le.trans (limit (rtfValid reference rfl))
          · intro image found
            cases found
  | image live payload =>
      have fits := validated.payload live
      rw [payload] at fits declared
      cases fits with
      | image valid =>
          constructor
          · intro text found
            cases found
          · intro text found
            cases found
          · intro image found
            cases found
            exact (Option.some_inj.mp declared).le.trans (limit valid)

end Accepted

/-- For every store filled by upload streams and every record that is accepted: its contents have
the declared sizes, which then respect the limits on them, exactly if its references declare the
sizes of the uploads.  In any case nothing is larger than an upload can be. -/
theorem declared_sizes_iff_uploaded_sizes {platform : SyncPlatform}
    (uploads later : UploadMoment platform.sha256) {nowMs : Int} {record : WireSyncRecord}
    {deviceId deviceName : String} {accepted : SyncRecord}
    (returned : syncRecordFromProto platform nowMs uploads.view later.view record deviceId
      deviceName = .returned (.ok accepted)) :
    (DeclaredSizes record.payload accepted ∧
        SizesWithin (16 * 1024 * 1024) (20 * 1024 * 1024) accepted ↔
      UploadedSizes uploads later record.payload) ∧
    SizesWithin (20 * 1024 * 1024) (20 * 1024 * 1024) accepted := by
  have outcome := syncRecordFromProto_outcome platform nowMs uploads.view later.view record deviceId
    deviceName
  rw [returned] at outcome
  cases outcome with
  | accepted validated resolved =>
      refine ⟨⟨fun sizes => (resolved.sizes_iff validated).mp sizes.1, fun sizes => ?_⟩,
        resolved.sizesWithin⟩
      refine ⟨(resolved.sizes_iff validated).mpr sizes, ?_⟩
      exact DeclaredSizes.sizesWithin validated resolved ((resolved.sizes_iff validated).mpr sizes)

/-! ### A reference that declares too little -/

/-- A platform small enough to compute with: a digest is the beginning of what it digests. -/
def shortPlatform : SyncPlatform where
  contentKind := fun number => if number = 2 then some .html else none
  changeKind := fun number => if number = 1 then some .copy else none
  detectTextSyntax := fun _ => .plain
  xxh3 := List.length
  sha256 := fun bytes => (bytes ++ List.replicate 32 0).take 32

/-- An upload of HTML in one chunk. -/
def htmlOpen (content : Bytes) : ClipboardBlobUploadOpen where
  uploadId := shortPlatform.sha256 content
  size := content.length
  mediaType := "text/html; charset=utf-8"
  sha256 := shortPlatform.sha256 content

def htmlCall (content : Bytes) : UploadInsert where
  uploadId := (htmlOpen content).uploadId
  bytes := content
  expectedSha256 := (htmlOpen content).sha256
  mediaType := (htmlOpen content).mediaType
  pruneAt := 0
  storedAt := 0

theorem htmlCall_throughUpload {content : Bytes} (state : UploadState)
    (answer : Except String Unit) (accepted : (htmlOpen content).accepted = true)
    (passed : uploadPassed (htmlOpen content).uploadId content.length
      [⟨(htmlOpen content).uploadId, 0, content, true⟩] = some content) :
    ThroughUpload state (.insert (htmlCall content) answer) :=
  ⟨htmlOpen content, _, accepted, passed, rfl, rfl, rfl⟩

/-- A record with that HTML, referred to with a size of its own. -/
def htmlRecord (plainText : String) (content : Bytes) (size : Nat) : WireSyncRecord where
  syncId := String.ofList (List.replicate 64 'a')
  kind := 2
  width := none
  height := none
  preview := ""
  sourceApp := none
  sourceDeviceId := ""
  sourceDeviceName := ""
  capturedAtMs := 1
  revision := 1
  updatedByDeviceId := ""
  favorite := false
  favoriteRevision := 1
  favoriteUpdatedByDeviceId := ""
  labels := []
  labelMemberships := []
  deleted := false
  changeKind := 1
  live := true
  textSyntaxJson := ""
  payload := some (.richText plainText (some ⟨shortPlatform.sha256 content, size,
    "text/html; charset=utf-8", shortPlatform.sha256 content⟩) none)

def shortContent : Bytes := [104, 105]

def shortMoment : UploadMoment shortPlatform.sha256 where
  events := [.insert (htmlCall shortContent) (.ok ())]
  state := ⟨((htmlCall shortContent).run shortPlatform.sha256 {}).2, 0⟩
  now := 0
  run := .step .start (htmlCall_throughUpload _ _ (by decide) (by decide)) (by rfl)
  order := le_rfl

def shortRecord (size : Nat) : WireSyncRecord := htmlRecord "" shortContent size

/-- What is taken in for it. -/
def shortAccepted (size : Nat) : SyncRecord :=
  acceptedRecord shortPlatform (shortRecord size) .html .copy
    { text := some "", html := some "hi" } "pad" "Pad"

theorem shortRecord_accepted {size : Nat} (small : size = 1 ∨ size = 2) :
    syncRecordFromProto shortPlatform 0 shortMoment.view shortMoment.view (shortRecord size) "pad"
      "Pad" = .returned (.ok (shortAccepted size)) := by
  rcases small with rfl | rfl
  · decide +kernel
  · decide +kernel

/-- The record declares one byte, and two are taken in. -/
theorem undeclared_size_accepted :
    syncRecordFromProto shortPlatform 0 shortMoment.view shortMoment.view (shortRecord 1) "pad"
        "Pad" = .returned (.ok (shortAccepted 1)) ∧
      (shortAccepted 1).html.map (fun text => (utf8 text).length) = some 2 ∧
      ¬DeclaredSizes (shortRecord 1).payload (shortAccepted 1) := by
  refine ⟨shortRecord_accepted (.inl rfl), by decide +kernel, fun declared => ?_⟩
  have one : (shortAccepted 1).html.map (fun text => (utf8 text).length) = some 1 := declared.1
  revert one
  decide +kernel

/-- With two declared bytes the sizes agree. -/
theorem declared_sizes_iff_uploaded_sizes_short :
    DeclaredSizes (shortRecord 2).payload (shortAccepted 2) := by
  have sizes := declared_sizes_iff_uploaded_sizes shortMoment shortMoment
    (shortRecord_accepted (.inr rfl))
  refine (sizes.1.mpr ⟨fun call latest => ?_, fun _ none => nomatch none⟩).1
  have own : LatestInsert shortMoment.events (htmlCall shortContent).key (htmlCall shortContent) :=
    ⟨[], [], rfl, rfl, fun _ none => nomatch none⟩
  rw [latest.unique own]
  rfl

end ArcRelay.ClipboardSync
