/-
Module: ArcRelay.Proofs.ReplicaTransfer
Purpose: A record sent with its payload, however its parts are cut into frames, is received as it
  was, and a record sent as metadata is received without its payload.
Trusted boundary: as for the messages; a SHA-256 digest has 32 bytes
-/
import ArcRelay.Proofs.ReplicaWire

namespace ArcRelay.ClipboardReplication

section Transfer

variable {platform : Platform}

/-! ### Frames -/

/-- A way of cutting a part into frames. -/
structure Cut (platform : Platform) (part : Bytes) (frames : List Bytes) : Prop where
  whole : frames.flatten = part
  nonempty : ∀ frame ∈ frames, frame ≠ []
  bounded : ∀ frame ∈ frames, frame.length ≤ platform.maxBlobChunkSize

theorem readPart_done {size : Nat} {bytes : Bytes} (full : size ≤ bytes.length)
    (frames : List Bytes) : readPart platform size bytes frames = .ok (bytes, frames) := by
  have enough : ¬ bytes.length < size := Nat.not_lt.mpr full
  cases frames with
  | nil => rw [readPart, if_neg enough]
  | cons => rw [readPart, if_neg enough]

variable {frames : List Bytes}

/-- Reading goes through exactly the frames that make up what is missing. -/
theorem readPart_frames {size : Nat} {bytes : Bytes}
    (size_eq : bytes.length + frames.flatten.length = size)
    (nonempty : ∀ frame ∈ frames, frame ≠ [])
    (bounded : ∀ frame ∈ frames, frame.length ≤ platform.maxBlobChunkSize) (rest : List Bytes) :
    readPart platform size bytes (frames ++ rest) = .ok (bytes ++ frames.flatten, rest) := by
  induction frames generalizing bytes with
  | nil =>
      rw [List.nil_append, readPart_done (by simp_all), List.flatten_nil, List.append_nil]
  | cons frame _ ih =>
      rw [List.flatten_cons, List.length_append] at size_eq
      have positive : 0 < frame.length := List.length_pos_iff.mpr (nonempty frame (.head _))
      have short : frame.length ≤ platform.maxBlobChunkSize := bounded frame (.head _)
      have fits : ¬ (frame.isEmpty || decide (frame.length > size - bytes.length)) = true := by
        have some : frame.isEmpty = false := by simpa using nonempty frame (.head _)
        simp only [some, Bool.false_or, decide_eq_true_eq]
        omega
      rw [List.cons_append, readPart, if_pos (by omega), if_neg (by omega), if_neg fits,
        ih (by rw [List.length_append]; omega)
          (fun frame member => nonempty frame (.tail _ member))
          (fun frame member => bounded frame (.tail _ member)),
        List.flatten_cons, List.append_assoc]

theorem Cut.readPart_eq {part : Bytes} (cut : Cut platform part frames) (rest : List Bytes) :
    readPart platform part.length [] (frames ++ rest) = .ok (part, rest) := by
  rw [readPart_frames (by rw [cut.whole]; simp) cut.nonempty cut.bounded, cut.whole,
    List.nil_append]

/-- The cut that `send_parts` makes. -/
theorem cut_chunks (positive : 0 < platform.maxBlobChunkSize) (part : Bytes) :
    Cut platform part (chunks platform.maxBlobChunkSize part) where
  whole := flatten_chunks part positive
  nonempty := fun _ member => ne_nil_of_mem_chunks positive member
  bounded := fun _ member => length_le_of_mem_chunks member

/-! ### Parts -/

/-- A payload part with the media type and the limit it is announced under. -/
structure Load where
  bytes : Bytes
  media : String
  limit : Nat

variable {record : SyncRecord}

theorem receivePart_blobRef (digests : ∀ bytes, (platform.sha256 bytes).length = 32)
    {stored : SyncRecord} {load : Load} (short : load.bytes.length ≤ load.limit)
    (cut : Cut platform load.bytes frames)
    (stores : storePart record load.media load.bytes = .ok stored) (rest : List Bytes) :
    receivePart platform record (blobRef platform (load.bytes, load.media)) load.media load.limit
      (frames ++ rest) = .ok (stored, rest) := by
  have described : ¬ ((blobRef platform (load.bytes, load.media)).mediaType ≠ load.media
      || (blobRef platform (load.bytes, load.media)).size > load.limit
      || (blobRef platform (load.bytes, load.media)).sha256.length ≠ 32
      || (blobRef platform (load.bytes, load.media)).blobId ≠
        (blobRef platform (load.bytes, load.media)).sha256) = true := by
    simp [blobRef, digests, short]
  rw [receivePart, if_neg described]
  change (readPart platform load.bytes.length [] (frames ++ rest) >>= _) = _
  rw [cut.readPart_eq rest]
  simp [bind, Except.bind, blobRef, stores, pure, Except.pure]

/-- Every part is stored in turn. -/
theorem receiveParts_loads (digests : ∀ bytes, (platform.sha256 bytes).length = 32)
    {stored : SyncRecord} {loads : List Load} {cuts : List (List Bytes)}
    (short : ∀ load ∈ loads, load.bytes.length ≤ load.limit)
    (cut : List.Forall₂ (fun load => Cut platform load.bytes) loads cuts)
    (stores : loads.foldlM (fun record load => storePart record load.media load.bytes) record
      = .ok stored) (rest : List Bytes) :
    receiveParts platform record
      (loads.map fun load => (blobRef platform (load.bytes, load.media), load.media, load.limit))
      (cuts.flatten ++ rest) = .ok (stored, rest) := by
  induction cut generalizing record with
  | nil =>
      cases stores
      rfl
  | cons cutHead _ ih =>
      rw [List.foldlM_cons] at stores
      obtain ⟨next, storesHead, storesTail⟩ := except_bind_ok stores
      rw [List.map_cons, receiveParts, List.flatten_cons, List.append_assoc,
        receivePart_blobRef digests (short _ (.head _)) cutHead storesHead]
      exact ih (fun load member => short load (.tail _ member)) storesTail

/-! ### What a record's kind carries -/

/-- The record as it arrives with its payload: the fields of its kind are there, an absent plain
text beside HTML is empty, and the labels and every other payload field are gone. -/
def SyncRecord.carried (record : SyncRecord) : SyncRecord :=
  { record with
    text :=
      if record.deleted then none
      else match record.kind with
        | .text => record.text
        | .html => some (record.text.getD "")
        | .image | .files => none
    html := if record.kind = .html && !record.deleted then record.html else none
    rtf := if record.kind = .html && !record.deleted then record.rtf else none
    imagePng := if record.kind = .image && !record.deleted then record.imagePng else none
    labels := []
    textSyntax := .plain }

/-- What `receive_record` returns for a record sent with its payload. -/
def ReplicaRecord.transferred (platform : Platform) (replica : ReplicaRecord) : ReplicaRecord :=
  { replica with
    record :=
      { replica.record.carried with
        textSyntax := platform.detectTextSyntax (replica.record.carried.text.getD "") } }

theorem payloadPart_ok {value : Option Bytes} {media : String} {limit : Nat}
    {part : Bytes × String} (offered : payloadPart value media limit = .ok part) :
    ∃ bytes, value = some bytes ∧ bytes.length ≤ limit ∧ part = (bytes, media) := by
  cases value with
  | none => cases offered
  | some bytes =>
      rw [payloadPart] at offered
      split at offered
      · cases offered
      next fits =>
        cases offered
        exact ⟨bytes, rfl, Nat.le_of_not_gt fits, rfl⟩

/-- The loads of a record: its parts as they are announced, and what storing them leads to. -/
structure Carries (replica : ReplicaRecord) (parts : List (Bytes × String)) (loads : List Load) :
    Prop where
  parts_eq : parts = loads.map fun load => (load.bytes, load.media)
  expected : expectedParts replica.stripped.record parts.length =
    loads.map fun load => (load.media, load.limit)
  short : ∀ load ∈ loads, load.bytes.length ≤ load.limit
  stores : loads.foldlM (fun record load => storePart record load.media load.bytes)
    replica.stripped.record = .ok replica.record.carried

variable {replica : ReplicaRecord}

theorem carries_deleted (deleted : replica.record.deleted = true) : Carries replica [] [] where
  parts_eq := rfl
  expected := by simp [expectedParts, ReplicaRecord.stripped, deleted]
  short := fun load member => nomatch member
  stores := by simp [ReplicaRecord.stripped, SyncRecord.carried, deleted, pure, Except.pure]

theorem carries_text {text : String} (kept : replica.record.deleted = false)
    (kind : replica.record.kind = .text) (present : replica.record.text = some text)
    (short : (utf8 text).length ≤ textLimit) :
    Carries replica [(utf8 text, "text/plain")] [⟨utf8 text, "text/plain", textLimit⟩] where
  parts_eq := rfl
  expected := by simp [expectedParts, ReplicaRecord.stripped, kept, kind]
  short := by simpa using short
  stores := by
    simp [ReplicaRecord.stripped, SyncRecord.carried, storePart, kept, kind, present, bind,
      Except.bind, pure, Except.pure]

theorem carries_image {image : Bytes} (kept : replica.record.deleted = false)
    (kind : replica.record.kind = .image) (present : replica.record.imagePng = some image)
    (short : image.length ≤ imageLimit) :
    Carries replica [(image, "image/png")] [⟨image, "image/png", imageLimit⟩] where
  parts_eq := rfl
  expected := by simp [expectedParts, ReplicaRecord.stripped, kept, kind]
  short := by simpa using short
  stores := by
    simp [ReplicaRecord.stripped, SyncRecord.carried, storePart, kept, kind, present, bind,
      Except.bind, pure, Except.pure]

theorem carries_html {html : String} (kept : replica.record.deleted = false)
    (kind : replica.record.kind = .html) (present : replica.record.html = some html)
    (noRtf : replica.record.rtf = none)
    (shortText : (utf8 (replica.record.text.getD "")).length ≤ textLimit)
    (shortHtml : (utf8 html).length ≤ richLimit) :
    Carries replica
      [(utf8 (replica.record.text.getD ""), "text/plain"), (utf8 html, "text/html")]
      [⟨utf8 (replica.record.text.getD ""), "text/plain", textLimit⟩,
        ⟨utf8 html, "text/html", richLimit⟩] where
  parts_eq := rfl
  expected := by simp [expectedParts, ReplicaRecord.stripped, kept, kind]
  short := by simpa using ⟨shortText, shortHtml⟩
  stores := by
    simp [ReplicaRecord.stripped, SyncRecord.carried, storePart, kept, kind, present, noRtf, bind,
      Except.bind, pure, Except.pure]

theorem carries_rtf {html rtf : String} (kept : replica.record.deleted = false)
    (kind : replica.record.kind = .html) (present : replica.record.html = some html)
    (alsoRtf : replica.record.rtf = some rtf)
    (shortText : (utf8 (replica.record.text.getD "")).length ≤ textLimit)
    (shortHtml : (utf8 html).length ≤ richLimit) (shortRtf : (utf8 rtf).length ≤ richLimit) :
    Carries replica
      [(utf8 (replica.record.text.getD ""), "text/plain"), (utf8 html, "text/html"),
        (utf8 rtf, "text/rtf")]
      [⟨utf8 (replica.record.text.getD ""), "text/plain", textLimit⟩,
        ⟨utf8 html, "text/html", richLimit⟩, ⟨utf8 rtf, "text/rtf", richLimit⟩] where
  parts_eq := rfl
  expected := by simp [expectedParts, ReplicaRecord.stripped, kept, kind]
  short := by simpa using ⟨shortText, shortHtml, shortRtf⟩
  stores := by
    simp [ReplicaRecord.stripped, SyncRecord.carried, storePart, kept, kind, present, alsoRtf,
      bind, Except.bind, pure, Except.pure]

variable {parts : List (Bytes × String)}

/-- Whatever parts a record is encoded with, they are the loads its receiver expects. -/
theorem payloadParts_carries (encoded : payloadParts replica.record = .ok parts) :
    ∃ loads, Carries replica parts loads := by
  cases deleted : replica.record.deleted with
  | true =>
      rw [payloadParts, if_pos deleted] at encoded
      cases encoded
      exact ⟨[], carries_deleted deleted⟩
  | false =>
      rw [payloadParts, if_neg (by simp [deleted])] at encoded
      cases kind : replica.record.kind with
      | text =>
          rw [kind] at encoded
          obtain ⟨part, offered, encoded⟩ := except_bind_ok encoded
          obtain ⟨bytes, mapped, short, rfl⟩ := payloadPart_ok offered
          obtain ⟨text, present, rfl⟩ := Option.map_eq_some_iff.mp mapped
          cases encoded
          exact ⟨_, carries_text deleted kind present short⟩
      | html =>
          rw [kind] at encoded
          obtain ⟨_, offeredText, encoded⟩ := except_bind_ok encoded
          obtain ⟨_, same, shortText, rfl⟩ := payloadPart_ok offeredText
          cases same
          obtain ⟨_, offeredHtml, encoded⟩ := except_bind_ok encoded
          obtain ⟨_, mapped, shortHtml, rfl⟩ := payloadPart_ok offeredHtml
          obtain ⟨html, present, rfl⟩ := Option.map_eq_some_iff.mp mapped
          cases rtf : replica.record.rtf with
          | none =>
              rw [rtf] at encoded
              cases encoded
              exact ⟨_, carries_html deleted kind present rtf shortText shortHtml⟩
          | some =>
              rw [rtf] at encoded
              obtain ⟨_, offeredRtf, encoded⟩ := except_bind_ok encoded
              obtain ⟨_, same, shortRtf, rfl⟩ := payloadPart_ok offeredRtf
              cases same
              cases encoded
              exact ⟨_, carries_rtf deleted kind present rtf shortText shortHtml shortRtf⟩
      | image =>
          rw [kind] at encoded
          obtain ⟨part, offered, encoded⟩ := except_bind_ok encoded
          obtain ⟨image, present, short, rfl⟩ := payloadPart_ok offered
          cases encoded
          exact ⟨_, carries_image deleted kind present short⟩
      | files =>
          rw [kind] at encoded
          cases encoded

/-! ### The round trip -/

theorem encodeRecord_ok {wire : Proto.ClipboardReplicaRecord} {contents : List Bytes}
    (encoded : encodeRecord platform replica = .ok (wire, contents)) :
    ∃ parts, payloadParts replica.record = .ok parts ∧ contents = parts.map (·.1) ∧
      wire = { metadataToWire replica with
        metadataOnly := false
        parts := parts.map (blobRef platform) } := by
  obtain ⟨parts, offered, encoded⟩ := except_bind_ok encoded
  cases encoded
  exact ⟨parts, offered, rfl, rfl⟩

/-- A text that is sent is there. -/
theorem text_of_payloadParts (encoded : payloadParts record = .ok parts)
    (kept : record.deleted = false) (kind : record.kind = .text) :
    ∃ text, record.text = some text := by
  rw [payloadParts, if_neg (by simp [kept]), kind] at encoded
  obtain ⟨_, offered, -⟩ := except_bind_ok encoded
  obtain ⟨_, mapped, -⟩ := payloadPart_ok offered
  obtain ⟨text, present, -⟩ := Option.map_eq_some_iff.mp mapped
  exact ⟨text, present⟩

/-- The receiver's last check passes. -/
theorem carried_text_nonempty (encoded : payloadParts record = .ok parts)
    (nonempty : record.deleted = true ∨ ¬ (record.kind = .text ∧ record.text = some "")) :
    (record.carried.kind = .text && record.carried.text.all String.isEmpty
      && !record.carried.deleted) = false := by
  cases deleted : record.deleted with
  | true => simp [SyncRecord.carried, deleted]
  | false =>
      by_cases kind : record.kind = .text
      · obtain ⟨text, present⟩ := text_of_payloadParts encoded deleted kind
        have some : text ≠ "" := by simpa [deleted, kind, present] using nonempty
        simp [SyncRecord.carried, deleted, kind, present, some]
      · simp [SyncRecord.carried, kind]

theorem receiveRecord_transferred (digests : ∀ bytes, (platform.sha256 bytes).length = 32)
    {now later : Int} {wire : Proto.ClipboardReplicaRecord} {contents : List Bytes}
    {cuts : List (List Bytes)} (encoded : encodeRecord platform replica = .ok (wire, contents))
    (accepted : (metadataFromWire now later wire).isOk)
    (nonempty : replica.record.deleted = true ∨
      ¬ (replica.record.kind = .text ∧ replica.record.text = some ""))
    (cut : List.Forall₂ (Cut platform) contents cuts) (rest : List Bytes) :
    receiveRecord platform now later wire (cuts.flatten ++ rest) =
      .ok (replica.transferred platform, rest) := by
  obtain ⟨parts, offered, rfl, rfl⟩ := encodeRecord_ok encoded
  obtain ⟨loads, carries⟩ := payloadParts_carries offered
  have metadata : metadataFromWire now later { metadataToWire replica with
      metadataOnly := false
      parts := parts.map (blobRef platform) } = .ok replica.stripped := by
    cases received : metadataFromWire now later { metadataToWire replica with
      metadataOnly := false
      parts := parts.map (blobRef platform) } with
    | error => simp [received, Except.isOk, Except.toBool] at accepted
    | ok received => rw [metadataFromWire_metadataToWire received]
  have expected : expectedParts replica.stripped.record (parts.map (blobRef platform)).length =
      loads.map fun load => (load.media, load.limit) := by
    rw [List.length_map, carries.expected]
  have zipped : (parts.map (blobRef platform)).zip (loads.map fun load => (load.media, load.limit)) =
      loads.map fun load => (blobRef platform (load.bytes, load.media), load.media, load.limit) := by
    rw [carries.parts_eq, List.map_map, List.zip_map']
    rfl
  have received := receiveParts_loads digests carries.short
    (by rwa [carries.parts_eq, List.map_map, List.forall₂_map_left_iff] at cut) carries.stores rest
  rw [receiveRecord, metadata]
  dsimp only [bind, Except.bind]
  rw [if_neg Bool.false_ne_true, expected, zipped, received,
    if_neg (by rw [List.length_map, List.length_map, carries.parts_eq, List.length_map]; simp)]
  dsimp only
  rw [if_neg (by rw [carried_text_nonempty offered nonempty]; simp)]
  rfl

theorem receiveRecord_metadataOnly {now later : Int} (notLive : replica.record.live = false)
    (accepted : (metadataFromWire now later (metadataToWire replica)).isOk) (frames : List Bytes) :
    receiveRecord platform now later (metadataToWire replica) frames =
      .ok (replica.stripped, frames) := by
  cases received : metadataFromWire now later (metadataToWire replica) with
  | error => simp [received, Except.isOk, Except.toBool] at accepted
  | ok =>
      have stripped := metadataFromWire_metadataToWire received
      subst stripped
      have fine : (!(metadataToWire replica).parts.isEmpty || replica.stripped.record.live) = false := by
        simp [metadataToWire, ReplicaRecord.stripped, notLive]
      rw [receiveRecord, received]
      dsimp only [bind, Except.bind]
      rw [if_pos (by rfl), if_neg (by rw [fine]; simp)]
      rfl

end Transfer

/-- A record that can be encoded, and whose metadata is accepted, arrives with its payload whatever
the cut of its parts into frames, that of `send_parts` among them, and nothing beyond those frames
is read. A record that is not live arrives by its metadata alone without payload and labels, and
with the default text syntax. -/
theorem replica_transfer_round_trip (platform : Platform)
    (digests : ∀ bytes, (platform.sha256 bytes).length = 32)
    (chunked : 0 < platform.maxBlobChunkSize) (now later : Int) :
    (∀ replica wire parts, encodeRecord platform replica = .ok (wire, parts) →
      (metadataFromWire now later wire).isOk →
      (replica.record.deleted = true ∨
        ¬ (replica.record.kind = .text ∧ replica.record.text = some "")) →
      (∀ cuts, List.Forall₂ (Cut platform) parts cuts → ∀ rest,
        receiveRecord platform now later wire (cuts.flatten ++ rest) =
          .ok (replica.transferred platform, rest)) ∧
      ∀ rest, receiveRecord platform now later wire (sendParts platform parts ++ rest) =
        .ok (replica.transferred platform, rest)) ∧
    ∀ replica, replica.record.live = false →
      (metadataFromWire now later (metadataToWire replica)).isOk →
      ∀ frames, receiveRecord platform now later (metadataToWire replica) frames =
        .ok (replica.stripped, frames) := by
  refine ⟨fun replica wire parts encoded accepted nonempty => ⟨fun cuts cut rest => ?_,
    fun rest => ?_⟩, fun replica notLive accepted frames => ?_⟩
  · exact receiveRecord_transferred digests encoded accepted nonempty cut rest
  · have cut : List.Forall₂ (Cut platform) parts (parts.map (chunks platform.maxBlobChunkSize)) :=
      List.forall₂_map_right_iff.mpr (List.forall₂_same.mpr fun part _ => cut_chunks chunked part)
    rw [sendParts, List.flatMap_def]
    exact receiveRecord_transferred digests encoded accepted nonempty cut rest
  · exact receiveRecord_metadataOnly notLive accepted frames

/-- A note in JSON, copied once. -/
def jsonNote : ReplicaRecord where
  record :=
    { syncId := "0000000000000000000000000000000000000000000000000000000000000001"
      kind := .text
      text := some "[1]"
      html := none
      rtf := none
      imagePng := none
      width := none
      height := none
      preview := "[1]"
      sourceApp := none
      sourceDeviceId := "desk"
      sourceDeviceName := "Desk"
      capturedAtMs := 10
      revision := 1
      updatedByDeviceId := "desk"
      favorite := false
      favoriteRevision := 1
      favoriteUpdatedByDeviceId := "desk"
      labels := []
      labelMemberships := []
      deleted := false
      changeKind := .copy
      live := false
      textSyntax := .other 1 }
  firstCapturedAtMs := 10
  copyCount := 1
  lastUsedAtMs := none

/-- A platform with frames of two bytes. -/
def plainPlatform : Platform where
  sha256 := fun _ => List.replicate 32 0
  detectTextSyntax := fun text => if text = "[1]" then .other 1 else .plain
  streamEnded := "stream ended"
  frameTooLarge := "frame too large"
  encodedLen := fun _ => 0
  maxBlobChunkSize := 2
  maxControlFrameSize := 0
  collectionToJson := fun _ => ""
  collectionFromJson := fun _ => none
  validateCollection := fun _ => .ok ()
  maxCollectionBytes := 0

/-- The note arrives in two frames, with its syntax found again. -/
theorem replica_transfer_round_trip_note :
    ∃ wire parts, encodeRecord plainPlatform jsonNote = .ok (wire, parts) ∧
      sendParts plainPlatform parts = [[91, 49], [93]] ∧
      receiveRecord plainPlatform 20 20 wire (sendParts plainPlatform parts ++ [[7]]) =
        .ok (jsonNote.transferred plainPlatform, [[7]]) ∧
      jsonNote.transferred plainPlatform = jsonNote := by
  refine ⟨_, _, rfl, by decide +kernel, ?_, by decide +kernel⟩
  refine ((replica_transfer_round_trip plainPlatform (fun _ => rfl) (by decide) 20 20).1 _ _ _ rfl
    ?_ ?_).2 [[7]]
  · decide +kernel
  · decide

/-- By its metadata alone the note arrives with another text syntax than it was sent with. -/
theorem metadata_resets_text_syntax :
    jsonNote.record.live = false ∧
    (metadataFromWire 20 20 (metadataToWire jsonNote)).isOk ∧
    receiveRecord plainPlatform 20 20 (metadataToWire jsonNote) [] ≠
      .ok ({ jsonNote with record := { jsonNote.record with
        text := none, html := none, rtf := none, imagePng := none, labels := [] } }, []) := by
  refine ⟨rfl, by decide +kernel, by decide +kernel⟩

end ArcRelay.ClipboardReplication
