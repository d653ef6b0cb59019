/-
Module: ArcRelay.ClipboardReplication.Wire
Purpose: How clipboard records and labels cross the connection: the wire messages, the checks on
  what is received, and the payload parts in frames.
Trusted boundary: protobuf encoding; SHA-256, the detection of a text's syntax and the limits of
  the wire crate are parameters
-/
import ArcRelay.ClipboardReplication.Records

namespace ArcRelay.ClipboardReplication

/-! ### Messages -/

namespace Proto

structure ClipboardLabel where
  id : String
  name : String
  color : String
  revision : Nat
  updatedByDeviceId : String
  deleted : Bool
deriving Repr, DecidableEq

structure ClipboardLabelMembership where
  labelId : String
  attached : Bool
  revision : Nat
  updatedByDeviceId : String
deriving Repr, DecidableEq

structure ClipboardSyncRecord where
  syncId : String
  kind : Int
  width : Option Nat
  height : Option Nat
  preview : String
  sourceApp : Option String
  sourceDeviceId : String
  sourceDeviceName : String
  capturedAtMs : Int
  revision : Nat
  updatedByDeviceId : String
  favorite : Bool
  favoriteRevision : Nat
  favoriteUpdatedByDeviceId : String
  labels : List ClipboardLabel
  labelMemberships : List ClipboardLabelMembership
  deleted : Bool
  changeKind : Int
  live : Bool
  textSyntaxJson : String
  payload : Option Bytes
deriving Repr, DecidableEq

structure BlobRef where
  blobId : Bytes
  size : Nat
  sha256 : Bytes
  mediaType : String
deriving Repr, DecidableEq

structure ClipboardReplicaRecord where
  metadata : Option ClipboardSyncRecord
  firstCapturedAtMs : Int
  copyCount : Nat
  lastUsedAtMs : Option Int
  parts : List BlobRef
  metadataOnly : Bool
deriving Repr, DecidableEq

end Proto

/-- What replication takes from other crates. -/
structure Platform where
  sha256 : Bytes → Bytes
  detectTextSyntax : String → TextSyntax
  /-- What reading past the last frame of a stream reports. -/
  streamEnded : String
  /-- What reading a frame beyond the limit given reports. -/
  frameTooLarge : String
  /-- `encoded_len` of a record's message. -/
  encodedLen : Proto.ClipboardReplicaRecord → Nat
  maxBlobChunkSize : Nat
  maxControlFrameSize : Nat
  collectionToJson : Collection → String
  collectionFromJson : String → Option Collection
  validateCollection : Collection → Except String Unit
  maxCollectionBytes : Nat

/-! ### Checks -/

def textLimit : Nat := 1024 * 1024

def richLimit : Nat := 16 * 1024 * 1024

def imageLimit : Nat := 20 * 1024 * 1024

def identifier (value : String) : Bool :=
  !isBlank value && value.utf8ByteSize ≤ 128 && !value.toList.any charIsControl

def validVersion (revision : Nat) (device : String) : Bool :=
  revision > 0 && revision ≤ i64Max.toNat && identifier device

def validColor (color : String) : Bool :=
  (color.utf8ByteSize = 4 || color.utf8ByteSize = 7 || color.utf8ByteSize = 9) &&
    match color.toList with
    | '#' :: digits => digits.all isAsciiHexdigit
    | _ => false

/-! ### Labels -/

def labelToWire (label : Label) : Proto.ClipboardLabel where
  id := label.id
  name := label.name
  color := label.color
  revision := label.revision
  updatedByDeviceId := label.updatedByDeviceId
  deleted := label.deleted

def labelFromWire (label : Proto.ClipboardLabel) : Except String Label :=
  if !identifier label.id || isBlank label.name || label.name.utf8ByteSize > 128
      || !validColor label.color || !validVersion label.revision label.updatedByDeviceId then
    .error "invalid clipboard label metadata"
  else
    .ok
      { id := label.id
        name := label.name
        color := label.color
        revision := label.revision
        updatedByDeviceId := label.updatedByDeviceId
        deleted := label.deleted }

/-! ### Metadata -/

def ContentKind.toWire : ContentKind → Int
  | .text => 1
  | .html => 2
  | .image => 3
  | .files => 4

/-- Files do not leave the device. -/
def ContentKind.fromWire : Int → Except String ContentKind
  | 1 => .ok .text
  | 2 => .ok .html
  | 3 => .ok .image
  | _ => .error "unsupported clipboard replica kind"

def ChangeKind.toWire : ChangeKind → Int
  | .copy => 1
  | .edit => 2
  | .favorite => 3
  | .delete => 4
  | .snapshot => 5
  | .label => 6

def ChangeKind.fromWire : Int → Except String ChangeKind
  | 1 => .ok .copy
  | 2 => .ok .edit
  | 3 => .ok .favorite
  | 4 => .ok .delete
  | 5 => .ok .snapshot
  | 6 => .ok .label
  | _ => .error "invalid clipboard replica change"

def membershipToWire (membership : LabelMembership) : Proto.ClipboardLabelMembership where
  labelId := membership.labelId
  attached := membership.attached
  revision := membership.revision
  updatedByDeviceId := membership.updatedByDeviceId

def metadataToWire (replica : ReplicaRecord) : Proto.ClipboardReplicaRecord where
  firstCapturedAtMs := replica.firstCapturedAtMs
  copyCount := replica.copyCount
  lastUsedAtMs := replica.lastUsedAtMs
  parts := []
  metadataOnly := true
  metadata := some
    { syncId := replica.record.syncId
      kind := replica.record.kind.toWire
      width := replica.record.width
      height := replica.record.height
      preview := replica.record.preview
      sourceApp := replica.record.sourceApp
      sourceDeviceId := replica.record.sourceDeviceId
      sourceDeviceName := replica.record.sourceDeviceName
      capturedAtMs := replica.record.capturedAtMs
      revision := replica.record.revision
      updatedByDeviceId := replica.record.updatedByDeviceId
      favorite := replica.record.favorite
      favoriteRevision := replica.record.favoriteRevision
      favoriteUpdatedByDeviceId := replica.record.favoriteUpdatedByDeviceId
      labels := []
      labelMemberships := replica.record.labelMemberships.map membershipToWire
      deleted := replica.record.deleted
      changeKind := replica.record.changeKind.toWire
      live := replica.record.live
      textSyntaxJson := ""
      payload := none }

/-- `chrono_now_ms().saturating_add(300_000)`. -/
def latestAcceptedMs (now : Int) : Int := min (now + 300000) i64Max.toNat

/-- The memberships of a record, in order; `seen` are the label ids before them. -/
def membershipsFromWire (seen : List String) :
    List Proto.ClipboardLabelMembership → Except String (List LabelMembership)
  | [] => .ok []
  | wire :: rest =>
      if !identifier wire.labelId || !validVersion wire.revision wire.updatedByDeviceId
          || seen.contains wire.labelId then
        .error "invalid clipboard label membership"
      else do
        let memberships ← membershipsFromWire (wire.labelId :: seen) rest
        return ⟨wire.labelId, wire.attached, wire.revision, wire.updatedByDeviceId⟩ :: memberships

/-- The first check of `metadata_from_wire`.  The clock is read once for each of the two times
that must not lie in the future. -/
def invalidMetadata (now later : Int) (wire : Proto.ClipboardReplicaRecord)
    (record : Proto.ClipboardSyncRecord) : Bool :=
  record.syncId.utf8ByteSize ≠ 64
    || !record.syncId.toList.all isAsciiHexdigit
    || !validVersion record.revision record.updatedByDeviceId
    || !validVersion record.favoriteRevision record.favoriteUpdatedByDeviceId
    || !identifier record.sourceDeviceId
    || record.sourceDeviceName.utf8ByteSize > 128
    || record.preview.utf8ByteSize > 2048
    || (record.sourceApp.any fun app => app.utf8ByteSize > 256)
    || wire.firstCapturedAtMs ≤ 0
    || wire.firstCapturedAtMs > record.capturedAtMs
    || record.capturedAtMs > latestAcceptedMs now
    || (wire.lastUsedAtMs.any fun used => used ≤ 0 || used > latestAcceptedMs later)
    || wire.copyCount = 0
    || wire.copyCount > 2 ^ 31 - 1
    || !record.labels.isEmpty
    || record.payload.isSome
    || record.labelMemberships.length > 4096

/-- The record that accepted metadata describes. -/
def recordOfMetadata (wire : Proto.ClipboardReplicaRecord) (record : Proto.ClipboardSyncRecord)
    (labelMemberships : List LabelMembership) (kind : ContentKind) (changeKind : ChangeKind) :
    ReplicaRecord where
  firstCapturedAtMs := wire.firstCapturedAtMs
  copyCount := wire.copyCount
  lastUsedAtMs := wire.lastUsedAtMs
  record :=
    { syncId := record.syncId
      kind
      text := none
      html := none
      rtf := none
      imagePng := none
      width := record.width
      height := record.height
      preview := record.preview
      sourceApp := record.sourceApp
      sourceDeviceId := record.sourceDeviceId
      sourceDeviceName := record.sourceDeviceName
      capturedAtMs := record.capturedAtMs
      revision := record.revision
      updatedByDeviceId := record.updatedByDeviceId
      favorite := record.favorite
      favoriteRevision := record.favoriteRevision
      favoriteUpdatedByDeviceId := record.favoriteUpdatedByDeviceId
      labels := []
      labelMemberships
      deleted := record.deleted
      changeKind
      live := record.live
      textSyntax := .plain }

def metadataFromWire (now later : Int) (wire : Proto.ClipboardReplicaRecord) :
    Except String ReplicaRecord :=
  match wire.metadata with
  | none => .error "missing clipboard replica metadata"
  | some record =>
      if invalidMetadata now later wire record then
        .error "invalid clipboard replica metadata"
      else do
        let labelMemberships ← membershipsFromWire [] record.labelMemberships
        let kind ← ContentKind.fromWire record.kind
        let changeKind ← ChangeKind.fromWire record.changeKind
        if record.live && (changeKind ≠ .copy || record.deleted) then
          throw "invalid live clipboard replica"
        else
          return recordOfMetadata wire record labelMemberships kind changeKind

/-! ### Payload -/

section Payload

variable (platform : Platform)

/-- A payload part with its media type; absent and oversized parts are refused. -/
def payloadPart (value : Option Bytes) (media : String) (limit : Nat) :
    Except String (Bytes × String) :=
  match value with
  | none => .error "clipboard payload is unavailable"
  | some bytes =>
      if bytes.length > limit then .error "clipboard payload exceeds transfer limit"
      else .ok (bytes, media)

variable (record : SyncRecord)

/-- The payload that belongs to the record's kind. -/
def payloadParts : Except String (List (Bytes × String)) :=
  if record.deleted then .ok []
  else
    match record.kind with
    | .text => do
        let text ← payloadPart (record.text.map utf8) "text/plain" textLimit
        return [text]
    | .html => do
        let text ← payloadPart (some (utf8 (record.text.getD ""))) "text/plain" textLimit
        let html ← payloadPart (record.html.map utf8) "text/html" richLimit
        match record.rtf with
        | none => return [text, html]
        | some rtf =>
            let rtf ← payloadPart (some (utf8 rtf)) "text/rtf" richLimit
            return [text, html, rtf]
    | .image => do
        let image ← payloadPart record.imagePng "image/png" imageLimit
        return [image]
    | .files => .error "file paths cannot be replicated"

def blobRef (part : Bytes × String) : Proto.BlobRef where
  blobId := platform.sha256 part.1
  size := part.1.length
  sha256 := platform.sha256 part.1
  mediaType := part.2

def encodeRecord (replica : ReplicaRecord) :
    Except String (Proto.ClipboardReplicaRecord × List Bytes) := do
  let parts ← payloadParts replica.record
  let wire := { metadataToWire replica with
    metadataOnly := false
    parts := parts.map (blobRef platform) }
  return (wire, parts.map (·.1))

/-- `send_parts`: the frames that carry the parts. -/
def sendParts (parts : List Bytes) : List Bytes :=
  parts.flatMap (chunks platform.maxBlobChunkSize)

/-- The loop that reads one part from the frames of a stream. -/
def readPart (size : Nat) (bytes : Bytes) : List Bytes → Except String (Bytes × List Bytes)
  | [] => if bytes.length < size then .error platform.streamEnded else .ok (bytes, [])
  | chunk :: frames =>
      if bytes.length < size then
        if chunk.length > platform.maxBlobChunkSize then .error platform.frameTooLarge
        else if chunk.isEmpty || chunk.length > size - bytes.length then
          .error "invalid clipboard payload chunk"
        else readPart size (bytes ++ chunk) frames
      else .ok (bytes, chunk :: frames)

/-- The media types and limits of the parts a header has to announce. -/
def expectedParts (announced : Nat) : List (String × Nat) :=
  if record.deleted then []
  else
    match record.kind with
    | .text => [("text/plain", textLimit)]
    | .html =>
        [("text/plain", textLimit), ("text/html", richLimit)] ++
          if announced = 3 then [("text/rtf", richLimit)] else []
    | .image => [("image/png", imageLimit)]
    | .files => []

/-- Put a received part into the field of its media type. -/
def storePart (media : String) (bytes : Bytes) : Except String SyncRecord :=
  if media = "image/png" then .ok { record with imagePng := some bytes }
  else
    match fromUtf8 bytes with
    | none => .error "clipboard payload is not UTF-8"
    | some text =>
        if media = "text/plain" then .ok { record with text := some text }
        else if media = "text/html" then .ok { record with html := some text }
        else .ok { record with rtf := some text }

def receivePart (reference : Proto.BlobRef) (media : String) (limit : Nat)
    (frames : List Bytes) : Except String (SyncRecord × List Bytes) :=
  if reference.mediaType ≠ media || reference.size > limit || reference.sha256.length ≠ 32
      || reference.blobId ≠ reference.sha256 then
    .error "invalid clipboard payload descriptor"
  else do
    let (bytes, frames) ← readPart platform reference.size [] frames
    if platform.sha256 bytes ≠ reference.sha256 then
      throw "clipboard payload integrity check failed"
    let record ← storePart record media bytes
    return (record, frames)

def receiveParts (record : SyncRecord) :
    List (Proto.BlobRef × String × Nat) → List Bytes → Except String (SyncRecord × List Bytes)
  | [], frames => .ok (record, frames)
  | (reference, media, limit) :: parts, frames => do
      let (record, frames) ← receivePart platform record reference media limit frames
      receiveParts record parts frames

/-- `receive_record`; the answer includes the frames left on the stream. -/
def receiveRecord (now later : Int) (wire : Proto.ClipboardReplicaRecord)
    (frames : List Bytes) : Except String (ReplicaRecord × List Bytes) := do
  let replica ← metadataFromWire now later wire
  if wire.metadataOnly then
    if !wire.parts.isEmpty || replica.record.live then
      throw "invalid metadata-only clipboard replica"
    else
      return (replica, frames)
  else
    let expected := expectedParts replica.record wire.parts.length
    if wire.parts.length ≠ expected.length then
      throw "invalid clipboard payload parts"
    else
      let (record, frames) ← receiveParts platform replica.record (wire.parts.zip expected) frames
      if record.kind = .text && record.text.all String.isEmpty && !record.deleted then
        throw "clipboard text is empty"
      else
        let record := { record with
          textSyntax := platform.detectTextSyntax (record.text.getD "") }
        return ({ replica with record }, frames)

/-!
`receive_record` once more with its two `unreachable!()` arms, where the result is `none`.  Above
they are folded into a neighbouring arm.
-/

def expectedPartsOrPanic (announced : Nat) : Option (List (String × Nat)) :=
  if record.deleted then some []
  else
    match record.kind with
    | .text => some [("text/plain", textLimit)]
    | .html =>
        some ([("text/plain", textLimit), ("text/html", richLimit)] ++
          if announced = 3 then [("text/rtf", richLimit)] else [])
    | .image => some [("image/png", imageLimit)]
    | .files => none

def storePartOrPanic (media : String) (bytes : Bytes) : Option (Except String SyncRecord) :=
  if media = "image/png" then some (.ok { record with imagePng := some bytes })
  else
    match fromUtf8 bytes with
    | none => some (.error "clipboard payload is not UTF-8")
    | some text =>
        if media = "text/plain" then some (.ok { record with text := some text })
        else if media = "text/html" then some (.ok { record with html := some text })
        else if media = "text/rtf" then some (.ok { record with rtf := some text })
        else none

def receivePartsOrPanic (record : SyncRecord) :
    List (Proto.BlobRef × String × Nat) → List Bytes →
      Option (Except String (SyncRecord × List Bytes))
  | [], frames => some (.ok (record, frames))
  | (reference, media, limit) :: parts, frames =>
      if reference.mediaType ≠ media || reference.size > limit || reference.sha256.length ≠ 32
          || reference.blobId ≠ reference.sha256 then
        some (.error "invalid clipboard payload descriptor")
      else
        match readPart platform reference.size [] frames with
        | .error message => some (.error message)
        | .ok (bytes, frames) =>
            if platform.sha256 bytes ≠ reference.sha256 then
              some (.error "clipboard payload integrity check failed")
            else
              match storePartOrPanic record media bytes with
              | none => none
              | some (.error message) => some (.error message)
              | some (.ok record) => receivePartsOrPanic record parts frames

def receiveRecordOrPanic (now later : Int) (wire : Proto.ClipboardReplicaRecord)
    (frames : List Bytes) : Option (Except String (ReplicaRecord × List Bytes)) :=
  match metadataFromWire now later wire with
  | .error message => some (.error message)
  | .ok replica =>
      if wire.metadataOnly then
        if !wire.parts.isEmpty || replica.record.live then
          some (.error "invalid metadata-only clipboard replica")
        else
          some (.ok (replica, frames))
      else
        match expectedPartsOrPanic replica.record wire.parts.length with
        | none => none
        | some expected =>
            if wire.parts.length ≠ expected.length then
              some (.error "invalid clipboard payload parts")
            else
              match receivePartsOrPanic platform replica.record (wire.parts.zip expected) frames with
              | none => none
              | some (.error message) => some (.error message)
              | some (.ok (record, frames)) =>
                  if record.kind = .text && record.text.all String.isEmpty && !record.deleted then
                    some (.error "clipboard text is empty")
                  else
                    some (.ok ({ replica with
                      record := { record with
                        textSyntax := platform.detectTextSyntax (record.text.getD "") } }, frames))

end Payload

end ArcRelay.ClipboardReplication
