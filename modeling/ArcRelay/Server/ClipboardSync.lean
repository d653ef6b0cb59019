/-
Module: ArcRelay.Server.ClipboardSync
Purpose: How a clipboard record from a client becomes a record of the host: validation, resolution
  of its references against the upload store, and its content address.
Trusted boundary: the numbers of the generated enumerations, XXH3, SHA-256 and the detection of a
  text's syntax are parameters; the wall clock and the readings of the upload store are arguments.
-/
import ArcRelay.ClipboardReplication.Reconcile
import ArcRelay.Server.BlobStore
import ArcRelay.Server.ClipboardUploads

namespace ArcRelay.ClipboardSync

open ClipboardReplication

/-- What the handler takes from other crates. -/
structure SyncPlatform where
  /-- `proto::ClipboardContentKind::try_from`; `none` where it fails or gives `Unspecified`. -/
  contentKind : Int → Option ContentKind
  /-- `proto::ClipboardSyncChangeKind::try_from`; `none` where it fails or gives `Unspecified`. -/
  changeKind : Int → Option ChangeKind
  detectTextSyntax : String → TextSyntax
  /-- XXH3 with 128 bits. -/
  xxh3 : Bytes → Nat
  sha256 : Bytes → Bytes

/-! ### The message -/

/-- `proto::clipboard_sync_record::Payload`. -/
inductive Payload where
  | text (text : String)
  | richText (plainText : String) (html rtf : Option BlobRef)
  | image (image : BlobRef)
deriving Repr, DecidableEq

/-- `proto::ClipboardSyncRecord`. -/
structure WireSyncRecord where
  syncId : String
  kind : Int
  width : Option Nat
  height : Option Nat
  preview : String
  sourceApp : Option String
  sourceDeviceId : String
  sourceDeviceName : String
  capturedAtMs : Int
  revision : Nat
  updatedByDeviceId : String
  favorite : Bool
  favoriteRevision : Nat
  favoriteUpdatedByDeviceId : String
  labels : List Proto.ClipboardLabel
  labelMemberships : List Proto.ClipboardLabelMembership
  deleted : Bool
  changeKind : Int
  live : Bool
  textSyntaxJson : String
  payload : Option Payload
deriving Repr, DecidableEq

/-! ### Validation -/

def validClipboardBlobRef (reference : Option BlobRef) (mediaType : String) (maximum : Nat) : Bool :=
  reference.any fun reference =>
    reference.blobId.length = 32 && reference.sha256.length = 32
      && reference.blobId = reference.sha256 && reference.size > 0 && reference.size ≤ maximum
      && reference.mediaType = mediaType

/-- The checks on the payload of a record that is not deleted. -/
def validatePayload (payload : Option Payload) : ContentKind → Except String Unit
  | .text =>
      match payload with
      | some (.text text) =>
          if text ≠ "" ∧ text.utf8ByteSize ≤ 768 * 1024 then .ok ()
          else .error "invalid synchronized text payload"
      | _ => .error "invalid synchronized text payload"
  | .html =>
      match payload with
      | some (.richText plainText html rtf) =>
          if plainText.utf8ByteSize > 1024 * 1024
              || !validClipboardBlobRef html "text/html; charset=utf-8" (16 * 1024 * 1024)
              || (rtf.any fun rtf =>
                !validClipboardBlobRef (some rtf) "text/rtf" (16 * 1024 * 1024)) then
            .error "invalid synchronized rich-text payload"
          else .ok ()
      | _ => .error "synchronized rich text is required"
  | .image =>
      match payload with
      | some (.image image) =>
          if validClipboardBlobRef (some image) "image/png" (20 * 1024 * 1024) then .ok ()
          else .error "invalid synchronized image reference"
      | _ => .error "synchronized image reference is required"
  | .files =>
      if payload.isSome then .error "synchronized file metadata cannot include payloads"
      else .ok ()

variable (platform : SyncPlatform)

def validateClipboardSyncRecord (nowMs : Int) (record : WireSyncRecord) : Except String Unit :=
  if record.syncId.utf8ByteSize ≠ 64 || !record.syncId.toList.all isAsciiHexdigit then
    .error "invalid clipboard sync identifier"
  else if record.favoriteRevision = 0 || record.favoriteRevision > i64Max.toNat then
    .error "invalid clipboard sync favorite revision"
  else if !record.labels.isEmpty || !record.labelMemberships.isEmpty then
    .error "clipboard sync labels are not supported"
  else if record.preview.utf8ByteSize > 2 * 1024 then
    .error "clipboard sync preview exceeds limit"
  else if record.revision = 0 || record.revision > i64Max.toNat then
    .error "invalid clipboard sync revision"
  else if record.capturedAtMs ≤ 0 || record.capturedAtMs > latestAcceptedMs nowMs then
    .error "invalid clipboard sync capture timestamp"
  else
    match platform.contentKind record.kind, platform.changeKind record.changeKind with
    | some kind, some _ =>
        if record.deleted then
          if record.payload.isSome then
            .error "deleted clipboard sync records cannot include payloads"
          else .ok ()
        else validatePayload record.payload kind
    | _, _ => .error "invalid clipboard sync kind"

/-! ### Content -/

/-- The fields of a record that hold content. -/
structure SyncContent where
  text : Option String := none
  html : Option String := none
  rtf : Option String := none
  imagePng : Option Bytes := none
deriving Repr, DecidableEq

/-- The upload store as one `get` finds it, and the time it reads. -/
structure UploadView where
  store : ClipboardUploadStoreInner
  now : Instant

/-- `uploads.get` for a reference. -/
def UploadView.fetch (uploads : UploadView) (reference : BlobRef) (mediaType : String) :
    Option Bytes :=
  (ClipboardUploadStore.get uploads.store reference.blobId reference.sha256 mediaType uploads.now).1

/-- A reference whose upload is a text. -/
def UploadView.fetchText (uploads : UploadView) (reference : BlobRef)
    (mediaType unavailable notUtf8 : String) : Except String String :=
  match uploads.fetch reference mediaType with
  | none => .error unavailable
  | some bytes =>
      match fromUtf8 bytes with
      | none => .error notUtf8
      | some text => .ok text

def UploadView.fetchHtml (uploads : UploadView) (reference : BlobRef) : Except String String :=
  uploads.fetchText reference "text/html; charset=utf-8" "clipboard HTML upload is unavailable"
    "clipboard HTML upload is not UTF-8"

def UploadView.fetchRtf (uploads : UploadView) : Option BlobRef → Except String (Option String)
  | none => .ok none
  | some reference =>
      (uploads.fetchText reference "text/rtf" "clipboard RTF upload is unavailable"
        "clipboard RTF upload is not UTF-8").map some

/-- The content of a record that is neither deleted nor a list of files.  The RTF is looked up
after the HTML, when the store may have changed. -/
def resolveContent (uploads later : UploadView) :
    Option Payload → CallOutcome (Except String SyncContent)
  | none => .panicked "validated clipboard payload"
  | some (.text text) => .returned (.ok { text := some text })
  | some (.richText _ none _) => .panicked "validated HTML reference"
  | some (.richText plainText (some html) rtf) => .returned do
      let html ← uploads.fetchHtml html
      let rtf ← later.fetchRtf rtf
      return { text := some plainText, html := some html, rtf := rtf }
  | some (.image image) => .returned <|
      match uploads.fetch image "image/png" with
      | none => .error "clipboard image upload is unavailable"
      | some bytes => .ok { imagePng := some bytes }

/-! ### Content addresses -/

/-- What `clipboard_sync_id` feeds to the content digest. -/
def digestInput (kind : ContentKind) (content : SyncContent) : Bytes :=
  match kind with
  | .text => utf8 "text\x00" ++ utf8 (content.text.getD "")
  | .html =>
      utf8 "rich-text\x00" ++ utf8 (content.html.getD "") ++ utf8 "\x00text\x00" ++
        utf8 (content.text.getD "") ++
        match content.rtf with
        | none => []
        | some rtf => utf8 "\x00rtf\x00" ++ utf8 rtf
  | .image => utf8 "image\x00" ++ content.imagePng.getD []
  | .files => utf8 "files\x00"

/-- `{:032x}`. -/
def paddedHex (value : Nat) : String :=
  let digits := Nat.toDigits 16 value
  String.ofList (List.replicate (32 - digits.length) '0' ++ digits)

def clipboardSyncId (kind : ContentKind) (content : SyncContent) : String :=
  let contentHash := paddedHex (platform.xxh3 (digestInput kind content))
  String.join
    ((platform.sha256 (utf8 "arcrelay-clipboard-sync-v1\x00" ++ utf8 contentHash)).map hexByte)

/-! ### The record -/

/-- A record without content of its own. -/
def contentless (record : WireSyncRecord) (kind : ContentKind) : Bool :=
  record.deleted || decide (kind = .files)

/-- The record of the host, once everything is resolved. -/
def acceptedRecord (record : WireSyncRecord) (kind : ContentKind)
    (changeKind : ChangeKind) (content : SyncContent)
    (authenticatedDeviceId authenticatedDeviceName : String) : SyncRecord where
  syncId := if contentless record kind then record.syncId else clipboardSyncId platform kind content
  kind := kind
  text := content.text
  html := content.html
  rtf := content.rtf
  imagePng := content.imagePng
  width := record.width
  height := record.height
  preview := record.preview
  sourceApp := record.sourceApp
  sourceDeviceId := authenticatedDeviceId
  sourceDeviceName := authenticatedDeviceName
  capturedAtMs := record.capturedAtMs
  revision := record.revision
  updatedByDeviceId := authenticatedDeviceId
  favorite := record.favorite
  favoriteRevision := record.favoriteRevision
  favoriteUpdatedByDeviceId := authenticatedDeviceId
  labels := []
  labelMemberships := []
  deleted := record.deleted
  changeKind := changeKind
  live := record.live
  textSyntax := platform.detectTextSyntax (content.text.getD "")

def syncRecordFromProto (nowMs : Int) (uploads later : UploadView)
    (record : WireSyncRecord) (authenticatedDeviceId authenticatedDeviceName : String) :
    CallOutcome (Except String SyncRecord) :=
  match validateClipboardSyncRecord platform nowMs record with
  | .error reason => .returned (.error reason)
  | .ok () =>
      match platform.contentKind record.kind with
      | none => .returned (.error "invalid clipboard sync kind")
      | some kind =>
          let content := if contentless record kind then .returned (.ok {})
            else resolveContent uploads later record.payload
          match content with
          | .panicked message => .panicked message
          | .returned (.error reason) => .returned (.error reason)
          | .returned (.ok content) =>
              match platform.changeKind record.changeKind with
              | none => .returned (.error "invalid clipboard sync change kind")
              | some changeKind => .returned (.ok (acceptedRecord platform record kind changeKind
                  content authenticatedDeviceId authenticatedDeviceName))

end ArcRelay.ClipboardSync
