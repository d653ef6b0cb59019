/-
Module: ArcRelay.Server.RemoteFileCodec
Purpose: The remote-file messages on the wire: the generated protobuf frames and the hand-written
  conversions of requests and responses to and from them.
Trusted boundary: the code prost generates for the frames and their enumerations; a frame and an
  enumeration number are only assumed to decode to what was encoded
-/
import ArcRelay.Server.RemoteFiles

namespace ArcRelay.RemoteFiles

/-! ### What prost generates -/

/-- `encode_to_vec` and `decode` of a generated message. The bytes are left abstract: nothing here
looks into them. -/
structure Prost (Message Wire : Type) where
  encode : Message → Wire
  decode : Wire → Except String Message
  decode_encode : ∀ message, decode (encode message) = .ok message

/-- `as i32` and `try_from` of a generated enumeration. -/
structure Enumeration (Enum : Type) where
  number : Enum → Int32
  tryFrom : Int32 → Option Enum
  tryFrom_number : ∀ value, tryFrom (number value) = some value

namespace Proto

inductive RemoteFileErrorCode where
  | unspecified | invalidArgument | permissionDenied | notFound | conflict | resourceExhausted
  | failedPrecondition | unavailable | cancelled | internal
deriving Repr, DecidableEq

inductive RemoteFileEntryKind where
  | unspecified | file | folder
deriving Repr, DecidableEq

inductive RemoteFileSortKey where
  | unspecified | name | modified | type | size
deriving Repr, DecidableEq

inductive RemoteFileSortDirection where
  | unspecified | ascending | descending
deriving Repr, DecidableEq

structure RemoteFileWatchChangesRequest where
  shareId : String
  epoch : String
  afterSequence : UInt64
deriving Repr, DecidableEq

structure RemoteFileStatRequest where
  shareId : String
  relativePath : String
deriving Repr, DecidableEq

structure RemoteFileMoveRequest where
  shareId : String
  relativePath : String
  destinationPath : String
  overwrite : Bool
  expectedRevision : String
deriving Repr, DecidableEq

structure RemoteFileConditionalDeleteRequest where
  shareId : String
  relativePath : String
  expectedRevision : String
  recursive : Bool
deriving Repr, DecidableEq

structure RemoteFileReadRangeRequest where
  shareId : String
  relativePath : String
  offset : UInt64
  length : UInt32
  revision : String
deriving Repr, DecidableEq

structure RemoteFileConditionalUploadRequest where
  shareId : String
  relativePath : String
  name : String
  size : UInt64
  expectedRevision : String
deriving Repr, DecidableEq

structure RemoteFileListDirectoryRequest where
  shareId : String
  relativePath : String
  cursor : Option String
  limit : UInt32
  search : Option String
  sortKey : Int32
  sortDirection : Int32
deriving Repr, DecidableEq

structure RemoteFileCreateDirectoryRequest where
  shareId : String
  relativePath : String
  name : String
deriving Repr, DecidableEq

structure RemoteFileRenameRequest where
  shareId : String
  relativePath : String
  newName : String
deriving Repr, DecidableEq

structure RemoteFileDeleteRequest where
  shareId : String
  relativePath : String
deriving Repr, DecidableEq

structure RemoteFileDownloadRequest where
  shareId : String
  relativePath : String
deriving Repr, DecidableEq

structure RemoteFileThumbnailRequest where
  shareId : String
  relativePath : String
  maxDimension : UInt32
deriving Repr, DecidableEq

structure RemoteFileUploadRequest where
  shareId : String
  relativePath : String
  name : String
  size : UInt64
  overwrite : Bool
  expectedModifiedAtMs : Option Int64
deriving Repr, DecidableEq

/-- `remote_file_request_frame::Body`. -/
inductive Body where
  | listShares
  | watchChanges (request : RemoteFileWatchChangesRequest)
  | stat (request : RemoteFileStatRequest)
  | move (request : RemoteFileMoveRequest)
  | conditionalDelete (request : RemoteFileConditionalDeleteRequest)
  | readRange (request : RemoteFileReadRangeRequest)
  | conditionalUpload (request : RemoteFileConditionalUploadRequest)
  | listDirectory (request : RemoteFileListDirectoryRequest)
  | createDirectory (request : RemoteFileCreateDirectoryRequest)
  | rename (request : RemoteFileRenameRequest)
  | delete (request : RemoteFileDeleteRequest)
  | download (request : RemoteFileDownloadRequest)
  | thumbnail (request : RemoteFileThumbnailRequest)
  | upload (request : RemoteFileUploadRequest)
deriving Repr, DecidableEq

structure RemoteFileRequestFrame where
  body : Option Body
deriving Repr, DecidableEq

structure RemoteFileShareInfo where
  id : String
  name : String
  writable : Bool
deriving Repr, DecidableEq

structure RemoteFileEntryInfo where
  id : String
  name : String
  relativePath : String
  kind : Int32
  size : UInt64
  modifiedAtMs : Int64
  revision : String
deriving Repr, DecidableEq

structure RemoteFileResponseFrame where
  ok : Bool
  error : Option String
  shares : List RemoteFileShareInfo
  entries : List RemoteFileEntryInfo
  nextCursor : Option String
  entry : Option RemoteFileEntryInfo
  thumbnailSize : UInt64
  thumbnailMediaType : Option String
  revision : String
  rangeData : Bytes
  errorCode : Option Int32
  changeEpoch : String
  changeSequence : UInt64
  changedDirectories : List String
  changeReset : Bool
deriving Repr, DecidableEq

end Proto

/-- The generated code of the two frames and of the enumerations in them. -/
structure GeneratedCode (Wire : Type) where
  requestFrame : Prost Proto.RemoteFileRequestFrame Wire
  responseFrame : Prost Proto.RemoteFileResponseFrame Wire
  errorCode : Enumeration Proto.RemoteFileErrorCode
  entryKind : Enumeration Proto.RemoteFileEntryKind
  sortKey : Enumeration Proto.RemoteFileSortKey
  sortDirection : Enumeration Proto.RemoteFileSortDirection

/-- `RemoteFileCodecError`, without the frame errors of the transport. -/
inductive RemoteFileCodecError where
  | validation (message : String)
  | decode (error : String)
deriving Repr, DecidableEq

abbrev RemoteFileCodecResult (Value : Type) := Except RemoteFileCodecError Value

/-! ### Encoding and decoding -/

/-- `RemoteFileWireMessage`: what the two implementations share. Encoding validates first,
decoding last. -/
structure WireMessage (Message Frame Wire : Type) where
  prost : Prost Frame Wire
  validate : Message → Except String Unit
  toFrame : Message → Frame
  fromFrame : Frame → RemoteFileCodecResult Message

namespace WireMessage

variable {Message Frame Wire : Type}

def encodeWire (codec : WireMessage Message Frame Wire) (message : Message) :
    RemoteFileCodecResult Wire := do
  (codec.validate message).mapError .validation
  return codec.prost.encode (codec.toFrame message)

def decodeWire (codec : WireMessage Message Frame Wire) (bytes : Wire) :
    RemoteFileCodecResult Message := do
  let frame ← (codec.prost.decode bytes).mapError .decode
  let message ← codec.fromFrame frame
  (codec.validate message).mapError .validation
  return message

end WireMessage

section Conversions

variable {Wire : Type} (generated : GeneratedCode Wire)

def encodeErrorCode (code : RemoteFileErrorCode) : Int32 :=
  generated.errorCode.number <| match code with
    | .invalidArgument => .invalidArgument
    | .permissionDenied => .permissionDenied
    | .notFound => .notFound
    | .conflict => .conflict
    | .resourceExhausted => .resourceExhausted
    | .failedPrecondition => .failedPrecondition
    | .unavailable => .unavailable
    | .cancelled => .cancelled
    | .internal => .internal

def decodeErrorCode (code : Int32) : RemoteFileCodecResult RemoteFileErrorCode :=
  match generated.errorCode.tryFrom code with
  | some .invalidArgument => .ok .invalidArgument
  | some .permissionDenied => .ok .permissionDenied
  | some .notFound => .ok .notFound
  | some .conflict => .ok .conflict
  | some .resourceExhausted => .ok .resourceExhausted
  | some .failedPrecondition => .ok .failedPrecondition
  | some .unavailable => .ok .unavailable
  | some .cancelled => .ok .cancelled
  | some .internal => .ok .internal
  | some .unspecified | none => .error (.validation "invalid remote file error code")

def encodeShare (share : RemoteFileShare) : Proto.RemoteFileShareInfo where
  id := share.id
  name := share.name
  writable := share.writable

def decodeShare (share : Proto.RemoteFileShareInfo) : RemoteFileShare where
  id := share.id
  name := share.name
  writable := share.writable

def encodeEntry (entry : RemoteFileEntry) : Proto.RemoteFileEntryInfo where
  id := entry.id
  name := entry.name
  relativePath := entry.relativePath
  kind := generated.entryKind.number <| match entry.kind with
    | .file => .file
    | .folder => .folder
  size := entry.size
  modifiedAtMs := entry.modifiedAtMs
  revision := entry.revision

def decodeKind (kind : Int32) : RemoteFileCodecResult RemoteFileKind :=
  match generated.entryKind.tryFrom kind with
  | some .file => .ok .file
  | some .folder => .ok .folder
  | some .unspecified | none => .error (.validation "invalid remote file entry kind")

def decodeEntry (entry : Proto.RemoteFileEntryInfo) : RemoteFileCodecResult RemoteFileEntry := do
  let kind ← decodeKind generated entry.kind
  return {
    id := entry.id
    name := entry.name
    relativePath := entry.relativePath
    kind
    size := entry.size
    modifiedAtMs := entry.modifiedAtMs
    revision := entry.revision }

def encodeSortKey (key : RemoteFileSortKey) : Int32 :=
  generated.sortKey.number <| match key with
    | .name => .name
    | .modified => .modified
    | .type => .type
    | .size => .size

def decodeSortKey (key : Int32) : RemoteFileCodecResult RemoteFileSortKey :=
  match generated.sortKey.tryFrom key with
  | some .unspecified | some .name => .ok .name
  | some .modified => .ok .modified
  | some .type => .ok .type
  | some .size => .ok .size
  | none => .error (.validation "invalid remote file sort key")

def encodeSortDirection (direction : RemoteFileSortDirection) : Int32 :=
  generated.sortDirection.number <| match direction with
    | .ascending => .ascending
    | .descending => .descending

def decodeSortDirection (direction : Int32) : RemoteFileCodecResult RemoteFileSortDirection :=
  match generated.sortDirection.tryFrom direction with
  | some .unspecified | some .ascending => .ok .ascending
  | some .descending => .ok .descending
  | none => .error (.validation "invalid remote file sort direction")

/-! ### Requests -/

def encodeBody : RemoteFileRequest → Proto.Body
  | .listShares => .listShares
  | .watchChanges shareId epoch afterSequence => .watchChanges { shareId, epoch, afterSequence }
  | .stat shareId relativePath => .stat { shareId, relativePath }
  | .move shareId relativePath destinationPath overwrite expectedRevision =>
      .move { shareId, relativePath, destinationPath, overwrite, expectedRevision }
  | .conditionalDelete shareId relativePath expectedRevision recursive =>
      .conditionalDelete { shareId, relativePath, expectedRevision, recursive }
  | .readRange shareId relativePath offset length revision =>
      .readRange { shareId, relativePath, offset, length, revision }
  | .conditionalUpload shareId relativePath name size expectedRevision =>
      .conditionalUpload { shareId, relativePath, name, size, expectedRevision }
  | .listDirectory shareId relativePath cursor limit search sortKey sortDirection =>
      .listDirectory
        { shareId, relativePath, cursor, limit, search
          sortKey := encodeSortKey generated sortKey
          sortDirection := encodeSortDirection generated sortDirection }
  | .createDirectory shareId relativePath name => .createDirectory { shareId, relativePath, name }
  | .rename shareId relativePath newName => .rename { shareId, relativePath, newName }
  | .delete shareId relativePath => .delete { shareId, relativePath }
  | .download shareId relativePath => .download { shareId, relativePath }
  | .thumbnail shareId relativePath maxDimension =>
      .thumbnail { shareId, relativePath, maxDimension }
  | .upload shareId relativePath name size overwrite expectedModifiedAtMs =>
      .upload { shareId, relativePath, name, size, overwrite, expectedModifiedAtMs }

def decodeBody : Proto.Body → RemoteFileCodecResult RemoteFileRequest
  | .listShares => .ok .listShares
  | .watchChanges request =>
      .ok (.watchChanges request.shareId request.epoch request.afterSequence)
  | .stat request => .ok (.stat request.shareId request.relativePath)
  | .move request =>
      .ok (.move request.shareId request.relativePath request.destinationPath request.overwrite
        request.expectedRevision)
  | .conditionalDelete request =>
      .ok (.conditionalDelete request.shareId request.relativePath request.expectedRevision
        request.recursive)
  | .readRange request =>
      .ok (.readRange request.shareId request.relativePath request.offset request.length
        request.revision)
  | .conditionalUpload request =>
      .ok (.conditionalUpload request.shareId request.relativePath request.name request.size
        request.expectedRevision)
  | .listDirectory request => do
      let sortKey ← decodeSortKey generated request.sortKey
      let sortDirection ← decodeSortDirection generated request.sortDirection
      return .listDirectory request.shareId request.relativePath request.cursor request.limit
        request.search sortKey sortDirection
  | .createDirectory request =>
      .ok (.createDirectory request.shareId request.relativePath request.name)
  | .rename request => .ok (.rename request.shareId request.relativePath request.newName)
  | .delete request => .ok (.delete request.shareId request.relativePath)
  | .download request => .ok (.download request.shareId request.relativePath)
  | .thumbnail request =>
      .ok (.thumbnail request.shareId request.relativePath request.maxDimension)
  | .upload request =>
      .ok (.upload request.shareId request.relativePath request.name request.size
        request.overwrite request.expectedModifiedAtMs)

def requestToFrame (request : RemoteFileRequest) : Proto.RemoteFileRequestFrame where
  body := some (encodeBody generated request)

def requestFromFrame (frame : Proto.RemoteFileRequestFrame) :
    RemoteFileCodecResult RemoteFileRequest :=
  match frame.body with
  | none => .error (.validation "remote file request body is missing")
  | some body => decodeBody generated body

/-- `RemoteFileWireMessage for RemoteFileRequest`. -/
def requestMessage (limits : Limits) :
    WireMessage RemoteFileRequest Proto.RemoteFileRequestFrame Wire where
  prost := generated.requestFrame
  validate := RemoteFileRequest.validate limits
  toFrame := requestToFrame generated
  fromFrame := requestFromFrame generated

/-! ### Responses -/

def responseToFrame (response : RemoteFileResponse) : Proto.RemoteFileResponseFrame where
  ok := response.ok
  error := response.error.map fun error => error.message
  shares := response.shares.map encodeShare
  entries := response.entries.map (encodeEntry generated)
  nextCursor := response.nextCursor
  entry := response.entry.map (encodeEntry generated)
  thumbnailSize := response.thumbnailSize
  thumbnailMediaType := response.thumbnailMediaType
  revision := response.revision
  rangeData := response.rangeData
  errorCode := response.error.map fun error => encodeErrorCode generated error.code
  changeEpoch := response.changeEpoch
  changeSequence := response.changeSequence
  changedDirectories := response.changedDirectories
  changeReset := response.changeReset

def decodeError : Option Int32 → Option String → RemoteFileCodecResult (Option RemoteFileError)
  | some code, some message => do
      let code ← decodeErrorCode generated code
      return some { code, message }
  | none, none => .ok none
  | _, _ =>
      .error (.validation "remote file response error code and message must appear together")

def responseFromFrame (frame : Proto.RemoteFileResponseFrame) :
    RemoteFileCodecResult RemoteFileResponse := do
  let error ← decodeError generated frame.errorCode frame.error
  let entries ← frame.entries.mapM (decodeEntry generated)
  let entry ← frame.entry.mapM (decodeEntry generated)
  return {
    ok := frame.ok
    error
    shares := frame.shares.map decodeShare
    entries
    nextCursor := frame.nextCursor
    entry
    thumbnailSize := frame.thumbnailSize
    thumbnailMediaType := frame.thumbnailMediaType
    revision := frame.revision
    rangeData := frame.rangeData
    changeEpoch := frame.changeEpoch
    changeSequence := frame.changeSequence
    changedDirectories := frame.changedDirectories
    changeReset := frame.changeReset }

/-- `RemoteFileWireMessage for RemoteFileResponse`. -/
def responseMessage (limits : Limits) :
    WireMessage RemoteFileResponse Proto.RemoteFileResponseFrame Wire where
  prost := generated.responseFrame
  validate := RemoteFileResponse.validate limits
  toFrame := responseToFrame generated
  fromFrame := responseFromFrame generated

end Conversions

end ArcRelay.RemoteFiles
