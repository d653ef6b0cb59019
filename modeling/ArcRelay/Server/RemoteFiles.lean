/-
Module: ArcRelay.Server.RemoteFiles
Purpose: Remote-file messages: the access a peer's grants give, the requests and responses with
  their validation, and the errors.
Trusted boundary: the capabilities and grants come from the peer crate and the size limits from
  the wire crate; the limits are parameters, and of the capabilities only the two that concern
  remote files are told apart
-/
import ArcRelay.Library.Runtime
import ArcRelay.Server.Status

namespace ArcRelay.RemoteFiles

/-! ### Errors -/

inductive RemoteFileErrorCode where
  | invalidArgument | permissionDenied | notFound | conflict | resourceExhausted
  | failedPrecondition | unavailable | cancelled | internal
deriving Repr, DecidableEq

structure RemoteFileError where
  code : RemoteFileErrorCode
  message : String
deriving Repr, DecidableEq

abbrev RemoteFileResult (Value : Type) := Except RemoteFileError Value

/-! ### Access -/

/-- The capabilities of the peer crate, by token where remote files do not depend on them. -/
inductive CapabilityId where
  | remoteFilesRead
  | remoteFilesWrite
  | other (token : String)
deriving Repr, DecidableEq

inductive GrantDirection where
  | inbound | outbound
deriving Repr, DecidableEq

inductive GrantConstraints where
  | none
  | remoteFileShares (shareIds : List String) (writable : Bool)
deriving Repr, DecidableEq

structure Grant where
  peerId : String
  capability : CapabilityId
  direction : GrantDirection
  constraints : GrantConstraints
  grantedAtMs : Int64
deriving Repr, DecidableEq

structure RemoteFileAccess where
  readAll : Bool := false
  writeAll : Bool := false
  readShares : Finset String := ∅
  writeShares : Finset String := ∅
deriving DecidableEq

namespace RemoteFileAccess

variable (access : RemoteFileAccess)

/-- The body of the loop of `from_grants`. -/
def withGrant (grant : Grant) : RemoteFileAccess :=
  let (all, shares, writableConstraint) : Bool × List String × Bool :=
    match grant.constraints with
    | .none => (true, [], true)
    | .remoteFileShares shareIds writable => (false, shareIds, writable)
  match grant.capability with
  | .remoteFilesRead =>
      { access with
        readAll := access.readAll || all
        readShares := access.readShares ∪ shares.toFinset }
  | .remoteFilesWrite =>
      if writableConstraint then
        { access with
          writeAll := access.writeAll || all
          writeShares := access.writeShares ∪ shares.toFinset }
      else access
  | .other _ => access

def fromGrants (grants : List Grant) (direction : GrantDirection) : RemoteFileAccess :=
  (grants.filter (·.direction = direction)).foldl withGrant {}

def canListShares : Bool :=
  access.readAll || access.writeAll || access.readShares ≠ ∅ || access.writeShares ≠ ∅

def canRead (shareId : String) : Bool :=
  access.readAll || shareId ∈ access.readShares

def canWrite (shareId : String) : Bool :=
  access.writeAll || shareId ∈ access.writeShares

end RemoteFileAccess

/-! ### What a provider offers -/

structure RemoteFileShare where
  id : String
  name : String
  writable : Bool
deriving Repr, DecidableEq

inductive RemoteFileKind where
  | file | folder
deriving Repr, DecidableEq

inductive RemoteFileSortKey where
  | name | modified | type | size
deriving Repr, DecidableEq

inductive RemoteFileSortDirection where
  | ascending | descending
deriving Repr, DecidableEq

structure RemoteFileEntry where
  id : String
  name : String
  relativePath : String
  kind : RemoteFileKind
  size : UInt64
  modifiedAtMs : Int64
  revision : String
deriving Repr, DecidableEq

structure RemoteFileDirectoryPage where
  entries : List RemoteFileEntry
  nextCursor : Option String
deriving Repr, DecidableEq

structure RemoteFileThumbnail where
  bytes : Bytes
  mediaType : String
deriving Repr, DecidableEq

/-! ### Validation of the parts -/

/-- The limits the wire crate sets. -/
structure Limits where
  maxContentSize : UInt64
  maxThumbnailSize : UInt64
deriving Repr, DecidableEq

def defaultDirectoryPageSize : UInt32 := 100

def maxDirectoryPageSize : UInt32 := 200

def maxRangeBytes : UInt32 := 256 * 1024

variable (value : String)

def hasControl : Bool := value.toList.any charIsControl

def validateShareId : Except String Unit :=
  if value.isEmpty || value.utf8ByteSize > 256 || hasControl value then
    .error "invalid remote file share id"
  else .ok ()

/-- `str::split('/')`. -/
def components : List String :=
  (value.toList.splitOn '/').map String.ofList

def validateRelativePath : Except String Unit :=
  if value.utf8ByteSize > 4096 || value.toList.contains '\\'
      || value.toList.any (fun c => c = '\x00' || charIsControl c)
      || (!value.isEmpty && (components value).any fun component =>
        component.isEmpty || component = "." || component = ".."
          || component.utf8ByteSize > 255) then
    .error "invalid remote file path"
  else .ok ()

def validateFileName : Except String Unit :=
  if value.isEmpty || value.utf8ByteSize > 255 || value = "." || value = ".."
      || value.toList.any (fun c => c = '/' || c = '\\' || c = '\x00') || hasControl value then
    .error "invalid remote file name"
  else .ok ()

/-! ### Requests -/

inductive RemoteFileRequest where
  | listShares
  | watchChanges (shareId epoch : String) (afterSequence : UInt64)
  | stat (shareId relativePath : String)
  | move (shareId relativePath destinationPath : String) (overwrite : Bool)
      (expectedRevision : String)
  | conditionalDelete (shareId relativePath expectedRevision : String) (recursive : Bool)
  | readRange (shareId relativePath : String) (offset : UInt64) (length : UInt32)
      (revision : String)
  | conditionalUpload (shareId relativePath name : String) (size : UInt64)
      (expectedRevision : String)
  | listDirectory (shareId relativePath : String) (cursor : Option String) (limit : UInt32)
      (search : Option String) (sortKey : RemoteFileSortKey)
      (sortDirection : RemoteFileSortDirection)
  | createDirectory (shareId relativePath name : String)
  | rename (shareId relativePath newName : String)
  | delete (shareId relativePath : String)
  | download (shareId relativePath : String)
  | thumbnail (shareId relativePath : String) (maxDimension : UInt32)
  | upload (shareId relativePath name : String) (size : UInt64) (overwrite : Bool)
      (expectedModifiedAtMs : Option Int64)
deriving Repr, DecidableEq

/-- A text of a directory query: bounded and free of control characters. -/
def badQueryText (maximum : Nat) (value : Option String) : Bool :=
  value.any fun text => text.utf8ByteSize > maximum || hasControl text

def RemoteFileRequest.validate (limits : Limits) : RemoteFileRequest → Except String Unit
  | .listShares => .ok ()
  | .watchChanges shareId epoch _ => do
      validateShareId shareId
      if epoch.utf8ByteSize > 64 || hasControl epoch then throw "invalid change epoch"
  | .stat shareId relativePath => do
      validateShareId shareId
      validateRelativePath relativePath
  | .conditionalDelete shareId relativePath expectedRevision _ => do
      validateShareId shareId
      validateRelativePath relativePath
      if relativePath.isEmpty || expectedRevision.isEmpty
          || expectedRevision.utf8ByteSize > 128 then
        throw "invalid conditional delete"
  | .move shareId relativePath destinationPath _ expectedRevision => do
      validateShareId shareId
      validateRelativePath relativePath
      validateRelativePath destinationPath
      if expectedRevision.isEmpty || expectedRevision.utf8ByteSize > 128 then
        throw "invalid move revision"
      if relativePath.isEmpty || destinationPath.isEmpty then
        throw "cannot move a shared root"
  | .readRange shareId relativePath offset length revision => do
      validateShareId shareId
      validateRelativePath relativePath
      -- `offset.checked_add(length)` overflows
      if length = 0 || length > maxRangeBytes || offset.toNat + length.toNat ≥ 2 ^ 64
          || revision.isEmpty || revision.utf8ByteSize > 128 then
        throw "invalid remote file range"
  | .conditionalUpload shareId relativePath name size expectedRevision => do
      validateShareId shareId
      validateRelativePath relativePath
      validateFileName name
      if size > limits.maxContentSize || expectedRevision.utf8ByteSize > 128 then
        throw "invalid conditional upload"
  | .listDirectory shareId relativePath cursor limit search _ _ => do
      validateShareId shareId
      validateRelativePath relativePath
      if limit > maxDirectoryPageSize || badQueryText 1024 cursor || badQueryText 512 search then
        throw "invalid remote directory query"
  | .createDirectory shareId relativePath name | .upload shareId relativePath name _ _ _ => do
      validateShareId shareId
      validateRelativePath relativePath
      validateFileName name
  | .rename shareId relativePath newName => do
      validateShareId shareId
      validateRelativePath relativePath
      validateFileName newName
  | .delete shareId relativePath | .download shareId relativePath => do
      validateShareId shareId
      validateRelativePath relativePath
  | .thumbnail shareId relativePath maxDimension => do
      validateShareId shareId
      validateRelativePath relativePath
      if maxDimension < 16 || maxDimension > 4096 then throw "invalid thumbnail dimensions"

/-! ### Responses -/

structure RemoteFileResponse where
  ok : Bool
  error : Option RemoteFileError
  shares : List RemoteFileShare := []
  entries : List RemoteFileEntry := []
  nextCursor : Option String := none
  entry : Option RemoteFileEntry := none
  thumbnailSize : UInt64 := 0
  thumbnailMediaType : Option String := none
  revision : String := ""
  rangeData : Bytes := []
  changeEpoch : String := ""
  changeSequence : UInt64 := 0
  changedDirectories : List String := []
  changeReset : Bool := false
deriving Repr, DecidableEq

namespace RemoteFileResponse

def success : RemoteFileResponse where
  ok := true
  error := none

/-- The message is cut back to a character boundary within 8 KiB. -/
def failure (code : RemoteFileErrorCode) (message : String) : RemoteFileResponse where
  ok := false
  error := some ⟨code, truncateUtf8 message (8 * 1024)⟩

def fromError (error : RemoteFileError) : RemoteFileResponse := failure error.code error.message

def validateShare (share : RemoteFileShare) : Except String Unit := do
  validateShareId share.id
  if share.name.isEmpty || share.name.utf8ByteSize > 255 then throw "invalid remote file share"

def validateEntry (limits : Limits) (entry : RemoteFileEntry) : Except String Unit := do
  validateFileName entry.name
  validateRelativePath entry.relativePath
  if entry.size > limits.maxContentSize then
    throw "remote file entry exceeds the content limit"
  if entry.revision.utf8ByteSize > 128 then throw "invalid remote file revision"

def validate (limits : Limits) (response : RemoteFileResponse) : Except String Unit := do
  if response.ok = response.error.isSome
      || response.revision.utf8ByteSize > 128
      || response.rangeData.length > maxRangeBytes.toNat
      || response.changeEpoch.utf8ByteSize > 64
      || response.changedDirectories.length > 200
      || (response.changedDirectories.any fun path => !(validateRelativePath path).isOk)
      || (response.error.any fun error => error.message.utf8ByteSize > 8 * 1024)
      || response.shares.length > 128
      || response.entries.length > maxDirectoryPageSize.toNat
      || badQueryText 1024 response.nextCursor
      || response.thumbnailSize > limits.maxThumbnailSize
      || decide (response.thumbnailSize = 0) != response.thumbnailMediaType.isNone
      || (response.thumbnailMediaType.any fun mediaType => mediaType.utf8ByteSize > 256) then
    throw "invalid remote file response"
  response.shares.forM validateShare
  (response.entries ++ response.entry.toList).forM (validateEntry limits)

end RemoteFileResponse

end ArcRelay.RemoteFiles
