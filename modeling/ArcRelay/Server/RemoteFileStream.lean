/-
Module: ArcRelay.Server.RemoteFileStream
Purpose: The handler of a remote-file stream as a program over the provider, the stream and the
  file system.
Trusted boundary: what the provider, the stream and the file system answer; framing and protobuf
  of the messages
-/
import ArcRelay.Library.Program
import ArcRelay.Server.RemoteFiles

namespace ArcRelay.RemoteFiles

/-! ### The world of the handler -/

/-- `PathBuf`, by components from the root. -/
abbrev Path := List String

/-- `Path::parent`. -/
def Path.parent : Path → Option Path
  | [] => none
  | path => some path.dropLast

inductive IoErrorKind where
  | permissionDenied | alreadyExists | other
deriving Repr, DecidableEq

structure IoError where
  kind : IoErrorKind
  text : String
deriving Repr, DecidableEq

/-- The errors that end the stream without a response. -/
inductive ProtocolError where
  | io (error : IoError)
  | remoteFile (message : String)
  | other (message : String)
deriving Repr, DecidableEq

structure RemoteFileDownload where
  path : Path
  entry : RemoteFileEntry
deriving Repr, DecidableEq

structure RemoteFileUpload where
  destination : Path
  entry : RemoteFileEntry
  overwrite : Bool
  expectedModifiedAtMs : Option Int64
deriving Repr, DecidableEq

/-- The methods of `RemoteFileProvider` with their arguments. -/
inductive ProviderCall where
  | watchChanges (shareId epoch : String) (afterSequence : UInt64)
  | stat (shareId path : String)
  | moveEntry (shareId source destination : String) (overwrite : Bool) (expected : String)
  | conditionalDelete (shareId path expected : String) (recursive : Bool)
  | readRange (shareId path : String) (offset : UInt64) (length : UInt32) (revision : String)
  | commitSystemUpload (shareId path name : String) (temporary : Path) (expected : String)
  | listShares
  | listDirectory (shareId relativePath : String) (cursor : Option String) (limit : UInt32)
      (search : Option String) (sortKey : RemoteFileSortKey)
      (sortDirection : RemoteFileSortDirection)
  | createDirectory (shareId relativePath name : String)
  | rename (shareId relativePath newName : String)
  | delete (shareId relativePath : String)
  | prepareDownload (shareId relativePath : String)
  | prepareThumbnail (shareId relativePath : String) (maxDimension : UInt32)
  | prepareUpload (shareId relativePath name : String) (size : UInt64) (overwrite : Bool)
      (expectedModifiedAtMs : Option Int64)
deriving Repr, DecidableEq

def ProviderCall.Value : ProviderCall → Type
  | .watchChanges .. => String × UInt64 × List String × Bool
  | .stat .. => RemoteFileEntry × String
  | .moveEntry .. => RemoteFileEntry
  | .conditionalDelete .. => Unit
  | .readRange .. => Bytes
  | .commitSystemUpload .. => RemoteFileEntry × String
  | .listShares => List RemoteFileShare
  | .listDirectory .. => RemoteFileDirectoryPage
  | .createDirectory .. => RemoteFileEntry
  | .rename .. => RemoteFileEntry
  | .delete .. => Unit
  | .prepareDownload .. => RemoteFileDownload
  | .prepareThumbnail .. => Option RemoteFileThumbnail
  | .prepareUpload .. => RemoteFileUpload

/-- What the handler awaits. -/
inductive StreamCall where
  /-- Read a frame and decode the request in it. -/
  | readRequest
  /-- Write the frame of a response. -/
  | writeResponse (response : RemoteFileResponse)
  /-- `send.write_all`. -/
  | writeAll (bytes : Bytes)
  | provider (call : ProviderCall)
  | openFile (path : Path)
  /-- Copy the opened file to the client; the answer is the number of bytes. -/
  | copyToClient (path : Path)
  | newUuid
  | createNew (path : Path)
  /-- Move at most `limit` bytes from the client to the end of the file; `0` at end of stream. -/
  | copyFromClient (path : Path) (limit : Nat)
  /-- Read one byte past the declared size, for thirty seconds; `none` when they pass. -/
  | readTrailing
  | flush (path : Path)
  | syncAll (path : Path)
  /-- The milliseconds since the epoch at which the file was modified, where they are known. -/
  | modifiedAt (path : Path)
  | renameFile (source destination : Path)
  | hardLink (source destination : Path)
  | removeFile (path : Path)
deriving Repr, DecidableEq

def StreamCall.Answer : StreamCall → Type
  | .readRequest => Except ProtocolError RemoteFileRequest
  | .writeResponse _ => Except ProtocolError Unit
  | .writeAll _ => Except IoError Unit
  | .provider call => RemoteFileResult call.Value
  | .openFile _ => Except IoError Unit
  | .copyToClient _ => Except IoError Nat
  | .newUuid => String
  | .createNew _ => Except IoError Unit
  | .copyFromClient _ _ => Except IoError Nat
  | .readTrailing => Option (Except IoError Nat)
  | .flush _ => Except IoError Unit
  | .syncAll _ => Except IoError Unit
  | .modifiedAt _ => Except IoError (Option Nat)
  | .renameFile _ _ => Except IoError Unit
  | .hardLink _ _ => Except IoError Unit
  | .removeFile _ => Except IoError Unit

abbrev StreamProgram := Program StreamCall StreamCall.Answer

/-- A part of the handler that ends the stream when it fails. -/
abbrev Serving := ExceptT ProtocolError StreamProgram

/-- A part of an upload whose failure is answered to the client. -/
abbrev Receiving := ExceptT RemoteFileError StreamProgram

/-! ### Calls -/

def await (call : StreamCall) : StreamProgram call.Answer := Program.ask call

/-- `.await.map_err(failure)?`. -/
def attempt {Failure Error Value : Type} (call : StreamProgram (Except Failure Value))
    (failure : Failure → Error) : ExceptT Error StreamProgram Value :=
  ExceptT.mk do
    match ← call with
    | .ok value => return .ok value
    | .error error => return .error (failure error)

/-- A provider's method; the handler decides what to do with its failure. -/
def callProvider (call : ProviderCall) : Serving (RemoteFileResult call.Value) :=
  ExceptT.lift (await (.provider call))

/-- `?` on a validation, whose message becomes a codec error. -/
def validated : Except String Unit → Serving Unit
  | .error message => throw (.remoteFile message)
  | .ok () => return ()

variable (limits : Limits)

/-- `write_remote_message`: a response that does not validate is not written. -/
def writeRemoteMessage (response : RemoteFileResponse) : Serving Unit := do
  validated (response.validate limits)
  attempt (await (.writeResponse response)) id

/-- `read_remote_message`, with the validation at the end of `decode_wire`. -/
def readRemoteMessage : Serving RemoteFileRequest := do
  let request ← attempt (await .readRequest) id
  validated (request.validate limits)
  return request

def denied (message : String) : RemoteFileResponse := .failure .permissionDenied message

def listDenied : RemoteFileResponse := denied "remote file access is not permitted"

def readDenied : RemoteFileResponse := denied "read access to this share is not permitted"

def writeDenied : RemoteFileResponse := denied "write access to this share is not permitted"

/-! ### Uploads -/

/-- `tokio::io::copy` from the stream, limited to what is left of the declared size, into the
temporary file; the answer is the number of bytes received. -/
def copyBody (temporary : Path) (left received : Nat) : StreamProgram (Except IoError Nat) :=
  if left = 0 then return .ok received
  else do
    match ← await (.copyFromClient temporary left) with
    | .error error => return .error error
    | .ok moved =>
        if moved = 0 then return .ok received
        else copyBody temporary (left - moved) (received + moved)
termination_by left

def createFailure (error : IoError) : RemoteFileError :=
  if error.kind = .permissionDenied then
    ⟨.permissionDenied, "upload failed: target directory is read-only or the current user " ++
      "lacks write permission"⟩
  else ⟨.unavailable, "failed to create upload file: " ++ error.text⟩

/-- A conditional upload that received its declared size must end there. -/
def refuseTrailing (expectedRevision : Option String) (received : Nat) (size : UInt64) :
    Receiving Unit := do
  if expectedRevision.isSome && received = size.toNat then
    match ← ExceptT.lift (await .readTrailing) with
    | none => throw ⟨.unavailable, "upload did not finish"⟩
    | some (.error error) => throw ⟨.unavailable, error.text⟩
    | some (.ok trailing) =>
        if trailing ≠ 0 then throw ⟨.invalidArgument, "upload exceeds its declared size"⟩

/-- Receive the declared number of bytes into the temporary file. -/
def receiveBody (temporary : Path) (size : UInt64) (expectedRevision : Option String) :
    Receiving Unit := do
  attempt (await (.createNew temporary)) createFailure
  let received ← attempt (copyBody temporary size.toNat 0) fun error =>
    ⟨.unavailable, "upload stream failed: " ++ error.text⟩
  refuseTrailing expectedRevision received size
  attempt (await (.flush temporary)) fun error =>
    ⟨.unavailable, "failed to flush upload: " ++ error.text⟩
  attempt (await (.syncAll temporary)) fun error =>
    ⟨.unavailable, "failed to synchronize upload: " ++ error.text⟩
  if received ≠ size.toNat then
    throw ⟨.unavailable, "upload ended early: expected " ++ toString size ++
      " bytes, received " ++ toString received⟩

/-- Milliseconds since the epoch as the handler compares them. -/
def actualModified (milliseconds : Option Nat) : Int64 :=
  Int64.ofNat (min (milliseconds.getD 0) i64Max.toNat)

def checkUnmodified (upload : RemoteFileUpload) : Receiving Unit := do
  match upload.expectedModifiedAtMs with
  | none => return ()
  | some expected =>
      let modified ← attempt (await (.modifiedAt upload.destination)) fun _ =>
        ⟨.notFound, "the remote file was deleted; the local edited copy was retained"⟩
      if actualModified modified ≠ expected then
        throw ⟨.conflict,
          "the remote file was modified elsewhere; the local edited copy was retained"⟩

def commitFailure (error : IoError) : RemoteFileError :=
  ⟨if error.kind = .alreadyExists then .conflict else .unavailable,
    "failed to commit uploaded file: " ++ error.text⟩

/-- Move the temporary file to its place: over the old file, or only where there is none. -/
def publish (upload : RemoteFileUpload) (temporary : Path) : Receiving Unit := do
  if upload.overwrite then
    attempt (await (.renameFile temporary upload.destination)) commitFailure
  else
    attempt (await (.hardLink temporary upload.destination)) commitFailure
    let _ ← ExceptT.lift (await (.removeFile temporary))

/-- The block of the upload whose failure removes the temporary file.  A conditional upload is
committed by the provider and returns the entry and its revision. -/
def storeUpload (shareId relativePath name : String) (size : UInt64)
    (expectedRevision : Option String) (upload : RemoteFileUpload) (temporary : Path) :
    Receiving (Option (RemoteFileEntry × String)) := do
  receiveBody temporary size expectedRevision
  match expectedRevision with
  | some expected =>
      let committed ← attempt
        (await (.provider (.commitSystemUpload shareId relativePath name temporary expected))) id
      return some committed
  | none =>
      checkUnmodified upload
      publish upload temporary
      return none

def uploadResponse (upload : RemoteFileUpload) :
    RemoteFileResult (Option (RemoteFileEntry × String)) → RemoteFileResponse
  | .ok (some (entry, revision)) => { RemoteFileResponse.success with entry := some entry, revision }
  | .ok none => { RemoteFileResponse.success with entry := some upload.entry }
  | .error error => .fromError error

/-- A failed upload leaves no temporary file; whether the removal succeeds is not looked at. -/
def removeFailed {Value : Type} (temporary : Path) (result : RemoteFileResult Value) :
    StreamProgram Unit :=
  if result.isOk then return ()
  else do
    let _ ← await (.removeFile temporary)

/-- The upload once its target is prepared. -/
def receiveUpload (shareId relativePath name : String) (size : UInt64)
    (expectedRevision : Option String) (upload : RemoteFileUpload) : Serving Unit := do
  writeRemoteMessage limits { RemoteFileResponse.success with entry := some upload.entry }
  match Path.parent upload.destination with
  | none => throw (.other "invalid upload target directory")
  | some parent =>
      let uuid : String ← ExceptT.lift (await .newUuid)
      let temporary := parent ++ [".arcrelay-upload-" ++ uuid]
      let result ← ExceptT.lift
        (storeUpload shareId relativePath name size expectedRevision upload temporary).run
      ExceptT.lift (removeFailed temporary result)
      writeRemoteMessage limits (uploadResponse upload result)

def serveUpload (access : RemoteFileAccess) (shareId relativePath name : String)
    (size : UInt64) (overwrite : Bool) (expectedModifiedAtMs : Option Int64)
    (expectedRevision : Option String) : Serving Unit := do
  if !access.canWrite shareId then
    writeRemoteMessage limits writeDenied
  else if size > limits.maxContentSize then
    writeRemoteMessage limits (.failure .resourceExhausted "remote file size exceeds the limit")
  else
    match ← callProvider
      (.prepareUpload shareId relativePath name size overwrite expectedModifiedAtMs) with
    | .error error => writeRemoteMessage limits (.fromError error)
    | .ok upload =>
        receiveUpload limits shareId relativePath name size expectedRevision upload

/-! ### Downloads and thumbnails -/

def sendDownload (download : RemoteFileDownload) : Serving Unit := do
  if download.entry.kind ≠ .file then
    writeRemoteMessage limits (.failure .failedPrecondition "only files can be downloaded")
  else
    match ← ExceptT.lift (await (.openFile download.path)) with
    | .error error =>
        writeRemoteMessage limits
          (.failure .unavailable ("failed to open remote file: " ++ error.text))
    | .ok () =>
        writeRemoteMessage limits { RemoteFileResponse.success with entry := some download.entry }
        let sent ← attempt (await (.copyToClient download.path)) ProtocolError.io
        if sent ≠ download.entry.size.toNat then
          throw (.other "remote file changed during download")

def sendThumbnail (thumbnail : RemoteFileThumbnail) : Serving Unit := do
  writeRemoteMessage limits
    { RemoteFileResponse.success with
      thumbnailSize := UInt64.ofNat thumbnail.bytes.length
      thumbnailMediaType := some thumbnail.mediaType }
  attempt (await (.writeAll thumbnail.bytes)) ProtocolError.io

/-! ### The handler -/

/-- The shares the peer may see, writable as far as it may write them. -/
def visibleShares (access : RemoteFileAccess) (shares : List RemoteFileShare) :
    List RemoteFileShare :=
  shares.filterMap fun share =>
    if access.canRead share.id || access.canWrite share.id then
      some { share with writable := share.writable && access.canWrite share.id }
    else none

def pageLimit (limit : UInt32) : UInt32 :=
  if limit = 0 then defaultDirectoryPageSize
  else max 1 (min limit maxDirectoryPageSize)

/-- One check, one call, one response: the shape most requests share. -/
def serveCall (allowed : Bool) (refused : RemoteFileResponse)
    (call : ProviderCall) (response : call.Value → RemoteFileResponse) : Serving Unit := do
  if !allowed then
    writeRemoteMessage limits refused
  else
    match ← callProvider call with
    | .ok value => writeRemoteMessage limits (response value)
    | .error error => writeRemoteMessage limits (.fromError error)

/-- The dispatch on the decoded request.  A conditional upload takes the path of an upload that
overwrites exactly when a revision is expected. -/
def serveRequest (access : RemoteFileAccess) : RemoteFileRequest → Serving Unit
  | .conditionalUpload shareId relativePath name size expectedRevision =>
      serveUpload limits access shareId relativePath name size (!expectedRevision.isEmpty) none
        (some expectedRevision)
  | .watchChanges shareId epoch afterSequence =>
      serveCall limits (access.canRead shareId) readDenied
        (.watchChanges shareId epoch afterSequence)
        fun (changeEpoch, changeSequence, changedDirectories, changeReset) =>
          { RemoteFileResponse.success with
            changeEpoch, changeSequence, changedDirectories, changeReset }
  | .stat shareId relativePath =>
      serveCall limits (access.canRead shareId) readDenied (.stat shareId relativePath)
        fun (entry, revision) =>
          { RemoteFileResponse.success with entry := some entry, revision }
  | .conditionalDelete shareId relativePath expectedRevision recursive =>
      serveCall limits (access.canWrite shareId) writeDenied
        (.conditionalDelete shareId relativePath expectedRevision recursive)
        fun _ => .success
  | .move shareId relativePath destinationPath overwrite expectedRevision =>
      serveCall limits (access.canWrite shareId) writeDenied
        (.moveEntry shareId relativePath destinationPath overwrite expectedRevision)
        fun entry => { RemoteFileResponse.success with entry := some entry }
  | .readRange shareId relativePath offset length revision =>
      serveCall limits (access.canRead shareId) readDenied
        (.readRange shareId relativePath offset length revision)
        fun rangeData => { RemoteFileResponse.success with rangeData, revision }
  | .listShares =>
      serveCall limits access.canListShares listDenied .listShares
        fun shares => { RemoteFileResponse.success with shares := visibleShares access shares }
  | .listDirectory shareId relativePath cursor limit search sortKey sortDirection =>
      serveCall limits (access.canRead shareId) readDenied
        (.listDirectory shareId relativePath cursor (pageLimit limit) search sortKey sortDirection)
        fun page =>
          { RemoteFileResponse.success with
            entries := page.entries, nextCursor := page.nextCursor }
  | .createDirectory shareId relativePath name =>
      serveCall limits (access.canWrite shareId) writeDenied
        (.createDirectory shareId relativePath name)
        fun entry => { RemoteFileResponse.success with entry := some entry }
  | .rename shareId relativePath newName =>
      serveCall limits (access.canWrite shareId) writeDenied
        (.rename shareId relativePath newName)
        fun entry => { RemoteFileResponse.success with entry := some entry }
  | .delete shareId relativePath =>
      serveCall limits (access.canWrite shareId) writeDenied (.delete shareId relativePath)
        fun _ => .success
  | .download shareId relativePath => do
      if !access.canRead shareId then
        writeRemoteMessage limits readDenied
      else
        match ← callProvider (.prepareDownload shareId relativePath) with
        | .error error => writeRemoteMessage limits (.fromError error)
        | .ok download => sendDownload limits download
  | .thumbnail shareId relativePath maxDimension => do
      if !access.canRead shareId then
        writeRemoteMessage limits readDenied
      else
        match ← callProvider (.prepareThumbnail shareId relativePath maxDimension) with
        | .error error => writeRemoteMessage limits (.fromError error)
        | .ok none =>
            writeRemoteMessage limits
              (.failure .notFound "no thumbnail is available for this file")
        | .ok (some thumbnail) => sendThumbnail limits thumbnail
  | .upload shareId relativePath name size overwrite expectedModifiedAtMs =>
      serveUpload limits access shareId relativePath name size overwrite expectedModifiedAtMs none

/-- `handle_remote_file_stream`; `available` says whether the host has a provider. -/
def handleRemoteFileStream (available : Bool) (access : RemoteFileAccess) :
    StreamProgram (Except ProtocolError Unit) :=
  ExceptT.run do
    let request ← readRemoteMessage limits
    if available then serveRequest limits access request
    else writeRemoteMessage limits (.failure .unavailable "remote files are unavailable")

end ArcRelay.RemoteFiles
