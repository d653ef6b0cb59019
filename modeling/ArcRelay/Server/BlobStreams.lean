/-
Module: ArcRelay.Server.BlobStreams
Purpose: The two streams that carry blobs in chunks: a download from the blob store, resumed at an
  offset, and an upload into the clipboard upload store.
Trusted boundary: framing and protobuf of the messages; a stream is the list of the messages it
  delivers before it fails, and the first send that fails ends the handler.  `MAX_BLOB_CHUNK_SIZE`
  and SHA-256 are parameters.
-/
import ArcRelay.Library.ChunkStreams
import ArcRelay.Server.BlobStore
import ArcRelay.Server.ClipboardUploads
import ArcRelay.Server.Status

namespace ArcRelay

/-! ### Downloads

`usize` is 64 bits wide, so an offset on the wire and an index are the same number. -/

structure BlobStreamOpen where
  transferId : UInt64
  ticket : Bytes
  offset : Nat
deriving Repr, DecidableEq

structure BlobStreamHeader where
  status : Status
  blob : Option BlobRef
  acceptedOffset : Nat
  chunkSize : Nat
deriving Repr, DecidableEq

structure BlobStreamChunk where
  transferId : UInt64
  offset : Nat
  data : Bytes
  endOfBlob : Bool
deriving Repr, DecidableEq

def BlobStreamChunk.piece (chunk : BlobStreamChunk) : Piece UInt8 :=
  ⟨chunk.offset, chunk.data, chunk.endOfBlob⟩

inductive BlobStreamMessage where
  | header (header : BlobStreamHeader)
  | chunk (chunk : BlobStreamChunk)
deriving Repr, DecidableEq

/-- The `while` loop.  Every round sends a byte at least, so as many rounds as there are bytes are
enough. -/
def blobChunkRounds (maxBlobChunkSize : Nat) (transferId : UInt64) (bytes : Bytes) :
    Nat → Nat → List BlobStreamChunk
  | 0, _ => []
  | rounds + 1, chunkOffset =>
      if chunkOffset < bytes.length then
        let chunkEnd := min (chunkOffset + maxBlobChunkSize) bytes.length
        { transferId := transferId
          offset := chunkOffset
          data := (bytes.take chunkEnd).drop chunkOffset
          endOfBlob := chunkEnd = bytes.length } ::
          blobChunkRounds maxBlobChunkSize transferId bytes rounds chunkEnd
      else []

/-- What is sent after the header that accepts an offset. -/
def blobChunks (maxBlobChunkSize : Nat) (transferId : UInt64) (bytes : Bytes) (offset : Nat) :
    List BlobStreamChunk :=
  if offset = bytes.length then [⟨transferId, offset, [], true⟩]
  else blobChunkRounds maxBlobChunkSize transferId bytes (bytes.length - offset) offset

/-- `handle_blob_stream` once the request is read: the messages it sends and the blob store
afterwards. -/
def handleBlobStream (maxBlobChunkSize : Nat) (blobStore : BlobStoreInner) (blobOwner : Bytes)
    (request : BlobStreamOpen) (pruneAt checkAt accessAt : Instant) :
    List BlobStreamMessage × BlobStoreInner :=
  match BlobStore.redeem blobStore blobOwner request.transferId request.ticket pruneAt checkAt
      accessAt with
  | (.error message, after) =>
      ([.header ⟨status .unauthenticated message "", none, 0, maxBlobChunkSize⟩], after)
  | (.ok redeemed, after) =>
      if request.offset ≤ redeemed.bytes.length then
        (.header ⟨okStatus, some redeemed.reference, request.offset, maxBlobChunkSize⟩ ::
          (blobChunks maxBlobChunkSize request.transferId redeemed.bytes request.offset).map .chunk,
          after)
      else
        ([.header ⟨status .invalidArgument "blob offset is outside the payload" "",
          some redeemed.reference, 0, maxBlobChunkSize⟩], after)

/-! ### Uploads -/

structure ClipboardBlobUploadOpen where
  uploadId : Bytes
  size : Nat
  mediaType : String
  sha256 : Bytes
deriving Repr, DecidableEq

structure ClipboardBlobUploadHeader where
  status : Status
  uploadId : Bytes
  chunkSize : Nat
deriving Repr, DecidableEq

structure ClipboardBlobUploadChunk where
  uploadId : Bytes
  offset : Nat
  data : Bytes
  endOfUpload : Bool
deriving Repr, DecidableEq

variable (chunk : ClipboardBlobUploadChunk)

def ClipboardBlobUploadChunk.piece : Piece UInt8 :=
  ⟨chunk.offset, chunk.data, chunk.endOfUpload⟩

@[simp] theorem ClipboardBlobUploadChunk.piece_offset :
    chunk.piece.offset = chunk.offset := rfl

@[simp] theorem ClipboardBlobUploadChunk.piece_data :
    chunk.piece.data = chunk.data := rfl

@[simp] theorem ClipboardBlobUploadChunk.piece_final :
    chunk.piece.final = chunk.endOfUpload := rfl

structure ClipboardBlobUploadResult where
  status : Status
  uploadId : Bytes
  receivedSize : Nat
  sha256 : Bytes
deriving Repr, DecidableEq

inductive ClipboardBlobUploadMessage where
  | header (header : ClipboardBlobUploadHeader)
  | result (result : ClipboardBlobUploadResult)
deriving Repr, DecidableEq

def maxUploadBytes : Nat := 20 * 1024 * 1024

/-- The checks on the first message. -/
def ClipboardBlobUploadOpen.accepted (opened : ClipboardBlobUploadOpen) : Bool :=
  !(decide (opened.uploadId.length ≠ 32) || decide (opened.sha256.length ≠ 32) ||
    decide (opened.uploadId ≠ opened.sha256) || decide (opened.size = 0) ||
    decide (maxUploadBytes < opened.size) ||
    decide (opened.mediaType ∉ ClipboardUploadStore.mediaTypes))

/-- The receive loop, with the bytes received so far. -/
def receiveUpload (uploadId : Bytes) (expectedSize : Nat) :
    Bytes → List ClipboardBlobUploadChunk → Except String Bytes
  | _, [] => .error "stream ended"
  | bytes, chunk :: chunks =>
      if chunk.uploadId ≠ uploadId ∨ chunk.offset ≠ bytes.length then
        .error "invalid clipboard blob upload chunk"
      else if expectedSize < saturatingAdd bytes.length chunk.data.length then
        .error "clipboard blob upload exceeds declared size"
      else if chunk.endOfUpload then .ok (bytes ++ chunk.data)
      else receiveUpload uploadId expectedSize (bytes ++ chunk.data) chunks

/-- The bytes handed to `uploads.insert`, if any are. -/
def uploadPassed (uploadId : Bytes) (expectedSize : Nat) (chunks : List ClipboardBlobUploadChunk) :
    Option Bytes :=
  match receiveUpload uploadId expectedSize [] chunks with
  | .error _ => none
  | .ok bytes => if bytes.length = expectedSize then some bytes else none

/-- What a handled upload leaves behind. -/
structure UploadServed where
  sent : List ClipboardBlobUploadMessage
  result : Except String Unit
  uploads : ClipboardUploadStoreInner

/-- `handle_clipboard_blob_upload` once the first message is read.  `uploads` is the store when the
last chunk has come. -/
def handleClipboardBlobUpload (sha256 : Bytes → Bytes) (maxBlobChunkSize : Nat)
    (uploads : ClipboardUploadStoreInner) (opened : ClipboardBlobUploadOpen)
    (chunks : List ClipboardBlobUploadChunk) (pruneAt storedAt : Instant) : UploadServed :=
  if opened.accepted = false then
    { sent := [.header ⟨status .invalidArgument "invalid clipboard blob upload" "", opened.uploadId,
        maxBlobChunkSize⟩]
      result := .ok ()
      uploads := uploads }
  else
    let header := .header ⟨okStatus, opened.uploadId, maxBlobChunkSize⟩
    match receiveUpload opened.uploadId opened.size [] chunks with
    | .error failure => { sent := [header], result := .error failure, uploads := uploads }
    | .ok bytes =>
        let (result, uploads) :=
          if bytes.length = opened.size then
            ClipboardUploadStore.insert sha256 uploads opened.uploadId bytes opened.sha256
              opened.mediaType pruneAt storedAt
          else (.error "clipboard blob upload ended early", uploads)
        let reply : Status := match result with
          | .ok () => okStatus
          | .error message => status .invalidArgument message ""
        { sent := [header, .result ⟨reply, opened.uploadId, bytes.length, opened.sha256⟩]
          result := .ok ()
          uploads := uploads }

end ArcRelay
