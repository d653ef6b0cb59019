/-
Module: ArcRelay.Server.ClipboardUploads
Purpose: The store in which clipboard blobs wait for the record that refers to them: insertion,
  lookup and expiry, and the system of all calls under one clock.
Trusted boundary: SHA-256 is a parameter; clock readings are arguments of each call.
-/
import ArcRelay.Library.HashMap
import ArcRelay.Library.Runtime
import ArcRelay.Library.Transitions

namespace ArcRelay

namespace ClipboardUploadStore

def maxBlobBytes : Nat := 20 * 1024 * 1024
def maxTotalBytes : Nat := 64 * 1024 * 1024
def uploadTtl : Nat := seconds (2 * 60)

/-- The media types that can be uploaded. -/
def mediaTypes : List String := ["image/png", "text/html; charset=utf-8", "text/rtf"]

end ClipboardUploadStore

open ClipboardUploadStore

structure ClipboardUpload where
  bytes : Bytes
  sha256 : Bytes
  createdAt : Instant
deriving Repr, DecidableEq

/-- `now.duration_since(upload.created_at) >= UPLOAD_TTL`. -/
def ClipboardUpload.expired (upload : ClipboardUpload) (now : Instant) : Bool :=
  decide (uploadTtl ≤ now - upload.createdAt)

/-- The state behind the store's mutex.

`saturated` is a ghost: it is set when a saturating operation of the source would clip, and no
operation reads it. -/
structure ClipboardUploadStoreInner where
  uploads : HashMap (Bytes × String) ClipboardUpload := ∅
  totalBytes : Nat := 0
  saturated : Bool := false

namespace ClipboardUploadStoreInner

variable (inner : ClipboardUploadStoreInner)

/-- One round of the loop in `prune`. -/
def remove (key : Bytes × String) : ClipboardUploadStoreInner :=
  match inner.uploads.lookup key with
  | none => inner
  | some upload =>
      { uploads := inner.uploads.erase key
        totalBytes := inner.totalBytes - upload.bytes.length
        saturated := inner.saturated || decide (inner.totalBytes < upload.bytes.length) }

def expiredKeys (now : Instant) : List (Bytes × String) :=
  (inner.uploads.entries.filter (·.2.expired now)).map (·.1)

def prune (now : Instant) : ClipboardUploadStoreInner :=
  (inner.expiredKeys now).foldl remove inner

end ClipboardUploadStoreInner

namespace ClipboardUploadStore

/-- The part of `insert` under the lock, with the clock readings of `prune` and of the new
upload. -/
def insertLocked (inner : ClipboardUploadStoreInner) (key : Bytes × String) (bytes digest : Bytes)
    (pruneAt storedAt : Instant) : Except String Unit × ClipboardUploadStoreInner :=
  let inner := inner.prune pruneAt
  let previous := ((inner.uploads.lookup key).map (·.bytes.length)).getD 0
  let nextTotal := saturatingAdd (inner.totalBytes - previous) bytes.length
  if maxTotalBytes < nextTotal then (.error "clipboard blob upload cache is full", inner)
  else
    (.ok (),
      { uploads := inner.uploads.insert key ⟨bytes, digest, storedAt⟩
        totalBytes := nextTotal
        saturated := inner.saturated || decide (inner.totalBytes < previous) ||
          decide (usizeMax < inner.totalBytes - previous + bytes.length) })

def insert (sha256 : Bytes → Bytes) (inner : ClipboardUploadStoreInner)
    (uploadId bytes expectedSha256 : Bytes) (mediaType : String) (pruneAt storedAt : Instant) :
    Except String Unit × ClipboardUploadStoreInner :=
  if uploadId.length ≠ 32 ∨ bytes = [] ∨ maxBlobBytes < bytes.length ∨ mediaType ∉ mediaTypes then
    (.error "invalid clipboard blob upload", inner)
  else if expectedSha256.length ≠ 32 ∨ sha256 bytes ≠ expectedSha256 then
    (.error "clipboard blob digest mismatch", inner)
  else insertLocked inner (uploadId, mediaType) bytes (sha256 bytes) pruneAt storedAt

def get (inner : ClipboardUploadStoreInner) (uploadId expectedSha256 : Bytes)
    (expectedMediaType : String) (now : Instant) : Option Bytes × ClipboardUploadStoreInner :=
  let inner := inner.prune now
  (((inner.uploads.lookup (uploadId, expectedMediaType)).filter
    (·.sha256 = expectedSha256)).map (·.bytes), inner)

end ClipboardUploadStore

/-! ### All calls under one clock -/

/-- The arguments of one `insert` and the clock as it reads it. -/
structure UploadInsert where
  uploadId : Bytes
  bytes : Bytes
  expectedSha256 : Bytes
  mediaType : String
  pruneAt : Instant
  storedAt : Instant

namespace UploadInsert

variable (call : UploadInsert)

def key : Bytes × String := (call.uploadId, call.mediaType)

/-- What a successful call stores. -/
def upload (sha256 : Bytes → Bytes) : ClipboardUpload :=
  ⟨call.bytes, sha256 call.bytes, call.storedAt⟩

/-- The call in a state of the store. -/
def run (sha256 : Bytes → Bytes) (inner : ClipboardUploadStoreInner) :
    Except String Unit × ClipboardUploadStoreInner :=
  insert sha256 inner call.uploadId call.bytes call.expectedSha256 call.mediaType call.pruneAt
    call.storedAt

end UploadInsert

/-- A call together with the answer to it. -/
inductive UploadEvent where
  | insert (call : UploadInsert) (answer : Except String Unit)
  | get (uploadId expectedSha256 : Bytes) (expectedMediaType : String) (now : Instant)

/-- The store and the last reading of the clock. -/
structure UploadState where
  store : ClipboardUploadStoreInner := {}
  clock : Instant := 0

/-- One call.  The mutex makes calls atomic; the clock never goes back. -/
def UploadState.step (sha256 : Bytes → Bytes) (state : UploadState) :
    UploadEvent → Option UploadState
  | .insert call answer =>
      if state.clock ≤ call.pruneAt ∧ call.pruneAt ≤ call.storedAt ∧
          (call.run sha256 state.store).1 = answer then
        some ⟨(call.run sha256 state.store).2, call.storedAt⟩
      else none
  | .get uploadId expectedSha256 expectedMediaType now =>
      if state.clock ≤ now then
        some ⟨(get state.store uploadId expectedSha256 expectedMediaType now).2, now⟩
      else none

def uploadSystem (sha256 : Bytes → Bytes) : TransitionSystem UploadState UploadEvent where
  start := {}
  step := UploadState.step sha256

end ArcRelay
