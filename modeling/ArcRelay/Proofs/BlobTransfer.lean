/-
Module: ArcRelay.Proofs.BlobTransfer
Purpose: Chunks sent by a download continue one another to the end of the blob, the upload loop
  accepts exactly such chunks, and so a blob can be sent back the way it came.
Trusted boundary: none
-/
import ArcRelay.Proofs.BlobStoreInvariant
import ArcRelay.Server.BlobStreams

namespace ArcRelay

open ClipboardUploadStore

/-!
`Delivers` stands between the two loops.  The sender produces pieces that deliver the rest of the
blob; the receiver accepts pieces exactly if they deliver as many bytes as were declared.  Neither
proof looks at the other loop.
-/

/-! ### The sender -/

variable {maxBlobChunkSize : Nat}

/-- One round of the sender and the rounds after it. -/
theorem blobChunkRounds_delivers (positive : 0 < maxBlobChunkSize) (transferId : UInt64)
    (bytes : Bytes) {rounds chunkOffset : Nat} (unfinished : chunkOffset < bytes.length)
    (enough : bytes.length - chunkOffset ≤ rounds) :
    Delivers chunkOffset
        ((blobChunkRounds maxBlobChunkSize transferId bytes rounds chunkOffset).map
          BlobStreamChunk.piece)
        (bytes.drop chunkOffset) ∧
      ∀ chunk ∈ blobChunkRounds maxBlobChunkSize transferId bytes rounds chunkOffset,
        chunk.data.length ≤ maxBlobChunkSize := by
  induction rounds generalizing chunkOffset with
  | zero => omega
  | succ rounds ih =>
      rw [blobChunkRounds, if_pos unfinished]
      by_cases last : bytes.length ≤ chunkOffset + maxBlobChunkSize
      · -- The rest fits into one chunk.
        have none : blobChunkRounds maxBlobChunkSize transferId bytes rounds bytes.length = [] := by
          cases rounds with
          | zero => rfl
          | succ => rw [blobChunkRounds, if_neg (lt_irrefl _)]
        simp only [Nat.min_eq_right last, none, List.take_length, List.map_cons, List.map_nil]
        refine ⟨.last rfl (decide_eq_true trivial), fun chunk member => ?_⟩
        rw [List.mem_singleton.mp member]
        simp only [List.length_drop]
        omega
      · have within : chunkOffset + maxBlobChunkSize < bytes.length := Nat.not_le.mp last
        have size : ((bytes.take (chunkOffset + maxBlobChunkSize)).drop chunkOffset).length =
            maxBlobChunkSize := by
          rw [List.length_drop, List.length_take, Nat.min_eq_left within.le, Nat.add_sub_cancel_left]
        obtain ⟨delivers, bounded⟩ := ih within (by omega)
        simp only [Nat.min_eq_left within.le, List.map_cons]
        constructor
        · have joined : bytes.drop chunkOffset =
              (bytes.take (chunkOffset + maxBlobChunkSize)).drop chunkOffset ++
                bytes.drop (chunkOffset + maxBlobChunkSize) := by
            rw [← List.drop_append_of_le_length (by simp; omega), List.take_append_drop]
          rw [joined]
          refine .more rfl (decide_eq_false within.ne) ?_
          rw [BlobStreamChunk.piece, size]
          exact delivers
        · intro chunk member
          rcases List.mem_cons.mp member with rfl | member
          · exact size.le
          · exact bounded chunk member

variable {bytes : Bytes}

theorem blobChunks_delivers (positive : 0 < maxBlobChunkSize) (transferId : UInt64) {offset : Nat}
    (within : offset ≤ bytes.length) :
    Delivers offset
        ((blobChunks maxBlobChunkSize transferId bytes offset).map BlobStreamChunk.piece)
        (bytes.drop offset) ∧
      ∀ chunk ∈ blobChunks maxBlobChunkSize transferId bytes offset,
        chunk.data.length ≤ maxBlobChunkSize := by
  rw [blobChunks]
  by_cases whole : offset = bytes.length
  · rw [if_pos whole, List.drop_eq_nil_of_le whole.ge]
    exact ⟨.last rfl rfl, by simp⟩
  · rw [if_neg whole]
    exact blobChunkRounds_delivers positive transferId bytes (Nat.lt_of_le_of_ne within whole) le_rfl

/-- A ticket that is redeemed for an offset within the blob is answered with an accepting header and
the chunks from there. -/
theorem handleBlobStream_redeemed {blobStore after : BlobStoreInner} {blobOwner : Bytes}
    {request : BlobStreamOpen} {pruneAt checkAt accessAt : Instant} {redeemed : RedeemedBlob}
    (answered : BlobStore.redeem blobStore blobOwner request.transferId request.ticket pruneAt checkAt
      accessAt = (.ok redeemed, after)) (within : request.offset ≤ redeemed.bytes.length) :
    handleBlobStream maxBlobChunkSize blobStore blobOwner request pruneAt checkAt accessAt =
      (.header ⟨okStatus, some redeemed.reference, request.offset, maxBlobChunkSize⟩ ::
        (blobChunks maxBlobChunkSize request.transferId redeemed.bytes request.offset).map .chunk,
        after) := by
  rw [handleBlobStream, answered]
  exact if_pos within

/-- An accepting header is followed by the chunks of the redeemed blob from the accepted offset. -/
theorem handleBlobStream_accepted {blobStore : BlobStoreInner} {blobOwner : Bytes}
    {request : BlobStreamOpen} {pruneAt checkAt accessAt : Instant} {header : BlobStreamHeader}
    {rest : List BlobStreamMessage}
    (sent : (handleBlobStream maxBlobChunkSize blobStore blobOwner request pruneAt checkAt
      accessAt).1 = .header header :: rest) (accepted : header.status = okStatus) :
    ∃ redeemed, (BlobStore.redeem blobStore blobOwner request.transferId request.ticket pruneAt
        checkAt accessAt).1 = .ok redeemed ∧ request.offset ≤ redeemed.bytes.length ∧
      rest = (blobChunks maxBlobChunkSize request.transferId redeemed.bytes request.offset).map
        .chunk := by
  rw [handleBlobStream] at sent
  have refused : ∀ code message, code ≠ ErrorCode.ok → status code message "" ≠ okStatus := by
    intro code message different same
    exact different (congrArg Status.code same)
  generalize BlobStore.redeem blobStore blobOwner request.transferId request.ticket pruneAt checkAt
    accessAt = result at sent ⊢
  obtain ⟨answer, after⟩ := result
  cases answer with
  | error =>
      cases sent
      exact absurd accepted (refused _ _ (by decide))
  | ok redeemed =>
      by_cases within : request.offset ≤ redeemed.bytes.length
      · simp only [if_pos within] at sent
        cases sent
        exact ⟨redeemed, rfl, within, rfl⟩
      · simp only [if_neg within] at sent
        cases sent
        exact absurd accepted (refused _ _ (by decide))

/-! ### The receiver -/

variable {uploadId : Bytes} {expectedSize : Nat}
variable {chunks : List ClipboardBlobUploadChunk}

theorem receiveUpload_cons {chunk : ClipboardBlobUploadChunk} {received : Bytes} :
    receiveUpload uploadId expectedSize bytes (chunk :: chunks) = .ok received ↔
      chunk.uploadId = uploadId ∧ chunk.offset = bytes.length ∧
        saturatingAdd bytes.length chunk.data.length ≤ expectedSize ∧
        (if chunk.endOfUpload then .ok (bytes ++ chunk.data)
          else receiveUpload uploadId expectedSize (bytes ++ chunk.data) chunks) =
            .ok received := by
  rw [receiveUpload]
  by_cases invalid : chunk.uploadId ≠ uploadId ∨ chunk.offset ≠ bytes.length
  · rw [if_pos invalid]
    simp only [reduceCtorEq, false_iff]
    rintro ⟨same, placed, -⟩
    exact invalid.elim (absurd same) (absurd placed)
  · rw [if_neg invalid]
    simp only [not_or, not_not] at invalid
    by_cases large : expectedSize < saturatingAdd bytes.length chunk.data.length
    · rw [if_pos large]
      simp only [reduceCtorEq, false_iff]
      rintro ⟨-, -, small, -⟩
      exact absurd small (Nat.not_le.mpr large)
    · rw [if_neg large]
      exact ⟨fun rest => ⟨invalid.1, invalid.2, Nat.not_lt.mp large, rest⟩, fun ⟨_, _, _, rest⟩ => rest⟩

/-- What the loop returns was delivered by a beginning of the stream. -/
theorem delivers_of_receiveUpload {received : Bytes}
    (returned : receiveUpload uploadId expectedSize bytes chunks = .ok received) :
    ∃ taken rest items, chunks = taken ++ rest ∧ received = bytes ++ items ∧
      Delivers bytes.length (taken.map ClipboardBlobUploadChunk.piece) items ∧
      ∀ chunk ∈ taken, chunk.uploadId = uploadId := by
  induction chunks generalizing bytes with
  | nil => cases returned
  | cons chunk chunks ih =>
      obtain ⟨own, placed, -, rest⟩ := receiveUpload_cons.mp returned
      by_cases final : chunk.endOfUpload = true
      · rw [if_pos final, Except.ok.injEq] at rest
        exact ⟨[chunk], chunks, chunk.data, rfl, rest.symm, .last placed final, by simpa using own⟩
      · rw [if_neg final] at rest
        obtain ⟨taken, later, items, rfl, rfl, delivers, owned⟩ := ih rest
        rw [List.length_append] at delivers
        refine ⟨chunk :: taken, later, chunk.data ++ items, rfl, List.append_assoc _ _ _,
          .more placed (Bool.not_eq_true _ ▸ final) delivers, fun other member => ?_⟩
        rcases List.mem_cons.mp member with rfl | member
        · exact own
        · exact owned other member

/-- The loop returns what is delivered to it, unless that is more than was declared. -/
theorem receiveUpload_of_delivers {taken : List ClipboardBlobUploadChunk} {items : Bytes}
    (rest : List ClipboardBlobUploadChunk) (bytes : Bytes)
    (delivers : Delivers bytes.length (taken.map ClipboardBlobUploadChunk.piece) items)
    (owned : ∀ chunk ∈ taken, chunk.uploadId = uploadId)
    (within : bytes.length + items.length ≤ expectedSize) :
    receiveUpload uploadId expectedSize bytes (taken ++ rest) = .ok (bytes ++ items) := by
  induction taken generalizing bytes items with
  | nil => cases delivers
  | cons chunk taken ih =>
      have clipped : ∀ size, size ≤ expectedSize → min size usizeMax ≤ expectedSize :=
        fun _ small => (Nat.min_le_left _ _).trans small
      rw [List.cons_append, receiveUpload_cons]
      refine ⟨owned chunk (.head _), ?_⟩
      generalize pieces : (chunk :: taken).map ClipboardBlobUploadChunk.piece = list at delivers
      cases delivers with
      | last placed final =>
          obtain ⟨rfl, -⟩ := List.cons.inj pieces
          exact ⟨placed, clipped _ within, if_pos final⟩
      | more placed unfinished later =>
          cases pieces
          simp only [ClipboardBlobUploadChunk.piece_offset, ClipboardBlobUploadChunk.piece_data,
            ClipboardBlobUploadChunk.piece_final] at placed unfinished later within ⊢
          rw [List.length_append, ← Nat.add_assoc] at within
          rw [← List.length_append] at later within
          refine ⟨placed, clipped _ ?_, ?_⟩
          · rw [← List.length_append]
            exact Nat.le_of_add_right_le within
          · rw [unfinished, if_neg Bool.false_ne_true, ← List.append_assoc]
            exact ih _ later
              (fun other member => owned other (.tail _ member)) within

/-- The upload store is given bytes exactly if a beginning of the stream delivers them and they are
as many as declared. -/
theorem uploadPassed_iff :
    uploadPassed uploadId expectedSize chunks = some bytes ↔
      ∃ taken rest, chunks = taken ++ rest ∧
        Delivers 0 (taken.map ClipboardBlobUploadChunk.piece) bytes ∧
        (∀ chunk ∈ taken, chunk.uploadId = uploadId) ∧ bytes.length = expectedSize := by
  rw [uploadPassed]
  constructor
  · intro passed
    cases returned : receiveUpload uploadId expectedSize [] chunks with
    | error =>
        rw [returned] at passed
        cases passed
    | ok =>
        simp only [returned] at passed
        split at passed
        next size =>
          cases passed
          obtain ⟨taken, rest, items, split, rfl, delivers, owned⟩ :=
            delivers_of_receiveUpload returned
          exact ⟨taken, rest, split, delivers, owned, size⟩
        next => cases passed
  · rintro ⟨taken, rest, rfl, delivers, owned, rfl⟩
    have returned := receiveUpload_of_delivers rest [] delivers owned
      (by rw [List.length_nil, Nat.zero_add])
    simp only [returned, List.nil_append, if_true]

/-- An accepted upload stores what its stream delivers, and otherwise the upload store is left
alone. -/
theorem handleClipboardBlobUpload_uploads (sha256 : Bytes → Bytes) (maxBlobChunkSize : Nat)
    (uploads : ClipboardUploadStoreInner) (opened : ClipboardBlobUploadOpen)
    (chunks : List ClipboardBlobUploadChunk) (pruneAt storedAt : Instant) :
    (handleClipboardBlobUpload sha256 maxBlobChunkSize uploads opened chunks pruneAt
        storedAt).uploads =
      match opened.accepted, uploadPassed opened.uploadId opened.size chunks with
      | true, some bytes =>
          (insert sha256 uploads opened.uploadId bytes opened.sha256 opened.mediaType pruneAt
            storedAt).2
      | _, _ => uploads := by
  rw [handleClipboardBlobUpload, uploadPassed]
  cases accepted : opened.accepted with
  | false => rfl
  | true =>
      rw [if_neg (by decide)]
      cases returned : receiveUpload opened.uploadId opened.size [] chunks with
      | error => rfl
      | ok received =>
          by_cases size : received.length = opened.size
          · simp only [if_pos size]
          · simp only [if_neg size]

/-! ### There and back -/

/-- A downloaded chunk, sent as part of an upload. -/
def BlobStreamChunk.relabelled (uploadId : Bytes) (chunk : BlobStreamChunk) :
    ClipboardBlobUploadChunk :=
  ⟨uploadId, chunk.offset, chunk.data, chunk.endOfBlob⟩

theorem uploadPassed_relabelled (positive : 0 < maxBlobChunkSize) (uploadId : Bytes)
    (transferId : UInt64) (blob : Bytes) :
    uploadPassed uploadId blob.length
      ((blobChunks maxBlobChunkSize transferId blob 0).map (·.relabelled uploadId)) = some blob := by
  refine uploadPassed_iff.mpr ⟨_, [], (List.append_nil _).symm, ?_, ?_, rfl⟩
  · rw [List.map_map]
    exact (blobChunks_delivers positive transferId (Nat.zero_le _)).1
  · intro chunk member
    obtain ⟨_, -, rfl⟩ := List.mem_map.mp member
    rfl

/-- A redeemed ticket is answered with an accepting header if the offset is within the blob, and only
then.  The chunks a download sends after it continue one another from the offset, are
small enough, carry the rest of the blob and mark the last of them, so that a transfer can be
resumed anywhere.  The upload loop gives bytes to the store exactly if the stream begins with
chunks of this upload that continue one another from the start to the first that is marked, never
exceed the declared size and reach it.  So the chunks of a blob, sent as an upload, store it. -/
theorem blob_streams_reassemble {maxBlobChunkSize : Nat} (positive : 0 < maxBlobChunkSize) :
    (∀ (blobStore : BlobStoreInner) (blobOwner : Bytes) (request : BlobStreamOpen)
      (pruneAt checkAt accessAt : Instant) (header : BlobStreamHeader)
      (sent : List BlobStreamMessage),
      (handleBlobStream maxBlobChunkSize blobStore blobOwner request pruneAt checkAt accessAt).1 =
        .header header :: sent → header.status = okStatus →
      ∃ redeemed, (BlobStore.redeem blobStore blobOwner request.transferId request.ticket pruneAt
          checkAt accessAt).1 = .ok redeemed ∧ request.offset ≤ redeemed.bytes.length ∧
        sent = (blobChunks maxBlobChunkSize request.transferId redeemed.bytes
          request.offset).map .chunk) ∧
    (∀ (blobStore after : BlobStoreInner) (blobOwner : Bytes) (request : BlobStreamOpen)
      (pruneAt checkAt accessAt : Instant) (redeemed : RedeemedBlob),
      BlobStore.redeem blobStore blobOwner request.transferId request.ticket pruneAt checkAt
        accessAt = (.ok redeemed, after) → request.offset ≤ redeemed.bytes.length →
      handleBlobStream maxBlobChunkSize blobStore blobOwner request pruneAt checkAt accessAt =
        (.header ⟨okStatus, some redeemed.reference, request.offset, maxBlobChunkSize⟩ ::
          (blobChunks maxBlobChunkSize request.transferId redeemed.bytes request.offset).map .chunk,
          after)) ∧
    (∀ (transferId : UInt64) (blob : Bytes) (offset : Nat), offset ≤ blob.length →
      let chunks := blobChunks maxBlobChunkSize transferId blob offset
      Contiguous offset (chunks.map BlobStreamChunk.piece) ∧
        (∀ chunk ∈ chunks, chunk.data.length ≤ maxBlobChunkSize) ∧
        chunks.flatMap (·.data) = blob.drop offset ∧
        EndsOnce (chunks.map BlobStreamChunk.piece) ∧
        (offset = blob.length → chunks = [⟨transferId, offset, [], true⟩]) ∧
        blob.take offset ++ chunks.flatMap (·.data) = blob) ∧
    (∀ (uploadId : Bytes) (size : Nat) (chunks : List ClipboardBlobUploadChunk) (bytes : Bytes),
      uploadPassed uploadId size chunks = some bytes ↔
        ∃ taken rest, chunks = taken ++ rest ∧
          EndsOnce (taken.map ClipboardBlobUploadChunk.piece) ∧
          (∀ chunk ∈ taken, chunk.uploadId = uploadId) ∧
          Contiguous 0 (taken.map ClipboardBlobUploadChunk.piece) ∧
          (∀ count, ((taken.take count).flatMap (·.data)).length ≤ size) ∧
          taken.flatMap (·.data) = bytes ∧ bytes.length = size) ∧
    (∀ (sha256 : Bytes → Bytes) (uploads : ClipboardUploadStoreInner)
      (opened : ClipboardBlobUploadOpen) (chunks : List ClipboardBlobUploadChunk)
      (pruneAt storedAt : Instant), opened.accepted = true →
      (handleClipboardBlobUpload sha256 maxBlobChunkSize uploads opened chunks pruneAt
          storedAt).uploads =
        match uploadPassed opened.uploadId opened.size chunks with
        | some bytes =>
            (ClipboardUploadStore.insert sha256 uploads opened.uploadId bytes opened.sha256
              opened.mediaType pruneAt storedAt).2
        | none => uploads) ∧
    ∀ (sha256 : Bytes → Bytes) (uploads : ClipboardUploadStoreInner)
      (opened : ClipboardBlobUploadOpen) (transferId : UInt64) (blob : Bytes)
      (pruneAt storedAt : Instant),
      blob ≠ [] → blob.length ≤ 20 * 1024 * 1024 → opened.size = blob.length →
      opened.uploadId.length = 32 → opened.sha256 = opened.uploadId →
      opened.mediaType ∈ mediaTypes →
      (handleClipboardBlobUpload sha256 maxBlobChunkSize uploads opened
          ((blobChunks maxBlobChunkSize transferId blob 0).map (·.relabelled opened.uploadId))
          pruneAt storedAt).uploads =
        (ClipboardUploadStore.insert sha256 uploads opened.uploadId blob opened.sha256
          opened.mediaType pruneAt storedAt).2 := by
  refine ⟨fun _ _ _ _ _ _ _ _ sent accepted => handleBlobStream_accepted sent accepted,
    fun _ _ _ _ _ _ _ _ answered within => handleBlobStream_redeemed answered within,
    fun transferId blob offset within => ?_, fun uploadId size chunks bytes => ?_,
    fun sha256 uploads opened chunks pruneAt storedAt accepted => ?_, ?_⟩
  · obtain ⟨delivers, bounded⟩ := blobChunks_delivers positive transferId within
    obtain ⟨contiguous, ends, joined⟩ := delivers_iff.mp delivers
    rw [List.flatMap_map] at joined
    refine ⟨contiguous, bounded, joined, ends, fun whole => if_pos whole, ?_⟩
    exact (congrArg (blob.take offset ++ ·) joined).trans (List.take_append_drop _ _)
  · rw [uploadPassed_iff]
    constructor
    · rintro ⟨taken, rest, split, delivers, owned, rfl⟩
      obtain ⟨contiguous, ends, joined⟩ := delivers_iff.mp delivers
      rw [List.flatMap_map] at joined
      refine ⟨taken, rest, split, ends, owned, contiguous, fun count => ?_, joined, rfl⟩
      rw [← joined]
      exact ((List.take_sublist count taken).flatMap _).length_le
    · rintro ⟨taken, rest, split, ends, owned, contiguous, -, joined, size⟩
      refine ⟨taken, rest, split, delivers_iff.mpr ⟨contiguous, ends, ?_⟩, owned, size⟩
      rw [List.flatMap_map]
      exact joined
  · rw [handleClipboardBlobUpload_uploads, accepted]
    cases uploadPassed opened.uploadId opened.size chunks with
    | none => rfl
    | some => rfl
  · intro sha256 uploads opened transferId blob pruneAt storedAt nonempty small size id digest media
    have accepted : opened.accepted = true := by
      simp [ClipboardBlobUploadOpen.accepted, maxUploadBytes, size, nonempty, small, id, digest,
        media]
    rw [handleClipboardBlobUpload_uploads, accepted, size,
      uploadPassed_relabelled positive opened.uploadId transferId blob]

/-- A device has stored a blob of two bytes and drawn a ticket for it: whatever part of it it has,
all of it included, the download brings the rest. -/
theorem blob_streams_reassemble_resumed :
    ∃ history clock inner redeemed after,
      BlobStore.replay BlobStore.transparentDigest (BlobStore.sharedBlobCalls.drop 2) =
        some (history, clock, inner) ∧
      BlobStore.redeem inner [1] 5 (List.replicate 32 9) 30 31 32 = (.ok redeemed, after) ∧
      redeemed.bytes = [7, 8] ∧ ∀ offset ≤ 2, ∃ chunks : List BlobStreamChunk,
        (handleBlobStream 1 inner [1] ⟨5, List.replicate 32 9, offset⟩ 30 31 32).1 =
          .header ⟨okStatus, some redeemed.reference, offset, 1⟩ :: chunks.map .chunk ∧
        [7, 8].take offset ++ chunks.flatMap (·.data) = [7, 8] := by
  obtain ⟨history, clock, inner, redeemed, after, found, answered, bytes⟩ :
      ∃ history clock inner redeemed after,
        BlobStore.replay BlobStore.transparentDigest (BlobStore.sharedBlobCalls.drop 2) =
          some (history, clock, inner) ∧
        BlobStore.redeem inner [1] 5 (List.replicate 32 9) 30 31 32 = (.ok redeemed, after) ∧
        redeemed.bytes = [7, 8] := ⟨_, _, _, _, _, rfl, rfl, rfl⟩
  refine ⟨history, clock, inner, redeemed, after, found, answered, bytes, fun offset within => ?_⟩
  obtain ⟨-, accepts, sender, -⟩ := blob_streams_reassemble (by decide : 0 < 1)
  have sent := accepts inner after [1] ⟨5, List.replicate 32 9, offset⟩ 30 31 32 redeemed answered
    (bytes ▸ within)
  rw [bytes] at sent
  exact ⟨_, congrArg Prod.fst sent, (sender 5 [7, 8] offset within).2.2.2.2.2⟩

/-! ### From the store to the client -/

namespace BlobStore

/-- After any run of the store, whoever is sent an accepting header gets a blob that it has itself
stored, from the offset it asked for to the end, under a reference with the digest of the blob. -/
theorem download_delivers_stored_blob {externals : Externals} {history : List Event}
    {clock : Instant} {inner : BlobStoreInner} (run : Run externals history clock inner)
    (free : CollisionFree externals history) {maxBlobChunkSize : Nat}
    (positive : 0 < maxBlobChunkSize) {owner : Bytes} {request : BlobStreamOpen}
    {pruneAt checkAt accessAt : Instant} {header : BlobStreamHeader}
    {sent : List BlobStreamMessage}
    (served : (handleBlobStream maxBlobChunkSize inner owner request pruneAt checkAt accessAt).1 =
      .header header :: sent) (accepted : header.status = okStatus) :
    ∃ blob reference, ∃ chunks : List BlobStreamChunk, InsertedBy history owner blob ∧
      header.blob = some reference ∧
      reference.blobId = externals.sha256 blob ∧ sent = chunks.map .chunk ∧
      Delivers request.offset (chunks.map BlobStreamChunk.piece) (blob.drop request.offset) := by
  obtain ⟨redeemed, returned, within, rfl⟩ := handleBlobStream_accepted served accepted
  have good := ((Good.run run).prune pruneAt).1
  obtain ⟨after, answered⟩ : ∃ after, redeem inner owner request.transferId request.ticket pruneAt
      checkAt accessAt = (.ok redeemed, after) := ⟨_, Prod.ext returned rfl⟩
  rw [handleBlobStream_redeemed answered within] at served
  cases served
  cases redeemBody_step good.sound.books answered with
  | redeemed _ _ _ _ present owns =>
      obtain ⟨digest, inserted⟩ := good.addressed free _ _ present
      exact ⟨_, _, _, inserted owner owns, rfl, (good.named _ _ present).trans digest.symm, rfl,
        (blobChunks_delivers positive request.transferId within).1⟩

/-- A device stores a blob, draws a ticket for it and fetches its second half. -/
theorem download_delivers_stored_blob_resumed :
    ∃ history clock inner header blob, ∃ chunks : List BlobStreamChunk,
      replay transparentDigest (sharedBlobCalls.drop 2) = some (history, clock, inner) ∧
      (handleBlobStream 1 inner [1] ⟨5, List.replicate 32 9, 1⟩ 30 31 32).1 =
        .header header :: chunks.map .chunk ∧ header.status = okStatus ∧
      chunks.map (·.data) = [[8]] ∧ InsertedBy history [1] blob ∧
      Delivers 1 (chunks.map BlobStreamChunk.piece) (blob.drop 1) := by
  obtain ⟨history, clock, inner, header, sent, found, served, accepted, second⟩ :
      ∃ history clock inner header sent,
        replay transparentDigest (sharedBlobCalls.drop 2) = some (history, clock, inner) ∧
        (handleBlobStream 1 inner [1] ⟨5, List.replicate 32 9, 1⟩ 30 31 32).1 =
          .header header :: sent ∧ header.status = okStatus ∧
        sent = [BlobStreamChunk.mk 5 1 [8] true].map .chunk := ⟨_, _, _, _, _, rfl, rfl, rfl, rfl⟩
  obtain ⟨blob, -, chunks, inserted, -, -, rfl, delivers⟩ := download_delivers_stored_blob
    (Run.of_replay found) (CollisionFree.of_injective Function.injective_id _) (by decide) served
    accepted
  obtain rfl := List.map_injective_iff.mpr (fun _ _ => BlobStreamMessage.chunk.inj) second
  exact ⟨history, clock, inner, header, blob, _, found, served, accepted, rfl, inserted, delivers⟩

end BlobStore

end ArcRelay
