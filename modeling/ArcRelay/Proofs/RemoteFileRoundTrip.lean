/-
Module: ArcRelay.Proofs.RemoteFileRoundTrip
Purpose: Every remote-file message that validates is encoded, decodes to itself, and nothing that
  fails validation is decoded; every error can be delivered, whatever its message.
Trusted boundary: as in ArcRelay.Server.RemoteFileCodec
-/
import ArcRelay.Proofs.TextBounds
import ArcRelay.Server.RemoteFileCodec
import ArcRelay.Server.RemoteFileStream

namespace ArcRelay.RemoteFiles

/-! ### The shared half of the two codecs -/

namespace WireMessage

variable {Message Frame Wire : Type} {codec : WireMessage Message Frame Wire}
  {message : Message} {bytes : Wire}

/-- A message is encoded exactly when it validates, and then decodes to itself; whatever is
decoded validates, so it can be encoded again. -/
def RoundTrips (codec : WireMessage Message Frame Wire) : Prop :=
  (∀ message, ((codec.encodeWire message).isOk ↔ (codec.validate message).isOk) ∧
    ∀ bytes, codec.encodeWire message = .ok bytes → codec.decodeWire bytes = .ok message) ∧
  ∀ bytes message, codec.decodeWire bytes = .ok message →
    codec.validate message = .ok () ∧
    ∃ again, codec.encodeWire message = .ok again ∧ codec.decodeWire again = .ok message

theorem encodeWire_of_valid (valid : codec.validate message = .ok ()) :
    codec.encodeWire message = .ok (codec.prost.encode (codec.toFrame message)) := by
  rw [encodeWire, valid]
  rfl

theorem encodeWire_of_invalid {reason : String} (invalid : codec.validate message = .error reason) :
    codec.encodeWire message = .error (.validation reason) := by
  rw [encodeWire, invalid]
  rfl

theorem decodeWire_encode
    (faithful : ∀ message, codec.fromFrame (codec.toFrame message) = .ok message)
    (valid : codec.validate message = .ok ()) :
    codec.decodeWire (codec.prost.encode (codec.toFrame message)) = .ok message := by
  rw [decodeWire, codec.prost.decode_encode]
  change (codec.fromFrame (codec.toFrame message) >>= _) = _
  rw [faithful message]
  change ((codec.validate message).mapError _ >>= _) = _
  rw [valid]
  rfl

theorem validate_of_decodeWire (decoded : codec.decodeWire bytes = .ok message) :
    codec.validate message = .ok () := by
  obtain ⟨_, _, decoded⟩ := except_bind_ok decoded
  obtain ⟨found, _, decoded⟩ := except_bind_ok decoded
  obtain ⟨_, valid, decoded⟩ := except_bind_ok decoded
  cases decoded
  exact mapError_ok valid

/-- A codec round-trips as soon as its conversion to frames can be undone. -/
theorem RoundTrips.of_faithful
    (faithful : ∀ message, codec.fromFrame (codec.toFrame message) = .ok message) :
    codec.RoundTrips := by
  refine ⟨fun message => ⟨?_, fun bytes encoded => ?_⟩, fun bytes message decoded => ?_⟩
  · cases valid : codec.validate message with
    | ok => simp [encodeWire_of_valid valid, Except.isOk, Except.toBool]
    | error => simp [encodeWire_of_invalid valid, Except.isOk, Except.toBool]
  · cases valid : codec.validate message with
    | ok =>
        rw [encodeWire_of_valid valid] at encoded
        cases encoded
        exact decodeWire_encode faithful valid
    | error =>
        rw [encodeWire_of_invalid valid] at encoded
        cases encoded
  · have valid := validate_of_decodeWire decoded
    exact ⟨valid, _, encodeWire_of_valid valid, decodeWire_encode faithful valid⟩

end WireMessage

/-! ### The conversions can be undone -/

section Conversions

variable {Wire : Type} (generated : GeneratedCode Wire)

@[simp] theorem decodeErrorCode_encodeErrorCode (code : RemoteFileErrorCode) :
    decodeErrorCode generated (encodeErrorCode generated code) = .ok code := by
  cases code <;> simp [decodeErrorCode, encodeErrorCode, generated.errorCode.tryFrom_number]

@[simp] theorem decodeSortKey_encodeSortKey (key : RemoteFileSortKey) :
    decodeSortKey generated (encodeSortKey generated key) = .ok key := by
  cases key <;> simp [decodeSortKey, encodeSortKey, generated.sortKey.tryFrom_number]

@[simp] theorem decodeSortDirection_encodeSortDirection (direction : RemoteFileSortDirection) :
    decodeSortDirection generated (encodeSortDirection generated direction) = .ok direction := by
  cases direction <;>
    simp [decodeSortDirection, encodeSortDirection, generated.sortDirection.tryFrom_number]

@[simp] theorem decodeEntry_encodeEntry (entry : RemoteFileEntry) :
    decodeEntry generated (encodeEntry generated entry) = .ok entry := by
  have kind : decodeKind generated (encodeEntry generated entry).kind = .ok entry.kind := by
    cases kind : entry.kind <;>
      simp [decodeKind, encodeEntry, kind, generated.entryKind.tryFrom_number]
  rw [decodeEntry, kind]
  rfl

theorem mapM_decodeEntry_option (entry : Option RemoteFileEntry) :
    (entry.map (encodeEntry generated)).mapM (decodeEntry generated) = .ok entry := by
  cases entry with
  | none => rfl
  | some => simp [Option.mapM, decodeEntry_encodeEntry, Functor.map, Except.map]

/-- The code and the message travel apart and are put together again. -/
theorem decodeError_encode (error : Option RemoteFileError) :
    decodeError generated (error.map fun error => encodeErrorCode generated error.code)
      (error.map fun error => error.message) = .ok error := by
  cases error with
  | none => rfl
  | some =>
      rw [Option.map_some, Option.map_some, decodeError, decodeErrorCode_encodeErrorCode]
      rfl

theorem requestFromFrame_requestToFrame (request : RemoteFileRequest) :
    requestFromFrame generated (requestToFrame generated request) = .ok request := by
  cases request with
  | listDirectory =>
      simp only [requestFromFrame, requestToFrame, encodeBody, decodeBody,
        decodeSortKey_encodeSortKey, decodeSortDirection_encodeSortDirection]
      rfl
  | _ => rfl

theorem responseFromFrame_responseToFrame (response : RemoteFileResponse) :
    responseFromFrame generated (responseToFrame generated response) = .ok response := by
  have shares : (response.shares.map encodeShare).map decodeShare = response.shares := by
    rw [List.map_map]
    exact List.map_id response.shares
  simp only [responseFromFrame, responseToFrame, decodeError_encode,
    mapM_map_ok fun entry _ => decodeEntry_encodeEntry generated entry,
    mapM_decodeEntry_option, shares]
  rfl

end Conversions

/-! ### Round trip -/

theorem remote_file_messages_round_trip {Wire : Type} (generated : GeneratedCode Wire)
    (limits : Limits) :
    (requestMessage generated limits).RoundTrips ∧ (responseMessage generated limits).RoundTrips :=
  ⟨.of_faithful (requestFromFrame_requestToFrame generated),
    .of_faithful (responseFromFrame_responseToFrame generated)⟩

/-- Generated code as assumed exists: frames that travel as they are, and enumerations numbered in
order. -/
def plainGeneratedCode :
    GeneratedCode (Proto.RemoteFileRequestFrame ⊕ Proto.RemoteFileResponseFrame) where
  requestFrame :=
    { encode := .inl
      decode := Sum.elim .ok fun _ => .error "not a request"
      decode_encode := fun _ => rfl }
  responseFrame :=
    { encode := .inr
      decode := Sum.elim (fun _ => .error "not a response") .ok
      decode_encode := fun _ => rfl }
  errorCode :=
    { number := fun code => Int32.ofNat code.ctorIdx
      tryFrom := fun number =>
        [.unspecified, .invalidArgument, .permissionDenied, .notFound, .conflict,
          .resourceExhausted, .failedPrecondition, .unavailable, .cancelled,
          .internal][number.toInt.toNat]?
      tryFrom_number := fun code => by cases code <;> rfl }
  entryKind :=
    { number := fun kind => Int32.ofNat kind.ctorIdx
      tryFrom := fun number => [.unspecified, .file, .folder][number.toInt.toNat]?
      tryFrom_number := fun kind => by cases kind <;> rfl }
  sortKey :=
    { number := fun key => Int32.ofNat key.ctorIdx
      tryFrom := fun number =>
        [.unspecified, .name, .modified, .type, .size][number.toInt.toNat]?
      tryFrom_number := fun key => by cases key <;> rfl }
  sortDirection :=
    { number := fun direction => Int32.ofNat direction.ctorIdx
      tryFrom := fun number => [.unspecified, .ascending, .descending][number.toInt.toNat]?
      tryFrom_number := fun direction => by cases direction <;> rfl }

/-- A directory query travels with its cursor and sort order. -/
theorem remote_file_messages_round_trip_query :
    let limits : Limits := ⟨1024, 1024⟩
    let codec := requestMessage plainGeneratedCode limits
    let query : RemoteFileRequest :=
      .listDirectory "docs" "a/b" (some "next") 50 none .modified .descending
    (codec.encodeWire query).isOk ∧
    ∀ bytes, codec.encodeWire query = .ok bytes → codec.decodeWire bytes = .ok query :=
  ⟨by decide +kernel, ((remote_file_messages_round_trip plainGeneratedCode _).1.1 _).2⟩

/-! ### Errors -/

/-- A failure validates: its message has been cut, and the rest is empty. -/
theorem validate_failure (limits : Limits) (code : RemoteFileErrorCode) (message : String) :
    (RemoteFileResponse.failure code message).validate limits = .ok () := by
  have bounded : ¬ 8192 < (truncateUtf8 message 8192).utf8ByteSize :=
    Nat.not_lt_of_le (truncateUtf8_le message 8192)
  simp [RemoteFileResponse.failure, RemoteFileResponse.validate, bounded, badQueryText]
  rfl

/-- Every error can be delivered: its message is cut without a panic, what is kept is the longest
beginning within 8 KiB, the response validates and survives the wire, and the handler writes it. -/
theorem remote_file_errors_delivered {Wire : Type} (generated : GeneratedCode Wire)
    (limits : Limits) (code : RemoteFileErrorCode) (message : String) :
    let response := RemoteFileResponse.failure code message
    let codec := responseMessage generated limits
    (∀ rounds > 8 * 1024, boundarySearch message.toList rounds (8 * 1024) =
      some (boundaryBelow message.toList (8 * 1024))) ∧
    (∀ rounds > 8 * 1024, runTruncateUtf8 rounds message (8 * 1024) =
      response.error.map (·.message)) ∧
    (∃ kept, response.error = some ⟨code, kept⟩ ∧
      LongestBeginning (fun part => String.utf8Len part ≤ 8 * 1024) message.toList kept.toList) ∧
    response.validate limits = .ok () ∧
    (∃ bytes, codec.encodeWire response = .ok bytes ∧ codec.decodeWire bytes = .ok response) ∧
    writeRemoteMessage limits (.fromError ⟨code, message⟩) =
      attempt (await (.writeResponse response)) id := by
  intro response codec
  have valid : response.validate limits = .ok () := validate_failure limits code message
  have encoded : codec.encodeWire response = .ok (codec.prost.encode (codec.toFrame response)) :=
    WireMessage.encodeWire_of_valid valid
  have decoded : codec.decodeWire (codec.prost.encode (codec.toFrame response)) = .ok response :=
    WireMessage.decodeWire_encode (responseFromFrame_responseToFrame generated) valid
  refine ⟨fun rounds enough => boundarySearch_eq enough,
    fun rounds enough => runTruncateUtf8_eq message enough,
    ⟨_, rfl, truncateUtf8_longest message (8 * 1024)⟩, valid, ⟨_, encoded, decoded⟩, ?_⟩
  rw [RemoteFileResponse.fromError, writeRemoteMessage, valid]
  rfl

end ArcRelay.RemoteFiles
