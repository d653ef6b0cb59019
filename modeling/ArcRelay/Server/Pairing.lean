/-
Module: ArcRelay.Server.Pairing
Purpose: The pairing handler: the grants a peer asks for, the user's decision on them, what is
  installed and what the peer is told.
Trusted boundary: the network runtime, the user interface and the transport answer as they like;
  capability tokens and the generated protobuf code are parameters
-/
import ArcRelay.Library.Program
import ArcRelay.Server.RemoteFileCodec

namespace ArcRelay.Pairing

open RemoteFiles (CapabilityId GrantDirection GrantConstraints Grant Enumeration)

/-! ### Messages -/

namespace Proto

inductive GrantDirection where
  | unspecified | inbound | outbound
deriving Repr, DecidableEq

/-- `grant_constraints::Kind`, of which there is one. -/
structure RemoteFileShareConstraints where
  shareIds : List String
  writable : Bool
deriving Repr, DecidableEq

structure GrantConstraints where
  kind : Option RemoteFileShareConstraints
deriving Repr, DecidableEq

structure CapabilityGrant where
  capability : String
  direction : Int32
  constraints : Option GrantConstraints
  grantedAtMs : Int64
deriving Repr, DecidableEq

structure PairingRequest where
  requestedGrants : List CapabilityGrant
deriving Repr, DecidableEq

structure PairingResult where
  paired : Bool
  peerId : String
  error : String
deriving Repr, DecidableEq

structure PairingResponse where
  result : PairingResult
  grantedGrants : List CapabilityGrant
deriving Repr, DecidableEq

end Proto

/-- The code the handler rests on: the tokens of the peer crate's capabilities, and the decoding
that prost generates. -/
structure PairingCode where
  parseToken : String → Option CapabilityId
  token : CapabilityId → String
  direction : Enumeration Proto.GrantDirection
  decodeRequest : Bytes → Except String Proto.PairingRequest
  /-- A capability that was parsed is parsed from its own token. -/
  parseToken_token : ∀ text capability, parseToken text = some capability →
    parseToken (token capability) = some capability

/-- `PairingApproval`. -/
structure PairingApproval where
  accepted : Bool
  approvedGrants : Finset (CapabilityId × GrantDirection)
deriving DecidableEq

/-- `session.peer()`, the session's verification code, and the server's own device id. -/
structure PairingSession where
  deviceId : String
  publicKey : Bytes
  name : String
  verificationCode : String
  serverId : String
deriving Repr, DecidableEq

/-! ### The requested grants -/

/-- Whether some share id is empty, too long, or was seen before. -/
def badShareIds : List String → List String → Bool
  | _, [] => false
  | seen, id :: ids =>
      id.isEmpty || id.utf8ByteSize > 256 || seen.contains id || badShareIds (id :: seen) ids

def validateGrantConstraints (capability : CapabilityId) : GrantConstraints → Except String Unit
  | .none => .ok ()
  | .remoteFileShares shareIds writable =>
      if !(capability = .remoteFilesRead || capability = .remoteFilesWrite)
          || (capability = .remoteFilesRead && writable)
          || (capability = .remoteFilesWrite && !writable)
          || shareIds.length > 128 then
        .error "invalid remote-file grant constraints"
      else if badShareIds [] shareIds then
        .error "invalid remote-file share constraint"
      else .ok ()

def decodePairingConstraints : Option Proto.GrantConstraints → Except String GrantConstraints
  | none => .ok .none
  | some ⟨none⟩ => .error "unknown or empty grant constraints"
  | some ⟨some constraints⟩ => .ok (.remoteFileShares constraints.shareIds constraints.writable)

def encodePairingConstraints : GrantConstraints → Option Proto.GrantConstraints
  | .none => none
  | .remoteFileShares shareIds writable => some ⟨some { shareIds, writable }⟩

section Handler

variable (code : PairingCode)

def parseCapability (wire : Proto.CapabilityGrant) : Except String CapabilityId :=
  match code.parseToken wire.capability with
  | none => .error s!"unknown capability {wire.capability}"
  | some capability => .ok capability

def decodeDirection (wire : Proto.CapabilityGrant) : Except String GrantDirection :=
  match code.direction.tryFrom wire.direction with
  | some .inbound => .ok .inbound
  | some .outbound => .ok .outbound
  | some .unspecified | none => .error "invalid pairing grant direction"

def checkCapabilityRequest (wire : Proto.CapabilityGrant) : Except String Unit :=
  if wire.capability.isEmpty || wire.capability.utf8ByteSize > 128 || wire.grantedAtMs != 0 then
    .error "invalid pairing capability request"
  else .ok ()

def checkUnseen (seen : List (CapabilityId × GrantDirection))
    (key : CapabilityId × GrantDirection) : Except String Unit :=
  if seen.contains key then .error "duplicate pairing capability request" else .ok ()

/-- The loop over the requested grants, with the capabilities and directions seen so far. -/
def requestedGrants (peerId : String) (now : Int64) :
    List (CapabilityId × GrantDirection) → List Proto.CapabilityGrant → Except String (List Grant)
  | _, [] => .ok []
  | seen, wire :: wires => do
      checkCapabilityRequest wire
      let capability ← parseCapability code wire
      let direction ← decodeDirection code wire
      checkUnseen seen (capability, direction)
      let constraints ← decodePairingConstraints wire.constraints
      validateGrantConstraints capability constraints
      let others ← requestedGrants peerId now ((capability, direction) :: seen) wires
      return { peerId, capability, direction, constraints, grantedAtMs := now } :: others

/-! ### What the handler waits for -/

structure FeatureStream where
  featureId : String
  negotiatesMinor : Bool
  openingPayload : Bytes
deriving Repr, DecidableEq

structure PairedPeer where
  deviceId : String
  publicKey : Bytes
deriving Repr, DecidableEq

/-- `PairingRequestForApproval`, without the channel the answer comes through. -/
structure PairingRequestForApproval where
  deviceName : String
  deviceId : String
  pairingCode : String
  requestedGrants : List Grant
deriving Repr, DecidableEq

inductive PairingCall where
  /-- `gate.acquire_owned()`. -/
  | acquire
  | acceptFeatureStream
  /-- `SystemTime::now`. -/
  | clock
  | pairedPeers
  /-- `pairing_tx.send`. -/
  | requestApproval (request : PairingRequestForApproval)
  /-- `response.recv()` within the approval timeout. -/
  | awaitApproval
  | confirmPairingWithGrants (grants : List Grant)
  /-- `event_tx.send`, whose failure is ignored. -/
  | pairingResult (deviceName : String) (accepted : Bool)
  | writeFrame (response : Proto.PairingResponse)
  | finish
  | close (reason : String)
deriving DecidableEq

/-- `none` is a closed gate, an elapsed timeout or a dropped channel. -/
@[reducible] def PairingCall.Answer : PairingCall → Type
  | .acquire => Option Unit
  | .acceptFeatureStream => Option (Except String FeatureStream)
  | .clock => Int64
  | .pairedPeers => Except String (List PairedPeer)
  | .requestApproval _ => Option Unit
  | .awaitApproval => Option PairingApproval
  | .confirmPairingWithGrants _ | .writeFrame _ | .finish => Except String Unit
  | .pairingResult _ _ | .close _ => Unit

abbrev PairingProgram := Program PairingCall PairingCall.Answer

/-- The handler with its early returns. -/
abbrev Handling := ExceptT String PairingProgram

/-- Waits for a call and goes on with what it answered, or returns. -/
def await (call : PairingCall) {Value : Type} (outcome : call.Answer → Except String Value) :
    Handling Value :=
  ExceptT.mk (Program.call call fun answer => .done (outcome answer))

/-- `?` on a result that is at hand. -/
def valid {Value : Type} (result : Except String Value) : Handling Value :=
  ExceptT.mk (.done result)

/-- `ok_or`. -/
def orFail {Value : Type} (failure : String) : Option Value → Except String Value
  | none => .error failure
  | some value => .ok value

/-! ### The handler -/

def acceptedStream : Option (Except String FeatureStream) → Except String FeatureStream
  | none => .error "pairing stream timed out"
  | some stream => stream

def openedRequest (stream : FeatureStream) : Except String Proto.PairingRequest :=
  if stream.featureId != "arcrelay.pairing" || !stream.negotiatesMinor then
    .error "invalid pairing stream type"
  else
    code.decodeRequest stream.openingPayload

def checkCount (request : Proto.PairingRequest) : Except String Unit :=
  if request.requestedGrants.length > 64 then .error "too many requested capabilities" else .ok ()

variable (session : PairingSession)

/-- The user's decision: a peer that is paired already and asks for nothing is accepted, and
without an answer in time the decision is a rejection. -/
def awaitDecision (peers : List PairedPeer) (requested : List Grant) : Handling PairingApproval :=
  if (peers.any fun stored =>
      stored.deviceId = session.deviceId && stored.publicKey = session.publicKey)
      && requested.isEmpty then
    pure { accepted := true, approvedGrants := ∅ }
  else do
    await (.requestApproval
      { deviceName := session.name
        deviceId := session.deviceId
        pairingCode := session.verificationCode
        requestedGrants := requested }) (orFail "pairing UI stopped")
    await .awaitApproval fun answer =>
      .ok (answer.getD { accepted := false, approvedGrants := ∅ })

def approvedGrants (decision : PairingApproval) (requested : List Grant) : List Grant :=
  if decision.accepted then
    requested.filter fun grant => (grant.capability, grant.direction) ∈ decision.approvedGrants
  else []

def confirm (decision : PairingApproval) (approved : List Grant) : Handling Unit :=
  if decision.accepted then await (.confirmPairingWithGrants approved) fun outcome => outcome
  else pure ()

def encodeDirection (direction : GrantDirection) : Int32 :=
  code.direction.number <| match direction with
    | .inbound => .inbound
    | .outbound => .outbound

/-- A grant as the response echoes it. -/
def grantToWire (grant : Grant) : Proto.CapabilityGrant where
  capability := code.token grant.capability
  direction := encodeDirection code grant.direction
  constraints := encodePairingConstraints grant.constraints
  grantedAtMs := grant.grantedAtMs

def pairingResponse (accepted : Bool) (approved : List Grant) : Proto.PairingResponse where
  result :=
    { paired := accepted
      peerId := session.serverId
      error := if accepted then "" else "pairing rejected" }
  grantedGrants := approved.map (grantToWire code)

def closeRejected (accepted : Bool) : Handling Unit :=
  if accepted then pure () else await (.close "pairing rejected") .ok

/-- What follows the decision. -/
def conclude (requested : List Grant) (decision : PairingApproval) : Handling Unit := do
  let approved := approvedGrants decision requested
  confirm decision approved
  await (.pairingResult session.name decision.accepted) .ok
  await (.writeFrame (pairingResponse code session decision.accepted approved)) id
  await .finish id
  closeRejected decision.accepted

def handleV1Pairing : Handling Unit := do
  await .acquire (orFail "pairing service stopped")
  let stream ← await .acceptFeatureStream acceptedStream
  let request ← valid (openedRequest code stream)
  valid (checkCount request)
  let now ← await .clock .ok
  let requested ← valid (requestedGrants code session.deviceId now [] request.requestedGrants)
  let peers ← await .pairedPeers id
  let decision ← awaitDecision session peers requested
  conclude code session requested decision

end Handler

end ArcRelay.Pairing
