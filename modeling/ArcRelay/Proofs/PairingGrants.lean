/-
Module: ArcRelay.Proofs.PairingGrants
Purpose: Pairing installs exactly the requested grants that the user approved, and tells the peer
  exactly those.
Trusted boundary: as for the handler
-/
import ArcRelay.Server.Pairing
import ArcRelay.Proofs.RemoteFileAuthorization

namespace ArcRelay.Pairing

open Program
open RemoteFiles (CapabilityId GrantDirection GrantConstraints Grant RemoteFileAccess Readable
  Writable fromGrants_canRead fromGrants_canWrite)

/-! ### What a wire grant asks for -/

section Wire

variable (code : PairingCode)

/-- The wire grant names the grant's capability, direction and constraints. -/
structure Describes (wire : Proto.CapabilityGrant) (grant : Grant) : Prop where
  capability : code.parseToken wire.capability = some grant.capability
  direction : decodeDirection code wire = .ok grant.direction
  constraints : decodePairingConstraints wire.constraints = .ok grant.constraints

/-- The capability and direction a wire grant names. -/
def wireKey (wire : Proto.CapabilityGrant) : Option (CapabilityId × GrantDirection) :=
  match code.parseToken wire.capability, decodeDirection code wire with
  | some capability, .ok direction => some (capability, direction)
  | _, _ => none

def grantKey (grant : Grant) : CapabilityId × GrantDirection := (grant.capability, grant.direction)

/-- A grant that may be asked for: short, undated, known, and with constraints that fit it. -/
def WellFormedGrant (wire : Proto.CapabilityGrant) : Prop :=
  wire.capability ≠ "" ∧ wire.capability.utf8ByteSize ≤ 128 ∧ wire.grantedAtMs = 0 ∧
    ∃ grant, Describes code wire grant ∧
      validateGrantConstraints grant.capability grant.constraints = .ok ()

/-- At most 64 grants, each well formed, no two for one capability and direction. -/
def WellFormed (request : Proto.PairingRequest) : Prop :=
  request.requestedGrants.length ≤ 64 ∧
    (∀ wire ∈ request.requestedGrants, WellFormedGrant code wire) ∧
    (request.requestedGrants.map (wireKey code)).Nodup

/-- The user's decision names the capability and direction of the wire grant. -/
def approvedBy (decision : PairingApproval) (wire : Proto.CapabilityGrant) : Bool :=
  (wireKey code wire).any (· ∈ decision.approvedGrants)

variable {code}
variable {wire : Proto.CapabilityGrant}

theorem Describes.wireKey_eq {grant : Grant} (describes : Describes code wire grant) :
    wireKey code wire = some (grantKey grant) := by
  rw [wireKey, describes.capability, describes.direction, grantKey]

@[simp] theorem decodePairingConstraints_encodePairingConstraints (constraints : GrantConstraints) :
    decodePairingConstraints (encodePairingConstraints constraints) = .ok constraints := by
  cases constraints <;> rfl

theorem decodePairingConstraints_none {wire : Option Proto.GrantConstraints}
    (decoded : decodePairingConstraints wire = .ok .none) : wire = none := by
  rcases wire with _ | ⟨_ | constraints⟩
  · rfl
  · cases decoded
  · cases decoded

theorem decodePairingConstraints_shares {wire : Option Proto.GrantConstraints}
    {shareIds : List String} {writable : Bool}
    (decoded : decodePairingConstraints wire = .ok (.remoteFileShares shareIds writable)) :
    wire = some ⟨some ⟨shareIds, writable⟩⟩ := by
  rcases wire with _ | ⟨_ | constraints⟩
  · cases decoded
  · cases decoded
  · cases decoded
    rfl

theorem decodeDirection_encodeDirection {direction : GrantDirection}
    (encoded : wire.direction = encodeDirection code direction) :
    decodeDirection code wire = .ok direction := by
  cases direction <;>
    simp [decodeDirection, encoded, encodeDirection, code.direction.tryFrom_number]

/-- What the peer is told about an installed grant describes it. -/
theorem describes_grantToWire {grant : Grant} (describes : Describes code wire grant) :
    Describes code (grantToWire code grant) grant where
  capability := code.parseToken_token _ _ describes.capability
  direction := decodeDirection_encodeDirection rfl
  constraints := decodePairingConstraints_encodePairingConstraints _

/-! ### The loop over the requested grants -/

/-- A requested grant and what the loop makes of it. -/
structure Requests (code : PairingCode) (peerId : String) (wire : Proto.CapabilityGrant)
    (grant : Grant) : Prop where
  describes : Describes code wire grant
  wellFormed : WellFormedGrant code wire
  peer : grant.peerId = peerId

theorem checkCapabilityRequest_ok {done : Unit} (checked : checkCapabilityRequest wire = .ok done) :
    wire.capability ≠ "" ∧ wire.capability.utf8ByteSize ≤ 128 ∧ wire.grantedAtMs = 0 := by
  rw [checkCapabilityRequest] at checked
  split at checked
  · cases checked
  next fine =>
    simpa [String.isEmpty_iff, and_assoc] using fine

theorem parseCapability_ok {capability : CapabilityId}
    (parsed : parseCapability code wire = .ok capability) :
    code.parseToken wire.capability = some capability := by
  rw [parseCapability] at parsed
  split at parsed
  · cases parsed
  next found =>
    cases parsed
    exact found

theorem checkUnseen_ok {seen : List (CapabilityId × GrantDirection)}
    {key : CapabilityId × GrantDirection} {done : Unit} (checked : checkUnseen seen key = .ok done) :
    key ∉ seen := by
  rw [checkUnseen] at checked
  split at checked
  · cases checked
  next fresh => simpa using fresh

/-- The loop takes every wire grant, in order, and no capability and direction twice. -/
theorem requestedGrants_ok {peerId : String} {now : Int64}
    {seen : List (CapabilityId × GrantDirection)} {wires : List Proto.CapabilityGrant}
    {grants : List Grant} (taken : requestedGrants code peerId now seen wires = .ok grants) :
    List.Forall₂ (Requests code peerId) wires grants ∧ (grants.map grantKey).Nodup ∧
      ∀ key ∈ grants.map grantKey, key ∉ seen := by
  induction wires generalizing seen grants with
  | nil =>
      cases taken
      exact ⟨.nil, List.nodup_nil, fun key member => absurd member List.not_mem_nil⟩
  | cons wire _ ih =>
      obtain ⟨_, checked, taken⟩ := except_bind_ok taken
      obtain ⟨capability, parsed, taken⟩ := except_bind_ok taken
      obtain ⟨direction, decoded, taken⟩ := except_bind_ok taken
      obtain ⟨_, unseen, taken⟩ := except_bind_ok taken
      obtain ⟨constraints, constrained, taken⟩ := except_bind_ok taken
      obtain ⟨_, validated, taken⟩ := except_bind_ok taken
      obtain ⟨others, rest, taken⟩ := except_bind_ok taken
      cases taken
      obtain ⟨requested, distinct, fresh⟩ := ih rest
      obtain ⟨named, short, undated⟩ := checkCapabilityRequest_ok checked
      have describes : Describes code wire ⟨peerId, capability, direction, constraints, now⟩ :=
        ⟨parseCapability_ok parsed, decoded, constrained⟩
      refine ⟨.cons ⟨describes, ⟨named, short, undated, _, describes, validated⟩, rfl⟩ requested,
        List.nodup_cons.mpr ⟨fun repeated => ?_, distinct⟩, fun key member => ?_⟩
      · exact fresh _ repeated (List.mem_cons_self ..)
      · rcases List.mem_cons.mp member with rfl | later
        · exact checkUnseen_ok unseen
        · exact fun before => fresh key later (List.mem_cons_of_mem _ before)

end Wire

/-! ### What a run has exchanged -/

section Runs

abbrev PairingExchange := Exchange PairingCall PairingCall.Answer

/-- The pairing requests the peer has opened streams with. -/
def requestsIn (code : PairingCode) (made : List PairingExchange) : List Proto.PairingRequest :=
  made.filterMap fun
    | ⟨.acceptFeatureStream, answer⟩ =>
        (acceptedStream answer >>= openedRequest code).toOption
    | _ => none

/-- The decisions that were waited for; `none` did not arrive in time. -/
def decisionsIn (made : List PairingExchange) : List (Option PairingApproval) :=
  made.filterMap fun
    | ⟨.awaitApproval, answer⟩ => some answer
    | _ => none

/-- What was passed to `confirm_pairing_with_grants`. -/
def installedIn (made : List PairingExchange) : List (List Grant) :=
  made.filterMap fun
    | ⟨.confirmPairingWithGrants grants, _⟩ => some grants
    | _ => none

def responsesIn (made : List PairingExchange) : List Proto.PairingResponse :=
  made.filterMap fun
    | ⟨.writeFrame response, _⟩ => some response
    | _ => none

/-- The decision on a request: the one that arrived, a rejection when none arrived in time, or, for
a request of nothing, acceptance without asking. -/
inductive Decided (made : List PairingExchange) (request : Proto.PairingRequest) :
    PairingApproval → Prop where
  | arrived {decision : PairingApproval} (only : decisionsIn made = [some decision]) :
      Decided made request decision
  | late (only : decisionsIn made = [none]) : Decided made request ⟨false, ∅⟩
  | unasked (undecided : decisionsIn made = []) (nothing : request.requestedGrants = []) :
      Decided made request ⟨true, ∅⟩

variable {request : Proto.PairingRequest} {decision : PairingApproval}

/-- A decision is the same after exchanges that decide nothing. -/
theorem Decided.congr {made later : List PairingExchange}
    (decided : Decided made request decision) (same : decisionsIn later = decisionsIn made) :
    Decided later request decision := by
  cases decided with
  | arrived only => exact .arrived (same.trans only)
  | late only => exact .late (same.trans only)
  | unasked undecided nothing => exact .unasked (same.trans undecided) nothing

/-- The grants are those of the request that the decision approves, one for one and in order. -/
def Selected (code : PairingCode) (session : PairingSession) (request : Proto.PairingRequest)
    (decision : PairingApproval) (grants : List Grant) : Prop :=
  List.Forall₂ (Requests code session.deviceId)
    (request.requestedGrants.filter (approvedBy code decision)) grants

/-- The request asks, inbound, for a capability that the decision approves, with constraints that
satisfy `fits`. -/
def ApprovedRequest (code : PairingCode) (made : List PairingExchange) (capability : CapabilityId)
    (fits : Option Proto.GrantConstraints → Prop) : Prop :=
  ∃ request ∈ requestsIn code made, ∃ decision, some decision ∈ decisionsIn made ∧
    decision.accepted = true ∧ (capability, GrantDirection.inbound) ∈ decision.approvedGrants ∧
    ∃ wire ∈ request.requestedGrants, wireKey code wire = some (capability, .inbound) ∧
      fits wire.constraints

/-- What holds of everything a pairing has exchanged. A call that is still waited for is covered
by the exchange it would end in. -/
structure LeastPrivilege (code : PairingCode) (session : PairingSession)
    (made : List PairingExchange) : Prop where
  /-- At most one list of grants is installed: what an accepting decision selects from the
  request, no capability and direction twice. -/
  installed : installedIn made = [] ∨ ∃ grants request decision,
    installedIn made = [grants] ∧ requestsIn code made = [request] ∧
      Decided made request decision ∧ decision.accepted = true ∧
      Selected code session request decision grants ∧ (grants.map grantKey).Nodup
  /-- Nothing is installed on a malformed request, a rejection or a timeout. -/
  refused : ((∃ request ∈ requestsIn code made, ¬ WellFormed code request) ∨
      ∃ answer ∈ decisionsIn made, ¬ answer.any (·.accepted)) →
    installedIn made = []
  /-- The peer is told of the installed grants, or that it is not paired and has none. -/
  echoed : ∀ response ∈ responsesIn made,
    (response.result.paired = true ∧ ∃ grants, installedIn made = [grants] ∧
      List.Forall₂ (Describes code) response.grantedGrants grants) ∨
    (response.result.paired = false ∧ response.grantedGrants = [] ∧ installedIn made = [])
  readable : ∀ grants ∈ installedIn made, ∀ share,
    (RemoteFileAccess.fromGrants grants .inbound).canRead share →
    ApprovedRequest code made .remoteFilesRead fun constraints => constraints = none ∨
      ∃ shareIds writable, constraints = some ⟨some ⟨shareIds, writable⟩⟩ ∧ share ∈ shareIds
  writable : ∀ grants ∈ installedIn made, ∀ share,
    (RemoteFileAccess.fromGrants grants .inbound).canWrite share →
    ApprovedRequest code made .remoteFilesWrite fun constraints => constraints = none ∨
      ∃ shareIds, constraints = some ⟨some ⟨shareIds, true⟩⟩ ∧ share ∈ shareIds

/-- A pairing that was carried through: the peer was told once, and if the decision accepts, what
it selects from the request is installed. -/
structure Concluded (code : PairingCode) (session : PairingSession)
    (made : List PairingExchange) : Prop where
  responded : ∃ response, responsesIn made = [response]
  carriedOut : ∃ request decision, requestsIn code made = [request] ∧ WellFormed code request ∧
    Decided made request decision ∧ (decision.accepted = true → ∃ grants,
      installedIn made = [grants] ∧ Selected code session request decision grants)

variable {code : PairingCode} {session : PairingSession} {made : List PairingExchange}

@[simp] theorem requestsIn_append (made later : List PairingExchange) :
    requestsIn code (made ++ later) = requestsIn code made ++ requestsIn code later :=
  List.filterMap_append

@[simp] theorem decisionsIn_append (made later : List PairingExchange) :
    decisionsIn (made ++ later) = decisionsIn made ++ decisionsIn later :=
  List.filterMap_append

@[simp] theorem installedIn_append (made later : List PairingExchange) :
    installedIn (made ++ later) = installedIn made ++ installedIn later :=
  List.filterMap_append

@[simp] theorem responsesIn_append (made later : List PairingExchange) :
    responsesIn (made ++ later) = responsesIn made ++ responsesIn later :=
  List.filterMap_append

/-! ### From the request to the installed grants -/

/-- Before anything is installed the peer may only be told that it is not paired. -/
theorem LeastPrivilege.of_nothing (nothing : installedIn made = [])
    (told : ∀ response ∈ responsesIn made,
      response.result.paired = false ∧ response.grantedGrants = []) :
    LeastPrivilege code session made where
  installed := .inl nothing
  refused := fun _ => nothing
  echoed := fun response written =>
    .inr ⟨(told response written).1, (told response written).2, nothing⟩
  readable := by simp [nothing]
  writable := by simp [nothing]

/-- The grants a handler is about to install, with the request and the decision they come from. -/
structure Installing (code : PairingCode) (session : PairingSession) (made : List PairingExchange)
    (request : Proto.PairingRequest) (decision : PairingApproval) (grants : List Grant) : Prop where
  opened : requestsIn code made = [request]
  decided : Decided made request decision
  accepted : decision.accepted = true
  wellFormed : WellFormed code request
  selected : Selected code session request decision grants
  distinct : (grants.map grantKey).Nodup

variable {grants : List Grant}

namespace Installing

variable (installing : Installing code session made request decision grants)

include installing

/-- An installed grant goes back to an approved wire grant of the request. -/
theorem approvedRequest {grant : Grant}
    (member : grant ∈ grants) (inbound : grant.direction = .inbound)
    {fits : Option Proto.GrantConstraints → Prop}
    (fit : ∀ constraints, decodePairingConstraints constraints = .ok grant.constraints →
      fits constraints) :
    ApprovedRequest code made grant.capability fits := by
  obtain ⟨wire, chosen, requests⟩ := exists_of_forall₂_right installing.selected member
  obtain ⟨asked, approved⟩ := List.mem_filter.mp chosen
  have key : wireKey code wire = some (grant.capability, .inbound) := by
    rw [requests.describes.wireKey_eq, grantKey, inbound]
  have named : (grant.capability, GrantDirection.inbound) ∈ decision.approvedGrants := by
    simpa [approvedBy, key] using approved
  have arrived : some decision ∈ decisionsIn made := by
    cases installing.decided with
    | arrived only => simp [only]
    | late => cases installing.accepted
    | unasked _ nothing => simp [nothing] at asked
  exact ⟨request, by simp [installing.opened], decision, arrived, installing.accepted, named, wire,
    asked, key, fit _ requests.describes.constraints⟩

theorem readable {share : String} (readable : Readable grants share) :
    ApprovedRequest code made .remoteFilesRead fun constraints => constraints = none ∨
      ∃ shareIds writable, constraints = some ⟨some ⟨shareIds, writable⟩⟩ ∧ share ∈ shareIds := by
  obtain ⟨grant, member, inbound, reads, constraints⟩ := readable
  rw [← reads]
  refine installing.approvedRequest member inbound fun wire decoded => ?_
  rcases constraints with free | ⟨shareIds, writable, shares, listed⟩
  · exact .inl (decodePairingConstraints_none (free ▸ decoded))
  · exact .inr ⟨shareIds, writable, decodePairingConstraints_shares (shares ▸ decoded), listed⟩

theorem writable {share : String} (writable : Writable grants share) :
    ApprovedRequest code made .remoteFilesWrite fun constraints => constraints = none ∨
      ∃ shareIds, constraints = some ⟨some ⟨shareIds, true⟩⟩ ∧ share ∈ shareIds := by
  obtain ⟨grant, member, inbound, writes, constraints⟩ := writable
  rw [← writes]
  refine installing.approvedRequest member inbound fun wire decoded => ?_
  rcases constraints with free | ⟨shareIds, shares, listed⟩
  · exact .inl (decodePairingConstraints_none (free ▸ decoded))
  · exact .inr ⟨shareIds, decodePairingConstraints_shares (shares ▸ decoded), listed⟩

/-- The decision that selects the grants is the only one there is. -/
theorem not_refused :
    ¬ ((∃ request ∈ requestsIn code made, ¬ WellFormed code request) ∨
      ∃ answer ∈ decisionsIn made, ¬ answer.any (·.accepted)) := by
  rintro (⟨other, opened, malformed⟩ | ⟨answer, arrived, rejected⟩)
  · simp only [installing.opened, List.mem_singleton] at opened
    subst opened
    exact malformed installing.wellFormed
  · cases installing.decided with
    | arrived only =>
        simp only [only, List.mem_singleton] at arrived
        subst arrived
        exact rejected installing.accepted
    | late => cases installing.accepted
    | unasked undecided => simp [undecided] at arrived

theorem describes : List.Forall₂ (Describes code) (grants.map (grantToWire code)) grants := by
  refine List.forall₂_map_left_iff.mpr (List.forall₂_same.mpr fun grant member => ?_)
  obtain ⟨wire, -, requests⟩ := exists_of_forall₂_right installing.selected member
  exact describes_grantToWire requests.describes

theorem leastPrivilege
    (installed : installedIn made = [grants])
    (told : ∀ response ∈ responsesIn made,
      response.result.paired = true ∧ response.grantedGrants = grants.map (grantToWire code)) :
    LeastPrivilege code session made where
  installed := .inr ⟨grants, request, decision, installed, installing.opened, installing.decided,
    installing.accepted, installing.selected, installing.distinct⟩
  refused := fun refused => absurd refused installing.not_refused
  echoed := fun response written =>
    .inl ⟨(told response written).1, grants, installed,
      (told response written).2 ▸ installing.describes⟩
  readable := by
    simp only [installed, List.mem_singleton, forall_eq]
    exact fun share read => installing.readable (fromGrants_canRead.mp read)
  writable := by
    simp only [installed, List.mem_singleton, forall_eq]
    exact fun share write => installing.writable (fromGrants_canWrite.mp write)

end Installing

/-! ### The handler -/

/-- Wherever the handler is stopped it has kept to least privilege, and when it returns without an
error the pairing was carried through. -/
abbrev Handles (code : PairingCode) (session : PairingSession) (made : List PairingExchange)
    (handler : Handling Unit) : Prop :=
  handler.run.Meets ⟨fun made _ => LeastPrivilege code session made, fun _ _ => True⟩
    (fun made outcome => LeastPrivilege code session made ∧
      (outcome = .ok () → Concluded code session made)) made

section Rules

variable {First : Type} {rest : First → Handling Unit}

theorem handles_await {call : PairingCall} {outcome : call.Answer → Except String First}
    (now : LeastPrivilege code session made)
    (failed : ∀ answer, LeastPrivilege code session (made ++ [⟨call, answer⟩]))
    (next : ∀ answer value, outcome answer = .ok value →
      Handles code session (made ++ [⟨call, answer⟩]) (rest value)) :
    Handles code session made (await call outcome >>= rest) := by
  refine ⟨now, fun answer _ => ?_⟩
  change Meets _ _ _ (ExceptT.bindCont rest (outcome answer))
  cases result : outcome answer with
  | error => exact ⟨failed answer, nofun⟩
  | ok value => exact next answer value result

theorem handles_valid {result : Except String First} (now : LeastPrivilege code session made)
    (next : ∀ value, result = .ok value → Handles code session made (rest value)) :
    Handles code session made (valid result >>= rest) := by
  cases same : result with
  | error => exact ⟨now, nofun⟩
  | ok value => exact next value same

end Rules

/-- An exchange that is none of the four kinds told apart. -/
structure Quiet (code : PairingCode) (exchange : PairingExchange) : Prop where
  requests : requestsIn code [exchange] = []
  decisions : decisionsIn [exchange] = []
  installed : installedIn [exchange] = []
  responses : responsesIn [exchange] = []

variable {exchange : PairingExchange}

theorem LeastPrivilege.quiet (privilege : LeastPrivilege code session made)
    (quiet : Quiet code exchange) :
    LeastPrivilege code session (made ++ [exchange]) := by
  have decisions : decisionsIn (made ++ [exchange]) = decisionsIn made := by
    rw [decisionsIn_append, quiet.decisions, List.append_nil]
  constructor <;>
    simp only [requestsIn_append, decisions, installedIn_append, responsesIn_append,
      quiet.requests, quiet.installed, quiet.responses, List.append_nil, ApprovedRequest]
  · refine privilege.installed.imp_right ?_
    rintro ⟨grants, request, decision, installed, opened, decided, selected⟩
    exact ⟨grants, request, decision, installed, opened, decided.congr decisions, selected⟩
  · exact privilege.refused
  · exact privilege.echoed
  · exact privilege.readable
  · exact privilege.writable

theorem Concluded.quiet (concluded : Concluded code session made) (quiet : Quiet code exchange) :
    Concluded code session (made ++ [exchange]) := by
  obtain ⟨⟨response, told⟩, request, decision, opened, wellFormed, decided, installs⟩ := concluded
  refine ⟨⟨response, ?_⟩, request, decision, ?_, wellFormed, decided.congr ?_, ?_⟩
  · rw [responsesIn_append, quiet.responses, List.append_nil, told]
  · rw [requestsIn_append, quiet.requests, List.append_nil, opened]
  · rw [decisionsIn_append, quiet.decisions, List.append_nil]
  · rw [installedIn_append, quiet.installed, List.append_nil]
    exact installs

theorem handles_quiet {First : Type} {call : PairingCall}
    {outcome : call.Answer → Except String First} {rest : First → Handling Unit}
    (privilege : LeastPrivilege code session made) (quiet : ∀ answer, Quiet code ⟨call, answer⟩)
    (next : ∀ answer value, outcome answer = .ok value →
      LeastPrivilege code session (made ++ [⟨call, answer⟩]) →
      Handles code session (made ++ [⟨call, answer⟩]) (rest value)) :
    Handles code session made (await call outcome >>= rest) :=
  handles_await privilege (fun answer => privilege.quiet (quiet answer)) fun answer value went =>
    next answer value went (privilege.quiet (quiet answer))

theorem handles_closeRejected (accepted : Bool) (privilege : LeastPrivilege code session made)
    (concluded : Concluded code session made) :
    Handles code session made (closeRejected accepted) := by
  cases accepted with
  | true => exact ⟨privilege, fun _ => concluded⟩
  | false =>
      refine ⟨privilege, fun _ _ => ⟨privilege.quiet ?_, fun _ => concluded.quiet ?_⟩⟩
      · exact ⟨rfl, rfl, rfl, rfl⟩
      · exact ⟨rfl, rfl, rfl, rfl⟩

/-- The end of the handler, once the peer has been told. -/
theorem handles_told {response : Proto.PairingResponse} {accepted : Bool}
    (privilege : LeastPrivilege code session made)
    (told : ∀ answer, LeastPrivilege code session (made ++ [⟨.writeFrame response, answer⟩]))
    (concluded : ∀ answer, Concluded code session (made ++ [⟨.writeFrame response, answer⟩])) :
    Handles code session made (do
      await (.writeFrame response) id
      await .finish id
      closeRejected accepted) := by
  refine handles_await privilege told fun answer _ _ => ?_
  refine handles_quiet (told answer) (fun _ => ⟨rfl, rfl, rfl, rfl⟩) fun _ _ _ privilege => ?_
  exact handles_closeRejected accepted privilege
    ((concluded answer).quiet ⟨rfl, rfl, rfl, rfl⟩)

/-- What is installed stays what the request and the decision select while quiet calls follow. -/
theorem Installing.quiet (installing : Installing code session made request decision grants)
    (requests : requestsIn code [exchange] = []) (decisions : decisionsIn [exchange] = []) :
    Installing code session (made ++ [exchange]) request decision grants where
  opened := by rw [requestsIn_append, requests, List.append_nil, installing.opened]
  decided := installing.decided.congr (by rw [decisionsIn_append, decisions, List.append_nil])
  accepted := installing.accepted
  wellFormed := installing.wellFormed
  selected := installing.selected
  distinct := installing.distinct

/-- What the handler knows once the request is read and decided. -/
structure Considered (code : PairingCode) (session : PairingSession) (made : List PairingExchange)
    (request : Proto.PairingRequest) (requested : List Grant) : Prop where
  opened : requestsIn code made = [request]
  nothing : installedIn made = []
  silent : responsesIn made = []
  count : request.requestedGrants.length ≤ 64
  taken : List.Forall₂ (Requests code session.deviceId) request.requestedGrants requested
  distinct : (requested.map grantKey).Nodup

variable {requested : List Grant}

namespace Considered

variable (considered : Considered code session made request requested)

include considered

theorem leastPrivilege : LeastPrivilege code session made :=
  .of_nothing considered.nothing (by simp [considered.silent])

theorem wellFormed : WellFormed code request := by
  refine ⟨considered.count, fun wire asked => ?_, ?_⟩
  · obtain ⟨grant, -, requests⟩ := exists_of_forall₂_right considered.taken.flip asked
    exact requests.wellFormed
  · have keys : request.requestedGrants.map (wireKey code) = requested.map (some ∘ grantKey) := by
      refine List.forall₂_eq_eq_eq ▸ List.forall₂_map_left_iff.mpr
        (List.forall₂_map_right_iff.mpr (considered.taken.imp fun wire grant requests => ?_))
      exact requests.describes.wireKey_eq
    rw [keys, ← List.map_map]
    exact considered.distinct.map (Option.some_injective _)

theorem installing (decided : Decided made request decision) (accepted : decision.accepted = true) :
    Installing code session made request decision (approvedGrants decision requested) where
  opened := considered.opened
  decided := decided
  accepted := accepted
  wellFormed := considered.wellFormed
  selected := by
    rw [approvedGrants, if_pos accepted]
    refine List.rel_filter (fun wire grant requests => ?_) considered.taken
    simp [approvedBy, requests.describes.wireKey_eq, grantKey]
  distinct := by
    rw [approvedGrants, if_pos accepted]
    exact considered.distinct.sublist (List.filter_sublist.map grantKey)

/-- What is exchanged after the decision, up to the response. -/
theorem concluded (decided : Decided made request decision) {later : List PairingExchange}
    (requests : requestsIn code later = []) (decisions : decisionsIn later = [])
    {response : Proto.PairingResponse} (told : responsesIn later = [response])
    (installed : decision.accepted = true →
      installedIn later = [approvedGrants decision requested]) :
    Concluded code session (made ++ later) where
  responded := ⟨response, by rw [responsesIn_append, considered.silent, told]; rfl⟩
  carriedOut := by
    refine ⟨request, decision, ?_, considered.wellFormed, decided.congr ?_, fun accepted => ?_⟩
    · rw [requestsIn_append, considered.opened, requests, List.append_nil]
    · rw [decisionsIn_append, decisions, List.append_nil]
    · refine ⟨_, ?_, (considered.installing decided accepted).selected⟩
      rw [installedIn_append, considered.nothing, installed accepted]
      rfl

/-- Asking the user changes nothing that was considered. -/
theorem quiet (requests : requestsIn code [exchange] = []) (installed : installedIn [exchange] = [])
    (responses : responsesIn [exchange] = []) :
    Considered code session (made ++ [exchange]) request requested where
  opened := by rw [requestsIn_append, requests, List.append_nil, considered.opened]
  nothing := by rw [installedIn_append, installed, List.append_nil, considered.nothing]
  silent := by rw [responsesIn_append, responses, List.append_nil, considered.silent]
  count := considered.count
  taken := considered.taken
  distinct := considered.distinct

theorem waited
    (question : PairingRequestForApproval) (sent : Option Unit) (answer : Option PairingApproval) :
    Considered code session
      (made ++ [⟨.requestApproval question, sent⟩] ++ [⟨.awaitApproval, answer⟩]) request requested :=
  (considered.quiet rfl rfl rfl).quiet rfl rfl rfl

end Considered

theorem handles_conclude (considered : Considered code session made request requested)
    (decided : Decided made request decision) :
    Handles code session made (conclude code session requested decision) := by
  have before := considered.leastPrivilege
  by_cases accepted : decision.accepted = true
  · have installing := considered.installing decided accepted
    have confirmed (answer : Except String Unit) : LeastPrivilege code session
        (made ++ [⟨.confirmPairingWithGrants (approvedGrants decision requested), answer⟩]) := by
      refine (installing.quiet rfl rfl).leastPrivilege ?_ ?_
      · rw [installedIn_append, considered.nothing]
        rfl
      · rw [responsesIn_append, considered.silent]
        exact fun response written => nomatch written
    rw [conclude, confirm, if_pos accepted]
    refine handles_await before confirmed fun answer _ _ => ?_
    refine handles_quiet (confirmed answer) (fun _ => ⟨rfl, rfl, rfl, rfl⟩)
      fun sent _ _ announced => ?_
    refine handles_told announced (fun written => ?_) fun written => ?_
    · refine (((installing.quiet rfl rfl).quiet rfl rfl).quiet rfl rfl).leastPrivilege ?_ ?_
      · rw [installedIn_append, installedIn_append, installedIn_append, considered.nothing]
        rfl
      · rw [responsesIn_append, responsesIn_append, responsesIn_append, considered.silent]
        simp [responsesIn, pairingResponse, accepted]
    · rw [List.append_assoc, List.append_assoc]
      exact considered.concluded decided rfl rfl rfl fun _ => rfl
  · rw [conclude, confirm, if_neg accepted]
    refine handles_quiet before (fun _ => ⟨rfl, rfl, rfl, rfl⟩) fun sent _ _ announced => ?_
    refine handles_told announced (fun written => .of_nothing ?_ ?_) fun written => ?_
    · rw [installedIn_append, installedIn_append, considered.nothing]
      rfl
    · rw [responsesIn_append, responsesIn_append, considered.silent]
      simp [responsesIn, pairingResponse, accepted, approvedGrants]
    · rw [List.append_assoc]
      exact considered.concluded decided rfl rfl rfl fun accepts => absurd accepts accepted

theorem decisionsIn_waited (undecided : decisionsIn made = [])
    (question : PairingRequestForApproval) (sent : Option Unit) (answer : Option PairingApproval) :
    decisionsIn (made ++ [⟨.requestApproval question, sent⟩] ++ [⟨.awaitApproval, answer⟩])
      = [answer] := by
  rw [decisionsIn_append, decisionsIn_append, undecided]
  rfl

theorem await_bind_assoc {First Second Third : Type} {call : PairingCall}
    (outcome : call.Answer → Except String First) (next : First → Handling Second)
    (rest : Second → Handling Third) :
    (await call outcome >>= next) >>= rest =
      await call outcome >>= fun value => next value >>= rest := by
  refine congrArg (Program.call call) (funext fun answer => ?_)
  change Program.bind (ExceptT.bindCont next (outcome answer)) _ =
    ExceptT.bindCont _ (outcome answer)
  cases outcome answer <;> rfl

theorem handles_decided {peers : List PairedPeer}
    (considered : Considered code session made request requested)
    (undecided : decisionsIn made = []) :
    Handles code session made
      (awaitDecision session peers requested >>= conclude code session requested) := by
  rw [awaitDecision]
  split
  next known =>
    refine handles_conclude considered (.unasked undecided ?_)
    have none : requested = [] := by simpa using (Bool.and_eq_true_iff.mp known).2
    exact List.forall₂_nil_right_iff.mp (none ▸ considered.taken)
  next =>
    rw [await_bind_assoc]
    refine handles_quiet considered.leastPrivilege (fun _ => ⟨rfl, rfl, rfl, rfl⟩)
      fun sent _ _ asked => ?_
    let question : PairingRequestForApproval :=
      ⟨session.name, session.deviceId, session.verificationCode, requested⟩
    have waited := considered.waited question sent
    refine handles_await asked (fun answer => ?_) fun answer decision went => ?_
    · exact (waited answer).leastPrivilege
    · have only := decisionsIn_waited undecided question sent answer
      cases went
      cases answer with
      | none => exact handles_conclude (waited none) (.late only)
      | some answer => exact handles_conclude (waited (some answer)) (.arrived only)

theorem handles_handleV1Pairing (code : PairingCode) (session : PairingSession) :
    Handles code session [] (handleV1Pairing code session) := by
  have start : LeastPrivilege code session [] := .of_nothing rfl fun _ written => nomatch written
  refine handles_quiet start (fun _ => ⟨rfl, rfl, rfl, rfl⟩) fun permit _ _ admitted => ?_
  have opened (answer : Option (Except String FeatureStream)) : LeastPrivilege code session
      ([] ++ [⟨.acquire, permit⟩] ++ [⟨.acceptFeatureStream, answer⟩]) :=
    .of_nothing rfl fun _ written => nomatch written
  refine handles_await admitted opened fun answer stream accepted => ?_
  refine handles_valid (opened answer) fun request decoded => ?_
  refine handles_valid (opened answer) fun _ counted => ?_
  refine handles_quiet (opened answer) (fun _ => ⟨rfl, rfl, rfl, rfl⟩) fun clock now _ timed => ?_
  refine handles_valid timed fun requested taken => ?_
  refine handles_quiet timed (fun _ => ⟨rfl, rfl, rfl, rfl⟩) fun stored peers _ looked => ?_
  obtain ⟨taken, distinct, -⟩ := requestedGrants_ok taken
  have few : request.requestedGrants.length ≤ 64 := by
    rw [checkCount] at counted
    split at counted
    · cases counted
    next few => exact Nat.le_of_not_gt few
  refine handles_decided ⟨?_, rfl, rfl, few, taken, distinct⟩ rfl
  have request : (acceptedStream answer >>= openedRequest code) = .ok request := by
    rw [accepted]
    exact decoded
  simp [requestsIn, request, Except.toOption]

end Runs

/-- In every run of the pairing handler, wherever it stops and whatever it is answered: the grants
installed and those the peer is told are the requested ones the user approved, with the requested
constraints.  A run that returns without an error has told the peer and, on an accepting decision,
installed them.  And constraints survive the way to the peer and back. -/
theorem pairing_installs_least_privilege (code : PairingCode) (session : PairingSession) :
    (∀ exchanged last, Run (handleV1Pairing code session).run exchanged last →
      LeastPrivilege code session exchanged) ∧
    (∀ exchanged, Run (handleV1Pairing code session).run exchanged (.done (.ok ())) →
      Concluded code session exchanged) ∧
    ∀ constraints, decodePairingConstraints (encodePairingConstraints constraints)
      = .ok constraints := by
  have handles := handles_handleV1Pairing code session
  refine ⟨fun exchanged last run => ?_, fun exchanged run => ?_,
    decodePairingConstraints_encodePairingConstraints⟩
  · have met := run.meets (fun _ _ => trivial) handles
    cases last with
    | done => exact met.1
    | call => exact met.1
  · exact (run.meets (fun _ _ => trivial) handles).2 rfl

/-- Capabilities are their tokens and directions are numbered in order; every payload asks for all
of remote files, inbound. -/
def plainPairingCode : PairingCode where
  parseToken := fun text =>
    if text = "remote_files_read" then some .remoteFilesRead
    else if text = "remote_files_write" then some .remoteFilesWrite
    else none
  token := fun
    | .remoteFilesRead => "remote_files_read"
    | .remoteFilesWrite => "remote_files_write"
    | .other token => token
  direction :=
    { number := fun direction => Int32.ofNat direction.ctorIdx
      tryFrom := fun number => [.unspecified, .inbound, .outbound][number.toInt.toNat]?
      tryFrom_number := fun direction => by cases direction <;> rfl }
  decodeRequest := fun _ => .ok ⟨[⟨"remote_files_read", 1, none, 0⟩,
    ⟨"remote_files_write", 1, some ⟨some ⟨["docs"], true⟩⟩, 0⟩]⟩
  parseToken_token := by
    intro text capability parsed
    split at parsed
    · cases parsed
      rfl
    · split at parsed
      · cases parsed
        rfl
      · cases parsed

/-- Asked to read everything and to write one share, the user approves the writing: only that is
installed, and the peer is told just this. -/
theorem pairing_installs_least_privilege_subset :
    let session : PairingSession := ⟨"peer", [], "Peer", "1234", "server"⟩
    let write : Grant :=
      ⟨"peer", .remoteFilesWrite, .inbound, .remoteFileShares ["docs"] true, 7⟩
    let response : Proto.PairingResponse :=
      ⟨⟨true, "server", ""⟩, [⟨"remote_files_write", 1, some ⟨some ⟨["docs"], true⟩⟩, 7⟩]⟩
    ∃ exchanged, Run (handleV1Pairing plainPairingCode session).run exchanged (.done (.ok ())) ∧
      installedIn exchanged = [[write]] ∧ responsesIn exchanged = [response] ∧
      LeastPrivilege plainPairingCode session exchanged ∧
      Concluded plainPairingCode session exchanged := by
  intro session write response
  have run : Run (handleV1Pairing plainPairingCode session).run
      [⟨.acquire, some ()⟩, ⟨.acceptFeatureStream, some (.ok ⟨"arcrelay.pairing", true, []⟩)⟩,
        ⟨.clock, 7⟩, ⟨.pairedPeers, .ok []⟩,
        ⟨.requestApproval ⟨"Peer", "peer", "1234",
          [⟨"peer", .remoteFilesRead, .inbound, .none, 7⟩, write]⟩, some ()⟩,
        ⟨.awaitApproval, some ⟨true, {(.remoteFilesWrite, .inbound)}⟩⟩,
        ⟨.confirmPairingWithGrants [write], .ok ()⟩, ⟨.pairingResult "Peer" true, ()⟩,
        ⟨.writeFrame response, .ok ()⟩, ⟨.finish, .ok ()⟩] (.done (.ok ())) :=
    .call (.call (.call (.call (.call (.call (.call (.call (.call (.call (.here _))))))))))
  obtain ⟨privilege, concluded, -⟩ := pairing_installs_least_privilege plainPairingCode session
  exact ⟨_, run, rfl, rfl, privilege _ _ run, concluded _ run⟩

end ArcRelay.Pairing
