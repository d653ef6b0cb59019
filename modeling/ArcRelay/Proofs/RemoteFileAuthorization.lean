/-
Module: ArcRelay.Proofs.RemoteFileAuthorization
Purpose: A remote-file stream reaches the provider only as far as the peer's grants go.
Trusted boundary: as for the handler
-/
import ArcRelay.Proofs.RemoteFileCalls

namespace ArcRelay.RemoteFiles

open Program

/-! ### What grants allow -/

/-- The grant lets the peer read the share. -/
def Grant.Reads (grant : Grant) (shareId : String) : Prop :=
  grant.capability = .remoteFilesRead ∧
    (grant.constraints = .none ∨ ∃ shareIds writable,
      grant.constraints = .remoteFileShares shareIds writable ∧ shareId ∈ shareIds)

/-- The grant lets the peer change the share. -/
def Grant.Writes (grant : Grant) (shareId : String) : Prop :=
  grant.capability = .remoteFilesWrite ∧
    (grant.constraints = .none ∨ ∃ shareIds,
      grant.constraints = .remoteFileShares shareIds true ∧ shareId ∈ shareIds)

variable (grants : List Grant)

def Readable (shareId : String) : Prop :=
  ∃ grant ∈ grants, grant.direction = .inbound ∧ grant.Reads shareId

def Writable (shareId : String) : Prop :=
  ∃ grant ∈ grants, grant.direction = .inbound ∧ grant.Writes shareId

/-- The grant reads or writes without constraint, or some share of its list. -/
def Grant.Lists (grant : Grant) : Prop :=
  grant.capability = .remoteFilesRead ∧
      (grant.constraints = .none ∨ ∃ shareIds writable,
        grant.constraints = .remoteFileShares shareIds writable ∧ shareIds ≠ []) ∨
    grant.capability = .remoteFilesWrite ∧
      (grant.constraints = .none ∨ ∃ shareIds,
        grant.constraints = .remoteFileShares shareIds true ∧ shareIds ≠ [])

def Listable : Prop :=
  ∃ grant ∈ grants, grant.direction = .inbound ∧ grant.Lists

/-- What the grants have to allow before a method of the provider is called. -/
def ProviderCall.Authorised : ProviderCall → Prop
  | .listShares => Listable grants
  | .watchChanges shareId .. | .stat shareId .. | .readRange shareId ..
  | .listDirectory shareId .. | .prepareDownload shareId .. | .prepareThumbnail shareId .. =>
      Readable grants shareId
  | .conditionalDelete shareId .. | .moveEntry shareId .. | .createDirectory shareId ..
  | .rename shareId .. | .delete shareId .. | .prepareUpload shareId ..
  | .commitSystemUpload shareId .. => Writable grants shareId

/-- What the grants have to allow for a request to be served. -/
def RemoteFileRequest.Permitted : RemoteFileRequest → Prop
  | .listShares => Listable grants
  | .watchChanges shareId .. | .stat shareId .. | .readRange shareId ..
  | .listDirectory shareId .. | .download shareId .. | .thumbnail shareId .. =>
      Readable grants shareId
  | .conditionalDelete shareId .. | .move shareId .. | .createDirectory shareId ..
  | .rename shareId .. | .delete shareId .. | .upload shareId ..
  | .conditionalUpload shareId .. => Writable grants shareId

/-! ### The access built from grants

Each grant of the fold adds what it allows to what was allowed before, so after it exactly
what some grant allows is allowed.
-/

section Access

variable {access : RemoteFileAccess} {grant : Grant} {shareId : String}

theorem canRead_iff : access.canRead shareId ↔ access.readAll ∨ shareId ∈ access.readShares := by
  simp [RemoteFileAccess.canRead]

theorem canWrite_iff :
    access.canWrite shareId ↔ access.writeAll ∨ shareId ∈ access.writeShares := by
  simp [RemoteFileAccess.canWrite]

theorem canListShares_iff :
    access.canListShares ↔ (access.readAll ∨ access.readShares ≠ ∅) ∨
      (access.writeAll ∨ access.writeShares ≠ ∅) := by
  simp only [RemoteFileAccess.canListShares, Bool.or_eq_true, decide_eq_true_eq]
  tauto

theorem canRead_withGrant :
    (access.withGrant grant).canRead shareId ↔ access.canRead shareId ∨ grant.Reads shareId := by
  obtain ⟨_, capability, _, constraints, _⟩ := grant
  rcases capability with _ | _ | _ <;> rcases constraints with _ | ⟨shareIds, _ | _⟩ <;>
    simp [RemoteFileAccess.withGrant, canRead_iff, Grant.Reads, or_assoc]

theorem canWrite_withGrant :
    (access.withGrant grant).canWrite shareId ↔ access.canWrite shareId ∨ grant.Writes shareId := by
  obtain ⟨_, capability, _, constraints, _⟩ := grant
  rcases capability with _ | _ | _ <;> rcases constraints with _ | ⟨shareIds, _ | _⟩ <;>
    simp [RemoteFileAccess.withGrant, canWrite_iff, Grant.Writes, or_assoc]

theorem canListShares_withGrant :
    (access.withGrant grant).canListShares ↔ access.canListShares ∨ grant.Lists := by
  obtain ⟨_, capability, _, constraints, _⟩ := grant
  rcases capability with _ | _ | _ <;> rcases constraints with _ | ⟨shareIds, _ | _⟩ <;>
    simp [RemoteFileAccess.withGrant, canListShares_iff, Grant.Lists, Finset.union_eq_empty] <;> tauto

variable {grants : List Grant}

/-- A condition to which every grant of the fold adds holds after it exactly when some inbound
grant adds it. -/
theorem fromGrants_adds (holds : RemoteFileAccess → Prop) (adds : Grant → Prop)
    (adding : ∀ access grant, holds (access.withGrant grant) ↔ holds access ∨ adds grant)
    (nothing : ¬ holds {}) :
    holds (.fromGrants grants .inbound) ↔
      ∃ grant ∈ grants, grant.direction = .inbound ∧ adds grant := by
  have folded : ∀ (taken : List Grant) (access : RemoteFileAccess),
      holds (taken.foldl RemoteFileAccess.withGrant access) ↔
        holds access ∨ ∃ grant ∈ taken, adds grant := by
    intro taken
    induction taken with
    | nil => simp
    | cons _ _ ih =>
        simp [ih, adding, or_assoc]
  simp [RemoteFileAccess.fromGrants, folded, nothing, and_assoc]

theorem fromGrants_canRead :
    (RemoteFileAccess.fromGrants grants .inbound).canRead shareId ↔ Readable grants shareId :=
  fromGrants_adds (·.canRead shareId) (·.Reads shareId) (fun _ _ => canRead_withGrant)
    (by simp [canRead_iff])

theorem fromGrants_canWrite :
    (RemoteFileAccess.fromGrants grants .inbound).canWrite shareId ↔ Writable grants shareId :=
  fromGrants_adds (·.canWrite shareId) (·.Writes shareId) (fun _ _ => canWrite_withGrant)
    (by simp [canWrite_iff])

theorem fromGrants_canListShares :
    (RemoteFileAccess.fromGrants grants .inbound).canListShares ↔ Listable grants :=
  fromGrants_adds (·.canListShares) Grant.Lists (fun _ _ => canListShares_withGrant)
    (by simp [canListShares_iff])

end Access

/-! ### Every call of the handler is authorised -/

/-- A share as the peer may get to see it, given what the provider has answered. -/
def Shown (exchanged : List (Exchange StreamCall StreamCall.Answer))
    (share : RemoteFileShare) : Prop :=
  (Readable grants share.id ∨ Writable grants share.id) ∧
    (share.writable = true → Writable grants share.id ∧
      ∃ offered : List RemoteFileShare, ⟨.provider .listShares, .ok offered⟩ ∈ exchanged ∧
        ∃ original ∈ offered, original.id = share.id ∧ original.writable = true)

/-- What the grants allow the handler to do next. -/
def Allowed (exchanged : List (Exchange StreamCall StreamCall.Answer)) : StreamCall → Prop
  | .provider method => method.Authorised grants
  | .writeResponse response => ∀ share ∈ response.shares, Shown grants exchanged share
  | _ => True

section Handler

variable {grants : List Grant} {made : List (Exchange StreamCall StreamCall.Answer)}

theorem allowed_lenient : Lenient (Allowed grants) where
  quiet := by
    intro made call quiet
    cases call with
    | provider | writeResponse => exact quiet.elim
    | _ => trivial
  shareless := by
    intro made response shareless share shown
    rw [shareless] at shown
    cases shown

/-- What is left of the provider's shares is shown as the grants allow. -/
theorem shown_visibleShares {offered : List RemoteFileShare}
    (answered : ⟨.provider .listShares, .ok offered⟩ ∈ made) {share : RemoteFileShare}
    (visible : share ∈ visibleShares (.fromGrants grants .inbound) offered) :
    Shown grants made share := by
  simp only [visibleShares, List.mem_filterMap, Option.ite_none_right_eq_some, Option.some.injEq,
    Bool.or_eq_true, fromGrants_canRead, fromGrants_canWrite] at visible
  obtain ⟨original, listed, accessible, rfl⟩ := visible
  refine ⟨accessible, fun writable => ?_⟩
  simp only [Bool.and_eq_true, fromGrants_canWrite] at writable
  exact ⟨writable.2, offered, answered, original, listed, rfl, writable.1⟩

/-- The checks on the access built from the grants authorise what they are made for. -/
theorem authorised_of_check {request : RemoteFileRequest} {method : ProviderCall}
    (checked : request.check (.fromGrants grants .inbound) = true)
    (reached : request.Reaches method) : method.Authorised grants := by
  cases request with
  | listShares =>
      cases reached
      exact fromGrants_canListShares.mp checked
  | watchChanges | stat | readRange | listDirectory | download | thumbnail =>
      cases reached
      exact fromGrants_canRead.mp checked
  | conditionalDelete | move | createDirectory | rename | delete | upload =>
      cases reached
      exact fromGrants_canWrite.mp checked
  | conditionalUpload =>
      rcases reached with rfl | ⟨temporary, rfl⟩
      · exact fromGrants_canWrite.mp checked
      · exact fromGrants_canWrite.mp checked

theorem allowed_policy (request : RemoteFileRequest) :
    Policy (.fromGrants grants .inbound) request (Allowed grants) where
  toLenient := allowed_lenient
  reaches := fun checked _ _ reached => authorised_of_check checked reached
  shows := fun _ _ _ answered _ visible => shown_visibleShares answered visible

end Handler

/-! ### Refusals -/

section Refusals

variable {grants : List Grant} {limits : Limits}

/-- A request the grants do not permit is answered before anything else is done. -/
theorem serveRequest_refused (limits : Limits) {request : RemoteFileRequest}
    (refused : ¬ request.Permitted grants) :
    ∃ refusal ∈ [listDenied, readDenied, writeDenied],
      serveRequest limits (.fromGrants grants .inbound) request =
        writeRemoteMessage limits refusal := by
  cases request with
  | listShares =>
      have closed := mt fromGrants_canListShares.mp refused
      exact ⟨listDenied, by simp, by simp [serveRequest, serveCall, closed]⟩
  | watchChanges | stat | readRange | listDirectory | download | thumbnail =>
      have closed := mt fromGrants_canRead.mp refused
      exact ⟨readDenied, by simp, by simp [serveRequest, serveCall, closed]⟩
  | conditionalDelete | move | createDirectory | rename | delete | upload | conditionalUpload =>
      have closed := mt fromGrants_canWrite.mp refused
      exact ⟨writeDenied, by simp, by simp [serveRequest, serveCall, serveUpload, closed]⟩

theorem validate_denied {message : String} (short : message.utf8ByteSize ≤ 8 * 1024) :
    (denied message).validate limits = .ok () := by
  have bounded : ¬ 8192 < message.utf8ByteSize := by omega
  simp [denied, RemoteFileResponse.failure, RemoteFileResponse.validate, truncateUtf8, short,
    bounded, badQueryText]
  rfl

/-- The refusal is valid and says that permission is denied. -/
theorem refusal_delivered (limits : Limits) {refusal : RemoteFileResponse}
    (among : refusal ∈ [listDenied, readDenied, writeDenied]) :
    refusal.validate limits = .ok () ∧ refusal.ok = false ∧
      refusal.error.map (·.code) = some .permissionDenied := by
  simp only [List.mem_cons, List.not_mem_nil, or_false] at among
  rcases among with rfl | rfl | rfl
  · exact ⟨validate_denied (by decide +kernel), rfl, rfl⟩
  · exact ⟨validate_denied (by decide +kernel), rfl, rfl⟩
  · exact ⟨validate_denied (by decide +kernel), rfl, rfl⟩

/-- Once the request is read the client is refused: the handler writes that permission is denied,
and when the write has ended so has the handler. -/
def Refuses (exchanged : List (Exchange StreamCall StreamCall.Answer))
    (last : StreamProgram (Except ProtocolError Unit)) : Prop :=
  ∃ refusal : RemoteFileResponse, refusal.ok = false ∧
    refusal.error.map (·.code) = some .permissionDenied ∧
    ((exchanged = [] ∧ ∃ next, last = .call (.writeResponse refusal) next) ∨
      ∃ outcome : Except ProtocolError Unit,
        exchanged = [⟨.writeResponse refusal, outcome⟩] ∧ last = .done outcome)

/-- A valid response is handed to the stream, and the outcome of the write is the handler's. -/
theorem writeRemoteMessage_valid {response : RemoteFileResponse}
    (valid : response.validate limits = .ok ()) :
    (writeRemoteMessage limits response).run =
      .call (.writeResponse response) fun outcome => .done outcome := by
  rw [writeRemoteMessage, valid]
  refine congrArg (Program.call _) (funext fun outcome => ?_)
  cases outcome <;> rfl

theorem refuses_of_run {request : RemoteFileRequest} (decoded : request.validate limits = .ok ())
    (refused : ¬ request.Permitted grants)
    {exchanged : List (Exchange StreamCall StreamCall.Answer)}
    {last : StreamProgram (Except ProtocolError Unit)}
    (run : Run (handleRemoteFileStream limits true (.fromGrants grants .inbound))
      (⟨.readRequest, .ok request⟩ :: exchanged) last) : Refuses exchanged last := by
  obtain ⟨refusal, among, served⟩ := serveRequest_refused limits refused
  obtain ⟨valid, notOk, code⟩ := refusal_delivered limits among
  have later := serves_of_run decoded run
  rw [served, writeRemoteMessage_valid valid] at later
  rcases later.of_call_done with ⟨nothing, rfl⟩ | ⟨outcome, once, rfl⟩
  · exact ⟨refusal, notOk, code, .inl ⟨nothing, _, rfl⟩⟩
  · exact ⟨refusal, notOk, code, .inr ⟨outcome, once, rfl⟩⟩

end Refusals

/-! ### Authorisation of a stream -/

/-- In every run of the handler, whatever the provider, the stream and the file system answer:
each call of the provider is one the peer's inbound grants allow; each share written to the client
is one they let it read or write, marked writable only if they let it write it and the provider
offered it as writable; and a decoded request they do not permit is refused. -/
theorem remote_file_access_authorised (limits : Limits) (available : Bool) (grants : List Grant) :
    (∀ exchanged method next,
      Run (handleRemoteFileStream limits available (.fromGrants grants .inbound)) exchanged
        (.call (.provider method) next) → method.Authorised grants) ∧
    (∀ exchanged response next,
      Run (handleRemoteFileStream limits available (.fromGrants grants .inbound)) exchanged
        (.call (.writeResponse response) next) →
      ∀ share ∈ response.shares, Shown grants exchanged share) ∧
    ∀ request exchanged last, request.validate limits = .ok () → ¬ request.Permitted grants →
      Run (handleRemoteFileStream limits true (.fromGrants grants .inbound))
        (⟨.readRequest, .ok request⟩ :: exchanged) last → Refuses exchanged last := by
  refine ⟨fun exchanged method next run => ?_, fun exchanged response next run => ?_,
    fun request exchanged last decoded refused run => ?_⟩
  · exact run.call_permitted
      (asks_handleRemoteFileStream allowed_lenient allowed_policy available)
  · exact run.call_permitted
      (asks_handleRemoteFileStream allowed_lenient allowed_policy available)
  · exact refuses_of_run decoded refused run

/-- A peer that may read one share. -/
def readerGrants : List Grant :=
  [⟨"peer", .remoteFilesRead, .inbound, .remoteFileShares ["docs"] false, 0⟩]

/-- The reader gets to list the shares, and its deletion in the share it reads is refused. -/
theorem remote_file_access_authorised_reader :
    Listable readerGrants ∧ Refuses [⟨.writeResponse writeDenied, .ok ()⟩] (.done (.ok ())) := by
  obtain ⟨authorised, -, refuses⟩ := remote_file_access_authorised ⟨0, 0⟩ true readerGrants
  refine ⟨authorised [⟨.readRequest, .ok .listShares⟩] .listShares _ (.call (.here _)),
    refuses (.delete "docs" "a") _ _ ?_ ?_ (.call (.call (.here _)))⟩
  · rfl
  · simp [RemoteFileRequest.Permitted, Writable, Grant.Writes, readerGrants]

end ArcRelay.RemoteFiles
