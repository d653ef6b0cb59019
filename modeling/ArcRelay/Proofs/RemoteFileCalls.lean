/-
Module: ArcRelay.Proofs.RemoteFileCalls
Purpose: What the handler of a remote-file stream can call, as rules over any condition on its
  calls.
Trusted boundary: as for the handler
-/
import ArcRelay.Library.ProgramRuns
import ArcRelay.Server.RemoteFileStream

namespace ArcRelay.RemoteFiles

open Program

/-!
Every request is served the same way: a check of the access, one call of the provider, and what
follows from its answer.  `Reaches` names the provider's methods that serving a request can come
to, and `Policy` what a condition on the calls has to allow for the whole of it to satisfy it.
-/

/-- The check a request is served after. -/
def RemoteFileRequest.check (access : RemoteFileAccess) : RemoteFileRequest → Bool
  | .listShares => access.canListShares
  | .watchChanges shareId .. | .stat shareId .. | .readRange shareId ..
  | .listDirectory shareId .. | .download shareId .. | .thumbnail shareId .. =>
      access.canRead shareId
  | .conditionalDelete shareId .. | .move shareId .. | .createDirectory shareId ..
  | .rename shareId .. | .delete shareId .. | .upload shareId ..
  | .conditionalUpload shareId .. => access.canWrite shareId

/-- The provider's methods that serving a request can come to. -/
def RemoteFileRequest.Reaches (method : ProviderCall) : RemoteFileRequest → Prop
  | .listShares => method = .listShares
  | .watchChanges shareId epoch afterSequence =>
      method = .watchChanges shareId epoch afterSequence
  | .stat shareId relativePath => method = .stat shareId relativePath
  | .move shareId relativePath destinationPath overwrite expectedRevision =>
      method = .moveEntry shareId relativePath destinationPath overwrite expectedRevision
  | .conditionalDelete shareId relativePath expectedRevision recursive =>
      method = .conditionalDelete shareId relativePath expectedRevision recursive
  | .readRange shareId relativePath offset length revision =>
      method = .readRange shareId relativePath offset length revision
  | .conditionalUpload shareId relativePath name size expectedRevision =>
      method = .prepareUpload shareId relativePath name size (!expectedRevision.isEmpty) none ∨
        ∃ temporary,
          method = .commitSystemUpload shareId relativePath name temporary expectedRevision
  | .listDirectory shareId relativePath cursor limit search sortKey sortDirection =>
      method = .listDirectory shareId relativePath cursor (pageLimit limit) search sortKey
        sortDirection
  | .createDirectory shareId relativePath name =>
      method = .createDirectory shareId relativePath name
  | .rename shareId relativePath newName => method = .rename shareId relativePath newName
  | .delete shareId relativePath => method = .delete shareId relativePath
  | .download shareId relativePath => method = .prepareDownload shareId relativePath
  | .thumbnail shareId relativePath maxDimension =>
      method = .prepareThumbnail shareId relativePath maxDimension
  | .upload shareId relativePath name size overwrite expectedModifiedAtMs =>
      method = .prepareUpload shareId relativePath name size overwrite expectedModifiedAtMs

/-- Neither the provider nor the client is addressed. -/
def StreamCall.Quiet : StreamCall → Prop
  | .provider _ | .writeResponse _ => False
  | _ => True

/-- The condition lets through what is no call of the provider and shows no share. -/
structure Lenient (permitted : List (Exchange StreamCall StreamCall.Answer) → StreamCall → Prop) :
    Prop where
  quiet : ∀ made call, call.Quiet → permitted made call
  shareless : ∀ made response, response.shares = [] → permitted made (.writeResponse response)

/-- What a condition has to allow for a request to be served under it. -/
structure Policy (access : RemoteFileAccess) (request : RemoteFileRequest)
    (permitted : List (Exchange StreamCall StreamCall.Answer) → StreamCall → Prop) : Prop
    extends Lenient permitted where
  reaches : request.check access = true → ∀ made method, request.Reaches method →
    permitted made (.provider method)
  shows : request = .listShares → ∀ made offered,
    ⟨.provider .listShares, .ok offered⟩ ∈ made →
    permitted made (.writeResponse
      { RemoteFileResponse.success with shares := visibleShares access offered })

section Handler

variable {permitted : List (Exchange StreamCall StreamCall.Answer) → StreamCall → Prop}
  {made : List (Exchange StreamCall StreamCall.Answer)} {limits : Limits}

theorem asks_attempt {Failure Error Value : Type} {call : StreamProgram (Except Failure Value)}
    {failure : Failure → Error} (asks : call.Asks permitted made) :
    (attempt call failure).run.Asks permitted made := by
  refine asks_bind asks fun value made => ?_
  cases value <;> exact asks_pure _

theorem asks_writeRemoteMessage {response : RemoteFileResponse}
    (allowed : permitted made (.writeResponse response)) :
    (writeRemoteMessage limits response).run.Asks permitted made := by
  rw [writeRemoteMessage]
  cases response.validate limits with
  | error => exact asks_exceptT_throw _
  | ok => exact asks_attempt (asks_ask allowed)

section Lenience

variable (lenient : Lenient permitted)
include lenient

/-- Most responses carry no shares. -/
theorem Lenient.writes {response : RemoteFileResponse} (shareless : response.shares = []) :
    (writeRemoteMessage limits response).run.Asks permitted made :=
  asks_writeRemoteMessage (lenient.shareless made response shareless)

theorem Lenient.awaits {call : StreamCall} (quiet : call.Quiet) :
    (await call).Asks permitted made :=
  asks_ask (lenient.quiet made call quiet)

theorem Lenient.readRemoteMessage : (readRemoteMessage limits).run.Asks permitted made := by
  refine asks_exceptT_bind (asks_attempt (lenient.awaits trivial)) fun request made => ?_
  cases request.validate limits with
  | error => exact asks_exceptT_throw _
  | ok => exact asks_exceptT_pure _

/-- A check, a refusal where it fails, and a call of the provider where it succeeds. -/
theorem Lenient.checked {allowed : Bool} {refused : RemoteFileResponse} {method : ProviderCall}
    {rest : RemoteFileResult method.Value → Serving Unit} (shareless : refused.shares = [])
    (calls : allowed = true → permitted made (.provider method))
    (asks : ∀ answer made, ⟨.provider method, answer⟩ ∈ made →
      (rest answer).run.Asks permitted made) :
    (if !allowed then writeRemoteMessage limits refused
      else callProvider method >>= rest).run.Asks permitted made := by
  cases allowed with
  | false => exact lenient.writes shareless
  | true => exact ⟨calls rfl, fun answer => asks answer _ (by simp)⟩

theorem Lenient.serveCall {allowed : Bool} {refused : RemoteFileResponse} {method : ProviderCall}
    {response : method.Value → RemoteFileResponse} (refusedShareless : refused.shares = [])
    (shareless : ∀ value, (response value).shares = [])
    (calls : allowed = true → permitted made (.provider method)) :
    (serveCall limits allowed refused method response).run.Asks permitted made := by
  refine lenient.checked refusedShareless calls fun answer made answered => ?_
  cases answer with
  | error => exact lenient.writes rfl
  | ok value => exact lenient.writes (shareless value)

variable {temporary : Path}

theorem Lenient.copyBody (left received : Nat) :
    (copyBody temporary left received).Asks permitted made := by
  fun_induction RemoteFiles.copyBody temporary left received generalizing made with
  | case1 => exact asks_pure _
  | case2 _ _ more ih =>
      refine ⟨lenient.quiet _ _ trivial, fun answer => ?_⟩
      cases answer with
      | error => exact asks_pure _
      | ok moved =>
          change Program.Asks _ _ (if moved = 0 then _ else _)
          split
          case isTrue => exact asks_pure _
          case isFalse more => exact ih moved more

theorem Lenient.refuseTrailing {expectedRevision : Option String} {received : Nat}
    {size : UInt64} :
    (refuseTrailing expectedRevision received size).run.Asks permitted made := by
  rw [RemoteFiles.refuseTrailing]
  split
  · refine asks_exceptT_bind (asks_exceptT_lift (lenient.awaits trivial)) fun answer made => ?_
    rcases answer with _ | error | trailing
    · exact asks_exceptT_throw _
    · exact asks_exceptT_throw _
    · dsimp only
      split
      · exact asks_exceptT_throw _
      · exact asks_exceptT_pure _
  · exact asks_exceptT_pure _

theorem Lenient.receiveBody {size : UInt64} {expectedRevision : Option String} :
    (receiveBody temporary size expectedRevision).run.Asks permitted made := by
  refine asks_exceptT_bind (asks_attempt (lenient.awaits trivial)) fun _ made => ?_
  refine asks_exceptT_bind (asks_attempt (lenient.copyBody _ _)) fun received made => ?_
  refine asks_exceptT_bind lenient.refuseTrailing fun _ made => ?_
  refine asks_exceptT_bind (asks_attempt (lenient.awaits trivial)) fun _ made => ?_
  refine asks_exceptT_bind (asks_attempt (lenient.awaits trivial)) fun _ made => ?_
  split
  · exact asks_exceptT_throw _
  · exact asks_exceptT_pure _

theorem Lenient.checkUnmodified {upload : RemoteFileUpload} :
    (checkUnmodified upload).run.Asks permitted made := by
  rw [RemoteFiles.checkUnmodified]
  split
  · exact asks_exceptT_pure _
  · refine asks_exceptT_bind (asks_attempt (lenient.awaits trivial)) fun _ made => ?_
    split
    · exact asks_exceptT_throw _
    · exact asks_exceptT_pure _

theorem Lenient.publish {upload : RemoteFileUpload} :
    (publish upload temporary).run.Asks permitted made := by
  rw [RemoteFiles.publish]
  split
  · exact asks_attempt (lenient.awaits trivial)
  · refine asks_exceptT_bind (asks_attempt (lenient.awaits trivial)) fun _ made => ?_
    exact asks_exceptT_bind (asks_exceptT_lift (lenient.awaits trivial))
      fun _ _ => asks_exceptT_pure _

theorem Lenient.removeFailed {Value : Type} {result : RemoteFileResult Value} :
    (removeFailed temporary result).Asks permitted made := by
  rw [RemoteFiles.removeFailed]
  split
  · exact asks_pure _
  · exact asks_bind (lenient.awaits trivial) fun _ _ => asks_pure _

section Upload

variable {shareId relativePath name : String} {size : UInt64} {expectedRevision : Option String}
  {upload : RemoteFileUpload}

omit lenient in
theorem uploadResponse_shares
    (result : RemoteFileResult (Option (RemoteFileEntry × String))) :
    (uploadResponse upload result).shares = [] := by
  rcases result with _ | _ | ⟨_, _⟩ <;> rfl

/-- Only a conditional upload comes back to the provider. -/
theorem Lenient.storeUpload {temporary : Path}
    (commits : ∀ made temporary expected, expectedRevision = some expected →
      permitted made
        (.provider (.commitSystemUpload shareId relativePath name temporary expected))) :
    (storeUpload shareId relativePath name size expectedRevision upload temporary).run.Asks
      permitted made := by
  refine asks_exceptT_bind lenient.receiveBody fun _ made => ?_
  cases expectedRevision with
  | some expected =>
      exact asks_exceptT_bind (asks_attempt (asks_ask (commits made temporary expected rfl)))
        fun _ _ => asks_exceptT_pure _
  | none =>
      refine asks_exceptT_bind lenient.checkUnmodified fun _ made => ?_
      exact asks_exceptT_bind lenient.publish fun _ _ => asks_exceptT_pure _

theorem Lenient.receiveUpload
    (commits : ∀ made temporary expected, expectedRevision = some expected →
      permitted made
        (.provider (.commitSystemUpload shareId relativePath name temporary expected))) :
    (receiveUpload limits shareId relativePath name size expectedRevision upload).run.Asks
      permitted made := by
  refine asks_exceptT_bind (lenient.writes rfl) fun _ made => ?_
  split
  · exact asks_exceptT_throw _
  · refine asks_exceptT_bind (asks_exceptT_lift (lenient.awaits trivial)) fun uuid made => ?_
    refine asks_exceptT_bind (asks_exceptT_lift (lenient.storeUpload commits)) fun result made => ?_
    refine asks_exceptT_bind (asks_exceptT_lift lenient.removeFailed) fun _ made => ?_
    exact lenient.writes (uploadResponse_shares result)

theorem Lenient.serveUpload {access : RemoteFileAccess} {overwrite : Bool}
    {expectedModifiedAtMs : Option Int64}
    (prepares : access.canWrite shareId = true → permitted made
      (.provider (.prepareUpload shareId relativePath name size overwrite expectedModifiedAtMs)))
    (commits : access.canWrite shareId = true →
      ∀ made temporary expected, expectedRevision = some expected →
      permitted made
        (.provider (.commitSystemUpload shareId relativePath name temporary expected))) :
    (serveUpload limits access shareId relativePath name size overwrite expectedModifiedAtMs
      expectedRevision).run.Asks permitted made := by
  rw [RemoteFiles.serveUpload]
  split
  case isTrue => exact lenient.writes rfl
  case isFalse allowed =>
      have allowed : access.canWrite shareId = true := by simpa using allowed
      split
      · exact lenient.writes rfl
      · refine asks_exceptT_bind (asks_exceptT_lift (asks_ask (prepares allowed)))
          fun answer made => ?_
        cases answer with
        | error => exact lenient.writes rfl
        | ok => exact lenient.receiveUpload (commits allowed)

end Upload

theorem Lenient.sendDownload {download : RemoteFileDownload} :
    (sendDownload limits download).run.Asks permitted made := by
  rw [RemoteFiles.sendDownload]
  split
  · exact lenient.writes rfl
  · refine asks_exceptT_bind (asks_exceptT_lift (lenient.awaits trivial)) fun opened made => ?_
    cases opened with
    | error => exact lenient.writes rfl
    | ok =>
        refine asks_exceptT_bind (lenient.writes rfl) fun _ made => ?_
        refine asks_exceptT_bind (asks_attempt (lenient.awaits trivial)) fun sent made => ?_
        split
        · exact asks_exceptT_throw _
        · exact asks_exceptT_pure _

theorem Lenient.sendThumbnail {thumbnail : RemoteFileThumbnail} :
    (sendThumbnail limits thumbnail).run.Asks permitted made :=
  asks_exceptT_bind (lenient.writes rfl) fun _ _ => asks_attempt (lenient.awaits trivial)

end Lenience

variable {access : RemoteFileAccess} {request : RemoteFileRequest}

/-- A request served under a policy makes only calls that it permits. -/
theorem asks_serveRequest (policy : Policy access request permitted) :
    (serveRequest limits access request).run.Asks permitted made := by
  have lenient := policy.toLenient
  have reaches := policy.reaches
  cases request with
  | listShares =>
      refine lenient.checked rfl (fun allowed => reaches allowed _ _ rfl) fun answer made answered => ?_
      cases answer with
      | error => exact lenient.writes rfl
      | ok offered => exact asks_writeRemoteMessage (policy.shows rfl made offered answered)
  | watchChanges | stat | readRange | listDirectory | conditionalDelete | move
  | createDirectory | rename | delete =>
      exact lenient.serveCall rfl (fun _ => rfl) fun allowed => reaches allowed _ _ rfl
  | download =>
      refine lenient.checked rfl (fun allowed => reaches allowed _ _ rfl) fun answer made _ => ?_
      cases answer with
      | error => exact lenient.writes rfl
      | ok => exact lenient.sendDownload
  | thumbnail =>
      refine lenient.checked rfl (fun allowed => reaches allowed _ _ rfl) fun answer made _ => ?_
      rcases answer with error | _ | thumbnail
      · exact lenient.writes rfl
      · exact lenient.writes rfl
      · exact lenient.sendThumbnail
  | upload =>
      exact lenient.serveUpload (fun allowed => reaches allowed _ _ rfl)
        fun _ _ _ _ conditional => nomatch conditional
  | conditionalUpload =>
      refine lenient.serveUpload (fun allowed => reaches allowed _ _ (.inl rfl)) ?_
      rintro allowed made temporary expected ⟨⟩
      exact reaches allowed _ _ (.inr ⟨temporary, rfl⟩)

/-- The handler under a condition that is a policy for every request. -/
theorem asks_handleRemoteFileStream (lenient : Lenient permitted)
    (policy : ∀ request, Policy access request permitted) (available : Bool) :
    (handleRemoteFileStream limits available access).Asks permitted made := by
  refine asks_exceptT_bind lenient.readRemoteMessage fun request made => ?_
  split
  · exact asks_serveRequest (policy request)
  · exact lenient.writes rfl

/-- The handler serves the request it decoded. -/
theorem serves_of_run (decoded : request.validate limits = .ok ())
    {exchanged : List (Exchange StreamCall StreamCall.Answer)}
    {last : StreamProgram (Except ProtocolError Unit)}
    (run : Run (handleRemoteFileStream limits true access)
      (⟨.readRequest, .ok request⟩ :: exchanged) last) :
    Run (serveRequest limits access request).run exchanged last := by
  obtain ⟨next, same, later⟩ := run.cons
  cases same
  change Run (ExceptT.run ((validated (request.validate limits) >>= fun _ => pure request) >>=
    serveRequest limits access)) exchanged last at later
  rwa [decoded] at later

theorem run_of_serves (decoded : request.validate limits = .ok ())
    {exchanged : List (Exchange StreamCall StreamCall.Answer)}
    {last : StreamProgram (Except ProtocolError Unit)}
    (run : Run (serveRequest limits access request).run exchanged last) :
    Run (handleRemoteFileStream limits true access)
      (⟨.readRequest, .ok request⟩ :: exchanged) last := by
  refine .call ?_
  change Run (ExceptT.run ((validated (request.validate limits) >>= fun _ => pure request) >>=
    serveRequest limits access)) exchanged last
  rwa [decoded]

end Handler

end ArcRelay.RemoteFiles
