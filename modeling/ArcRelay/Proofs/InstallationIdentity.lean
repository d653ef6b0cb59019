/-
Module: ArcRelay.Proofs.InstallationIdentity
Purpose: Which identity concurrent launches agree on, and which launches come away without one.
Trusted boundary: as for the launches
-/
import ArcRelay.Product.Installation

namespace ArcRelay.Product

open Program

/-!
`load_or_create` makes the identity file visible before it writes it.  A launch that looks at the
file meanwhile, or after the creator was killed, reads a beginning of the identity.  It never
reads another identity, since the file has one creator and is never written again: the launches
that return an identity return the same one.  But a beginning of a JSON object is no JSON object,
so the launch that read it fails.
-/

/-- What `serde_json` guarantees for this type: a value is serialized and read back unchanged, and
a serialization that is cut off is not accepted. -/
structure SerdeLaws (externals : Externals) : Prop where
  readsBack : ∀ installation, ∃ bytes, externals.toVecPretty installation = .ok bytes ∧
    externals.fromSlice bytes = .ok installation
  cutOff : ∀ installation bytes part, externals.toVecPretty installation = .ok bytes →
    part <+: bytes → part ≠ bytes → ∀ other, externals.fromSlice part ≠ .ok other

/-! ### What a launch exchanged -/

abbrev FileExchange := Exchange FileCall FileCall.Answer

/-- The bytes a call put into the file. -/
def FileCall.written : (call : FileCall) → call.Answer → Bytes
  | .write bytes, .ok taken => bytes.take taken
  | _, _ => []

/-- What a call read from the file. -/
def FileCall.reads : (call : FileCall) → call.Answer → List Bytes
  | .read, .ok bytes => [bytes]
  | _, _ => []

/-- The call met an I/O error.  A file that exists already is none to `create_private_file`, and a
write that takes nothing is one to `write_all`. -/
def FileCall.failed : (call : FileCall) → call.Answer → Bool
  | .createPrivateFile, .error error => decide (error.kind ≠ .alreadyExists)
  | .createDirAll, .error _ | .hardenDirectory, .error _ | .write _, .error _
  | .syncAll, .error _ | .hardenPrivateFile, .error _ | .symlinkMetadata, .error _
  | .read, .error _ => true
  | .write _, .ok 0 => true
  | _, _ => false

/-- What the file system answers: a write takes no more than it is given, and the identity file is
no symlink. -/
def FileCall.Admits : (call : FileCall) → call.Answer → Prop
  | .write bytes, .ok taken => taken ≤ bytes.length
  | .symlinkMetadata, .ok symlink => symlink = false
  | _, _ => True

def written (made : List FileExchange) : Bytes :=
  made.flatMap fun exchange => exchange.op.written exchange.answer

def reads (made : List FileExchange) : List Bytes :=
  made.flatMap fun exchange => exchange.op.reads exchange.answer

def MeetsIoError (made : List FileExchange) : Prop :=
  ∃ exchange ∈ made, exchange.op.failed exchange.answer = true

/-- The launch created the file. -/
def Created (made : List FileExchange) : Prop :=
  (⟨.createPrivateFile, .ok ()⟩ : FileExchange) ∈ made

@[simp] theorem written_snoc (made : List FileExchange) (call : FileCall) (answer : call.Answer) :
    written (made ++ [⟨call, answer⟩]) = written made ++ call.written answer := by
  simp [written]

@[simp] theorem reads_snoc (made : List FileExchange) (call : FileCall) (answer : call.Answer) :
    reads (made ++ [⟨call, answer⟩]) = reads made ++ call.reads answer := by
  simp [reads]

theorem Created.snoc {made : List FileExchange} (created : Created made)
    (exchange : FileExchange) : Created (made ++ [exchange]) :=
  List.mem_append_left _ created

theorem meetsIoError_snoc {made : List FileExchange} {call : FileCall} {answer : call.Answer}
    (failed : call.failed answer = true) : MeetsIoError (made ++ [⟨call, answer⟩]) :=
  ⟨⟨call, answer⟩, by simp, failed⟩

/-! ### One launch -/

section OneLaunch

variable {externals : Externals} {manifest : ProductManifest} {launch : Launch externals}
  {made : List FileExchange}

/-- How a launch of a valid manifest can end: with the identity it wrote as a whole, with the
identity it read, with the refusal of what it read, or with an error it met. -/
inductive LaunchOutcome (externals : Externals) (manifest : ProductManifest)
    (launch : Launch externals) :
    List FileExchange → Except ProtocolError ProductInstallation → Prop where
  | created {made : List FileExchange} (exclusive : Created made)
      (whole : externals.toVecPretty (newInstallation manifest launch) = .ok (written made))
      (unread : reads made = []) :
      LaunchOutcome externals manifest launch made (.ok (newInstallation manifest launch))
  | loaded {made : List FileExchange} {bytes : Bytes} {installation : ProductInstallation}
      (read : reads made = [bytes]) (parsed : externals.fromSlice bytes = .ok installation)
      (agrees : matchesProduct externals manifest installation = true) :
      LaunchOutcome externals manifest launch made (.ok installation)
  | refused {made : List FileExchange} {bytes : Bytes} {failure : ProtocolError}
      (read : reads made = [bytes])
      (unusable : ∀ installation, externals.fromSlice bytes = .ok installation →
        matchesProduct externals manifest installation = false) :
      LaunchOutcome externals manifest launch made (.error failure)
  | failed {made : List FileExchange} {failure : ProtocolError} (met : MeetsIoError made) :
      LaunchOutcome externals manifest launch made (.error failure)
  | unserialized {made : List FileExchange} {failure : ProtocolError} {message : String}
      (refused : externals.toVecPretty (newInstallation manifest launch) = .error message) :
      LaunchOutcome externals manifest launch made (.error failure)

/-- A launch writes only what is left of its own identity, and only into a file it created. -/
def launchContract (manifest : ProductManifest) (launch : Launch externals) :
    Contract FileCall FileCall.Answer where
  permitted made call := ∀ bytes, call = .write bytes → Created made ∧
    externals.toVecPretty (newInstallation manifest launch) = .ok (written made ++ bytes)
  admits := FileCall.Admits

theorem meets_attempt_bind {contract : Contract FileCall FileCall.Answer} {First Second : Type}
    {call : FileProgram (Except IoError First)} {rest : First → Launching Second}
    {post : List FileExchange → Except ProtocolError Second → Prop}
    (meets : call.Meets contract (fun made outcome =>
      match outcome with
      | .ok value => (rest value).run.Meets contract post made
      | .error error => post made (.error (.io error))) made) :
    (attempt call >>= rest).run.Meets contract post made := by
  refine meets_exceptT_bind (meets_bind (meets_mono meets fun made outcome went => ?_))
  cases outcome with
  | ok => exact went
  | error => exact went

theorem meets_acceptInstallation {bytes : Bytes} (read : reads made = [bytes]) :
    (acceptInstallation externals manifest bytes).run.Meets (launchContract manifest launch)
      (LaunchOutcome externals manifest launch) made := by
  unfold acceptInstallation
  cases parsed : externals.fromSlice bytes with
  | error =>
      exact .refused read fun installation accepted => by simp [parsed] at accepted
  | ok installation =>
      dsimp only
      cases agrees : matchesProduct externals manifest installation with
      | false =>
          refine .refused read fun other accepted => ?_
          rw [parsed, Except.ok.injEq] at accepted
          exact accepted ▸ agrees
      | true =>
          refine meets_attempt_bind ⟨nofun, fun answer _ => ?_⟩
          cases answer with
          | error => exact .failed (meetsIoError_snoc rfl)
          | ok =>
              refine .loaded ?_ parsed agrees
              rw [reads_snoc, read]
              rfl

theorem meets_loadInstallation (unread : reads made = []) :
    (loadInstallation externals manifest).run.Meets (launchContract manifest launch)
      (LaunchOutcome externals manifest launch) made := by
  refine meets_attempt_bind ⟨nofun, fun answer admitted => ?_⟩
  cases answer with
  | error => exact .failed (meetsIoError_snoc rfl)
  | ok symlink =>
      obtain rfl : symlink = false := admitted
      refine meets_attempt_bind ⟨nofun, fun answer _ => ?_⟩
      cases answer with
      | error => exact .failed (meetsIoError_snoc rfl)
      | ok =>
          refine meets_acceptInstallation ?_
          rw [reads_snoc, reads_snoc, unread]
          rfl

/-- `write_all` ends with everything written or with an I/O error. -/
theorem meets_writeAll (bytes : Bytes) (created : Created made) (unread : reads made = [])
    (serialized : externals.toVecPretty (newInstallation manifest launch) =
      .ok (written made ++ bytes)) :
    (writeAll bytes).Meets (launchContract manifest launch) (fun made outcome =>
      match outcome with
      | .ok () => Created made ∧ reads made = [] ∧
          externals.toVecPretty (newInstallation manifest launch) = .ok (written made)
      | .error _ => MeetsIoError made) made := by
  -- Induction on what is left to write; `written made ++ bytes` stays the whole identity.
  induction bytes using writeAll.induct generalizing made with
  | case1 =>
      rw [writeAll]
      exact ⟨created, unread, by simpa using serialized⟩
  | case2 _ _ ih =>
      rw [writeAll]
      refine ⟨fun bytes same => ?_, fun answer admitted => ?_⟩
      · cases same
        exact ⟨created, serialized⟩
      cases answer with
      | error => exact meetsIoError_snoc rfl
      | ok taken =>
          cases taken with
          | zero => exact meetsIoError_snoc rfl
          | succ taken =>
              refine ih taken (created.snoc _) ?_ ?_
              · simp [unread, FileCall.reads]
              · simpa [FileCall.written, List.take_append_drop] using serialized

theorem meets_storeInstallation {bytes : Bytes} (created : Created made)
    (unread : reads made = []) (serialized : externals.toVecPretty
      (newInstallation manifest launch) = .ok (written made ++ bytes)) :
    (storeInstallation (newInstallation manifest launch) bytes).run.Meets
      (launchContract manifest launch) (LaunchOutcome externals manifest launch) made := by
  refine meets_attempt_bind (meets_mono (meets_writeAll bytes created unread serialized)
    fun made outcome wrote => ?_)
  cases outcome with
  | error => exact .failed wrote
  | ok =>
      obtain ⟨created, unread, whole⟩ := wrote
      refine meets_attempt_bind ⟨nofun, fun answer _ => ?_⟩
      cases answer with
      | error => exact .failed (meetsIoError_snoc rfl)
      | ok =>
          refine meets_attempt_bind ⟨nofun, fun answer _ => ?_⟩
          cases answer with
          | error => exact .failed (meetsIoError_snoc rfl)
          | ok =>
              refine .created ((created.snoc _).snoc _) ?_ ?_
              · rw [written_snoc, written_snoc]
                simpa [FileCall.written] using whole
              · rw [reads_snoc, reads_snoc, unread]
                rfl

theorem meets_createInstallation (unread : reads made = []) (unwritten : written made = []) :
    (createInstallation externals manifest (newInstallation manifest launch)).run.Meets
      (launchContract manifest launch) (LaunchOutcome externals manifest launch) made := by
  unfold createInstallation
  cases serialized : externals.toVecPretty (newInstallation manifest launch) with
  | error => exact .unserialized serialized
  | ok =>
      refine meets_exceptT_bind ⟨nofun, fun answer _ => ?_⟩
      have stillUnread : ∀ answer, reads (made ++ [⟨.createPrivateFile, answer⟩]) = [] := by
        intro answer
        rw [reads_snoc, unread]
        cases answer <;> rfl
      cases answer with
      | error error =>
          change Program.Meets _ _ _ (if error.kind = .alreadyExists then
            loadInstallation externals manifest else throw (.io error)).run
          by_cases present : error.kind = .alreadyExists
          · rw [if_pos present]
            exact meets_loadInstallation (stillUnread _)
          · rw [if_neg present]
            exact .failed (meetsIoError_snoc (decide_eq_true present))
      | ok =>
          refine meets_storeInstallation (List.mem_append_right _ (by simp)) (stillUnread _) ?_
          rw [written_snoc, unwritten]
          exact serialized

theorem meets_loadOrCreate (valid : manifest.validate = .ok ()) :
    (loadOrCreate externals manifest launch).run.Meets (launchContract manifest launch)
      (LaunchOutcome externals manifest launch) [] := by
  unfold loadOrCreate
  rw [valid]
  refine meets_attempt_bind ⟨nofun, fun answer _ => ?_⟩
  cases answer with
  | error => exact .failed (meetsIoError_snoc rfl)
  | ok =>
      refine meets_attempt_bind ⟨nofun, fun answer _ => ?_⟩
      cases answer with
      | error => exact .failed (meetsIoError_snoc rfl)
      | ok =>
          refine meets_exceptT_bind ⟨nofun, fun found _ => ?_⟩
          cases found with
          | true => exact meets_loadInstallation rfl
          | false => exact meets_createInstallation rfl rfl

end OneLaunch

/-! ### The shared file -/

/-- What one call does to the file: nothing, create it, or append to it. -/
inductive Performed (launch : Nat) (file : Option IdentityFile) :
    FileExchange → Option IdentityFile → Prop where
  | kept {call : FileCall} {answer : call.Answer} (unwritten : call.written answer = [])
      (uncreated : (⟨call, answer⟩ : FileExchange) ≠ ⟨.createPrivateFile, .ok ()⟩)
      (seen : ∀ bytes ∈ call.reads answer, ∃ identity, file = some identity ∧
        bytes = identity.content)
      (admitted : call.Admits answer) : Performed launch file ⟨call, answer⟩ file
  | created (absent : file = none) :
      Performed launch file ⟨.createPrivateFile, .ok ()⟩ (some ⟨launch, []⟩)
  | wrote {content bytes : Bytes} {taken : Nat} (own : file = some ⟨launch, content⟩)
      (fits : taken ≤ bytes.length) :
      Performed launch file ⟨.write bytes, .ok taken⟩
        (some ⟨launch, content ++ bytes.take taken⟩)

section Perform

variable {launch : Nat} {file after : Option IdentityFile} {call : FileCall}
variable {answer : call.Answer}

/-- A call that is refused leaves the file alone. -/
theorem perform_fails {text : String}
    (performed : perform launch (.fails text) file call = some (answer, after)) :
    Performed launch file ⟨call, answer⟩ after := by
  cases call <;>
    (cases performed
     exact .kept rfl nofun nofun trivial)

theorem perform_serves {count : Nat}
    (performed : perform launch (.serves count) file call = some (answer, after)) :
    Performed launch file ⟨call, answer⟩ after := by
  cases call with
  | createPrivateFile =>
      cases file with
      | some =>
          cases performed
          exact .kept rfl nofun nofun trivial
      | none =>
          cases performed
          exact .created rfl
  | write =>
      cases file with
      | some identity =>
          obtain ⟨creator, content⟩ := identity
          by_cases own : creator = launch
          · subst creator
            simp only [perform, if_true] at performed
            cases performed
            exact .wrote rfl (Nat.min_le_right _ _)
          · simp [perform, own] at performed
      | none => simp [perform] at performed
  | symlinkMetadata =>
      cases file with
      | some =>
          cases performed
          exact .kept rfl nofun nofun rfl
      | none =>
          cases performed
          exact .kept rfl nofun nofun trivial
  | read =>
      cases file with
      | some identity =>
          cases performed
          exact .kept rfl nofun (fun bytes read => ⟨identity, rfl, List.mem_singleton.mp read⟩)
            trivial
      | none =>
          cases performed
          exact .kept rfl nofun nofun trivial
  | _ =>
      cases performed
      exact .kept rfl nofun nofun trivial

theorem perform_performed {service : Service}
    (performed : perform launch service file call = some (answer, after)) :
    Performed launch file ⟨call, answer⟩ after := by
  cases service with
  | serves => exact perform_serves performed
  | fails => exact perform_fails performed

end Perform

/-! ### All launches -/

section AllLaunches

variable {externals : Externals} {manifest : ProductManifest}

abbrev LaunchHistory (externals : Externals) :=
  History (Launch externals) FileCall FileCall.Answer

/-- What a launch has done to the file and seen of it: it created it if it says so and wrote
nothing otherwise, and what it read is a beginning of what the file holds. -/
structure Accounted (file : Option IdentityFile) (launch : Nat) (made : List FileExchange) :
    Prop where
  created : Created made → ∃ content, file = some ⟨launch, content⟩
  unwritten : ¬ Created made → written made = []
  seen : ∀ bytes ∈ reads made, ∃ identity, file = some identity ∧ bytes <+: identity.content
  admitted : ∀ exchange ∈ made, FileCall.Admits exchange.op exchange.answer

/-- The file belongs to one launch and holds what that launch has written of its identity. -/
structure OneCreator (externals : Externals) (manifest : ProductManifest)
    (file : Option IdentityFile) (histories : List (LaunchHistory externals)) : Prop where
  creator : ∀ identity, file = some identity → ∃ (history : LaunchHistory externals) (bytes : Bytes),
    histories[identity.creator]? = some history ∧
      externals.toVecPretty (newInstallation manifest history.arrival) = .ok bytes ∧
      identity.content = written history.made ∧ identity.content <+: bytes
  accounted : ∀ launch (history : LaunchHistory externals), histories[launch]? = some history →
    Accounted file launch history.made

/-- A file that is there stays with its creator and keeps its beginning. -/
def Grows (file after : Option IdentityFile) : Prop :=
  ∀ identity, file = some identity → ∃ content, after = some ⟨identity.creator, content⟩ ∧
    identity.content <+: content

variable {launch : Nat} {file after : Option IdentityFile}

theorem Performed.grows {exchange : FileExchange}
    (performed : Performed launch file exchange after) :
    Grows file after := by
  intro identity present
  cases performed with
  | kept => exact ⟨identity.content, present, List.prefix_rfl⟩
  | created absent => simp [absent] at present
  | wrote own =>
      cases own.symm.trans present
      exact ⟨_, rfl, List.prefix_append _ _⟩

theorem Accounted.nil (file : Option IdentityFile) (launch : Nat) : Accounted file launch [] where
  created := fun created => absurd created List.not_mem_nil
  unwritten := fun _ => rfl
  seen := fun _ read => absurd read List.not_mem_nil
  admitted := fun _ member => absurd member List.not_mem_nil

theorem Accounted.grows {made : List FileExchange} (accounted : Accounted file launch made)
    (grows : Grows file after) : Accounted after launch made where
  created := by
    intro created
    obtain ⟨content, present⟩ := accounted.created created
    obtain ⟨longer, kept, -⟩ := grows _ present
    exact ⟨longer, kept⟩
  unwritten := accounted.unwritten
  seen := by
    intro bytes read
    obtain ⟨identity, present, beginning⟩ := accounted.seen bytes read
    obtain ⟨longer, kept, grown⟩ := grows _ present
    exact ⟨_, kept, beginning.trans grown⟩
  admitted := accounted.admitted

/-- The launch that makes the call stays accounted for.  Only a creator may write. -/
theorem Accounted.exchange {made : List FileExchange} (accounted : Accounted file launch made)
    {exchange : FileExchange} (performed : Performed launch file exchange after)
    (owns : ∀ bytes, exchange.op = .write bytes → Created made) :
    Accounted after launch (made ++ [exchange]) := by
  have grown := accounted.grows performed.grows
  have admits : FileCall.Admits exchange.op exchange.answer := by
    cases performed with
    | kept _ _ _ admitted => exact admitted
    | created => trivial
    | wrote _ fits => exact fits
  have admitted : ∀ other ∈ made ++ [exchange], FileCall.Admits other.op other.answer := by
    intro other member
    rcases List.mem_append.mp member with earlier | last
    · exact accounted.admitted other earlier
    · exact List.mem_singleton.mp last ▸ admits
  cases performed with
  | @kept call answer unwritten uncreated seen =>
      have same : Created (made ++ [⟨call, answer⟩]) ↔ Created made := by
        simp [Created, uncreated.symm]
      refine ⟨fun created => grown.created (same.mp created), fun uncreated => ?_,
        fun bytes read => ?_, admitted⟩
      · rw [written_snoc, unwritten, accounted.unwritten (mt same.mpr uncreated)]
        rfl
      · rw [reads_snoc] at read
        rcases List.mem_append.mp read with earlier | last
        · exact grown.seen bytes earlier
        · obtain ⟨identity, present, rfl⟩ := seen bytes last
          exact ⟨identity, present, List.prefix_rfl⟩
  | created =>
      refine ⟨fun _ => ⟨[], rfl⟩, fun uncreated => ?_, fun bytes read => ?_, admitted⟩
      · exact absurd (List.mem_append_right _ (by simp)) uncreated
      · exact grown.seen bytes (by simpa [FileCall.reads] using read)
  | @wrote _ bytes =>
      refine ⟨fun _ => ⟨_, rfl⟩, fun uncreated => ?_, fun other read => ?_, admitted⟩
      · exact absurd ((owns bytes rfl).snoc _) uncreated
      · exact grown.seen other (by simpa [FileCall.reads] using read)

theorem OneCreator.start : OneCreator externals manifest none [] := by
  constructor <;> simp

variable {histories : List (LaunchHistory externals)}

theorem OneCreator.arrive (one : OneCreator externals manifest file histories)
    (arrival : Launch externals) :
    OneCreator externals manifest file (histories ++ [⟨arrival, []⟩]) where
  creator := by
    intro identity present
    obtain ⟨history, bytes, found, rest⟩ := one.creator identity present
    exact ⟨history, bytes, getElem?_arrived_of_some found arrival, rest⟩
  accounted := by
    intro launch history found
    rcases getElem?_arrived found with old | ⟨-, rfl⟩
    · exact one.accounted launch history old
    · exact .nil file launch

variable {history : LaunchHistory externals}

theorem OneCreator.exchange (one : OneCreator externals manifest file histories)
    (laws : SerdeLaws externals) (found : histories[launch]? = some history)
    {exchange : FileExchange}
    (permitted : (launchContract manifest history.arrival).permitted history.made exchange.op)
    (performed : Performed launch file exchange after) :
    OneCreator externals manifest after (histories.modify launch (·.extend exchange)) where
  creator := by
    have self := getElem?_extend_self found exchange
    intro identity present
    cases performed with
    | @kept call answer unwritten =>
        obtain ⟨creator, bytes, owner, serialized, content, beginning⟩ :=
          one.creator identity present
        by_cases same : identity.creator = launch
        · rw [same, found] at owner
          cases owner
          refine ⟨history.extend ⟨call, answer⟩, bytes, ?_, serialized, ?_, beginning⟩
          · rw [same]
            exact self
          · simpa [History.extend, unwritten] using content
        · exact ⟨creator, bytes, (getElem?_extend_of_ne same histories _).trans owner, serialized,
            content, beginning⟩
    | created absent =>
        cases present
        obtain ⟨bytes, serialized, -⟩ := laws.readsBack (newInstallation manifest history.arrival)
        have uncreated : ¬ Created history.made := by
          intro created
          obtain ⟨content, impossible⟩ := (one.accounted launch history found).created created
          simp [absent] at impossible
        refine ⟨_, bytes, self, serialized, ?_, List.nil_prefix⟩
        have unwritten := (one.accounted launch history found).unwritten uncreated
        simp [History.extend, unwritten, FileCall.written]
    | @wrote _ bytes _ own =>
        cases present
        obtain ⟨-, serialized⟩ := permitted bytes rfl
        obtain ⟨creator, _, owner, -, written, -⟩ := one.creator _ own
        rw [found] at owner
        cases owner
        refine ⟨_, _, self, serialized, ?_, ?_⟩
        · simp [History.extend, FileCall.written, ← written]
        · rw [← written]
          exact (List.prefix_append_right_inj _).mpr (List.take_prefix _ _)
  accounted := by
    intro other later present
    rcases getElem?_extend present with ⟨different, old⟩ | ⟨before, rfl, old, rfl⟩
    · exact (one.accounted other later old).grows performed.grows
    · cases found.symm.trans old
      exact (one.accounted other history found).exchange performed
        fun bytes same => (permitted bytes same).1

/-- A launch follows its program, so far as the file system keeps its word. -/
theorem OneCreator.meets (one : OneCreator externals manifest file histories)
    (valid : manifest.validate = .ok ())
    {rest : FileProgram (Except ProtocolError ProductInstallation)}
    (found : histories[launch]? = some history)
    (run : Program.Run (loadOrCreate externals manifest history.arrival).run history.made rest) :
    rest.Meets (launchContract manifest history.arrival)
      (LaunchOutcome externals manifest history.arrival) history.made := by
  simpa using run.meets (one.accounted launch history found).admitted (meets_loadOrCreate valid)

/-- Every interleaving keeps the file with one creator, and every launch that returned ended in
one of its outcomes. -/
theorem launches_invariant (laws : SerdeLaws externals) (valid : manifest.validate = .ok ())
    {config : Config Nat (Recorded (Option IdentityFile) (Launch externals) FileCall
      FileCall.Answer (Except ProtocolError ProductInstallation)) FileCall FileCall.Answer
      (Except ProtocolError ProductInstallation)}
    (reachable : Reachable (launches externals manifest) (.start none) config) :
    OneCreator externals manifest config.state.world config.state.histories ∧
      ∀ launch result, (launch, result) ∈ config.state.returned →
        ∃ history : LaunchHistory externals, config.state.histories[launch]? = some history ∧
          LaunchOutcome externals manifest history.arrival history.made result := by
  obtain ⟨follows, one⟩ := Recorded.invariant OneCreator.start
    (fun file histories arrival one => OneCreator.arrive one arrival)
    (fun file histories launch history call next service answer after one found run performed =>
      one.exchange laws found (one.meets valid found run).1 (perform_performed performed))
    reachable
  refine ⟨one, fun launch result returned => ?_⟩
  obtain ⟨-, history, found, run⟩ := follows.returned launch result returned
  exact ⟨history, found, one.meets valid found run⟩

/-! ### The identity they share -/

/-- A whole identity that `load_installation` can accept: the serialization of one that was
created after the epoch. -/
def CompleteIdentity (externals : Externals) (bytes : Bytes) : Prop :=
  ∃ installation, externals.toVecPretty installation = .ok bytes ∧ 0 < installation.createdAtMs

/-- The creator's identity. -/
def Shared (manifest : ProductManifest) (file : Option IdentityFile)
    (histories : List (LaunchHistory externals)) (installation : ProductInstallation) : Prop :=
  ∃ identity, file = some identity ∧ ∃ history : LaunchHistory externals,
    histories[identity.creator]? = some history ∧
      installation = newInstallation manifest history.arrival

theorem Shared.unique {first second : ProductInstallation}
    (one : Shared manifest file histories first) (two : Shared manifest file histories second) :
    first = second := by
  obtain ⟨identity, present, history, found, rfl⟩ := one
  obtain ⟨identity', present', history', found', rfl⟩ := two
  cases present.symm.trans present'
  cases found.symm.trans found'
  rfl

/-- What a launch read and could parse is the creator's identity, complete. -/
theorem OneCreator.parsed (one : OneCreator externals manifest file histories)
    (laws : SerdeLaws externals) (found : histories[launch]? = some history) {bytes : Bytes}
    (read : bytes ∈ reads history.made) {installation : ProductInstallation}
    (parsed : externals.fromSlice bytes = .ok installation) :
    Shared manifest file histories installation ∧
      externals.toVecPretty installation = .ok bytes := by
  obtain ⟨identity, present, beginning⟩ := (one.accounted launch history found).seen bytes read
  obtain ⟨creator, whole, owner, serialized, -, content⟩ := one.creator identity present
  have complete : bytes = whole := by
    by_contra cut
    exact laws.cutOff _ whole bytes serialized (beginning.trans content) cut installation parsed
  subst complete
  obtain ⟨bytes', serialized', readBack⟩ :=
    laws.readsBack (newInstallation manifest creator.arrival)
  cases serialized.symm.trans serialized'
  cases readBack.symm.trans parsed
  exact ⟨⟨identity, present, creator, owner, rfl⟩, serialized⟩

theorem matchesProduct_iff (installation : ProductInstallation) :
    matchesProduct externals manifest installation = true ↔
      installation.schemaVersion = productInstallationSchemaVersion ∧
        installation.productId = manifest.productId ∧
        isUuidV4 externals installation.installationId = true ∧ 0 < installation.createdAtMs := by
  simp [matchesProduct, and_assoc]

/-- Of what a launch makes up, only the clock can be refused. -/
theorem matchesProduct_newInstallation_iff (launch : Launch externals) :
    matchesProduct externals manifest (newInstallation manifest launch) = true ↔
      0 < (newInstallation manifest launch).createdAtMs := by
  rw [matchesProduct_iff]
  exact ⟨fun agrees => agrees.2.2.2, fun timely => ⟨rfl, rfl, launch.random, timely⟩⟩

/-- An identity that was returned is the creator's, and whatever its launch read was complete. -/
theorem OneCreator.returned (one : OneCreator externals manifest file histories)
    (laws : SerdeLaws externals) (found : histories[launch]? = some history)
    {installation : ProductInstallation}
    (outcome : LaunchOutcome externals manifest history.arrival history.made (.ok installation)) :
    Shared manifest file histories installation ∧
      ∀ bytes ∈ reads history.made, CompleteIdentity externals bytes := by
  cases outcome with
  | created exclusive _ unread =>
      obtain ⟨content, present⟩ := (one.accounted launch history found).created exclusive
      exact ⟨⟨_, present, history, found, rfl⟩, by simp [unread]⟩
  | @loaded _ _ read parsed agrees =>
      obtain ⟨shared, serialized⟩ := one.parsed laws found (by simp [read]) parsed
      refine ⟨shared, fun other member => ?_⟩
      rw [read, List.mem_singleton] at member
      subst other
      refine ⟨installation, serialized, ?_⟩
      obtain ⟨identity, present, creator, owner, rfl⟩ := shared
      exact (matchesProduct_newInstallation_iff creator.arrival).mp agrees

/-- A launch that met no I/O error and read nothing incomplete returned an identity. -/
theorem OneCreator.succeeds (one : OneCreator externals manifest file histories)
    (laws : SerdeLaws externals) (found : histories[launch]? = some history)
    {result : Except ProtocolError ProductInstallation}
    (outcome : LaunchOutcome externals manifest history.arrival history.made result)
    (undisturbed : ¬ MeetsIoError history.made)
    (complete : ∀ bytes ∈ reads history.made, CompleteIdentity externals bytes) :
    ∃ installation, result = .ok installation := by
  cases outcome with
  | created => exact ⟨_, rfl⟩
  | loaded => exact ⟨_, rfl⟩
  | @refused bytes _ read unusable =>
      obtain ⟨installation, serialized, timely⟩ := complete bytes (by simp [read])
      obtain ⟨bytes', serialized', readBack⟩ := laws.readsBack installation
      cases serialized.symm.trans serialized'
      obtain ⟨⟨identity, present, creator, owner, rfl⟩, -⟩ :=
        one.parsed laws found (by simp [read]) readBack
      have agrees := (matchesProduct_newInstallation_iff creator.arrival).mpr timely
      exact absurd (unusable _ readBack) (by rw [agrees]; decide)
  | failed met => exact absurd met undisturbed
  | unserialized refused =>
      obtain ⟨bytes, serialized, -⟩ := laws.readsBack (newInstallation manifest history.arrival)
      rw [refused] at serialized
      cases serialized

/-- Concurrent launches share one identity.  In every interleaving of any number of launches, of
which some are killed, all that return an identity return the same one; and a launch that met no
I/O error returned one exactly if what it read of the identity file, if it read it at all, was a
complete identity created after the epoch. -/
theorem launches_share_identity {externals : Externals} {manifest : ProductManifest}
    (laws : SerdeLaws externals) (valid : manifest.validate = .ok ())
    {config : Config Nat (Recorded (Option IdentityFile) (Launch externals) FileCall
      FileCall.Answer (Except ProtocolError ProductInstallation)) FileCall FileCall.Answer
      (Except ProtocolError ProductInstallation)}
    (reachable : Reachable (launches externals manifest) (.start none) config) :
    (∀ first second one two, (first, .ok one) ∈ config.state.returned →
      (second, .ok two) ∈ config.state.returned → one = two) ∧
    ∀ launch result, (launch, result) ∈ config.state.returned →
      ∃ history : LaunchHistory externals, config.state.histories[launch]? = some history ∧
        (¬ MeetsIoError history.made →
          ((∃ installation, result = .ok installation) ↔
            ∀ bytes ∈ reads history.made, CompleteIdentity externals bytes)) := by
  obtain ⟨one, outcomes⟩ := launches_invariant laws valid reachable
  constructor
  · intro first second identity identity' returned returned'
    obtain ⟨history, found, outcome⟩ := outcomes first _ returned
    obtain ⟨history', found', outcome'⟩ := outcomes second _ returned'
    exact (one.returned laws found outcome).1.unique (one.returned laws found' outcome').1
  · intro launch result returned
    obtain ⟨history, found, outcome⟩ := outcomes launch result returned
    refine ⟨history, found, fun undisturbed => ⟨?_, one.succeeds laws found outcome undisturbed⟩⟩
    rintro ⟨installation, rfl⟩
    exact (one.returned laws found outcome).2

end AllLaunches

/-! ### Two launches -/

/-- A plain text format in the place of JSON: every number in strokes, every string after its
length. -/
def encodeNumber (value : Nat) : Bytes := List.replicate value 1 ++ [0]

def decodeNumber : Bytes → Option (Nat × Bytes)
  | [] => none
  | byte :: rest =>
      if byte = 0 then some (0, rest)
      else (decodeNumber rest).map fun (value, rest) => (value + 1, rest)

def encodeText (value : String) : Bytes := encodeNumber (utf8 value).length ++ utf8 value

def decodeText (bytes : Bytes) : Option (String × Bytes) := do
  let (length, rest) ← decodeNumber bytes
  let value ← fromUtf8 (rest.take length)
  return (value, rest.drop length)

def encodeInstallation (installation : ProductInstallation) : Bytes :=
  encodeNumber installation.schemaVersion.toNat ++ (encodeText installation.productId ++
    (encodeText installation.installationId ++
      encodeNumber installation.createdAtMs.toUInt64.toNat))

def decodeInstallation (bytes : Bytes) : Option (ProductInstallation × Bytes) := do
  let (schemaVersion, rest) ← decodeNumber bytes
  let (productId, rest) ← decodeText rest
  let (installationId, rest) ← decodeText rest
  let (createdAtMs, rest) ← decodeNumber rest
  return ({ schemaVersion := UInt16.ofNat schemaVersion
            productId := productId
            installationId := installationId
            createdAtMs := (UInt64.ofNat createdAtMs).toInt64 }, rest)

theorem decodeNumber_encode (value : Nat) (rest : Bytes) :
    decodeNumber (encodeNumber value ++ rest) = some (value, rest) := by
  induction value with
  | zero => rfl
  | succ value ih =>
      have peeled : encodeNumber (value + 1) ++ rest = 1 :: (encodeNumber value ++ rest) := rfl
      rw [peeled, decodeNumber, if_neg (by decide), ih]
      rfl

theorem decodeText_encode (value : String) (rest : Bytes) :
    decodeText (encodeText value ++ rest) = some (value, rest) := by
  rw [encodeText, List.append_assoc, decodeText, decodeNumber_encode]
  simp [fromUtf8_utf8]

theorem decodeInstallation_encode (installation : ProductInstallation) (rest : Bytes) :
    decodeInstallation (encodeInstallation installation ++ rest) = some (installation, rest) := by
  have created : (UInt64.ofNat installation.createdAtMs.toUInt64.toNat).toInt64 =
      installation.createdAtMs := by
    rw [UInt64.ofNat_toNat]
    rfl
  simp only [encodeInstallation, decodeInstallation, List.append_assoc, decodeNumber_encode,
    decodeText_encode, Option.bind_eq_bind, Option.bind_some, created, UInt16.ofNat_toNat]
  rfl

/-- Only what is written exactly as `encodeInstallation` writes it is accepted. -/
def plainExternals : Externals where
  toVecPretty installation := .ok (encodeInstallation installation)
  fromSlice bytes :=
    match decodeInstallation bytes with
    | none => .error "EOF while parsing a value"
    | some (installation, _) =>
        if encodeInstallation installation = bytes then .ok installation
        else .error "trailing characters"
  parseUuid value := if (utf8 value).length = 36 then some (Vector.replicate 16 0x40) else none

theorem plainExternals_laws : SerdeLaws plainExternals where
  readsBack := by
    intro installation
    refine ⟨_, rfl, ?_⟩
    have decoded := decodeInstallation_encode installation []
    rw [List.append_nil] at decoded
    simp [plainExternals, decoded]
  cutOff := by
    intro installation bytes part serialized beginning cut other accepted
    cases serialized
    obtain ⟨missing, whole⟩ := beginning
    have same : encodeInstallation other = part := by
      simp only [plainExternals] at accepted
      split at accepted
      · cases accepted
      · split at accepted
        next exact' =>
          cases accepted
          exact exact'
        · cases accepted
    have first := decodeInstallation_encode other missing
    have second := decodeInstallation_encode installation []
    rw [same, whole, ← List.append_nil (encodeInstallation installation), second] at first
    cases first
    exact cut (by simpa using whole)

def firstLaunch : Launch plainExternals where
  uuid := "6f1c2f3e-0000-4000-8000-000000000001"
  sinceEpoch := some 5
  random := by decide +kernel

def secondLaunch : Launch plainExternals where
  uuid := "6f1c2f3e-0000-4000-8000-000000000002"
  sinceEpoch := some 7
  random := by decide +kernel

/-- The first launch finds nothing and stores its identity. -/
def firstLaunchStores : List (Action Nat Service (Launch plainExternals)) :=
  .arrive firstLaunch :: (List.replicate 7 (.run 0 (.serves 1000)) ++ [.finish 0])

/-- The second launch finds the file, reads it and is done with it. -/
def secondLaunchLoads : List (Action Nat Service (Launch plainExternals)) :=
  .arrive secondLaunch :: (List.replicate 6 (.run 1 (.serves 0)) ++ [.finish 1])

theorem launches_share_identity_sequential :
    ∃ config, Reachable (launches plainExternals .transfer) (.start none) config ∧
      config.state.returned = [(1, .ok (newInstallation .transfer firstLaunch)),
        (0, .ok (newInstallation .transfer firstLaunch))] ∧
      ∀ first second one two, (first, .ok one) ∈ config.state.returned →
        (second, .ok two) ∈ config.state.returned → one = two := by
  have returned : ((launches plainExternals .transfer).replay (.start (.start none))
      (firstLaunchStores ++ secondLaunchLoads)).map (fun config => config.state.returned) =
        some [(1, .ok (newInstallation .transfer firstLaunch)),
          (0, .ok (newInstallation .transfer firstLaunch))] := by
    decide +kernel
  obtain ⟨config, played, results⟩ := Option.map_eq_some_iff.mp returned
  have reachable := Reachable.start.replay played
  exact ⟨config, reachable, results,
    (launches_share_identity plainExternals_laws built_in_manifests_valid.1 reachable).1⟩

/-- The first launch is killed when the file exists and nothing is written. -/
def firstLaunchKilled : List (Action Nat Service (Launch plainExternals)) :=
  .arrive firstLaunch :: (List.replicate 4 (.run 0 (.serves 0)) ++ [.cancel 0])

/-- The second launch finds the empty file. -/
def secondLaunchFails : List (Action Nat Service (Launch plainExternals)) :=
  .arrive secondLaunch :: (List.replicate 5 (.run 1 (.serves 0)) ++ [.finish 1])

/-- A launch that meets no I/O error and yet fails.  Nothing ever completes the file its
predecessor left behind, so every later launch fails in the same way. -/
theorem launch_after_killed_creator_fails :
    ∃ config, Reachable (launches plainExternals .transfer) (.start none) config ∧
      config.state.dropped = [0] ∧
      config.state.returned = [(1, .error (.serialization "EOF while parsing a value"))] ∧
      ∃ history : LaunchHistory plainExternals, config.state.histories[1]? = some history ∧
        ¬ MeetsIoError history.made := by
  have ended : ((launches plainExternals .transfer).replay (.start (.start none))
      (firstLaunchKilled ++ secondLaunchFails)).map (fun config =>
        (config.state.dropped, config.state.returned, config.state.histories[1]?.map
          fun history => history.made.any fun exchange => exchange.op.failed exchange.answer)) =
        some ([0], [(1, .error (.serialization "EOF while parsing a value"))], some false) := by
    decide +kernel
  obtain ⟨config, played, results⟩ := Option.map_eq_some_iff.mp ended
  obtain ⟨dropped, rest⟩ := Prod.mk.inj results
  obtain ⟨returned, undisturbed⟩ := Prod.mk.inj rest
  obtain ⟨history, found, clean⟩ := Option.map_eq_some_iff.mp undisturbed
  refine ⟨config, Reachable.start.replay played, dropped, returned, history, found, ?_⟩
  rintro ⟨exchange, member, failed⟩
  exact List.any_eq_false.mp clean exchange member failed

end ArcRelay.Product
