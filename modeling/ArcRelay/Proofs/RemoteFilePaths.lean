/-
Module: ArcRelay.Proofs.RemoteFilePaths
Purpose: The grammar of relative paths, that they cannot leave the share, that every message that
  is decoded keeps to it, and which requests reach the root of a share.
Trusted boundary: as in ArcRelay.Server.RemoteFileCodec and for the handler
-/
import ArcRelay.Proofs.RemoteFileCalls
import ArcRelay.Proofs.RemoteFileRoundTrip

namespace ArcRelay.RemoteFiles

open Program

/-! ### What the validators accept -/

/-- A character that neither separates components nor is refused in any name. -/
structure PlainChar (c : Char) : Prop where
  slash : c ≠ '/'
  backslash : c ≠ '\\'
  printable : charIsControl c = false

/-- What `validate_file_name` accepts. -/
structure FileName (name : String) : Prop where
  nonempty : name ≠ ""
  short : name.utf8ByteSize ≤ 255
  noDot : name ≠ "."
  noDots : name ≠ ".."
  plain : ∀ c ∈ name.toList, PlainChar c

theorem charIsControl_of_ne {c : Char} (printable : charIsControl c = false) : c ≠ '\x00' := by
  rintro rfl
  cases printable

theorem validateFileName_ok {name : String} : validateFileName name = .ok () ↔ FileName name := by
  unfold validateFileName
  split
  next refused =>
    constructor
    · intro accepted
      cases accepted
    · intro valid
      simp only [Bool.or_eq_true, String.isEmpty_iff, decide_eq_true_eq, List.any_eq_true,
        hasControl] at refused
      rcases refused with ((((empty | long) | dot) | dots) | ⟨c, member, bad⟩) | ⟨c, member, control⟩
      · exact absurd empty valid.nonempty
      · exact absurd valid.short (Nat.not_le_of_lt long)
      · exact absurd dot valid.noDot
      · exact absurd dots valid.noDots
      · have plain := valid.plain c member
        rcases bad with (slash | backslash) | null
        · exact absurd slash plain.slash
        · exact absurd backslash plain.backslash
        · exact absurd null (charIsControl_of_ne plain.printable)
      · rw [(valid.plain c member).printable] at control
        cases control
  next taken =>
    refine ⟨fun _ => ?_, fun _ => rfl⟩
    simp only [Bool.or_eq_true, String.isEmpty_iff, decide_eq_true_eq, List.any_eq_true,
      hasControl, not_or, not_exists, not_and, not_lt, Bool.not_eq_true] at taken
    obtain ⟨⟨⟨⟨⟨nonempty, short⟩, noDot⟩, noDots⟩, plain⟩, printable⟩ := taken
    exact ⟨nonempty, short, noDot, noDots, fun c member =>
      ⟨(plain c member).1.1, (plain c member).1.2, printable c member⟩⟩

/-- What `validate_relative_path` asks of one component. -/
structure PathComponent (component : String) : Prop where
  nonempty : component ≠ ""
  noDot : component ≠ "."
  noDots : component ≠ ".."
  short : component.utf8ByteSize ≤ 255

variable {path : String}

theorem validateRelativePath_ok :
    validateRelativePath path = .ok () ↔
      path.utf8ByteSize ≤ 4096 ∧
        (∀ c ∈ path.toList, c ≠ '\\' ∧ charIsControl c = false) ∧
        (path ≠ "" → ∀ component ∈ components path, PathComponent component) := by
  unfold validateRelativePath
  split
  next refused =>
    constructor
    · intro accepted
      cases accepted
    · rintro ⟨short, plain, parts⟩
      simp only [Bool.or_eq_true, Bool.and_eq_true, Bool.not_eq_true', decide_eq_true_eq,
        List.any_eq_true, List.contains_iff_mem, String.isEmpty_iff] at refused
      rcases refused with ((long | backslash) | ⟨c, member, null | control⟩) |
        ⟨nonempty, component, member, ((empty | dot) | dots) | long⟩
      · exact absurd short (Nat.not_le_of_lt long)
      · exact absurd rfl (plain _ backslash).1
      · exact absurd null (charIsControl_of_ne (plain c member).2)
      · rw [(plain c member).2] at control
        cases control
      all_goals
        have part := parts (by rintro rfl; cases nonempty) component member
      · exact absurd empty part.nonempty
      · exact absurd dot part.noDot
      · exact absurd dots part.noDots
      · exact absurd part.short (Nat.not_le_of_lt long)
  next taken =>
    refine ⟨fun _ => ?_, fun _ => rfl⟩
    simp only [Bool.or_eq_true, Bool.and_eq_true, Bool.not_eq_true', decide_eq_true_eq,
      List.any_eq_true, List.contains_iff_mem, String.isEmpty_iff, not_or, not_exists, not_and,
      not_lt, Bool.not_eq_true] at taken
    obtain ⟨⟨⟨short, backslash⟩, printable⟩, parts⟩ := taken
    refine ⟨short, fun c member => ⟨?_, (printable c member).2⟩, fun nonempty component member => ?_⟩
    · rintro rfl
      exact backslash member
    · have part := parts (by simpa using nonempty) component member
      exact ⟨part.1.1.1, part.1.1.2, part.1.2, part.2⟩

/-! ### Components -/

/-- Splitting drops the separators and keeps everything else. -/
theorem mem_splitOn {T : Type} [DecidableEq T] (separator item : T) (items : List T) :
    (∃ part ∈ items.splitOn separator, item ∈ part) ↔ item ∈ items ∧ item ≠ separator := by
  induction items with
  | nil => simp
  | cons _ rest ih =>
      rw [List.splitOn_cons_eq_if_modifyHead]
      split
      next same =>
        rw [beq_iff_eq] at same
        subst same
        simp only [List.mem_cons, exists_eq_or_imp, List.not_mem_nil, false_or,
          ih]
        tauto
      next other =>
        rw [beq_iff_eq] at other
        cases parts : rest.splitOn separator with
        | nil => exact absurd parts (List.splitOn_ne_nil _ _)
        | cons =>
            rw [parts] at ih
            simp only [List.mem_cons, exists_eq_or_imp] at ih
            simp only [List.modifyHead_cons, List.mem_cons, exists_eq_or_imp]
            rw [or_assoc, ih]
            constructor
            · rintro (rfl | ⟨member, kept⟩)
              · exact ⟨.inl rfl, other⟩
              · exact ⟨.inr member, kept⟩
            · rintro ⟨rfl | member, kept⟩
              · exact .inl rfl
              · exact .inr ⟨member, kept⟩

theorem mem_components {c : Char} :
    (∃ component ∈ components path, c ∈ component.toList) ↔ c ∈ path.toList ∧ c ≠ '/' := by
  rw [← mem_splitOn, components]
  simp

theorem intercalate_components (path : String) : "/".intercalate (components path) = path := by
  rw [← String.toList_inj, String.toList_intercalate, components, List.map_map]
  have undone : (String.toList ∘ String.ofList) = id := funext fun _ => String.toList_ofList
  rw [undone, List.map_id]
  exact List.intercalate_splitOn '/'

theorem components_intercalate {names : List String} (nonempty : names ≠ [])
    (plain : ∀ name ∈ names, '/' ∉ name.toList) :
    components ("/".intercalate names) = names := by
  rw [components, String.toList_intercalate]
  change (List.splitOn '/' (['/'].intercalate _)).map _ = _
  rw [List.splitOn_intercalate, List.map_map]
  · have undone : (String.ofList ∘ String.toList) = id := funext fun _ => String.ofList_toList
    rw [undone, List.map_id]
  · simpa using plain
  · simpa using nonempty

/-- The components of a path: none for the root of the share. -/
def pathComponents (path : String) : List String :=
  if path = "" then [] else components path

theorem intercalate_pathComponents (path : String) :
    "/".intercalate (pathComponents path) = path := by
  unfold pathComponents
  split
  next root => rw [root, String.intercalate_nil]
  · exact intercalate_components path

theorem FileName.no_slash {name : String} (valid : FileName name) : '/' ∉ name.toList :=
  fun member => (valid.plain _ member).slash rfl

theorem intercalate_ne_empty {names : List String} (nonempty : names ≠ [])
    (valid : ∀ name ∈ names, FileName name) : "/".intercalate names ≠ "" := by
  intro empty
  have same := components_intercalate nonempty fun name member => (valid name member).no_slash
  rw [empty] at same
  change [""] = names at same
  exact (valid "" (same ▸ .head _)).nonempty rfl

theorem pathComponents_intercalate {names : List String}
    (valid : ∀ name ∈ names, FileName name) : pathComponents ("/".intercalate names) = names := by
  by_cases empty : names = []
  · subst empty
    rfl
  · rw [pathComponents, if_neg (intercalate_ne_empty empty valid)]
    exact components_intercalate empty fun name member => (valid name member).no_slash

/-- An accepted path is made of accepted names, in at most 4096 bytes. -/
theorem validateRelativePath_iff :
    validateRelativePath path = .ok () ↔
      path.utf8ByteSize ≤ 4096 ∧ ∀ component ∈ pathComponents path, FileName component := by
  rw [validateRelativePath_ok]
  by_cases root : path = ""
  · subst root
    simp [pathComponents]
  · rw [pathComponents, if_neg root]
    constructor
    · rintro ⟨short, plain, parts⟩
      refine ⟨short, fun component member => ?_⟩
      have part := parts root component member
      refine ⟨part.nonempty, part.short, part.noDot, part.noDots, fun c inside => ?_⟩
      obtain ⟨found, slash⟩ := mem_components.mp ⟨component, member, inside⟩
      exact ⟨slash, (plain c found).1, (plain c found).2⟩
    · rintro ⟨short, valid⟩
      refine ⟨short, fun c found => ?_, fun _ component member => ?_⟩
      · by_cases slash : c = '/'
        · subst slash
          decide
        · obtain ⟨component, member, inside⟩ := mem_components.mpr ⟨found, slash⟩
          have plain := (valid component member).plain c inside
          exact ⟨plain.backslash, plain.printable⟩
      · have name := valid component member
        exact ⟨name.nonempty, name.noDot, name.noDots, name.short⟩

theorem validateRelativePath_intercalate {names : List String}
    (valid : ∀ name ∈ names, FileName name) (short : ("/".intercalate names).utf8ByteSize ≤ 4096) :
    validateRelativePath ("/".intercalate names) = .ok () := by
  rw [validateRelativePath_iff, pathComponents_intercalate valid]
  exact ⟨short, valid⟩

/-! ### Resolving a path -/

/-- One step of lexical resolution below the root of a share; `none` is above the root. -/
def enter (position : Path) (component : String) : Option Path :=
  if component = ".." then (if position = [] then none else some position.dropLast)
  else if component = "." ∨ component = "" then some position
  else some (position ++ [component])

/-- The position a path leads to from the root of a share. -/
def resolve (path : String) : Option Path := (components path).foldlM enter []

theorem foldlM_enter {names : List String} (valid : ∀ name ∈ names, FileName name)
    (position : Path) : names.foldlM enter position = some (position ++ names) := by
  induction names generalizing position with
  | nil => simp
  | cons name names ih =>
      have first := valid name (.head _)
      have entered : enter position name = some (position ++ [name]) := by
        rw [enter, if_neg first.noDots, if_neg (not_or.mpr ⟨first.noDot, first.nonempty⟩)]
      rw [List.foldlM_cons, entered]
      change names.foldlM enter (position ++ [name]) = _
      rw [ih (fun name member => valid name (.tail _ member)), List.append_assoc]
      rfl

theorem resolve_eq (accepted : validateRelativePath path = .ok ()) :
    resolve path = some (pathComponents path) := by
  have valid := (validateRelativePath_iff.mp accepted).2
  by_cases root : path = ""
  · subst root
    rfl
  · rw [pathComponents, if_neg root] at valid ⊢
    exact foldlM_enter valid []

/-- A name below a path. -/
def joinPath (path name : String) : String := if path = "" then name else path ++ "/" ++ name

theorem joinPath_eq (path name : String) :
    joinPath path name = "/".intercalate (pathComponents path ++ [name]) := by
  unfold joinPath
  split
  next root =>
    subst root
    rfl
  next below =>
    have parts : pathComponents path ≠ [] := by
      rw [pathComponents, if_neg below, components]
      simp [List.splitOn_ne_nil]
    rw [String.intercalate_append_of_ne_nil parts (by simp), intercalate_pathComponents,
      String.intercalate_singleton]

theorem pathComponents_append_valid {name : String}
    (accepted : validateRelativePath path = .ok ()) (named : validateFileName name = .ok ()) :
    ∀ component ∈ pathComponents path ++ [name], FileName component := by
  intro component member
  rcases List.mem_append.mp member with above | last
  · exact (validateRelativePath_iff.mp accepted).2 component above
  · rw [List.mem_singleton.mp last]
    exact validateFileName_ok.mp named

/-! ### Messages -/

/-- The paths a request names. -/
def RemoteFileRequest.paths : RemoteFileRequest → List String
  | .listShares | .watchChanges .. => []
  | .move _ relativePath destinationPath .. => [relativePath, destinationPath]
  | .stat _ relativePath | .conditionalDelete _ relativePath .. | .readRange _ relativePath ..
  | .conditionalUpload _ relativePath .. | .listDirectory _ relativePath ..
  | .createDirectory _ relativePath .. | .rename _ relativePath .. | .delete _ relativePath
  | .download _ relativePath | .thumbnail _ relativePath .. | .upload _ relativePath .. =>
      [relativePath]

/-- The file names a request gives. -/
def RemoteFileRequest.names : RemoteFileRequest → List String
  | .conditionalUpload _ _ name .. | .createDirectory _ _ name | .upload _ _ name ..
  | .rename _ _ name => [name]
  | _ => []

variable {limits : Limits} {request : RemoteFileRequest}

theorem RemoteFileRequest.validate_paths (valid : request.validate limits = .ok ()) :
    (∀ path ∈ request.paths, validateRelativePath path = .ok ()) ∧
      ∀ name ∈ request.names, validateFileName name = .ok () := by
  cases request with
  | listShares | watchChanges => simp [paths, names]
  | move =>
      obtain ⟨_, _, valid⟩ := except_bind_ok valid
      obtain ⟨_, source, valid⟩ := except_bind_ok valid
      obtain ⟨_, destination, _⟩ := except_bind_ok valid
      simp [paths, names, source, destination]
  | stat | delete | download =>
      obtain ⟨_, _, valid⟩ := except_bind_ok valid
      simp [paths, names, valid]
  | conditionalDelete | readRange | listDirectory | thumbnail =>
      obtain ⟨_, _, valid⟩ := except_bind_ok valid
      obtain ⟨_, path, _⟩ := except_bind_ok valid
      simp [paths, names, path]
  | createDirectory | upload | rename =>
      obtain ⟨_, _, valid⟩ := except_bind_ok valid
      obtain ⟨_, path, valid⟩ := except_bind_ok valid
      simp [paths, names, path, valid]
  | conditionalUpload =>
      obtain ⟨_, _, valid⟩ := except_bind_ok valid
      obtain ⟨_, path, valid⟩ := except_bind_ok valid
      obtain ⟨_, name, _⟩ := except_bind_ok valid
      simp [paths, names, path, name]

theorem forM_ok {T : Type} {check : T → Except String Unit} {items : List T}
    (passed : items.forM check = .ok ()) : ∀ item ∈ items, check item = .ok () := by
  induction items with
  | nil => exact fun item member => nomatch member
  | cons _ _ ih =>
      obtain ⟨_, head, tail⟩ := except_bind_ok passed
      intro item member
      rcases List.mem_cons.mp member with rfl | member
      · exact head
      · exact ih tail item member

theorem RemoteFileResponse.validate_paths {response : RemoteFileResponse}
    (valid : response.validate limits = .ok ()) :
    (∀ path ∈ response.changedDirectories, validateRelativePath path = .ok ()) ∧
      ∀ entry ∈ response.entries ++ response.entry.toList,
        validateFileName entry.name = .ok () ∧ validateRelativePath entry.relativePath = .ok () := by
  unfold RemoteFileResponse.validate at valid
  split at valid
  · cases valid
  next passed =>
    refine ⟨fun path member => ?_, ?_⟩
    · simp only [Bool.or_eq_true, not_or, List.any_eq_true, not_exists, not_and] at passed
      have accepted := passed.1.1.1.1.1.1.1.2 path member
      cases checked : validateRelativePath path with
      | ok => rfl
      | error =>
          rw [checked] at accepted
          exact absurd rfl accepted
    · obtain ⟨_, _, valid⟩ := except_bind_ok valid
      intro entry member
      have checked := forM_ok valid entry member
      obtain ⟨_, name, checked⟩ := except_bind_ok checked
      obtain ⟨_, path, _⟩ := except_bind_ok checked
      exact ⟨name, path⟩

/-- The accepted paths are the lists of accepted names with slashes between them, the empty list
for the root; resolving one goes down one level for each name and never above the root; a name
joined to one is its last component; and every path and name of a decoded message is accepted. -/
theorem relative_paths_stay_inside :
    (∀ path, validateRelativePath path = .ok () ↔
      path.utf8ByteSize ≤ 4096 ∧ ∃ names, path = "/".intercalate names ∧
        ∀ name ∈ names, validateFileName name = .ok ()) ∧
    (∀ path, validateRelativePath path = .ok () →
      (∀ component ∈ pathComponents path, validateFileName component = .ok ()) ∧
        ∃ position, resolve path = some position ∧
          position.length = (pathComponents path).length) ∧
    (∀ path name, validateRelativePath path = .ok () → validateFileName name = .ok () →
      pathComponents (joinPath path name) = pathComponents path ++ [name] ∧
        ((joinPath path name).utf8ByteSize ≤ 4096 →
          validateRelativePath (joinPath path name) = .ok ())) ∧
    ∀ (Wire : Type) (generated : GeneratedCode Wire) limits bytes,
      (∀ request, (requestMessage generated limits).decodeWire bytes = .ok request →
        (∀ path ∈ request.paths, validateRelativePath path = .ok ()) ∧
          ∀ name ∈ request.names, validateFileName name = .ok ()) ∧
      ∀ response, (responseMessage generated limits).decodeWire bytes = .ok response →
        (∀ path ∈ response.changedDirectories, validateRelativePath path = .ok ()) ∧
          ∀ entry ∈ response.entries ++ response.entry.toList,
            validateFileName entry.name = .ok () ∧
              validateRelativePath entry.relativePath = .ok () := by
  refine ⟨fun path => ⟨fun accepted => ?_, ?_⟩, fun path accepted => ⟨?_, ?_⟩,
    fun path name accepted named => ⟨?_, fun short => ?_⟩,
    fun Wire generated limits bytes => ⟨fun request decoded => ?_, fun response decoded => ?_⟩⟩
  · obtain ⟨short, valid⟩ := validateRelativePath_iff.mp accepted
    exact ⟨short, pathComponents path, (intercalate_pathComponents path).symm,
      fun name member => validateFileName_ok.mpr (valid name member)⟩
  · rintro ⟨short, names, rfl, valid⟩
    exact validateRelativePath_intercalate
      (fun name member => validateFileName_ok.mp (valid name member)) short
  · intro component member
    exact validateFileName_ok.mpr ((validateRelativePath_iff.mp accepted).2 component member)
  · exact ⟨pathComponents path, resolve_eq accepted, rfl⟩
  · rw [joinPath_eq, pathComponents_intercalate (pathComponents_append_valid accepted named)]
  · rw [joinPath_eq] at short ⊢
    exact validateRelativePath_intercalate (pathComponents_append_valid accepted named) short
  · exact RemoteFileRequest.validate_paths (WireMessage.validate_of_decodeWire decoded)
  · exact RemoteFileResponse.validate_paths (WireMessage.validate_of_decodeWire decoded)

/-- A file below a folder. -/
theorem relative_paths_stay_inside_folder :
    pathComponents (joinPath "docs" "notes.txt") = ["docs", "notes.txt"] ∧
      validateRelativePath (joinPath "docs" "notes.txt") = .ok () := by
  have joined := relative_paths_stay_inside.2.2.1 "docs" "notes.txt" (by decide +kernel)
    (by decide +kernel)
  exact ⟨joined.1.trans (by decide +kernel), joined.2 (by decide +kernel)⟩

/-! ### The root of a share -/

/-- A request that removes or relocates an entry names one below the root. -/
def RemoteFileRequest.SparesRoot : RemoteFileRequest → Prop
  | .move _ relativePath destinationPath _ _ => relativePath ≠ "" ∧ destinationPath ≠ ""
  | .conditionalDelete _ relativePath _ _ | .rename _ relativePath _ | .delete _ relativePath =>
      relativePath ≠ ""
  | _ => True

/-- A method that removes or relocates an entry is called on one below the root. -/
def ProviderCall.SparesRoot : ProviderCall → Prop
  | .moveEntry _ source destination _ _ => source ≠ "" ∧ destination ≠ ""
  | .conditionalDelete _ path _ _ | .rename _ path _ | .delete _ path => path ≠ ""
  | _ => True

/-- The two requests whose validation lets the empty path through. -/
def RemoteFileRequest.AtRoot : RemoteFileRequest → Prop
  | .rename _ relativePath _ | .delete _ relativePath => relativePath = ""
  | _ => False

theorem RemoteFileRequest.sparesRoot_iff (valid : request.validate limits = .ok ()) :
    request.SparesRoot ↔ ¬ request.AtRoot := by
  cases request with
  | rename | delete => exact Iff.rfl
  | move _ relativePath destinationPath =>
      obtain ⟨_, _, valid⟩ := except_bind_ok valid
      obtain ⟨_, _, valid⟩ := except_bind_ok valid
      obtain ⟨_, _, valid⟩ := except_bind_ok valid
      have proper : ¬ (relativePath.isEmpty || destinationPath.isEmpty) = true := by
        intro root
        dsimp only at valid
        rw [if_pos root] at valid
        split at valid
        · cases valid
        · cases valid
      simp only [Bool.or_eq_true, String.isEmpty_iff, not_or] at proper
      exact ⟨fun _ => id, fun _ => proper⟩
  | conditionalDelete _ relativePath =>
      obtain ⟨_, _, valid⟩ := except_bind_ok valid
      obtain ⟨_, _, valid⟩ := except_bind_ok valid
      have proper : relativePath ≠ "" := by
        rintro rfl
        cases valid
      exact ⟨fun _ => id, fun _ => proper⟩
  | _ => exact ⟨fun _ => id, fun _ => trivial⟩

/-- The condition on calls under which no root is removed or relocated. -/
def SparesRoots (_ : List (Exchange StreamCall StreamCall.Answer)) : StreamCall → Prop
  | .provider method => method.SparesRoot
  | _ => True

theorem sparesRoots_policy {access : RemoteFileAccess} (spares : request.SparesRoot) :
    Policy access request SparesRoots where
  quiet := by
    intro made call quiet
    cases call with
    | provider => exact quiet.elim
    | _ => trivial
  shareless := fun _ _ _ => trivial
  reaches := by
    intro _ made method reached
    cases request with
    | conditionalUpload =>
        rcases reached with rfl | ⟨temporary, rfl⟩
        · trivial
        · trivial
    | move | conditionalDelete | rename | delete =>
        cases reached
        exact spares
    | _ =>
        cases reached
        trivial
  shows := fun _ _ _ _ => trivial

/-- Without a provider the handler calls none. -/
theorem unavailable_calls_none {access : RemoteFileAccess}
    {exchanged : List (Exchange StreamCall StreamCall.Answer)} {method : ProviderCall}
    {next : RemoteFileResult method.Value → StreamProgram (Except ProtocolError Unit)}
    (run : Run (handleRemoteFileStream limits false access) exchanged
      (.call (.provider method) next)) : False := by
  let silent (_ : List (Exchange StreamCall StreamCall.Answer)) : StreamCall → Prop
    | .provider _ => False
    | _ => True
  have lenient : Lenient silent := by
    refine ⟨fun made call quiet => ?_, fun _ _ _ => trivial⟩
    cases call with
    | provider => exact quiet.elim
    | _ => trivial
  have asks : (handleRemoteFileStream limits false access).Asks silent [] :=
    asks_exceptT_bind lenient.readRemoteMessage fun request made => lenient.writes rfl
  exact run.call_permitted asks

/-- A decoded request spares the root, and no run that serves it removes or relocates a root
whatever the access, exactly when it is no `Rename` and no `Delete` with the empty path. -/
theorem share_roots_spared_iff {Wire : Type} (generated : GeneratedCode Wire) (limits : Limits)
    {bytes : Wire} {request : RemoteFileRequest}
    (decoded : (requestMessage generated limits).decodeWire bytes = .ok request) :
    (request.SparesRoot ↔ ¬ request.AtRoot) ∧
      ((∀ available access exchanged method next,
          Run (handleRemoteFileStream limits available access)
            (⟨.readRequest, .ok request⟩ :: exchanged) (.call (.provider method) next) →
          method.SparesRoot) ↔
        ¬ request.AtRoot) := by
  have valid : request.validate limits = .ok () := WireMessage.validate_of_decodeWire decoded
  have spares := RemoteFileRequest.sparesRoot_iff valid
  refine ⟨spares, fun always root => ?_, fun proper available access exchanged method next run => ?_⟩
  · -- With every access right the request goes straight to the provider.
    have reached : ∀ method next, Run (serveRequest limits { writeAll := true } request).run []
        (.call (.provider method) next) → method.SparesRoot := fun method next run =>
      always true { writeAll := true } [] method next (run_of_serves valid run)
    cases request with
    | rename => exact reached _ _ (.here _) root
    | delete => exact reached _ _ (.here _) root
    | _ => exact root
  · cases available with
    | false => exact (unavailable_calls_none run).elim
    | true =>
        exact (serves_of_run valid run).call_permitted
          (asks_serveRequest (sparesRoots_policy (spares.mpr proper)))

/-- The deletion of an entry below the root. -/
theorem share_roots_spared_iff_entry :
    ∃ bytes, (requestMessage plainGeneratedCode ⟨0, 0⟩).decodeWire bytes =
        .ok (.delete "docs" "a") ∧
      RemoteFileRequest.SparesRoot (.delete "docs" "a") := by
  have decoded : (requestMessage plainGeneratedCode ⟨0, 0⟩).decodeWire
      (.inl (requestToFrame plainGeneratedCode (.delete "docs" "a"))) =
      .ok (.delete "docs" "a") := by decide +kernel
  exact ⟨_, decoded, (share_roots_spared_iff plainGeneratedCode ⟨0, 0⟩ decoded).1.mpr
    (by simp [RemoteFileRequest.AtRoot])⟩

/-- A `Delete` with the empty path is decoded, and a peer that may write the share gets the
provider to delete its root. -/
theorem delete_reaches_root :
    ∃ bytes, (requestMessage plainGeneratedCode ⟨0, 0⟩).decodeWire bytes = .ok (.delete "docs" "") ∧
      ∃ next, Run (handleRemoteFileStream ⟨0, 0⟩ true { writeShares := {"docs"} })
        [⟨.readRequest, .ok (.delete "docs" "")⟩] (.call (.provider (.delete "docs" "")) next) := by
  refine ⟨.inl (requestToFrame plainGeneratedCode (.delete "docs" "")), by decide +kernel, ?_⟩
  exact ⟨_, run_of_serves (by decide +kernel) (.here _)⟩

end ArcRelay.RemoteFiles
