/-
Module: ArcRelay.Proofs.FeatureNegotiation
Purpose: Both sides of a connection come to the same features: the greatest versions they share.
Trusted boundary: as in ArcRelay.Server.Features
-/
import ArcRelay.Server.ConnectionRegistry
import ArcRelay.Server.Features

namespace ArcRelay.Features

/-!
A list without duplicates gives at most one range for a feature, so the two folds can be read
feature by feature: what is selected for a feature depends only on the client's range and the
server's range for it, and not on which is which.
-/

/-! ### Ranges -/

/-- The range a list has for a feature. -/
def rangeOf (list : List FeatureVersion) (feature : Int) : Option FeatureVersion :=
  list.find? (·.feature = feature)

/-- No feature is listed twice. -/
def Distinct (list : List FeatureVersion) : Prop := (list.map (·.feature)).Nodup

variable {list : List FeatureVersion} {range : FeatureVersion}

theorem rangeOf_eq_some_iff (distinct : Distinct list) {feature : Int} :
    rangeOf list feature = some range ↔ range ∈ list ∧ range.feature = feature := by
  constructor
  · intro found
    exact ⟨List.mem_of_find?_eq_some found, by simpa using List.find?_some found⟩
  · rintro ⟨member, rfl⟩
    cases found : rangeOf list range.feature with
    | none => simpa using List.find?_eq_none.mp found range member
    | some other =>
        have same : other.feature = range.feature := by simpa using List.find?_some found
        rw [List.inj_on_of_nodup_map distinct (List.mem_of_find?_eq_some found) member same]

theorem rangeOf_perm {other : List FeatureVersion} (distinct : Distinct list)
    (same : list.Perm other) (feature : Int) : rangeOf list feature = rangeOf other feature := by
  have distinctOther : Distinct other := (same.map _).nodup_iff.mp distinct
  apply Option.ext
  intro range
  rw [rangeOf_eq_some_iff distinct, rangeOf_eq_some_iff distinctOther, same.mem_iff]

/-- The greatest version of two ranges, if they overlap. -/
def overlap (first second : FeatureVersion) : Option Nat :=
  if max first.minVersion second.minVersion ≤ min first.maxVersion second.maxVersion then
    some (min first.maxVersion second.maxVersion)
  else none

theorem overlap_comm (first second : FeatureVersion) : overlap first second = overlap second first := by
  rw [overlap, overlap, max_comm, min_comm]

/-- What two lists share of a feature. -/
def shared (client server : List FeatureVersion) (feature : Int) : Option Nat :=
  (rangeOf client feature).bind fun first => (rangeOf server feature).bind (overlap first)

theorem shared_comm (client server : List FeatureVersion) (feature : Int) :
    shared client server feature = shared server client feature := by
  rw [shared, shared]
  cases rangeOf client feature with
  | none =>
      cases rangeOf server feature with
      | none => rfl
      | some => rfl
  | some first =>
      cases rangeOf server feature with
      | none => rfl
      | some second => exact overlap_comm first second

/-! ### The client's list -/

/-- A range the server accepts from a client. -/
structure ValidRange (numbers : FeatureNumbers) (range : FeatureVersion) : Prop where
  known : numbers.known range.feature = true
  specified : range.feature ≠ numbers.number .unspecified
  positive : 0 < range.minVersion
  ordered : range.minVersion ≤ range.maxVersion

/-- A list the server accepts from a client. -/
structure Acceptable (numbers : FeatureNumbers) (client : List FeatureVersion) : Prop where
  few : client.length ≤ 64
  valid : ∀ range ∈ client, ValidRange numbers range
  distinct : Distinct client

variable {numbers : FeatureNumbers}

/-- One round of the loop over the client's list. -/
theorem clientRanges_cons (numbers : FeatureNumbers) (range : FeatureVersion)
    (rest : List FeatureVersion) (ranges : HashMap Int (Nat × Nat)) :
    (ValidRange numbers range ∧ range.feature ∉ ranges ∧
      clientRanges numbers (range :: rest) ranges = clientRanges numbers rest
        (ranges.insert range.feature (range.minVersion, range.maxVersion))) ∨
    (¬(ValidRange numbers range ∧ range.feature ∉ ranges) ∧
      clientRanges numbers (range :: rest) ranges = .error "invalid client feature range") := by
  rw [clientRanges]
  split
  next bad =>
    refine .inr ⟨?_, rfl⟩
    rintro ⟨valid, fresh⟩
    simp only [valid.known, Bool.not_true, Bool.false_or, Bool.or_eq_true, decide_eq_true_eq,
      AList.lookup_isSome] at bad
    rcases bad with ((unspecified | zero) | inverted) | again
    · exact valid.specified unspecified
    · exact absurd zero valid.positive.ne'
    · exact absurd valid.ordered (Nat.not_le_of_lt inverted)
    · exact fresh again
  next good =>
    simp only [Bool.or_eq_true, Bool.not_eq_true', decide_eq_true_eq, not_or,
      Bool.not_eq_false, AList.lookup_isSome] at good
    obtain ⟨⟨⟨⟨known, specified⟩, nonzero⟩, ordered⟩, fresh⟩ := good
    exact .inl ⟨⟨known, specified, Nat.pos_of_ne_zero nonzero, Nat.le_of_not_lt ordered⟩, fresh, rfl⟩

/-- The ranges still to be read are valid and for features not read before. -/
structure Readable (numbers : FeatureNumbers) (client : List FeatureVersion)
    (ranges : HashMap Int (Nat × Nat)) : Prop where
  valid : ∀ range ∈ client, ValidRange numbers range
  distinct : Distinct client
  fresh : ∀ range ∈ client, range.feature ∉ ranges

variable {ranges : HashMap Int (Nat × Nat)}

theorem readable_cons_iff {rest : List FeatureVersion} :
    Readable numbers (range :: rest) ranges ↔
      (ValidRange numbers range ∧ range.feature ∉ ranges) ∧ Readable numbers rest
        (ranges.insert range.feature (range.minVersion, range.maxVersion)) := by
  constructor
  · rintro ⟨valid, distinct, fresh⟩
    rw [List.forall_mem_cons] at valid fresh
    obtain ⟨new, others⟩ := List.nodup_cons.mp distinct
    refine ⟨⟨valid.1, fresh.1⟩, valid.2, others, fun other member => ?_⟩
    rw [AList.mem_insert, not_or]
    exact ⟨fun same => new (List.mem_map.mpr ⟨other, member, same⟩), fresh.2 other member⟩
  · rintro ⟨⟨valid, fresh⟩, readable⟩
    have later : ∀ other ∈ rest, other.feature ≠ range.feature ∧ other.feature ∉ ranges :=
      fun other member => not_or.mp (mt (AList.mem_insert _).mpr (readable.fresh other member))
    refine ⟨List.forall_mem_cons.mpr ⟨valid, readable.valid⟩,
      List.nodup_cons.mpr ⟨?_, readable.distinct⟩,
      List.forall_mem_cons.mpr ⟨fresh, fun other member => (later other member).2⟩⟩
    intro again
    obtain ⟨other, member, same⟩ := List.mem_map.mp again
    exact (later other member).1 same

/-- The client's ranges are read exactly when they can be, and then feature by feature. -/
theorem clientRanges_spec (numbers : FeatureNumbers) (client : List FeatureVersion)
    (ranges : HashMap Int (Nat × Nat)) :
    (¬Readable numbers client ranges ∧
      clientRanges numbers client ranges = .error "invalid client feature range") ∨
    Readable numbers client ranges ∧ ∃ read, clientRanges numbers client ranges = .ok read ∧
      ∀ feature, read.lookup feature =
        ((rangeOf client feature).map fun range => (range.minVersion, range.maxVersion)).or
          (ranges.lookup feature) := by
  induction client generalizing ranges with
  | nil => exact .inr ⟨⟨nofun, List.nodup_nil, nofun⟩, ranges, rfl, fun _ => rfl⟩
  | cons range rest ih =>
      rw [readable_cons_iff]
      rcases clientRanges_cons numbers range rest ranges with ⟨valid, fresh, same⟩ | ⟨bad, failed⟩
      · rw [same]
        rcases ih (ranges.insert range.feature _) with
          ⟨unreadable, failed⟩ | ⟨readable, read, ok, lookups⟩
        · exact .inl ⟨fun readable => unreadable readable.2, failed⟩
        · refine .inr ⟨⟨⟨valid, fresh⟩, readable⟩, read, ok, fun feature => ?_⟩
          rw [lookups, rangeOf, rangeOf, List.find?_cons]
          by_cases this : range.feature = feature
          · subst feature
            have missing : rest.find? (·.feature = range.feature) = none := by
              rw [List.find?_eq_none]
              intro other member again
              have new := readable.fresh other member
              rw [AList.mem_insert, not_or] at new
              exact new.1 (by simpa using again)
            simp [missing]
          · rw [AList.lookup_insert_ne (Ne.symm this)]
            simp [this]
      · exact .inl ⟨fun readable => bad readable.1, failed⟩

/-! ### The server's list -/

variable {selected : HashMap Int Nat}

/-- One round of the loop over the server's list. -/
theorem selectVersions_cons {offered : FeatureVersion} {rest : List FeatureVersion} :
    selectVersions ranges (offered :: rest) selected = selectVersions ranges rest
      (((ranges.lookup offered.feature).bind fun range =>
        overlap ⟨offered.feature, range.1, range.2⟩ offered).elim selected
          (selected.insert offered.feature)) := by
  rw [selectVersions]
  cases ranges.lookup offered.feature with
  | none => rfl
  | some range =>
      obtain ⟨clientMin, clientMax⟩ := range
      simp only [Option.bind_some, overlap]
      split <;> rfl

variable {server : List FeatureVersion}

theorem selectVersions_lookup (distinct : Distinct server) (feature : Int) :
    (selectVersions ranges server selected).lookup feature =
      ((ranges.lookup feature).bind fun range => (rangeOf server feature).bind
        (overlap ⟨feature, range.1, range.2⟩)).or (selected.lookup feature) := by
  induction server generalizing selected with
  | nil =>
      rw [selectVersions]
      cases ranges.lookup feature <;> rfl
  | cons offered rest ih =>
      obtain ⟨new, others⟩ := List.nodup_cons.mp distinct
      rw [selectVersions_cons, ih others]
      by_cases this : offered.feature = feature
      · subst feature
        have here : rangeOf (offered :: rest) offered.feature = some offered := by simp [rangeOf]
        have missing : rangeOf rest offered.feature = none := by
          rw [rangeOf, List.find?_eq_none]
          intro other member again
          exact new (List.mem_map.mpr ⟨other, member, by simpa using again⟩)
        rw [here, missing]
        simp only [Option.bind_none, Option.bind_some, Option.bind_fun_none, Option.none_or]
        cases (ranges.lookup offered.feature).bind fun range =>
            overlap ⟨offered.feature, range.1, range.2⟩ offered with
        | none => rfl
        | some => exact AList.lookup_insert _
      · have skipped : rangeOf (offered :: rest) feature = rangeOf rest feature := by
          simp [rangeOf, this]
        rw [skipped]
        congr 1
        cases (ranges.lookup offered.feature).bind fun range =>
            overlap ⟨offered.feature, range.1, range.2⟩ offered with
        | none => rfl
        | some => exact AList.lookup_insert_ne (Ne.symm this)

/-! ### Negotiation -/

/-- Negotiation fails exactly for a list that is not acceptable; otherwise it selects what the two
lists share. -/
theorem negotiateFeatures_spec (numbers : FeatureNumbers) (client server : List FeatureVersion) :
    (¬Acceptable numbers client ∧ negotiateFeatures numbers client server =
      .error (if client.length > 64 then "too many client features"
        else "invalid client feature range")) ∨
    Acceptable numbers client ∧ ∃ selected, negotiateFeatures numbers client server = .ok selected ∧
      (Distinct server → ∀ feature, selected.lookup feature = shared client server feature) := by
  rw [negotiateFeatures]
  by_cases many : client.length > 64
  · rw [if_pos many, if_pos many]
    exact .inl ⟨fun acceptable => absurd acceptable.few (Nat.not_le_of_lt many), rfl⟩
  · rw [if_neg many, if_neg many]
    rcases clientRanges_spec numbers client ∅ with
      ⟨unreadable, failed⟩ | ⟨readable, read, ok, lookups⟩
    · refine .inl ⟨fun acceptable => unreadable ?_, by rw [failed]; rfl⟩
      exact ⟨acceptable.valid, acceptable.distinct, fun _ _ => AList.notMem_empty _⟩
    · refine .inr ⟨⟨Nat.le_of_not_lt many, readable.valid, readable.distinct⟩,
        selectVersions read server ∅, by rw [ok]; rfl, fun distinct feature => ?_⟩
      rw [selectVersions_lookup distinct, lookups, shared, AList.lookup_empty, Option.or_none,
        AList.lookup_empty, Option.or_none, Option.bind_map]
      rfl

/-- The list has the version of the feature. -/
def Offers (list : List FeatureVersion) (feature : Int) (version : Nat) : Prop :=
  ∃ range ∈ list, range.feature = feature ∧ range.minVersion ≤ version ∧ version ≤ range.maxVersion

theorem offers_iff (distinct : Distinct list) {feature : Int} {version : Nat} :
    Offers list feature version ↔ ∃ range, rangeOf list feature = some range ∧
      range.minVersion ≤ version ∧ version ≤ range.maxVersion := by
  constructor
  · rintro ⟨range, member, same, within⟩
    exact ⟨range, (rangeOf_eq_some_iff distinct).mpr ⟨member, same⟩, within⟩
  · rintro ⟨range, found, within⟩
    obtain ⟨member, same⟩ := (rangeOf_eq_some_iff distinct).mp found
    exact ⟨range, member, same, within⟩

theorem overlap_eq_some_iff {first second : FeatureVersion} {version : Nat} :
    overlap first second = some version ↔
      max first.minVersion second.minVersion ≤ version ∧
        version = min first.maxVersion second.maxVersion := by
  rw [overlap]
  split
  next overlapping =>
    rw [Option.some.injEq]
    constructor
    · rintro rfl
      exact ⟨overlapping, rfl⟩
    · exact fun both => both.2.symm
  next apart =>
    simp only [reduceCtorEq, false_iff]
    rintro ⟨above, rfl⟩
    exact apart above

variable {client : List FeatureVersion}

/-- What two lists share of a feature is the greatest version both offer. -/
theorem shared_eq_some_iff (one : Distinct client) (two : Distinct server) {feature : Int}
    {version : Nat} :
    shared client server feature = some version ↔
      IsGreatest {version | Offers client feature version ∧ Offers server feature version}
        version := by
  rw [shared, Option.bind_eq_some_iff]
  constructor
  · rintro ⟨first, foundFirst, both⟩
    obtain ⟨second, foundSecond, overlaps⟩ := Option.bind_eq_some_iff.mp both
    obtain ⟨above, rfl⟩ := overlap_eq_some_iff.mp overlaps
    refine ⟨⟨(offers_iff one).mpr ⟨first, foundFirst, ?_, ?_⟩,
      (offers_iff two).mpr ⟨second, foundSecond, ?_, ?_⟩⟩, ?_⟩
    · exact (le_max_left _ _).trans above
    · exact min_le_left _ _
    · exact (le_max_right _ _).trans above
    · exact min_le_right _ _
    · rintro other ⟨offeredFirst, offeredSecond⟩
      obtain ⟨range, found, -, belowFirst⟩ := (offers_iff one).mp offeredFirst
      cases foundFirst.symm.trans found
      obtain ⟨range, found, -, belowSecond⟩ := (offers_iff two).mp offeredSecond
      cases foundSecond.symm.trans found
      exact le_min belowFirst belowSecond
  · rintro ⟨⟨offeredFirst, offeredSecond⟩, greatest⟩
    obtain ⟨first, foundFirst, aboveFirst, belowFirst⟩ := (offers_iff one).mp offeredFirst
    obtain ⟨second, foundSecond, aboveSecond, belowSecond⟩ := (offers_iff two).mp offeredSecond
    refine ⟨first, foundFirst, Option.bind_eq_some_iff.mpr ⟨second, foundSecond, ?_⟩⟩
    rw [overlap_eq_some_iff]
    refine ⟨max_le aboveFirst aboveSecond, le_antisymm (le_min belowFirst belowSecond) ?_⟩
    -- Both ranges reach up to the smaller of their greatest versions.
    apply greatest
    refine ⟨(offers_iff one).mpr ⟨first, foundFirst, ?_, min_le_left _ _⟩,
      (offers_iff two).mpr ⟨second, foundSecond, ?_, min_le_right _ _⟩⟩
    · exact aboveFirst.trans (le_min belowFirst belowSecond)
    · exact aboveSecond.trans (le_min belowFirst belowSecond)

/-! ### What was selected as a list -/

theorem selectedFeatureVersions_perm (selected : HashMap Int Nat) :
    (selectedFeatureVersions selected).Perm
      (selected.entries.map fun entry => ⟨entry.1, entry.2, entry.2⟩) :=
  List.mergeSort_perm _ _

theorem distinct_selectedFeatureVersions (selected : HashMap Int Nat) :
    Distinct (selectedFeatureVersions selected) := by
  rw [Distinct, ((selectedFeatureVersions_perm selected).map _).nodup_iff, List.map_map]
  exact selected.nodupKeys

theorem mem_selectedFeatureVersions :
    range ∈ selectedFeatureVersions selected ↔
      ∃ version, selected.lookup range.feature = some version ∧
        range = ⟨range.feature, version, version⟩ := by
  rw [(selectedFeatureVersions_perm selected).mem_iff, List.mem_map]
  constructor
  · rintro ⟨⟨feature, version⟩, member, rfl⟩
    exact ⟨version, AList.mem_lookup_iff.mpr member, rfl⟩
  · rintro ⟨version, found, same⟩
    exact ⟨⟨range.feature, version⟩, AList.mem_lookup_iff.mp found, same.symm⟩

theorem rangeOf_selectedFeatureVersions (selected : HashMap Int Nat) (feature : Int) :
    rangeOf (selectedFeatureVersions selected) feature =
      (selected.lookup feature).map fun version => ⟨feature, version, version⟩ := by
  apply Option.ext
  intro range
  rw [rangeOf_eq_some_iff (distinct_selectedFeatureVersions selected),
    mem_selectedFeatureVersions, Option.map_eq_some_iff]
  constructor
  · rintro ⟨⟨version, found, same⟩, rfl⟩
    exact ⟨version, found, same.symm⟩
  · rintro ⟨version, found, rfl⟩
    exact ⟨⟨version, found, rfl⟩, rfl⟩

/-- What was selected can be negotiated again. -/
theorem acceptable_selectedFeatureVersions (acceptable : Acceptable numbers client)
    (lookups : ∀ feature, selected.lookup feature = shared client server feature) :
    Acceptable numbers (selectedFeatureVersions selected) := by
  have origin : ∀ {feature version}, selected.lookup feature = some version →
      ∃ range ∈ client, range.feature = feature ∧ range.minVersion ≤ version := by
    intro feature version found
    rw [lookups, shared] at found
    obtain ⟨first, here, both⟩ := Option.bind_eq_some_iff.mp found
    obtain ⟨second, -, overlaps⟩ := Option.bind_eq_some_iff.mp both
    obtain ⟨member, same⟩ := (rangeOf_eq_some_iff acceptable.distinct).mp here
    exact ⟨first, member, same, (le_max_left _ _).trans (overlap_eq_some_iff.mp overlaps).1⟩
  refine ⟨?_, fun range member => ?_, distinct_selectedFeatureVersions selected⟩
  · have within : selected.keys ⊆ client.map (·.feature) := by
      intro feature key
      obtain ⟨version, found⟩ := Option.isSome_iff_exists.mp (AList.lookup_isSome.mpr key)
      obtain ⟨range, member, same, -⟩ := origin found
      exact List.mem_map.mpr ⟨range, member, same⟩
    have fewer := (selected.keys_nodup.subperm within).length_le
    have count : (selectedFeatureVersions selected).length = selected.keys.length := by
      rw [(selectedFeatureVersions_perm selected).length_eq, List.length_map, AList.keys,
        List.keys, List.length_map]
    rw [List.length_map] at fewer
    exact count ▸ fewer.trans acceptable.few
  · obtain ⟨version, found, same⟩ := mem_selectedFeatureVersions.mp member
    obtain ⟨first, listed, feature, above⟩ := origin found
    have valid := acceptable.valid first listed
    rw [same]
    exact ⟨feature ▸ valid.known, feature ▸ valid.specified, valid.positive.trans_le above, le_rfl⟩

theorem shared_selectedFeatureVersions
    (lookups : ∀ feature, selected.lookup feature = shared client server feature) (feature : Int) :
    shared (selectedFeatureVersions selected) server feature = selected.lookup feature := by
  rw [shared, rangeOf_selectedFeatureVersions]
  cases found : selected.lookup feature with
  | none => rfl
  | some version =>
      rw [lookups, shared] at found
      obtain ⟨first, here, both⟩ := Option.bind_eq_some_iff.mp found
      obtain ⟨second, there, overlaps⟩ := Option.bind_eq_some_iff.mp both
      obtain ⟨above, same⟩ := overlap_eq_some_iff.mp overlaps
      have below : version ≤ second.maxVersion := same ▸ min_le_right _ _
      rw [Option.map_some, Option.bind_some, there, Option.bind_some, overlap_eq_some_iff]
      exact ⟨max_le le_rfl ((le_max_right _ _).trans above), (min_eq_left below).symm⟩

/-- A negotiated map as the function it is. -/
def selection (result : Except String (HashMap Int Nat)) : Except String (Int → Option Nat) :=
  result.map fun selected feature => selected.lookup feature

theorem negotiateFeatures_ok (negotiated : negotiateFeatures numbers client server = .ok selected) :
    Acceptable numbers client ∧
      (Distinct server → ∀ feature, selected.lookup feature = shared client server feature) := by
  rcases negotiateFeatures_spec numbers client server with
    ⟨-, failed⟩ | ⟨acceptable, found, ok, lookups⟩
  · rw [failed] at negotiated
    cases negotiated
  · rw [ok] at negotiated
    cases negotiated
    exact ⟨acceptable, lookups⟩

theorem selection_of_acceptable (acceptable : Acceptable numbers client)
    (distinct : Distinct server) :
    selection (negotiateFeatures numbers client server) = .ok (shared client server) := by
  rcases negotiateFeatures_spec numbers client server with
    ⟨refused, -⟩ | ⟨-, selected, ok, lookups⟩
  · exact absurd acceptable refused
  · rw [ok]
    exact congrArg Except.ok (funext (lookups distinct))

theorem selection_of_not_acceptable (refused : ¬Acceptable numbers client) :
    selection (negotiateFeatures numbers client server) =
      .error (if client.length > 64 then "too many client features"
        else "invalid client feature range") := by
  rcases negotiateFeatures_spec numbers client server with ⟨-, failed⟩ | ⟨acceptable, -⟩
  · rw [failed]
    rfl
  · exact absurd acceptable refused

theorem acceptable_perm {other : List FeatureVersion} (same : client.Perm other) :
    Acceptable numbers client ↔ Acceptable numbers other := by
  have forward : ∀ {client other : List FeatureVersion}, client.Perm other →
      Acceptable numbers client → Acceptable numbers other := by
    intro client other same acceptable
    refine ⟨same.length_eq ▸ acceptable.few, fun range member => ?_, ?_⟩
    · exact acceptable.valid range (same.mem_iff.mpr member)
    · exact (same.map _).nodup_iff.mp acceptable.distinct
  exact ⟨forward same, forward same.symm⟩

theorem shared_perm {client₁ server₁ : List FeatureVersion} (one : Distinct client)
    (two : Distinct server) (sameClient : client.Perm client₁) (sameServer : server.Perm server₁) :
    shared client server = shared client₁ server₁ := by
  funext feature
  rw [shared, shared, rangeOf_perm one sameClient, rangeOf_perm two sameServer]

theorem not_acceptable_iff :
    ¬Acceptable numbers client ↔ 64 < client.length ∨
      (∃ range ∈ client, numbers.known range.feature = false ∨
        range.feature = numbers.number .unspecified ∨ range.minVersion = 0 ∨
        range.maxVersion < range.minVersion) ∨ ¬Distinct client := by
  constructor
  · intro refused
    by_contra none
    simp only [not_or, not_exists, not_and, Bool.not_eq_false] at none
    obtain ⟨few, good, distinct⟩ := none
    apply refused
    refine ⟨Nat.le_of_not_lt few, fun range member => ?_, not_not.mp distinct⟩
    obtain ⟨known, specified, nonzero, ordered⟩ := good range member
    exact ⟨known, specified, Nat.pos_of_ne_zero nonzero, Nat.le_of_not_lt ordered⟩
  · rintro (many | ⟨range, member, bad⟩ | double) acceptable
    · exact absurd acceptable.few (Nat.not_le_of_lt many)
    · have valid := acceptable.valid range member
      rcases bad with unknown | unspecified | zero | inverted
      · rw [valid.known] at unknown
        cases unknown
      · exact valid.specified unspecified
      · exact absurd zero valid.positive.ne'
      · exact absurd valid.ordered (Nat.not_le_of_lt inverted)
    · exact double acceptable.distinct

/-- Negotiation fails exactly for a bad client list; otherwise it selects the greatest version both
lists have of each feature, so it does not matter whose list is whose, nor in which order a list
is, and what was selected is selected again. -/
theorem feature_negotiation_maximal (numbers : FeatureNumbers) :
    (∀ client server, (∃ error, negotiateFeatures numbers client server = .error error) ↔
      64 < client.length ∨
      (∃ range ∈ client, numbers.known range.feature = false ∨
        range.feature = numbers.number .unspecified ∨ range.minVersion = 0 ∨
        range.maxVersion < range.minVersion) ∨ ¬Distinct client) ∧
    (∀ client server selected, negotiateFeatures numbers client server = .ok selected →
      Distinct server → ∀ feature version, selected.lookup feature = some version ↔
        IsGreatest {version | Offers client feature version ∧ Offers server feature version}
          version) ∧
    (∀ first second, Acceptable numbers first → Acceptable numbers second →
      selection (negotiateFeatures numbers first second) =
        selection (negotiateFeatures numbers second first)) ∧
    (∀ client client₁ server server₁, Distinct server → client.Perm client₁ →
      server.Perm server₁ → selection (negotiateFeatures numbers client server) =
        selection (negotiateFeatures numbers client₁ server₁)) ∧
    ∀ client server selected, negotiateFeatures numbers client server = .ok selected →
      Distinct server →
      selection (negotiateFeatures numbers (selectedFeatureVersions selected) server) =
        selection (.ok selected) := by
  refine ⟨fun client server => ?_,
    fun client server selected negotiated distinct feature version => ?_,
    fun first second one two => ?_, fun client client₁ server server₁ distinct one two => ?_,
    fun client server selected negotiated distinct => ?_⟩
  · rw [← not_acceptable_iff]
    rcases negotiateFeatures_spec numbers client server with
      ⟨refused, failed⟩ | ⟨acceptable, selected, ok, -⟩
    · exact ⟨fun _ => refused, fun _ => ⟨_, failed⟩⟩
    · rw [ok]
      exact ⟨fun ⟨_, impossible⟩ => (nomatch impossible), fun refused => absurd acceptable refused⟩
  · obtain ⟨acceptable, lookups⟩ := negotiateFeatures_ok negotiated
    rw [lookups distinct, shared_eq_some_iff acceptable.distinct distinct]
  · rw [selection_of_acceptable one two.distinct, selection_of_acceptable two one.distinct]
    exact congrArg Except.ok (funext (shared_comm first second))
  · have distinct₁ : Distinct server₁ := (two.map _).nodup_iff.mp distinct
    by_cases acceptable : Acceptable numbers client
    · rw [selection_of_acceptable acceptable distinct,
        selection_of_acceptable ((acceptable_perm one).mp acceptable) distinct₁,
        shared_perm acceptable.distinct distinct one two]
    · rw [selection_of_not_acceptable acceptable,
        selection_of_not_acceptable (mt (acceptable_perm one).mpr acceptable), one.length_eq]
  · obtain ⟨acceptable, lookups⟩ := negotiateFeatures_ok negotiated
    have again := acceptable_selectedFeatureVersions acceptable (lookups distinct)
    rw [selection_of_acceptable again distinct]
    exact congrArg Except.ok (funext (shared_selectedFeatureVersions (lookups distinct)))

/-! ### The server's own list -/

theorem offeredFeatures_listed (available : Availability) :
    (offeredFeatures available).Nodup ∧ Feature.unspecified ∉ offeredFeatures available ∧
      (offeredFeatures available).length ≤ 64 := by
  obtain ⟨actions, notifications, remoteFiles, inputControl, workspaceInput⟩ := available
  revert actions notifications remoteFiles inputControl workspaceInput
  decide

theorem featureVersion_range (numbers : FeatureNumbers) (feature : Feature) :
    0 < (featureVersion numbers feature).minVersion ∧
      (featureVersion numbers feature).minVersion ≤ (featureVersion numbers feature).maxVersion := by
  rw [featureVersion]
  dsimp only
  split <;> split <;> decide

/-- The server offers a list that any server of this kind would accept from a client. -/
theorem serverFeatures_acceptable (numbers : FeatureNumbers) (available : Availability) :
    Acceptable numbers (serverFeatures numbers available) := by
  have same : (serverFeatures numbers available).Perm
      ((offeredFeatures available).map (featureVersion numbers)) := List.mergeSort_perm _ _
  obtain ⟨once, specified, few⟩ := offeredFeatures_listed available
  rw [acceptable_perm same]
  refine ⟨by rw [List.length_map]; exact few, fun range member => ?_, ?_⟩
  · obtain ⟨feature, listed, rfl⟩ := List.mem_map.mp member
    obtain ⟨positive, ordered⟩ := featureVersion_range numbers feature
    refine ⟨numbers.known_number feature, fun unspecified => specified ?_, positive, ordered⟩
    exact numbers.number_injective unspecified ▸ listed
  · rw [Distinct, List.map_map]
    exact once.map numbers.number_injective

/-- Two servers accept one another's lists and agree about every feature, whoever asks: they select
the greatest version both offer. -/
theorem servers_agree (numbers : FeatureNumbers) (one two : Availability) :
    ∃ asking asked,
      negotiateFeatures numbers (serverFeatures numbers one) (serverFeatures numbers two) =
        .ok asking ∧
      negotiateFeatures numbers (serverFeatures numbers two) (serverFeatures numbers one) =
        .ok asked ∧
      ∀ feature, asking.lookup feature = asked.lookup feature ∧
        ∀ version, asking.lookup feature = some version ↔
          IsGreatest {version | Offers (serverFeatures numbers one) feature version ∧
            Offers (serverFeatures numbers two) feature version} version := by
  have first := serverFeatures_acceptable numbers one
  have second := serverFeatures_acceptable numbers two
  rcases negotiateFeatures_spec numbers (serverFeatures numbers one) (serverFeatures numbers two)
    with ⟨refused, -⟩ | ⟨-, asking, ok, lookups⟩
  · exact absurd first refused
  rcases negotiateFeatures_spec numbers (serverFeatures numbers two) (serverFeatures numbers one)
    with ⟨refused, -⟩ | ⟨-, asked, okBack, lookupsBack⟩
  · exact absurd second refused
  refine ⟨asking, asked, ok, okBack, fun feature => ⟨?_, fun version => ?_⟩⟩
  · rw [lookups second.distinct, lookupsBack first.distinct, shared_comm]
  · rw [lookups second.distinct, shared_eq_some_iff first.distinct second.distinct]

/-- The features numbered in the order of their names here. -/
def plainNumbers : FeatureNumbers where
  number := fun feature => feature.ctorIdx
  known := fun number => 0 ≤ number && number < 14
  number_injective := by
    intro first second same
    cases first <;> cases second <;> first | rfl | cases same
  known_number := by
    intro feature
    cases feature <;> rfl

/-- The lists of a server with everything and of one with nothing to add. -/
def richFeatures : List FeatureVersion :=
  serverFeatures plainNumbers ⟨true, true, true, true, true⟩

def leanFeatures : List FeatureVersion :=
  serverFeatures plainNumbers ⟨false, false, false, false, false⟩

/-- They share the third version of clipboard synchronization. -/
theorem shared_plain : shared richFeatures leanFeatures 6 = some 3 := by
  rw [richFeatures, leanFeatures, shared_perm (serverFeatures_acceptable _ _).distinct
    (serverFeatures_acceptable _ _).distinct (List.mergeSort_perm _ _) (List.mergeSort_perm _ _)]
  decide

theorem servers_agree_plain :
    ∃ asking asked,
      negotiateFeatures plainNumbers richFeatures leanFeatures = .ok asking ∧
      negotiateFeatures plainNumbers leanFeatures richFeatures = .ok asked ∧
      asking.lookup 6 = some 3 ∧ asked.lookup 6 = some 3 := by
  obtain ⟨asking, asked, ok, okBack, same⟩ :=
    servers_agree plainNumbers ⟨true, true, true, true, true⟩ ⟨false, false, false, false, false⟩
  have third : asking.lookup 6 = some 3 := ((same 6).2 3).mpr
    ((shared_eq_some_iff (serverFeatures_acceptable _ _).distinct
      (serverFeatures_acceptable _ _).distinct).mp shared_plain)
  exact ⟨asking, asked, ok, okBack, third, (same 6).1 ▸ third⟩

/-- A connection registered with what was negotiated is handed out for exactly the versions the two
lists share, and the devices listed for a version are those with a connection to hand out. -/
theorem connections_by_version {Transport : Type} (numbers : FeatureNumbers)
    (registry : ConnectionRegistry Transport) (feature : Int) (version : Nat) :
    (∀ available client selected deviceId notify transport,
      negotiateFeatures numbers client (serverFeatures numbers available) = .ok selected →
      ((registry.registerTransportWithFeatures deviceId notify transport
          selected).transportForFeature deviceId feature version = some transport ↔
        shared client (serverFeatures numbers available) feature = some version)) ∧
    ∀ device, device ∈ registry.listConnectedWithFeature feature version ↔
      (registry.transportForFeature device feature version).isSome := by
  constructor
  · intro available client selected deviceId notify transport negotiated
    have lookups := (negotiateFeatures_ok negotiated).2
      (serverFeatures_acceptable numbers available).distinct
    have registered : (registry.registerTransportWithFeatures deviceId notify transport
        selected).inner.lookup deviceId = some ⟨notify, some transport, selected⟩ := by
      rw [ConnectionRegistry.registerTransportWithFeatures, ConnectionRegistry.registerInner]
      split <;> exact AList.lookup_insert _
    rw [← lookups, ConnectionRegistry.transportForFeature, registered, Option.filter_some]
    by_cases own : selected.lookup feature = some version <;>
      simp [ActiveConnection.supportsFeature, own]
  · intro device
    have entry : ∀ connection, ⟨device, connection⟩ ∈ registry.inner.entries ↔
        registry.inner.lookup device = some connection := fun _ => AList.mem_lookup_iff.symm
    rw [ConnectionRegistry.transportForFeature]
    simp only [ConnectionRegistry.listConnectedWithFeature, List.mem_map, List.mem_filter,
      Sigma.exists, Bool.and_eq_true]
    cases found : registry.inner.lookup device with
    | none => simp [entry, found]
    | some connection =>
        by_cases supported : connection.supportsFeature feature version <;>
          simp [entry, found, Option.filter_some, supported]

/-- A device of the richer server is handed out for the third version of clipboard synchronization
and not for the second. -/
theorem connections_by_version_plain :
    ∃ selected, negotiateFeatures plainNumbers richFeatures leanFeatures = .ok selected ∧
      (({} : ConnectionRegistry Unit).registerTransportWithFeatures "phone" 0 ()
        selected).transportForFeature "phone" 6 3 = some () ∧
      (({} : ConnectionRegistry Unit).registerTransportWithFeatures "phone" 0 ()
        selected).transportForFeature "phone" 6 2 ≠ some () := by
  rcases negotiateFeatures_spec plainNumbers richFeatures leanFeatures with
    ⟨refused, -⟩ | ⟨-, selected, ok, -⟩
  · exact absurd (serverFeatures_acceptable _ _) refused
  · refine ⟨selected, ok, ?_, fun second => ?_⟩
    · exact ((connections_by_version plainNumbers {} 6 3).1 _ _ _ "phone" 0 () ok).mpr shared_plain
    · have other := ((connections_by_version plainNumbers {} 6 2).1 _ _ _ "phone" 0 () ok).mp second
      cases shared_plain.symm.trans other

end ArcRelay.Features
