/-
Module: ArcRelay.Proofs.CoverageOrder
Purpose: `covers` is the order of what records have in versions, their join its least upper bound,
  and `needs_payload` agrees with it.
Trusted boundary: none
-/
import ArcRelay.Library.Versioned
import ArcRelay.ClipboardReplication.Records

namespace ArcRelay.ClipboardReplication

/-!
What `covers` compares of a record is a point in a product of orders: two versions, the times and
the count, and the version of every label it is a member of.  One record covers another exactly
when its point is above the other's, so the laws of `covers` are those of the product.
-/

/-- Content and favorite version, the last and the first capture, the count, the last use, and the
version of every membership. -/
abbrev Coverage :=
  Version × Version × Int × Intᵒᵈ × Nat × WithBot Int × (String → WithBot Version)

def membershipVersion (replica : ReplicaRecord) : String → WithBot Version :=
  versionOf LabelMembership.labelId LabelMembership.version replica.record.labelMemberships

/-- An optional time, below all others where there is none. -/
def optionalTime : Option Int → WithBot Int
  | none => ⊥
  | some time => time

def coverage (replica : ReplicaRecord) : Coverage :=
  (replica.record.contentVersion, replica.record.favoriteVersion, replica.record.capturedAtMs,
    .toDual replica.firstCapturedAtMs, replica.copyCount, optionalTime replica.lastUsedAtMs,
    membershipVersion replica)

/-- The memberships belong to different labels. -/
def ReplicaRecord.Distinct (replica : ReplicaRecord) : Prop :=
  (replica.record.labelMemberships.map LabelMembership.labelId).Nodup

theorem notBefore_iff {current incoming : Option Int} :
    notBefore current incoming = true ↔ optionalTime incoming ≤ optionalTime current := by
  cases incoming with
  | none => simp [notBefore, optionalTime]
  | some =>
      cases current with
      | none => simp [notBefore, optionalTime]
      | some => simp [notBefore, optionalTime]

theorem optionalTime_injective : Function.Injective optionalTime := by
  intro first second same
  cases first with
  | none =>
      cases second with
      | none => rfl
      | some => exact absurd same WithBot.bot_ne_coe
  | some =>
      cases second with
      | none => exact absurd same WithBot.coe_ne_bot
      | some => exact congrArg some (WithBot.coe_inj.mp same)

variable {current incoming : ReplicaRecord}

/-- The double loop over the memberships compares them label by label. -/
theorem memberships_covered_iff :
    (incoming.record.labelMemberships.all fun incoming =>
      current.record.labelMemberships.any fun current =>
        decide (current.labelId = incoming.labelId) &&
          decide (incoming.version ≤ current.version)) = true ↔
      membershipVersion incoming ≤ membershipVersion current := by
  simp only [List.all_eq_true, List.any_eq_true, Bool.and_eq_true, decide_eq_true_eq]
  constructor
  · intro covered label
    refine versionOf_le_iff.mpr fun membership member same => ?_
    obtain ⟨found, present, alike, newer⟩ := covered membership member
    exact coe_le_versionOf_iff.mpr ⟨found, present, alike.trans same, newer⟩
  · intro below membership member
    exact coe_le_versionOf_iff.mp ((le_versionOf member).trans (below membership.labelId))

/-- The nested comparison of the code is one product order. -/
theorem covers_iff : covers current incoming = true ↔ coverage incoming ≤ coverage current := by
  simp only [covers, Bool.and_eq_true, decide_eq_true_eq, notBefore_iff, memberships_covered_iff,
    coverage, Prod.mk_le_mk, OrderDual.toDual_le_toDual, and_assoc]

/-! ### Equal coverage -/

/-- Two records agree in everything `covers` compares. -/
structure SameVersions (first second : ReplicaRecord) : Prop where
  revision : first.record.revision = second.record.revision
  updatedByDeviceId : first.record.updatedByDeviceId = second.record.updatedByDeviceId
  favoriteRevision : first.record.favoriteRevision = second.record.favoriteRevision
  favoriteUpdatedByDeviceId :
    first.record.favoriteUpdatedByDeviceId = second.record.favoriteUpdatedByDeviceId
  capturedAtMs : first.record.capturedAtMs = second.record.capturedAtMs
  firstCapturedAtMs : first.firstCapturedAtMs = second.firstCapturedAtMs
  copyCount : first.copyCount = second.copyCount
  lastUsedAtMs : first.lastUsedAtMs = second.lastUsedAtMs
  labelIds : ∀ label, label ∈ first.record.labelMemberships.map LabelMembership.labelId ↔
    label ∈ second.record.labelMemberships.map LabelMembership.labelId
  memberships : ∀ left ∈ first.record.labelMemberships,
    ∀ right ∈ second.record.labelMemberships, left.labelId = right.labelId →
      left.revision = right.revision ∧ left.updatedByDeviceId = right.updatedByDeviceId

theorem version_inj {revision otherRevision : Nat} {device otherDevice : String} :
    version revision device = version otherRevision otherDevice ↔
      revision = otherRevision ∧ device = otherDevice := by
  rw [version, version, toLex_inj, Prod.mk.injEq]

/-- Equal coverage determines every version, as no membership is listed twice. -/
theorem sameVersions_of_coverage {first second : ReplicaRecord} (distinct : first.Distinct)
    (otherDistinct : second.Distinct) (same : coverage first = coverage second) :
    SameVersions first second := by
  simp only [coverage, Prod.mk.injEq, OrderDual.toDual_inj] at same
  obtain ⟨content, favorite, captured, firstCaptured, count, used, labels⟩ := same
  refine ⟨(version_inj.mp content).1, (version_inj.mp content).2, (version_inj.mp favorite).1,
    (version_inj.mp favorite).2, captured, firstCaptured, count, optionalTime_injective used, ?_, ?_⟩
  · intro label
    have absent : membershipVersion first label = ⊥ ↔ membershipVersion second label = ⊥ := by
      rw [labels]
    rw [membershipVersion, membershipVersion, versionOf_eq_bot_iff, versionOf_eq_bot_iff] at absent
    exact not_iff_not.mp absent
  · intro left member right otherMember alike
    have versions := congrFun labels left.labelId
    rw [membershipVersion, versionOf_of_mem distinct member, alike, membershipVersion,
      versionOf_of_mem otherDistinct otherMember] at versions
    exact version_inj.mp (WithBot.coe_inj.mp versions)

/-! ### The join -/

/-- The later of two optional times. -/
def laterTime : Option Int → Option Int → Option Int
  | some first, some second => some (max first second)
  | first, none => first
  | none, second => second

/-- The component-wise join: greater versions, the later capture and use, the earlier first
capture, the greater count, and every membership with its greater version. What `covers` does not
compare is taken from the first record. -/
def joinRecords (first second : ReplicaRecord) : ReplicaRecord where
  record :=
    let content := ofLex (max first.record.contentVersion second.record.contentVersion)
    let favorite := ofLex (max first.record.favoriteVersion second.record.favoriteVersion)
    { first.record with
      revision := content.1
      updatedByDeviceId := content.2
      favoriteRevision := favorite.1
      favoriteUpdatedByDeviceId := favorite.2
      capturedAtMs := max first.record.capturedAtMs second.record.capturedAtMs
      labelMemberships := mergeNewest LabelMembership.labelId LabelMembership.version
        first.record.labelMemberships second.record.labelMemberships }
  firstCapturedAtMs := min first.firstCapturedAtMs second.firstCapturedAtMs
  copyCount := max first.copyCount second.copyCount
  lastUsedAtMs := laterTime first.lastUsedAtMs second.lastUsedAtMs

theorem optionalTime_laterTime (first second : Option Int) :
    optionalTime (laterTime first second) = optionalTime first ⊔ optionalTime second := by
  cases first with
  | none =>
      cases second with
      | none => simp [laterTime, optionalTime]
      | some => simp [laterTime, optionalTime]
  | some =>
      cases second with
      | none => simp [laterTime, optionalTime]
      | some => simp [laterTime, optionalTime]

/-- The join of two records is their least upper bound. -/
theorem coverage_joinRecords {first second : ReplicaRecord} (distinct : second.Distinct) :
    coverage (joinRecords first second) = coverage first ⊔ coverage second := by
  have labels : membershipVersion (joinRecords first second) =
      membershipVersion first ⊔ membershipVersion second := versionOf_mergeNewest distinct
  have used := optionalTime_laterTime first.lastUsedAtMs second.lastUsedAtMs
  rw [coverage, labels]
  change (_, _, _, _, _, optionalTime (laterTime _ _), _) = _
  rw [used]
  rfl

/-! ### The laws -/

theorem covers_needsPayload (needed : needsPayload (some current) incoming = true) :
    covers current incoming = false := by
  simp only [needsPayload, Bool.and_eq_true, Option.all_some, decide_eq_true_eq] at needed
  rw [Bool.eq_false_iff]
  intro covered
  exact absurd (covers_iff.mp covered).1 (not_le_of_gt needed.2)

/-- `covers` is reflexive and transitive; records that cover each other agree in all they are
compared by; the join of two records is their least upper bound; and content is asked for only
where the record is not covered, and is not asked for only where it is not newer. -/
theorem covers_orders_versions :
    (∀ record, covers record record = true) ∧
    (∀ first second third, covers first second = true → covers second third = true →
      covers first third = true) ∧
    (∀ first second : ReplicaRecord, first.Distinct → second.Distinct →
      covers first second = true → covers second first = true → SameVersions first second) ∧
    (∀ first second : ReplicaRecord, first.Distinct → second.Distinct →
      (joinRecords first second).Distinct ∧
        covers (joinRecords first second) first = true ∧
        covers (joinRecords first second) second = true ∧
        ∀ upper, covers upper first = true → covers upper second = true →
          covers upper (joinRecords first second) = true) ∧
    (∀ current incoming, needsPayload (some current) incoming = true →
      covers current incoming = false) ∧
    ∀ current incoming, covers current incoming = false → incoming.record.deleted = false →
      needsPayload (some current) incoming = false →
        incoming.record.contentVersion ≤ current.record.contentVersion := by
  refine ⟨fun record => covers_iff.mpr le_rfl, ?_, ?_, ?_, fun _ _ => covers_needsPayload, ?_⟩
  · intro first second third upper lower
    exact covers_iff.mpr ((covers_iff.mp lower).trans (covers_iff.mp upper))
  · intro first second distinct otherDistinct forth back
    exact sameVersions_of_coverage distinct otherDistinct
      (le_antisymm (covers_iff.mp back) (covers_iff.mp forth))
  · intro first second distinct otherDistinct
    have join : coverage (joinRecords first second) = _ := coverage_joinRecords otherDistinct
    refine ⟨mergeNewest_nodup distinct otherDistinct, covers_iff.mpr ?_, covers_iff.mpr ?_,
      fun upper left right => covers_iff.mpr ?_⟩
    · rw [join]
      exact le_sup_left
    · rw [join]
      exact le_sup_right
    · rw [join]
      exact sup_le (covers_iff.mp left) (covers_iff.mp right)
  · intro current incoming _ present unneeded
    simp only [needsPayload, present, Bool.not_false, Bool.true_and, Option.all_some,
      decide_eq_false_iff_not, not_lt] at unneeded
    exact unneeded

/-- A text at a revision of a device, a member of one label. -/
def labelledText (revision : Nat) (device label : String) : ReplicaRecord where
  record :=
    { syncId := "note", kind := .text, text := some "hello", html := none, rtf := none,
      imagePng := none, width := none, height := none, preview := "hello", sourceApp := none,
      sourceDeviceId := device, sourceDeviceName := device, capturedAtMs := 5,
      revision := revision, updatedByDeviceId := device, favorite := false,
      favoriteRevision := 1, favoriteUpdatedByDeviceId := device, labels := [],
      labelMemberships := [⟨label, true, revision, device⟩], deleted := false,
      changeKind := .copy, live := false, textSyntax := .plain }
  firstCapturedAtMs := 4
  copyCount := 1
  lastUsedAtMs := none

/-- Two devices edited a text and labelled it differently: neither covers the other, their join
covers both. -/
theorem covers_orders_versions_edits :
    let phone := labelledText 2 "phone" "work"
    let laptop := labelledText 3 "laptop" "home"
    covers phone laptop = false ∧ covers laptop phone = false ∧
      covers (joinRecords phone laptop) phone = true ∧
      covers (joinRecords phone laptop) laptop = true := by
  have join := covers_orders_versions.2.2.2.1 (labelledText 2 "phone" "work")
    (labelledText 3 "laptop" "home") (List.nodup_singleton _) (List.nodup_singleton _)
  exact ⟨by decide +kernel, by decide +kernel, join.2.1, join.2.2.1⟩

end ArcRelay.ClipboardReplication
