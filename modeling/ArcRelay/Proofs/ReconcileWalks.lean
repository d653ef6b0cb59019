/-
Module: ArcRelay.Proofs.ReconcileWalks
Purpose: What the client takes from one page of each of its three walks, and the pages a run has
  received.
Trusted boundary: as for the client
-/
import ArcRelay.Proofs.ReconcileRules

namespace ArcRelay.ClipboardReplication

open Program

/-! ### The pages of a walk -/

def collectionPagesIn (made : List ClientExchange) : List CollectionPage :=
  made.filterMap fun
    | ⟨.request (.scanCollections _) _, .ok (.collections page, _)⟩ => some page
    | _ => none

def labelPagesIn (made : List ClientExchange) : List LabelPage :=
  made.filterMap fun
    | ⟨.request (.scanLabels _) _, .ok (.labels page, _)⟩ => some page
    | _ => none

def recordPagesIn (made : List ClientExchange) : List RecordPage :=
  made.filterMap fun
    | ⟨.request (.scan _ _) _, .ok (.page page, _)⟩ => some page
    | _ => none

@[simp] theorem collectionPagesIn_append (made later : List ClientExchange) :
    collectionPagesIn (made ++ later) = collectionPagesIn made ++ collectionPagesIn later :=
  List.filterMap_append

@[simp] theorem labelPagesIn_append (made later : List ClientExchange) :
    labelPagesIn (made ++ later) = labelPagesIn made ++ labelPagesIn later :=
  List.filterMap_append

@[simp] theorem recordPagesIn_append (made later : List ClientExchange) :
    recordPagesIn (made ++ later) = recordPagesIn made ++ recordPagesIn later :=
  List.filterMap_append

/-- Calls of the host bring no pages. -/
@[simp] theorem collectionPagesIn_host (call : HostCall) (answer : call.Answer) :
    collectionPagesIn [⟨.host call, answer⟩] = [] := rfl

@[simp] theorem labelPagesIn_host (call : HostCall) (answer : call.Answer) :
    labelPagesIn [⟨.host call, answer⟩] = [] := rfl

@[simp] theorem collectionPagesIn_page (cursor : String) (sent received : List Bytes)
    (page : CollectionPage) :
    collectionPagesIn
      [⟨.request (.scanCollections cursor) sent, .ok (.collections page, received)⟩] = [page] := rfl

@[simp] theorem labelPagesIn_page (cursor : String) (sent received : List Bytes)
    (page : LabelPage) :
    labelPagesIn [⟨.request (.scanLabels cursor) sent, .ok (.labels page, received)⟩] = [page] :=
  rfl

@[simp] theorem recordPagesIn_page (cursor : Option ReplicaCursor) (limit : Nat)
    (sent received : List Bytes) (page : RecordPage) :
    recordPagesIn [⟨.request (.scan cursor limit) sent, .ok (.page page, received)⟩] = [page] :=
  rfl

/-- The readings of the device's clock. -/
def clocksIn (made : List ClientExchange) : List Int :=
  made.filterMap fun
    | ⟨.host .clock, now⟩ => some now
    | _ => none

/-! ### A page of collections -/

section Collections

variable (platform : Platform)

/-- The walk's collections with those of one page. -/
def absorb (remote : HashMap String Collection) (records : List CollectionRecord) :
    HashMap String Collection :=
  records.foldl (fun remote wire =>
    match decodeCollection platform wire with
    | .ok value => remote.insert value.id value
    | .error _ => remote) remote

/-- The ids of the collections on a page. -/
def decodedIds (records : List CollectionRecord) : List String :=
  records.filterMap fun wire => (decodeCollection platform wire).toOption.map (·.id)

/-- What a page adds are the ids it decodes to. -/
theorem mem_absorb {remote : HashMap String Collection} {records : List CollectionRecord}
    {id : String} :
    id ∈ absorb platform remote records ↔ id ∈ remote ∨ id ∈ decodedIds platform records := by
  induction records generalizing remote with
  | nil => simp [absorb, decodedIds]
  | cons wire _ ih =>
      rw [absorb, List.foldl_cons]
      cases decoded : decodeCollection platform wire with
      | error =>
          rw [← absorb, ih]
          simp [decodedIds, decoded, Except.toOption]
      | ok =>
          rw [← absorb, ih, AList.mem_insert]
          simp only [decodedIds, List.filterMap_cons, decoded, Except.toOption, Option.map_some,
            List.mem_cons]
          tauto

/-- A collection is handed to the device. -/
def Receives (call : ClientCall) : Prop :=
  ∃ value edits favorites, call = .host (.receiveCollection value edits favorites)

variable {platform} {contract : ClientContract}

/-- Handing over collections adds no page. -/
theorem collectionPagesIn_receives {made later : List ClientExchange}
    (extension : Extends Receives made later) :
    collectionPagesIn later = collectionPagesIn made := by
  refine extension.filterMap_eq ?_
  rintro ⟨call, answer⟩ ⟨value, edits, favorites, rfl⟩
  rfl

/-- A page is taken over collection by collection, or the walk fails on it. -/
theorem does_receiveCollections (hosts : contract.Hosts)
    {cursor : String} {edits favorites : Bool} {remote : HashMap String Collection}
    {records : List CollectionRecord} {made : List ClientExchange} {result : ReconciliationResult} :
    Does contract (fun later _ outcome => Extends Receives made later ∧
        ∀ taken, outcome = .ok taken → taken = absorb platform remote records) made result
      (receiveCollections platform cursor edits favorites remote records) := by
  induction records generalizing remote made result with
  | nil =>
      refine does_pure ⟨.refl _ _, fun taken same => ?_⟩
      cases same
      rfl
  | cons wire _ ih =>
      refine does_bind (does_valid ?_)
      cases decoded : decodeCollection platform wire with
      | error => exact ⟨.refl _ _, fun taken same => nomatch same⟩
      | ok value =>
          dsimp only
          split
          · exact does_throw ⟨.refl _ _, fun taken same => nomatch same⟩
          · refine does_bind (does_host rfl (hosts _ _) fun answer _ => ?_)
            have extended : Extends Receives made
                (made ++ [⟨.host (.receiveCollection value edits favorites), answer⟩]) :=
              .call answer ⟨value, edits, favorites, rfl⟩
            cases answer with
            | error => exact ⟨extended, fun taken same => nomatch same⟩
            | ok =>
                refine does_bind (does_modify ?_)
                refine does_mono ih fun later _ outcome went => ?_
                refine ⟨extended.trans went.1, fun taken same => ?_⟩
                rw [went.2 taken same, absorb, absorb, List.foldl_cons, decoded]

end Collections

/-! ### A page of records -/

section Records

variable {platform : Platform} {contract : ClientContract}

/-- Calls of the device's own host, and requests for a record's payload. -/
def Handles (call : ClientCall) : Prop :=
  OnHost call ∨ ∃ syncId frames, call = .request (.fetch syncId) frames

/-- These calls are permitted. -/
def ClientContract.Calm (contract : ClientContract) : Prop :=
  ∀ made call, Handles call → contract.permitted made call

theorem ClientContract.Calm.hosts (calm : contract.Calm) : contract.Hosts :=
  fun made call => calm made _ (.inl ⟨call, rfl⟩)

variable {made : List ClientExchange}

/-- Handling a record adds no page. -/
theorem recordPagesIn_handles {later : List ClientExchange}
    (extension : Extends Handles made later) : recordPagesIn later = recordPagesIn made := by
  refine extension.filterMap_eq ?_
  rintro ⟨call, answer⟩ (⟨hostCall, rfl⟩ | ⟨syncId, frames, rfl⟩)
  · rfl
  · rfl

variable {header : Proto.ClipboardReplicaRecord}

/-- Both readings of the clock are on record. -/
theorem asking_readMetadata {post : List ClientExchange → Except String ReplicaRecord → Prop}
    (hosts : contract.Hosts)
    (answered : ∀ now later, contract.admits (.host .clock) now →
      contract.admits (.host .clock) later →
      post (made ++ [⟨.host .clock, now⟩] ++ [⟨.host .clock, later⟩])
        (metadataFromWire now later header)) :
    (onHost (readMetadata header)).run.Meets contract post made :=
  ⟨hosts _ _, fun now admitted => ⟨hosts _ _, fun later alsoAdmitted =>
    answered now later admitted alsoAdmitted⟩⟩

/-- Fetching a record makes such calls only. -/
theorem asking_fetch (calm : contract.Calm)
    {syncId : String} :
    (fetch platform syncId).run.Meets contract (fun later _ => Extends Handles made later) made := by
  refine meets_exceptT_bind (asking_request (calm _ _ (.inr ⟨syncId, [], rfl⟩)) fun answer _ => ?_)
  have asked : Extends Handles made (made ++ [⟨.request (.fetch syncId) [], answer⟩]) :=
    .call answer (.inr ⟨syncId, [], rfl⟩)
  rcases answer with failure | ⟨response, frames⟩
  · exact asked
  cases response with
  | record =>
      dsimp only
      split
      · exact asked
      · refine meets_mono (asking_onHost calm.hosts _) fun later _ extension => ?_
        exact asked.trans (extension.mono fun _ => .inl)
  | _ => exact asked

variable {replica : ReplicaRecord}

/-- Taking over a record makes such calls only. -/
theorem asking_applyRemote (calm : contract.Calm)
    {known : Option ReplicaRecord} :
    (applyRemote platform known replica).run.Meets contract
      (fun later _ => Extends Handles made later) made := by
  have wider : ∀ {made later}, Extends OnHost made later → Extends Handles made later :=
    fun extension => extension.mono fun _ => .inl
  refine meets_exceptT_bind (meets_mono (asking_onHost calm.hosts _)
    fun checked outcome extension => ?_)
  cases outcome with
  | error => exact wider extension
  | ok =>
      have payload : (remoteRecord platform known replica).run.Meets contract
          (fun later _ => Extends Handles checked later) checked := by
        rw [remoteRecord]
        split
        · exact asking_fetch calm
        · exact .refl _ _
      refine meets_exceptT_bind (meets_mono payload fun fetched outcome more => ?_)
      have both := (wider extension).trans more
      cases outcome with
      | error => exact both
      | ok =>
          refine meets_mono (asking_onHost calm.hosts _) fun later _ extension => ?_
          exact both.trans (wider extension)

/-- Whatever becomes of one record, the walk goes on. -/
theorem does_receiveUncovered (calm : contract.Calm)
    {known : Option ReplicaRecord} {result : ReconciliationResult} :
    Does contract (fun later _ outcome => Extends Handles made later ∧ outcome = .ok ()) made result
      (receiveUncovered platform known replica) := by
  rw [receiveUncovered]
  split
  · exact does_pure ⟨.refl _ _, rfl⟩
  · refine does_bind (does_modify ?_)
    refine does_bind (does_outcomeOf (meets_mono (asking_applyRemote calm)
      fun later outcome extension => ?_))
    rcases outcome with failure | changed
    · exact does_modify ⟨extension, rfl⟩
    · cases changed with
      | true => exact does_modify ⟨extension, rfl⟩
      | false => exact does_pure ⟨extension, rfl⟩

/-- The sync ids on a page, and the id of a header. -/
def headerId (header : Proto.ClipboardReplicaRecord) : Option String :=
  header.metadata.map (·.syncId)

/-- An accepted header names the record it is accepted as. -/
theorem headerId_of_accepted {now later : Int}
    (accepted : metadataFromWire now later header = .ok replica) :
    headerId header = some replica.record.syncId := by
  rw [metadataFromWire] at accepted
  split at accepted
  · cases accepted
  next metadata present =>
    split at accepted
    · cases accepted
    · obtain ⟨_, _, accepted⟩ := except_bind_ok accepted
      obtain ⟨_, _, accepted⟩ := except_bind_ok accepted
      obtain ⟨_, _, accepted⟩ := except_bind_ok accepted
      split at accepted
      · cases accepted
      · cases accepted
        rw [headerId, present]
        rfl

/-- A header that is accepted whenever it is read. -/
def Acceptable (clocks : List Int) (header : Proto.ClipboardReplicaRecord) : Prop :=
  ∀ now ∈ clocks, ∀ later ∈ clocks, (metadataFromWire now later header).isOk

/-- What a page of records adds to the manifest: only ids on the page, and all of those whose
header is accepted. -/
structure Adds (records : List Proto.ClipboardReplicaRecord) (clocks : List Int)
    (remote larger : Manifest) : Prop where
  kept : ∀ id ∈ remote, id ∈ larger
  only : ∀ id ∈ larger, id ∈ remote ∨ id ∈ records.filterMap headerId
  accepted : ∀ header ∈ records, Acceptable clocks header →
    ∀ id, headerId header = some id → id ∈ larger
  bounded : HashMap.size remote ≤ maxManifestRecords → HashMap.size larger ≤ maxManifestRecords

variable {records : List Proto.ClipboardReplicaRecord} {remote : Manifest}

theorem Adds.refused {clocks : List Int} {larger : Manifest}
    (adds : Adds records clocks remote larger) (refused : ¬ Acceptable clocks header) :
    Adds (header :: records) clocks remote larger where
  kept := adds.kept
  only := fun id member => (adds.only id member).imp_right fun listed => by
    rw [List.filterMap_cons]
    split
    · exact listed
    · exact List.mem_cons_of_mem _ listed
  accepted := fun other member acceptable => by
    rcases List.mem_cons.mp member with rfl | member
    · exact absurd acceptable refused
    · exact adds.accepted other member acceptable
  bounded := adds.bounded

/-- A header that is accepted adds its record. -/
theorem Adds.inserted {clocks : List Int} {larger : Manifest}
    (adds : Adds records clocks (remote.insert replica.record.syncId replica) larger)
    (named : headerId header = some replica.record.syncId)
    (within : HashMap.size (remote.insert replica.record.syncId replica) ≤ maxManifestRecords) :
    Adds (header :: records) clocks remote larger where
  kept := fun id member => adds.kept id ((AList.mem_insert _).mpr (.inr member))
  only := fun id member => by
    rw [List.filterMap_cons, named]
    rcases adds.only id member with held | listed
    · rcases (AList.mem_insert _).mp held with rfl | held
      · exact .inr (List.mem_cons_self ..)
      · exact .inl held
    · exact .inr (List.mem_cons_of_mem _ listed)
  accepted := fun other member acceptable id same => by
    rcases List.mem_cons.mp member with rfl | member
    · cases named.symm.trans same
      exact adds.kept _ ((AList.mem_insert _).mpr (.inl rfl))
    · exact adds.accepted other member acceptable id same
  bounded := fun _ => adds.bounded within

/-- A page is handled record by record, and adds those it accepts. -/
theorem does_receiveRecords (calm : contract.Calm)
    {known : Manifest} {result : ReconciliationResult} :
    Does contract (fun later _ outcome => Extends Handles made later ∧
        ∀ taken, outcome = .ok taken → Adds records (clocksIn later) remote taken) made result
      (receiveRecords platform known remote records) := by
  induction records generalizing remote made result with
  | nil =>
      refine does_pure ⟨.refl _ _, fun taken same => ?_⟩
      cases same
      exact ⟨fun _ member => member, fun _ member => .inl member, fun _ member => (nomatch member),
        id⟩
  | cons header _ ih =>
      refine does_bind (does_outcomeOf (asking_readMetadata calm.hosts fun now later _ _ => ?_))
      have read : Extends Handles made
          (made ++ [⟨.host .clock, now⟩] ++ [⟨.host .clock, later⟩]) :=
        (Extends.call now (.inl ⟨.clock, rfl⟩)).trans (.call later (.inl ⟨.clock, rfl⟩))
      cases accepted : metadataFromWire now later header with
      | error =>
          refine does_bind (does_modify ?_)
          refine does_mono ih fun last _ outcome went => ?_
          refine ⟨read.trans went.1, fun taken same => (went.2 taken same).refused ?_⟩
          intro acceptable
          have clock (reading : Int) (answered : (⟨.host .clock, reading⟩ : ClientExchange) ∈
              made ++ [⟨.host .clock, now⟩] ++ [⟨.host .clock, later⟩]) : reading ∈ clocksIn last :=
            List.mem_filterMap.mpr ⟨_, went.1.mem answered, rfl⟩
          have ok := acceptable now (clock now (by simp)) later (clock later (by simp))
          simp [accepted, Except.isOk, Except.toBool] at ok
      | ok =>
          refine does_bind (does_mono (does_receiveUncovered calm) fun handled _ outcome went => ?_)
          obtain ⟨extension, rfl⟩ := went
          dsimp only
          split
          · exact does_throw ⟨read.trans extension, fun taken same => nomatch same⟩
          next within =>
            refine does_mono ih fun last _ outcome went => ?_
            exact ⟨read.trans (extension.trans went.1), fun taken same =>
              (went.2 taken same).inserted (headerId_of_accepted accepted)
                (Nat.le_of_not_gt within)⟩

end Records

end ArcRelay.ClipboardReplication
