/-
Module: ArcRelay.Proofs.StorePages
Purpose: What a peer whose clipboard does not change answers to the requests of the three walks:
  pages that each start where the one before ended.
Trusted boundary: the core's pages come from the current contents, in order
-/
import ArcRelay.Library.Paging
import ArcRelay.ClipboardReplication.System
import ArcRelay.Proofs.ReplicaWire

namespace ArcRelay.ClipboardReplication

open Program

/-! ### Records -/

section Records

variable (platform : Platform)

/-- The encoded size of the records a page sends. -/
def encodedSize (records : List ReplicaRecord) : Nat :=
  (records.map fun record => platform.encodedLen (metadataToWire record)).sum

/-- What a page sends and what it leaves out: as many records as the byte budget and the limit
allow, but a first record that is larger than the budget is sent alone. -/
structure Budgeted (limit : Nat) (sent rest : List ReplicaRecord) : Prop where
  limited : sent.length ≤ limit
  within : sent.length ≤ 1 ∨ encodedSize platform sent ≤ platform.maxControlFrameSize / 2
  maximal : ∀ record others, rest = record :: others → sent.length < limit →
    platform.maxControlFrameSize / 2 < encodedSize platform (sent ++ [record])

/-- The byte budget cuts a page at some point, but never before its first record. -/
theorem fitRecords_split (bytes : Nat) (sent records : List ReplicaRecord) :
    ∃ taken rest, records = taken ++ rest ∧
      fitRecords platform bytes sent records = (sent ++ taken, !rest.isEmpty) ∧
      (sent = [] → records ≠ [] → taken ≠ []) ∧
      (taken = [] ∨ sent = [] ∧ taken.length = 1 ∨
        bytes + encodedSize platform taken ≤ platform.maxControlFrameSize / 2) ∧
      ∀ record others, rest = record :: others →
        platform.maxControlFrameSize / 2 < bytes + encodedSize platform (taken ++ [record]) := by
  induction records generalizing bytes sent with
  | nil => exact ⟨[], [], rfl, by simp [fitRecords], fun _ => id, .inl rfl, by simp⟩
  | cons record records ih =>
      rw [fitRecords]
      split
      next cut =>
        simp only [Bool.and_eq_true, Bool.not_eq_true', List.isEmpty_eq_false_iff,
          decide_eq_true_eq] at cut
        refine ⟨[], record :: records, rfl, by simp, fun none => absurd none cut.1, .inl rfl, ?_⟩
        rintro _ _ ⟨⟩
        simpa [encodedSize] using cut.2
      next fits =>
        obtain ⟨taken, rest, split, fitted, -, within, maximal⟩ := ih
          (bytes + platform.encodedLen (metadataToWire record)) (sent ++ [record])
        have sizes (more : List ReplicaRecord) : bytes + encodedSize platform (record :: more) =
            bytes + platform.encodedLen (metadataToWire record) + encodedSize platform more := by
          simp [encodedSize, Nat.add_assoc]
        refine ⟨record :: taken, rest, by rw [split, List.cons_append], ?_, fun _ _ => by simp,
          ?_, fun next others left => ?_⟩
        · rw [fitted, List.append_assoc, List.singleton_append]
        · rw [sizes]
          rcases within with rfl | ⟨none, -⟩ | within
          · -- the record is the first of the page, or it fits
            by_cases first : sent = []
            · exact .inr (.inl ⟨first, rfl⟩)
            · exact .inr (.inr (by simpa [first, encodedSize] using fits))
          · simp at none
          · exact .inr (.inr within)
        · rw [List.cons_append, sizes]
          exact maximal next others left

variable (contents : Contents)

/-- The answer to a scan is a page of the records below the cursor, within the byte budget. -/
theorem pageOf_scanPage (cursor : Option ReplicaCursor) {limit : Nat} (positive : 0 < limit) :
    ∃ sent rest, (scanPage platform (contents.page cursor limit)).records = sent.map metadataToWire ∧
      PageOf ReplicaRecord.cursor (contents.below cursor) sent rest
        (scanPage platform (contents.page cursor limit)).nextCursor ∧
      Budgeted platform limit sent rest := by
  have whole : PageOf ReplicaRecord.cursor (contents.below cursor) _ _ _ :=
    pageOf_take positive (contents.below cursor)
  obtain ⟨taken, cut, split, fits, some, within, maximal⟩ :=
    fitRecords_split platform 0 [] ((contents.below cursor).take limit)
  have within : taken.length ≤ 1 ∨
      encodedSize platform taken ≤ platform.maxControlFrameSize / 2 := by
    rcases within with rfl | ⟨-, one⟩ | within
    · exact .inl (Nat.zero_le 1)
    · exact .inl one.le
    · exact .inr (by simpa using within)
  have limited : taken.length ≤ limit := by
    have page := congrArg List.length split
    rw [List.length_take, List.length_append] at page
    omega
  rw [scanPage, Contents.page, fits, List.nil_append]
  by_cases fit : cut = []
  · subst fit
    rw [List.append_nil] at split
    refine ⟨taken, (contents.below cursor).drop limit, rfl, split ▸ whole, limited, within, ?_⟩
    -- the limit ends the page, and nothing is left of a page that is not full
    intro record others left short
    have full := congrArg List.length split
    rw [List.length_take] at full
    have more := congrArg List.length left
    rw [List.length_drop, List.length_cons] at more
    omega
  · refine ⟨taken, cut ++ (contents.below cursor).drop limit, rfl, ⟨?_, ?_, ?_⟩, limited, within,
      fun record others left _ => ?_⟩
    · rw [← List.append_assoc, ← split, List.take_append_drop]
    · exact fun left => some rfl (whole.progress left)
    · simp [fit]
    · cases cut with
      | nil => exact absurd rfl fit
      | cons first later =>
          cases left
          simpa using maximal record later rfl

variable {contents}

/-- Below the last record of a page are those that the page left out. -/
theorem Contents.below_last {cursor : Option ReplicaCursor} {front rest : List ReplicaRecord}
    {last : ReplicaRecord} (split : contents.below cursor = front ++ last :: rest) :
    contents.below (some last.cursor) = rest := by
  have asymmetric (first second : ReplicaRecord) :
      second.cursor.key < first.cursor.key → ¬ first.cursor.key < second.cursor.key :=
    fun before => lt_asymm before
  refine filter_after_last asymmetric (fun first second above before => ?_) contents.ordered split
  cases cursor with
  | none => rfl
  | some => exact decide_eq_true (lt_trans before (of_decide_eq_true above))

theorem Contents.below_none : contents.below none = contents.records :=
  List.filter_eq_self.mpr fun _ _ => rfl

end Records

/-! ### Labels -/

theorem empty_lt_iff {text : String} : "" < text ↔ text ≠ "" := by
  rw [String.lt_iff_toList_lt]
  constructor
  · rintro before rfl
    exact lt_irrefl _ before
  · intro nonempty
    cases letters : text.toList with
    | nil => exact absurd (String.toList_inj.mp letters) nonempty
    | cons => exact List.nil_lt_cons _ _

section Labels

/-- The labels by id. -/
def sortedLabels (labels : List Label) : List Label := labels.mergeSort (·.id ≤ ·.id)

theorem sortedLabels_perm (labels : List Label) : (sortedLabels labels).Perm labels :=
  List.mergeSort_perm labels _

variable {labels : List Label}

theorem pairwise_sortedLabels (distinct : (labels.map (·.id)).Nodup) :
    (sortedLabels labels).Pairwise fun first second => first.id < second.id := by
  have ordered : (sortedLabels labels).Pairwise fun first second => first.id ≤ second.id := by
    refine (List.pairwise_mergeSort (fun _ _ _ before after => ?_) (fun first second => ?_)
      labels).imp of_decide_eq_true
    · exact decide_eq_true (le_trans (of_decide_eq_true before) (of_decide_eq_true after))
    · simpa using le_total first.id second.id
  have apart : (sortedLabels labels).Pairwise fun first second => first.id ≠ second.id :=
    List.pairwise_map.mp (((sortedLabels_perm labels).map _).nodup_iff.mpr distinct)
  exact (ordered.and apart).imp fun both => lt_of_le_of_ne both.1 both.2

/-- In whatever order the core lists the labels, they are sorted the same. -/
theorem sortedLabels_congr {listed : List Label} (same : listed.Perm labels)
    (distinct : (labels.map (·.id)).Nodup) : sortedLabels listed = sortedLabels labels := by
  refine List.Perm.eq_of_pairwise (fun first second _ _ before after =>
    absurd after (lt_asymm before)) (pairwise_sortedLabels ?_) (pairwise_sortedLabels distinct) ?_
  · exact (same.map _).nodup_iff.mpr distinct
  · exact (sortedLabels_perm listed).trans (same.trans (sortedLabels_perm labels).symm)

def labelsAbove (cursor : String) (labels : List Label) : List Label :=
  (sortedLabels labels).filter fun label => cursor < label.id

theorem pageOf_labelPage (cursor : String) (labels : List Label) :
    (labelPage cursor labels).labels = ((labelsAbove cursor labels).take 100).map labelToWire ∧
      PageOf (·.id) (labelsAbove cursor labels) ((labelsAbove cursor labels).take 100)
        ((labelsAbove cursor labels).drop 100) (labelPage cursor labels).nextCursor :=
  ⟨rfl, pageOf_take (by decide) _⟩

theorem labelsAbove_last {cursor : String} {front rest : List Label} {last : Label}
    (distinct : (labels.map (·.id)).Nodup)
    (split : labelsAbove cursor labels = front ++ last :: rest) :
    labelsAbove last.id labels = rest := by
  have asymmetric (first second : Label) : first.id < second.id → ¬ second.id < first.id :=
    fun before => lt_asymm before
  exact filter_after_last asymmetric (fun first second above before =>
    decide_eq_true (lt_trans (of_decide_eq_true above) before)) (pairwise_sortedLabels distinct)
    split

end Labels

/-! ### Collections -/

namespace CollectionStore

variable {store : CollectionStore}

/-- The next page starts where this one ended. -/
theorem after_last {cursor : String} {front rest : List Collection} {last : Collection}
    (split : store.after cursor = front ++ last :: rest) : store.after last.id = rest := by
  have asymmetric (first second : Collection) : first.id < second.id → ¬ second.id < first.id :=
    fun before => lt_asymm before
  exact filter_after_last asymmetric (fun first second above before =>
    decide_eq_true (lt_trans (of_decide_eq_true above) before)) store.sorted split

theorem after_empty : store.after "" = store.values :=
  List.filter_eq_self.mpr fun value member =>
    decide_eq_true (empty_lt_iff.mpr (store.named value member))

end CollectionStore

/-! ### The peer -/

/-- A collection's document on the wire. -/
def collectionToWire (platform : Platform) (value : Collection) : CollectionRecord :=
  ⟨1, platform.collectionToJson value⟩

/-- A peer whose clipboard does not change, is within the client's limits, and holds only what
passes the checks of the wire, at every reading the client takes of its clock. -/
structure UnchangedPeer (platform : Platform) where
  contents : Contents
  collections : CollectionStore
  readings : Set Int
  distinctLabels : (contents.labels.map (·.id)).Nodup
  recordsWithin : contents.records.length ≤ maxManifestRecords
  labelsWithin : contents.labels.length ≤ 10000
  collectionsWithin : collections.values.length ≤ 10000
  validRecords : ∀ now ∈ readings, ∀ later ∈ readings, ∀ replica ∈ contents.records,
    (metadataFromWire now later (metadataToWire replica)).isOk
  validLabels : ∀ label ∈ contents.labels, label.id ≠ "" → (labelFromWire (labelToWire label)).isOk
  validCollections : ∀ value ∈ collections.values, platform.validateCollection value = .ok () ∧
    decodeCollection platform (collectionToWire platform value) = .ok value
  shortIds : ∀ value ∈ collections.values, value.id.utf8ByteSize ≤ 64

namespace UnchangedPeer

variable {platform : Platform} (peer : UnchangedPeer platform)

/-- The peer's core answers from the contents, and synchronization is enabled. -/
def Honest : Exchange HostCall HostCall.Answer → Prop
  | ⟨.syncPreferences, preferences⟩ => preferences.enabled = true
  | ⟨.replicaPage cursor limit, answer⟩ => answer = .ok (peer.contents.page cursor limit)
  | ⟨.replicaLabels, answer⟩ => ∃ labels, answer = .ok labels ∧ labels.Perm peer.contents.labels
  | ⟨.collections after, answer⟩ => peer.collections.Lists after answer
  | _ => True

/-- The request can be answered so. -/
def Serves (body : Request) (frames : List Bytes) (answer : Except String (Response × List Bytes)) :
    Prop :=
  ∃ exchanged, Run (serveStream platform body frames) exchanged (.done answer) ∧
    ∀ exchange ∈ exchanged, peer.Honest exchange

/-- What the server's code answers to honest calls. -/
def serving : Contract HostCall HostCall.Answer where
  permitted := fun _ _ => True
  admits := fun call answer => peer.Honest ⟨call, answer⟩

/-- A page of collections, of the size the core chose. -/
def collectionPage (cursor : String) (size : Nat) (edits favorites : Bool) : CollectionPage where
  nextCursor := (((peer.collections.after cursor).take size).getLast?.map (·.id)).getD ""
  records := ((peer.collections.after cursor).take size).map (collectionToWire platform)
  syncEditsAndDeletes := edits
  syncFavorites := favorites

variable {peer}

theorem Serves.answer {body : Request} {frames : List Bytes}
    {answer : Except String (Response × List Bytes)} (serves : peer.Serves body frames answer)
    (holds : Except String (Response × List Bytes) → Prop)
    (meets : ∀ made, (serveRequest platform frames body).run.Meets peer.serving
      (fun _ outcome => holds outcome) made) : holds answer := by
  obtain ⟨exchanged, run, honest⟩ := serves
  have program : (serveStream platform body frames).Meets peer.serving
      (fun _ outcome => holds outcome) [] := by
    refine meets_bind ⟨trivial, fun preferences enabled => ?_⟩
    have on : ¬ (!preferences.enabled) = true := by
      rw [show preferences.enabled = true from enabled]
      decide
    change (if _ then _ else _ : HostProgram _).Meets _ _ _
    rw [if_neg on]
    exact meets _
  exact run.meets honest program

theorem Serves.scan {cursor : Option ReplicaCursor} {limit : Nat}
    {answer : Except String (Response × List Bytes)}
    (serves : peer.Serves (.scan cursor limit) [] answer) :
    answer = .ok (.page (scanPage platform
      (peer.contents.page cursor (max 1 (min limit 100)))), []) := by
  refine serves.answer (· = _) fun made => ⟨trivial, fun page honest => ?_⟩
  cases (honest : page = .ok (peer.contents.page cursor (max 1 (min limit 100))))
  rfl

theorem Serves.scanLabels {cursor : String} {answer : Except String (Response × List Bytes)}
    (serves : peer.Serves (.scanLabels cursor) [] answer) :
    answer = .ok (.labels (labelPage cursor peer.contents.labels), []) := by
  refine serves.answer (· = _) fun made => ⟨trivial, fun listed honest => ?_⟩
  obtain ⟨labels, rfl, same⟩ := (honest : ∃ labels, listed = .ok labels ∧ _)
  change Except.ok (Response.labels (labelPage cursor labels), []) = _
  have sorted := sortedLabels_congr same peer.distinctLabels
  rw [sortedLabels, sortedLabels] at sorted
  rw [labelPage, sorted, labelPage]

theorem encodeCollection_valid {value : Collection} (stored : value ∈ peer.collections.values) :
    encodeCollection platform value = .ok (collectionToWire platform value) := by
  rw [encodeCollection, (peer.validCollections value stored).1]
  rfl

theorem Serves.scanCollections {cursor : String} {answer : Except String (Response × List Bytes)}
    (short : cursor.utf8ByteSize ≤ 64) (serves : peer.Serves (.scanCollections cursor) [] answer) :
    ∃ size > 0, ∃ edits favorites,
      answer = .ok (.collections (peer.collectionPage cursor size edits favorites), []) := by
  refine serves.answer (fun answer => ∃ size > 0, ∃ edits favorites,
    answer = .ok (.collections (peer.collectionPage cursor size edits favorites), [])) fun made => ?_
  refine meets_exceptT_bind (meets_exceptT_bind ⟨trivial, fun preferences enabled => ?_⟩)
  have on : ¬ (!preferences.enabled) = true := by
    rw [show preferences.enabled = true from enabled]
    decide
  change (if _ then _ else _ : Serving CollectionPage).run.Meets _ _ _
  rw [if_neg on, if_neg (not_lt.mpr short)]
  refine meets_exceptT_bind ⟨trivial, fun listed honest => ?_⟩
  obtain ⟨size, positive, rfl⟩ := (honest : peer.collections.Lists cursor listed)
  have encoded : ((peer.collections.after cursor).take size).mapM (encodeCollection platform) =
      .ok (((peer.collections.after cursor).take size).map (collectionToWire platform)) :=
    mapM_ok fun value member => encodeCollection_valid
      (List.mem_of_mem_filter (List.mem_of_mem_take member))
  refine meets_exceptT_bind ?_
  change Meets _ _ _ (Program.done (((peer.collections.after cursor).take size).mapM
    (encodeCollection platform)))
  rw [encoded]
  exact ⟨size, positive, preferences.syncEditsAndDeletes, preferences.syncFavorites, rfl⟩

end UnchangedPeer

end ArcRelay.ClipboardReplication
