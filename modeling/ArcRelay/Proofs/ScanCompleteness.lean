/-
Module: ArcRelay.Proofs.ScanCompleteness
Purpose: Against a peer whose clipboard does not change, the walks of a reconciliation pass end
  and collect exactly what the peer has, in order, wherever its pages end.
Trusted boundary: as for the client and the peer's pages
-/
import ArcRelay.Library.ProgramWorlds
import ArcRelay.Proofs.ReconcileWalks
import ArcRelay.Proofs.ReplicaTransfer
import ArcRelay.Proofs.StorePages

namespace ArcRelay.ClipboardReplication

open Program

/-! ### What the client is answered -/

namespace UnchangedPeer

variable {platform : Platform} (peer : UnchangedPeer platform)

/-- Requests are served by the peer, and the client's own clipboard takes what it is given. -/
def Answered : ClientExchange → Prop
  | ⟨.request body frames, answer⟩ => peer.Serves body frames answer
  | ⟨.host (.applyReplicaLabels _), answer⟩ => answer.isOk
  | ⟨.host (.receiveCollection _ _ _), answer⟩ => answer.isOk
  | ⟨.host .clock, now⟩ => now ∈ peer.readings
  | _ => True

/-- So answered, no walk goes on for ever. -/
def walking : ClientContract where
  permitted := fun _ call => call ≠ .forever
  admits := fun call answer => peer.Answered ⟨call, answer⟩

theorem walking_handles (made : List ClientExchange) (call : ClientCall) (handles : Handles call) :
    peer.walking.permitted made call := by
  rintro rfl
  rcases handles with ⟨_, same⟩ | ⟨_, _, same⟩
  · cases same
  · cases same

end UnchangedPeer

/-- The map holds exactly the items, each under its key. -/
structure Collected {Item : Type} (key : Item → String) (items : List Item)
    (remote : HashMap String Item) : Prop where
  found : ∀ item ∈ items, remote.lookup (key item) = some item
  only : ∀ id ∈ remote, id ∈ items.map key

theorem collected_indexed {Item : Type} {key : Item → String} {items : List Item}
    (distinct : (items.map key).Nodup) : Collected key items (HashMap.indexed key items ∅) where
  found := fun _ member => HashMap.lookup_indexed ∅ distinct member
  only := fun _ member => (HashMap.mem_indexed.mp member).resolve_left (AList.notMem_empty _)

section Walks

variable {platform : Platform} {peer : UnchangedPeer platform} {made : List ClientExchange}
  {result : ReconciliationResult}

/-! ### Records -/

/-- The records on the pages, and the manifest made of them. -/
structure CollectsRecords (peer : UnchangedPeer platform) (made : List ClientExchange)
    (remote : Manifest) : Prop where
  pages : (recordPagesIn made).flatMap (·.records) = peer.contents.records.map metadataToWire
  manifest : Collected (·.record.syncId) (peer.contents.records.map ReplicaRecord.stripped) remote

/-- Every record of a served page is accepted, and added without its payload. -/
theorem does_receiveServed {known remote : Manifest} {records : List ReplicaRecord}
    (stored : ∀ replica ∈ records, replica ∈ peer.contents.records)
    (room : HashMap.size remote + records.length ≤ maxManifestRecords) :
    Does peer.walking (fun later _ outcome => Extends Handles made later ∧
        outcome = .ok (HashMap.indexed (·.record.syncId) (records.map ReplicaRecord.stripped) remote))
      made result (receiveRecords platform known remote (records.map metadataToWire)) := by
  have hosts : ∀ made call, peer.walking.permitted made (.host call) := fun _ _ => nofun
  induction records generalizing remote made result with
  | nil => exact does_pure ⟨.refl _ _, rfl⟩
  | cons replica _ ih =>
      refine does_bind (does_outcomeOf (asking_readMetadata hosts fun now later read alsoRead => ?_))
      have readings : Extends Handles made
          (made ++ [⟨.host .clock, now⟩] ++ [⟨.host .clock, later⟩]) :=
        (Extends.call now (.inl ⟨.clock, rfl⟩)).trans (.call later (.inl ⟨.clock, rfl⟩))
      have valid := peer.validRecords now read later alsoRead replica (stored replica (.head _))
      cases accepted : metadataFromWire now later (metadataToWire replica) with
      | error => simp [accepted, Except.isOk, Except.toBool] at valid
      | ok =>
          obtain rfl := metadataFromWire_metadataToWire accepted
          refine does_bind (does_mono (does_receiveUncovered peer.walking_handles)
            fun handled _ outcome went => ?_)
          obtain ⟨extension, rfl⟩ := went
          have size := HashMap.size_insert_le remote replica.stripped.record.syncId replica.stripped
          rw [List.length_cons] at room
          rw [if_neg (by omega)]
          refine does_mono (ih (fun other member => stored other (.tail _ member))
            (by omega)) fun last _ outcome went => ?_
          exact ⟨readings.trans (extension.trans went.1), went.2⟩

/-- The walk from a cursor above which everything was collected. -/
theorem does_scanServedRecords {known : Manifest} {rounds : Nat} {cursor : Option ReplicaCursor}
    (seen : List ReplicaRecord)
    (split : peer.contents.records = seen ++ peer.contents.below cursor)
    (pages : (recordPagesIn made).flatMap (·.records) = seen.map metadataToWire)
    (enough : (peer.contents.below cursor).length < rounds) :
    Does peer.walking (fun later _ outcome => ∃ remote, outcome = .ok remote ∧
        CollectsRecords peer later remote) made result
      (scanRecords platform known rounds cursor
        (HashMap.indexed (·.record.syncId) (seen.map ReplicaRecord.stripped) ∅)) := by
  induction rounds generalizing cursor seen made result with
  | zero => exact absurd enough (Nat.not_lt_zero _)
  | succ _ ih =>
      refine does_bind (does_request nofun fun answer served => ?_)
      obtain rfl := UnchangedPeer.Serves.scan served
      obtain ⟨sent, rest, records, page, -⟩ :=
        pageOf_scanPage platform peer.contents cursor (by decide : 0 < max 1 (min 100 100))
      generalize scanPage platform (peer.contents.page cursor _) = answered at records page ⊢
      dsimp only
      rw [records]
      have collected : peer.contents.records = seen ++ sent ++ rest := by
        rw [split, page.split, List.append_assoc]
      have within := peer.recordsWithin
      rw [collected, List.length_append, List.length_append] at within
      have held := HashMap.size_indexed_le (·.record.syncId) (seen.map ReplicaRecord.stripped) ∅
      rw [HashMap.size_empty, List.length_map, Nat.zero_add] at held
      refine does_bind (does_mono (does_receiveServed (fun replica member => ?_) (by omega))
        fun later _ outcome went => ?_)
      · rw [collected]
        simp [member]
      obtain ⟨extension, rfl⟩ := went
      have more : (recordPagesIn later).flatMap (·.records) = (seen ++ sent).map metadataToWire := by
        rw [recordPagesIn_handles extension, recordPagesIn_append, recordPagesIn_page,
          List.flatMap_append, pages, List.flatMap_singleton, records, List.map_append]
      rw [← HashMap.indexed_append, ← List.map_append]
      cases next : answered.nextCursor with
      | none =>
          rw [next] at page
          have all : peer.contents.records = seen ++ sent := by rw [split, page.all]
          refine does_pure ⟨_, rfl, all ▸ more, ?_⟩
          rw [all]
          refine collected_indexed ?_
          rw [← all, List.map_map]
          exact peer.contents.unique
      | some next =>
          rw [next] at page
          obtain ⟨front, last, rfl, rfl, -⟩ := page.last
          have left : peer.contents.below cursor = front ++ last :: rest := by
            rw [page.split, List.append_assoc, List.singleton_append]
          have onward : ¬ (cursor.any fun old => old.key ≤ last.cursor.key) = true := by
            have member : last ∈ peer.contents.below cursor := by simp [left]
            have below := (List.mem_filter.mp member).2
            cases cursor with
            | none => exact Bool.false_ne_true
            | some => simpa using below
          dsimp only
          rw [if_neg onward]
          refine ih _ ?_ more ?_
          · rw [Contents.below_last left, collected]
          · rw [left, List.length_append, List.length_cons] at enough
            rw [Contents.below_last left]
            omega

/-! ### Labels -/

/-- The labels that a walk can reach, by id. -/
def UnchangedPeer.labels (peer : UnchangedPeer platform) : List Label :=
  (sortedLabels peer.contents.labels).filter fun label => label.id ≠ ""

structure CollectsLabels (peer : UnchangedPeer platform) (made : List ClientExchange)
    (remote : HashMap String Label) : Prop where
  pages : (labelPagesIn made).flatMap (·.labels) = peer.labels.map labelToWire
  dictionary : Collected (·.id) peer.labels remote

theorem UnchangedPeer.labelsAbove_empty : labelsAbove "" peer.contents.labels = peer.labels :=
  List.filter_congr fun _ _ => decide_eq_decide.mpr empty_lt_iff

theorem UnchangedPeer.labels_nodup : (peer.labels.map (·.id)).Nodup := by
  refine List.Nodup.sublist (List.filter_sublist.map _) ?_
  exact ((sortedLabels_perm peer.contents.labels).map _).nodup_iff.mpr peer.distinctLabels

theorem UnchangedPeer.labels_length_le : peer.labels.length ≤ 10000 :=
  (List.length_filter_le _ _).trans
    ((sortedLabels_perm peer.contents.labels).length_eq.trans_le peer.labelsWithin)

theorem UnchangedPeer.labelFromWire_valid {label : Label} (listed : label ∈ peer.labels) :
    labelFromWire (labelToWire label) = .ok label := by
  obtain ⟨stored, named⟩ := List.mem_filter.mp listed
  have valid := peer.validLabels label ((sortedLabels_perm _).mem_iff.mp stored) (by simpa using named)
  cases accepted : labelFromWire (labelToWire label) with
  | error => simp [accepted, Except.isOk, Except.toBool] at valid
  | ok => rw [labelFromWire_labelToWire accepted]

variable {cursor : String}

/-- The walk over the labels, from a cursor on: what was seen and what lies above the cursor
are all the labels there are. -/
theorem does_scanServedLabels {rounds : Nat} (seen : List Label)
    (split : peer.labels = seen ++ labelsAbove cursor peer.contents.labels)
    (pages : (labelPagesIn made).flatMap (·.labels) = seen.map labelToWire)
    (enough : (labelsAbove cursor peer.contents.labels).length < rounds) :
    Does peer.walking (fun later _ outcome => ∃ remote, outcome = .ok remote ∧
        CollectsLabels peer later remote) made result
      (scanLabels rounds cursor (HashMap.indexed (·.id) seen ∅)) := by
  induction rounds generalizing cursor seen made result with
  | zero => exact absurd enough (Nat.not_lt_zero _)
  | succ _ ih =>
      refine does_bind (does_request nofun fun answer served => ?_)
      obtain rfl := UnchangedPeer.Serves.scanLabels served
      obtain ⟨records, page⟩ := pageOf_labelPage cursor peer.contents.labels
      generalize labelPage cursor peer.contents.labels = answered at records page ⊢
      generalize (labelsAbove cursor peer.contents.labels).take 100 = sent,
        (labelsAbove cursor peer.contents.labels).drop 100 = rest at records page
      have collected : peer.labels = seen ++ sent ++ rest := by
        rw [split, page.split, List.append_assoc]
      have decoded : answered.labels.mapM labelFromWire = .ok sent := by
        rw [records]
        refine mapM_map_ok fun label member => peer.labelFromWire_valid ?_
        simp [collected, member]
      refine does_bind (does_valid ?_)
      rw [decoded]
      refine does_bind (does_host rfl nofun fun answer applied => ?_)
      cases answer with
      | error => cases applied
      | ok changed =>
          refine does_bind (does_modify ?_)
          have more : (labelPagesIn (made ++ [⟨.request (.scanLabels cursor) [],
              .ok (.labels answered, [])⟩] ++ [⟨.host (.applyReplicaLabels sent), .ok changed⟩])).flatMap
              (·.labels) = (seen ++ sent).map labelToWire := by
            rw [labelPagesIn_append, labelPagesIn_append, labelPagesIn_host, labelPagesIn_page,
              List.append_nil, List.flatMap_append, pages, List.flatMap_singleton, records,
              List.map_append]
          rw [← HashMap.indexed, ← HashMap.indexed_append]
          cases next : answered.nextCursor with
          | none =>
              rw [next] at page
              have all : peer.labels = seen ++ sent := by rw [split, page.all]
              exact does_pure ⟨_, rfl, all ▸ more, all ▸ collected_indexed (all ▸ peer.labels_nodup)⟩
          | some next =>
              rw [next] at page
              obtain ⟨front, last, rfl, rfl, -⟩ := page.last
              have left : labelsAbove cursor peer.contents.labels = front ++ last :: rest := by
                rw [page.split, List.append_assoc, List.singleton_append]
              have above : cursor < last.id := by
                have member : last ∈ labelsAbove cursor peer.contents.labels := by simp [left]
                exact of_decide_eq_true (List.mem_filter.mp member).2
              have within : HashMap.size (HashMap.indexed (·.id) (seen ++ (front ++ [last])) ∅) ≤
                  10000 := by
                have size := HashMap.size_indexed_le (·.id) (seen ++ (front ++ [last])) ∅
                have total := peer.labels_length_le
                rw [collected, List.length_append] at total
                rw [HashMap.size_empty] at size
                omega
              have onward : ¬ (decide (last.id ≤ cursor) || decide (HashMap.size
                  (HashMap.indexed (·.id) (seen ++ (front ++ [last])) ∅) > 10000)) = true := by
                simp [not_le.mpr above, within]
              dsimp only
              rw [if_neg onward]
              refine ih _ ?_ more ?_
              · rw [labelsAbove_last peer.distinctLabels left, collected]
              · rw [left, List.length_append, List.length_cons] at enough
                rw [labelsAbove_last peer.distinctLabels left]
                omega

/-! ### Collections -/

structure CollectsCollections (peer : UnchangedPeer platform) (made : List ClientExchange)
    (remote : RemoteCollections) : Prop where
  pages : (collectionPagesIn made).flatMap (·.records) =
    peer.collections.values.map (collectionToWire platform)
  values : Collected (·.id) peer.collections.values remote.values

/-- Every collection of a served page is decoded and added. -/
theorem does_receiveServedCollections {edits favorites : Bool}
    {remote : HashMap String Collection} {values : List Collection}
    (listed : ∀ value ∈ values, value ∈ peer.collections.after cursor) :
    Does peer.walking (fun later _ outcome => Extends Receives made later ∧
        outcome = .ok (HashMap.indexed (·.id) values remote)) made result
      (receiveCollections platform cursor edits favorites remote
        (values.map (collectionToWire platform))) := by
  induction values generalizing remote made result with
  | nil => exact does_pure ⟨.refl _ _, rfl⟩
  | cons value _ ih =>
      obtain ⟨stored, above⟩ := List.mem_filter.mp (listed value (.head _))
      refine does_bind (does_valid ?_)
      rw [(peer.validCollections value stored).2]
      dsimp only
      rw [if_neg (not_le.mpr (of_decide_eq_true above))]
      refine does_bind (does_host rfl nofun fun answer taken => ?_)
      cases answer with
      | error => cases taken
      | ok =>
          refine does_bind (does_modify ?_)
          refine does_mono (ih fun other member => listed other (.tail _ member))
            fun later _ outcome went => ?_
          exact ⟨(Extends.call _ ⟨value, edits, favorites, rfl⟩).trans went.1, went.2⟩

theorem UnchangedPeer.collectionIds_nodup : (peer.collections.values.map (·.id)).Nodup :=
  List.pairwise_map.mpr (peer.collections.sorted.imp ne_of_lt)

/-- The walk over the collections, from a cursor on. -/
theorem does_scanServedCollections {rounds : Nat} (seen : List Collection)
    (short : cursor.utf8ByteSize ≤ 64)
    (split : peer.collections.values = seen ++ peer.collections.after cursor)
    (pages : (collectionPagesIn made).flatMap (·.records) = seen.map (collectionToWire platform))
    (enough : (peer.collections.after cursor).length < rounds) :
    Does peer.walking (fun later _ outcome => ∃ remote, outcome = .ok remote ∧
        CollectsCollections peer later remote) made result
      (scanCollections platform rounds cursor (HashMap.indexed (·.id) seen ∅)) := by
  induction rounds generalizing cursor seen made result with
  | zero => exact absurd enough (Nat.not_lt_zero _)
  | succ _ ih =>
      refine does_bind (does_request nofun fun answer served => ?_)
      obtain ⟨size, positive, edits, favorites, rfl⟩ :=
        UnchangedPeer.Serves.scanCollections short served
      have collected : peer.collections.values = seen ++ (peer.collections.after cursor).take size ++
          (peer.collections.after cursor).drop size := by
        rw [List.append_assoc, List.take_append_drop, ← split]
      refine does_bind (does_mono (does_receiveServedCollections fun value => List.mem_of_mem_take)
        fun later _ outcome went => ?_)
      obtain ⟨extension, rfl⟩ := went
      have more : (collectionPagesIn later).flatMap (·.records) =
          (seen ++ (peer.collections.after cursor).take size).map (collectionToWire platform) := by
        rw [collectionPagesIn_receives extension, collectionPagesIn_append, collectionPagesIn_page,
          List.flatMap_append, pages, List.flatMap_singleton, UnchangedPeer.collectionPage,
          List.map_append]
      have within : HashMap.size (HashMap.indexed (·.id)
          (seen ++ (peer.collections.after cursor).take size) ∅) ≤ 10000 := by
        have size := HashMap.size_indexed_le (·.id)
          (seen ++ (peer.collections.after cursor).take size) ∅
        have total := peer.collectionsWithin
        rw [collected, List.length_append] at total
        rw [HashMap.size_empty] at size
        omega
      dsimp only
      rw [← HashMap.indexed_append, if_neg (not_lt.mpr within)]
      cases found : ((peer.collections.after cursor).take size).getLast? with
      | none =>
          rw [List.getLast?_eq_none_iff, List.take_eq_nil_iff] at found
          have done := found.resolve_left positive.ne'
          rw [done, List.take_nil, List.append_nil] at more ⊢
          rw [done, List.append_nil] at split
          have closed : (peer.collectionPage cursor size edits favorites).nextCursor.isEmpty := by
            simp [UnchangedPeer.collectionPage, done]
          rw [if_pos closed]
          exact does_pure ⟨_, rfl, split ▸ more,
            split ▸ collected_indexed (split ▸ peer.collectionIds_nodup)⟩
      | some last =>
          obtain ⟨front, -, left⟩ := split_at_page found
          have listed : last ∈ peer.collections.after cursor := by
            rw [left]
            simp
          obtain ⟨stored, above⟩ := List.mem_filter.mp listed
          have next : (peer.collectionPage cursor size edits favorites).nextCursor = last.id := by
            simp [UnchangedPeer.collectionPage, found]
          rw [next, if_neg (by simpa using peer.collections.named last stored),
            if_neg (not_le.mpr (of_decide_eq_true above))]
          refine ih _ (peer.shortIds last stored) ?_ more ?_
          · rw [CollectionStore.after_last left, collected]
          · rw [left, List.length_append, List.length_cons] at enough
            rw [CollectionStore.after_last left]
            omega

end Walks

/-! ### All three walks -/

/-- In every run of the walk against the peer: it does not go on for ever, and if it ends, it ends
without an error and has collected everything. -/
def Completes {platform : Platform} {Value : Type} (peer : UnchangedPeer platform) (items : Nat)
    (scan : Nat → Reconciling Value) (collects : List ClientExchange → Value → Prop) : Prop :=
  ∀ rounds result made last, items < rounds → Run ((scan rounds).run.run result) made last →
    (∀ exchange ∈ made, peer.Answered exchange) →
    (∀ next, last ≠ .call .forever next) ∧
      ∀ outcome ended, last = .done (outcome, ended) →
        ∃ value, outcome = .ok value ∧ collects made value

/-- A walk that does its work for every number of rounds above the items completes. -/
theorem Completes.of_does {platform : Platform} {Value : Type} {peer : UnchangedPeer platform}
    {items : Nat} {scan : Nat → Reconciling Value} {collects : List ClientExchange → Value → Prop}
    (does : ∀ rounds result, items < rounds → Does peer.walking (fun made _ outcome =>
      ∃ value, outcome = .ok value ∧ collects made value) [] result (scan rounds)) :
    Completes peer items scan collects := by
  intro rounds result made last enough run answered
  have meets := run.meets answered (does rounds result enough)
  constructor
  · rintro next rfl
    exact meets.1 rfl
  · rintro outcome ended rfl
    exact meets

/-- A scan of the records sends as many of those below the cursor as the limit and the byte budget
allow, at least one, and resumes right after the last record of the page before it. -/
def PagesResume (platform : Platform) (contents : Contents) : Prop :=
  ∀ cursor limit, 0 < limit → ∃ sent rest,
    (scanPage platform (contents.page cursor limit)).records = sent.map metadataToWire ∧
    contents.below cursor = sent ++ rest ∧ (contents.below cursor ≠ [] → sent ≠ []) ∧
    Budgeted platform limit sent rest ∧
    match (scanPage platform (contents.page cursor limit)).nextCursor with
    | none => rest = []
    | some next => contents.below (some next) = rest

theorem pagesResume (platform : Platform) (contents : Contents) : PagesResume platform contents := by
  intro cursor limit positive
  obtain ⟨sent, rest, records, page, budgeted⟩ := pageOf_scanPage platform contents cursor positive
  refine ⟨sent, rest, records, page.split, page.progress, budgeted, ?_⟩
  generalize (scanPage platform (contents.page cursor limit)).nextCursor = next at page
  cases next with
  | none =>
      have all := page.all
      rw [page.split] at all
      simpa using all
  | some next =>
      obtain ⟨front, last, rfl, rfl, -⟩ := page.last
      exact Contents.below_last (by rw [page.split, List.append_assoc, List.singleton_append])

/-- Against a peer whose contents stay as they are, no scan goes on for ever, each that ends
has collected all that the peer lists, and a page of records resumes where the one before
it ended. -/
theorem replica_scans_lose_nothing (platform : Platform) (peer : UnchangedPeer platform)
    (known : Manifest) :
    Completes peer peer.contents.records.length (scanRecords platform known · none ∅)
      (CollectsRecords peer) ∧
    Completes peer peer.labels.length (scanLabels · "" ∅) (CollectsLabels peer) ∧
    Completes peer peer.collections.values.length (scanCollections platform · "" ∅)
      (CollectsCollections peer) ∧
    PagesResume platform peer.contents := by
  refine ⟨.of_does fun rounds result enough => ?_, .of_does fun rounds result enough => ?_,
    .of_does fun rounds result enough => ?_, pagesResume platform peer.contents⟩
  · exact does_scanServedRecords [] (by rw [Contents.below_none, List.nil_append]) rfl
      (by rw [Contents.below_none]; exact enough)
  · exact does_scanServedLabels [] (by rw [peer.labelsAbove_empty, List.nil_append]) rfl
      (by rw [peer.labelsAbove_empty]; exact enough)
  · exact does_scanServedCollections [] (by decide)
      (by rw [CollectionStore.after_empty, List.nil_append]) rfl
      (by rw [CollectionStore.after_empty]; exact enough)

/-- A note whose metadata is as large as its revision. -/
def sizedNote (digit : Char) (revision : Nat) : ReplicaRecord :=
  { jsonNote with
    record := { jsonNote.record with
      syncId := "000000000000000000000000000000000000000000000000000000000000000".push digit
      revision } }

/-- Half a control frame takes two small notes. -/
def sizedPlatform : Platform :=
  { plainPlatform with
    encodedLen := fun header => (header.metadata.map (·.revision)).getD 0
    maxControlFrameSize := 4 }

/-- Three notes of one time; the last one is larger than half a control frame. -/
def threeNotes : List ReplicaRecord := [sizedNote '3' 1, sizedNote '2' 1, sizedNote '1' 3]

def notePeer : UnchangedPeer sizedPlatform where
  contents := ⟨0, threeNotes, [], by decide +kernel, by decide +kernel⟩
  collections := ⟨[], .nil, nofun⟩
  readings := {20}
  distinctLabels := .nil
  recordsWithin := by decide
  labelsWithin := by decide
  collectionsWithin := by decide
  validRecords := by
    rintro _ rfl _ rfl
    decide +kernel
  validLabels := nofun
  validCollections := nofun
  shortIds := nofun

/-- The peer's pages, and the client's clock. -/
def notePages : Nat → (call : ClientCall) → Option call.Answer
  | _, .request (.scan cursor limit) [] =>
      some (.ok (.page (scanPage sizedPlatform
        (notePeer.contents.page cursor (max 1 (min limit 100)))), []))
  | _, .host .clock => some 20
  | _, _ => none

/-- These are answers of the note peer. -/
theorem answered_notePages {count : Nat} {call : ClientCall} {answer : call.Answer}
    (answered : notePages count call = some answer) : notePeer.Answered ⟨call, answer⟩ := by
  cases call with
  | forever => cases answered
  | host call =>
      cases call with
      | clock =>
          cases answered
          exact Set.mem_singleton 20
      | _ => cases answered
  | request body frames =>
      cases body with
      | scan cursor limit =>
          cases frames with
          | cons => cases answered
          | nil =>
              cases answered
              refine ⟨[⟨.syncPreferences, ⟨true, true, true⟩⟩,
                ⟨.replicaPage cursor (max 1 (min limit 100)), .ok _⟩], .call (.call (.here _)), ?_⟩
              rw [List.forall_mem_cons, List.forall_mem_singleton]
              exact ⟨rfl, rfl⟩
      | _ => cases answered

/-- The byte budget cuts the first page after two notes; the third, larger than the budget, comes
alone. -/
theorem replica_scans_lose_nothing_cut_page :
    ∃ made remote ended,
      Run ((scanRecords sizedPlatform (HashMap.indexed (·.record.syncId) threeNotes ∅) 4 none ∅).run.run
        {}) made (.done (.ok remote, ended)) ∧
      (recordPagesIn made).map (·.records.length) = [2, 1] ∧
      CollectsRecords notePeer made remote := by
  have played : ((((scanRecords sizedPlatform (HashMap.indexed (·.record.syncId) threeNotes ∅) 4 none
      ∅).run.run {}).play notePages 0).2.returned?.map (·.1.isOk)) = some true := by decide +kernel
  obtain ⟨⟨outcome, ended⟩, returned, -⟩ := Option.map_eq_some_iff.mp played
  have run := run_play notePages 0 ((scanRecords sizedPlatform
    (HashMap.indexed (·.record.syncId) threeNotes ∅) 4 none ∅).run.run {})
  rw [eq_done_of_returned? returned] at run
  obtain ⟨remote, rfl, collects⟩ := ((replica_scans_lose_nothing sizedPlatform notePeer _).1 4 {} _ _
    (by decide) run fun exchange member =>
      have ⟨_, answered⟩ := answered_of_mem_play member
      answered_notePages answered).2 _ _ rfl
  exact ⟨_, remote, ended, run, by decide +kernel, collects⟩

end ArcRelay.ClipboardReplication
