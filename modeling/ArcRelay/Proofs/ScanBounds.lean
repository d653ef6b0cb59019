/-
Module: ArcRelay.Proofs.ScanBounds
Purpose: How long a peer can keep the walks of a reconciliation pass going: as long as it likes
  with empty pages, and within the walk's own limit if every page gets beyond the cursor.
Trusted boundary: as for the client
-/
import ArcRelay.Library.Paging
import ArcRelay.Proofs.ReconcileWalks
import ArcRelay.Proofs.ReplicaTransfer

namespace ArcRelay.ClipboardReplication

open Program

/-! ### Counting the requests of a walk -/

/-- The requests of a walk, the pages it receives, what they are expected to be, and how many
items the walk takes.  What is valid may depend on the readings of the client's clock. -/
structure Walk (Page : Type) where
  isScan : ClientCall → Bool
  pagesIn : List ClientExchange → List Page
  /-- A page that is followed by another has a valid item beyond the cursor it was asked for, and
  none beyond the cursor it gives. -/
  inOrder : List Int → ClientExchange → Prop
  /-- The page has a valid item that the pages before lack. -/
  contributes : List Int → List Page → Page → Prop
  limit : Nat

namespace Walk

variable {Page : Type} (walk : Walk Page)

/-- The page requests answered so far. -/
def scans (made : List ClientExchange) : Nat := made.countP fun exchange => walk.isScan exchange.op

/-- Every page received so far is in order. -/
def Orderly (clocks : List Int) (made : List ClientExchange) : Prop :=
  ∀ exchange ∈ made, walk.inOrder clocks exchange

/-- While the pages are in order the walk asks for at most `limit + 1` of them, each but the last
has brought something new, and the walk does not go on for ever. -/
def Bounded (made : List ClientExchange) (call : ClientCall) : Prop :=
  (walk.isScan call = true → walk.scans made + 1 ≤ walk.limit + 1 ∧
    Contributing (walk.contributes (clocksIn made)) (walk.pagesIn made)) ∧ call ≠ .forever

def contract : ClientContract where
  permitted := fun made call => walk.Orderly (clocksIn made) made → walk.Bounded made call
  admits := fun _ _ => True

/-- The walk holds `size` items and is bounded to `rounds` more pages. -/
structure Walking (made : List ClientExchange) (size rounds : Nat) : Prop where
  scans : walk.scans made = (walk.pagesIn made).length
  bounded : size ≤ walk.limit
  counted : ∀ clocks, clocksIn made ⊆ clocks → walk.Orderly clocks made →
    Counted (walk.contributes clocks) walk.limit (walk.pagesIn made) size rounds

variable {walk} {made later : List ClientExchange} {size larger rounds : Nat} {page : Page}

theorem Walking.permitted {call : ClientCall} (walking : walk.Walking made size rounds)
    (ends : call ≠ .forever) : walk.contract.permitted made call := by
  intro orderly
  have counted := walking.counted _ (List.Subset.refl _) orderly
  refine ⟨fun _ => ⟨?_, counted.contributing⟩, ends⟩
  rw [walking.scans]
  exact Nat.succ_le_succ (counted.counted.trans walking.bounded)

/-- The bound on the rounds is not reached. -/
theorem Walking.forever_permitted (walking : walk.Walking made size 0) :
    walk.contract.permitted made .forever := by
  intro orderly
  have counted := walking.counted _ (List.Subset.refl _) orderly
  have within := counted.counted.trans walking.bounded
  have enough := counted.enough
  omega

/-- Calls that are no page requests are always permitted. -/
theorem permitted_of_other {call : ClientCall} (other : walk.isScan call = false)
    (ends : call ≠ .forever) : walk.contract.permitted made call := fun _ =>
  ⟨fun scan => by simp [other] at scan, ends⟩

theorem Orderly.of_append {clocks : List Int} {extra : List ClientExchange}
    (orderly : walk.Orderly clocks (made ++ extra)) : walk.Orderly clocks made :=
  fun exchange member => orderly exchange (List.mem_append_left _ member)

theorem Orderly.received {clocks : List Int} {exchange : ClientExchange} {extra : List ClientExchange}
    (orderly : walk.Orderly clocks (made ++ [exchange] ++ extra)) : walk.inOrder clocks exchange :=
  orderly exchange (by simp)

/-- The walk has taken over a page, and goes on. -/
theorem Walking.advance {kind : ClientCall → Prop} (walking : walk.Walking made size (rounds + 1))
    (extension : Extends kind made later) (scans : walk.scans later = walk.scans made + 1)
    (pages : walk.pagesIn later = walk.pagesIn made ++ [page])
    (fresh : ∀ clocks, clocksIn later ⊆ clocks → walk.Orderly clocks later →
      walk.contributes clocks (walk.pagesIn made) page ∧ size < larger)
    (within : larger ≤ walk.limit) : walk.Walking later larger rounds where
  scans := by rw [scans, walking.scans, pages, List.length_append, List.length_singleton]
  bounded := within
  counted := by
    intro clocks read orderly
    obtain ⟨new, grown⟩ := fresh clocks read orderly
    obtain ⟨extra, rfl, -⟩ := extension
    rw [pages]
    refine (walking.counted clocks (fun now member => read ?_) orderly.of_append).page new grown
    rw [clocksIn, List.filterMap_append]
    exact List.mem_append_left _ member

end Walk

/-! ### Labels -/

section Labels

/-- The ids of the labels on the pages. -/
def labelIds (pages : List LabelPage) : List String :=
  pages.flatMap fun page => page.labels.map (·.id)

theorem labelIds_snoc (pages : List LabelPage) (page : LabelPage) :
    labelIds (pages ++ [page]) = labelIds pages ++ page.labels.map (·.id) := by
  rw [labelIds, List.flatMap_append, List.flatMap_singleton, ← labelIds]

def LabelPage.Contributes (before : List LabelPage) (page : LabelPage) : Prop :=
  ∃ label ∈ page.labels, label.id ∉ labelIds before

def LabelPage.InOrder (cursor : String) (page : LabelPage) : Prop :=
  ∀ next ∈ page.nextCursor, (∃ label ∈ page.labels, cursor < label.id) ∧
    ∀ label ∈ page.labels, label.id ≤ next

def labelWalk : Walk LabelPage where
  isScan := fun
    | .request (.scanLabels _) _ => true
    | _ => false
  pagesIn := labelPagesIn
  inOrder := fun
    | _, ⟨.request (.scanLabels cursor) _, .ok (.labels page, _)⟩ => page.InOrder cursor
    | _, _ => True
  contributes := fun _ before page => page.Contributes before
  limit := 10000

theorem ids_of_labelFromWire {wires : List Proto.ClipboardLabel} {labels : List Label}
    (decoded : wires.mapM labelFromWire = .ok labels) : labels.map (·.id) = wires.map (·.id) := by
  induction wires generalizing labels with
  | nil =>
      cases decoded
      rfl
  | cons _ _ ih =>
      rw [List.mapM_cons] at decoded
      obtain ⟨label, first, decoded⟩ := except_bind_ok decoded
      obtain ⟨others, rest, decoded⟩ := except_bind_ok decoded
      cases decoded
      rw [labelFromWire] at first
      split at first
      · cases first
      · cases first
        rw [List.map_cons, List.map_cons, ih rest]

variable {remote : HashMap String Label}

/-- One page of labels is taken over. -/
theorem mem_labels_page {pages : List LabelPage} {page : LabelPage} {labels : List Label}
    (held : ∀ id, id ∈ remote ↔ id ∈ labelIds pages)
    (decoded : page.labels.mapM labelFromWire = .ok labels) (id : String) :
    id ∈ HashMap.indexed (·.id) labels remote ↔ id ∈ labelIds (pages ++ [page]) := by
  rw [HashMap.mem_indexed, held, ids_of_labelFromWire decoded, labelIds_snoc, List.mem_append]

theorem size_lt_labels_page {pages : List LabelPage} {page : LabelPage}
    {larger : HashMap String Label} (held : ∀ id, id ∈ remote ↔ id ∈ labelIds pages)
    (taken : ∀ id, id ∈ larger ↔ id ∈ labelIds (pages ++ [page]))
    (contributes : page.Contributes pages) : remote.size < larger.size := by
  obtain ⟨label, listed, fresh⟩ := contributes
  refine HashMap.size_lt_size (fun id member => ?_) ?_ (mt (held label.id).mp fresh)
  · rw [taken, labelIds_snoc]
    exact List.mem_append_left _ ((held id).mp member)
  · rw [taken, labelIds_snoc]
    exact List.mem_append_right _ (List.mem_map_of_mem listed)

/-- The walk through the labels from a point at which it holds what the pages so far brought, none
of it beyond the cursor if these were in order. -/
theorem does_scanLabels {rounds : Nat} {cursor : String} {made : List ClientExchange}
    {result : ReconciliationResult} (held : ∀ id, id ∈ remote ↔ id ∈ labelIds (labelPagesIn made))
    (behind : ∀ clocks, labelWalk.Orderly clocks made →
      ∀ id ∈ labelIds (labelPagesIn made), id ≤ cursor)
    (walking : labelWalk.Walking made remote.size rounds) :
    Does labelWalk.contract (fun _ _ _ => True) made result (scanLabels rounds cursor remote) := by
  induction rounds generalizing cursor remote made result with
  | zero => exact does_forever walking.forever_permitted
  | succ _ ih =>
      refine does_bind (does_request (walking.permitted nofun) fun answer _ => ?_)
      rcases answer with failure | ⟨response, frames⟩
      · trivial
      cases response with
      | labels page =>
          refine does_bind (does_valid ?_)
          rcases decoded : page.labels.mapM labelFromWire with failure | labels
          · trivial
          refine does_bind (does_host rfl (Walk.permitted_of_other rfl nofun) fun answer _ => ?_)
          rcases answer with failure | changed
          · trivial
          refine does_bind (does_modify ?_)
          have taken := mem_labels_page held decoded
          rcases more : page.nextCursor with _ | next
          · exact does_pure trivial
          dsimp only
          split
          · exact does_throw trivial
          next within =>
            rw [Bool.or_eq_true, decide_eq_true_eq, decide_eq_true_eq, not_or, not_le,
              not_lt] at within
            have pages : labelPagesIn (made ++ [⟨.request (.scanLabels cursor) [],
                .ok (.labels page, frames)⟩] ++
                [⟨.host (.applyReplicaLabels labels), .ok changed⟩]) =
                labelPagesIn made ++ [page] := by
              rw [labelPagesIn_append, labelPagesIn_append, labelPagesIn_host,
                labelPagesIn_page, List.append_nil]
            refine ih (pages ▸ taken) (fun clocks orderly => ?_) (walking.advance
              ((Extends.call _ trivial).trans (.call _ trivial) :
                Extends (fun _ => True) _ _) ?_ pages (fun clocks _ orderly => ?_) within.2)
            · have earlier := behind clocks orderly.of_append.of_append
              rw [pages, labelIds_snoc, List.forall_mem_append, List.forall_mem_map]
              exact ⟨fun id before => (earlier id before).trans within.1.le,
                (orderly.received next more).2⟩
            · simp [Walk.scans, labelWalk]
            · obtain ⟨⟨label, listed, beyond⟩, -⟩ := orderly.received next more
              have new : page.Contributes (labelPagesIn made) :=
                ⟨label, listed, fun old =>
                  absurd (behind clocks orderly.of_append.of_append _ old) beyond.not_ge⟩
              exact ⟨new, size_lt_labels_page held taken new⟩
      | _ => trivial

end Labels

/-! ### Collections -/

section Collections

variable (platform : Platform)

def collectionIds (pages : List CollectionPage) : List String :=
  pages.flatMap fun page => decodedIds platform page.records

theorem collectionIds_snoc (pages : List CollectionPage) (page : CollectionPage) :
    collectionIds platform (pages ++ [page]) =
      collectionIds platform pages ++ decodedIds platform page.records := by
  rw [collectionIds, List.flatMap_append, List.flatMap_singleton, ← collectionIds]

def CollectionPage.Contributes (before : List CollectionPage) (page : CollectionPage) : Prop :=
  ∃ id ∈ decodedIds platform page.records, id ∉ collectionIds platform before

def CollectionPage.InOrder (cursor : String) (page : CollectionPage) : Prop :=
  page.nextCursor ≠ "" → (∃ id ∈ decodedIds platform page.records, cursor < id) ∧
    ∀ id ∈ decodedIds platform page.records, id ≤ page.nextCursor

def collectionWalk : Walk CollectionPage where
  isScan := fun
    | .request (.scanCollections _) _ => true
    | _ => false
  pagesIn := collectionPagesIn
  inOrder := fun
    | _, ⟨.request (.scanCollections cursor) _, .ok (.collections page, _)⟩ =>
        page.InOrder platform cursor
    | _, _ => True
  contributes := fun _ before page => page.Contributes platform before
  limit := 10000

variable {platform}
variable {page : CollectionPage}

/-- A page request and the collections handed over after it. -/
theorem collections_page {cursor : String} {frames : List Bytes}
    {made later : List ClientExchange}
    (extension : Extends Receives (made ++ [⟨.request (.scanCollections cursor) [],
      .ok (.collections page, frames)⟩]) later) :
    collectionPagesIn later = collectionPagesIn made ++ [page] ∧
      (collectionWalk platform).scans later = (collectionWalk platform).scans made + 1 := by
  constructor
  · rw [collectionPagesIn_receives extension, collectionPagesIn_append, collectionPagesIn_page]
  · rw [Walk.scans, extension.countP_eq, List.countP_append]
    · rfl
    · rintro ⟨call, answer⟩ ⟨value, edits, favorites, rfl⟩
      rfl

variable {remote : HashMap String Collection}

theorem mem_collections_page {pages : List CollectionPage}
    (held : ∀ id, id ∈ remote ↔ id ∈ collectionIds platform pages) (id : String) :
    id ∈ absorb platform remote page.records ↔ id ∈ collectionIds platform (pages ++ [page]) := by
  rw [mem_absorb, held, collectionIds_snoc, List.mem_append]

theorem size_lt_collections_page {pages : List CollectionPage}
    (held : ∀ id, id ∈ remote ↔ id ∈ collectionIds platform pages)
    (contributes : page.Contributes platform pages) :
    remote.size < (absorb platform remote page.records).size := by
  obtain ⟨id, listed, fresh⟩ := contributes
  refine HashMap.size_lt_size (fun other member => ?_) ?_ (mt (held id).mp fresh)
  · exact (mem_absorb platform).mpr (.inl member)
  · exact (mem_absorb platform).mpr (.inr listed)

theorem does_scanCollections {rounds : Nat} {cursor : String} {made : List ClientExchange}
    {result : ReconciliationResult}
    (held : ∀ id, id ∈ remote ↔ id ∈ collectionIds platform (collectionPagesIn made))
    (behind : ∀ clocks, (collectionWalk platform).Orderly clocks made →
      ∀ id ∈ collectionIds platform (collectionPagesIn made), id ≤ cursor)
    (walking : (collectionWalk platform).Walking made remote.size rounds) :
    Does (collectionWalk platform).contract (fun _ _ _ => True) made result
      (scanCollections platform rounds cursor remote) := by
  induction rounds generalizing cursor remote made result with
  | zero => exact does_forever walking.forever_permitted
  | succ _ ih =>
      refine does_bind (does_request (walking.permitted nofun) fun answer _ => ?_)
      rcases answer with failure | ⟨response, frames⟩
      · trivial
      cases response with
      | collections page =>
          refine does_bind (does_mono (does_receiveCollections
            fun _ _ => Walk.permitted_of_other rfl nofun) fun later _ outcome went => ?_)
          rcases outcome with failure | taken
          · trivial
          obtain ⟨extension, same⟩ := went
          obtain rfl := same taken rfl
          obtain ⟨pages, scans⟩ := collections_page extension
          dsimp only
          split
          · exact does_throw trivial
          next within =>
            split
            · exact does_pure trivial
            next more =>
              split
              · exact does_throw trivial
              next ahead =>
                obtain ⟨extra, rfl, -⟩ := id extension
                have more : page.nextCursor ≠ "" := by simpa using more
                refine ih (pages ▸ mem_collections_page held) (fun clocks orderly => ?_)
                  (walking.advance ((Extends.call _ trivial).trans
                    (extension.mono fun _ _ => trivial) : Extends (fun _ => True) _ _) scans pages
                    (fun clocks _ orderly => ?_) (Nat.le_of_not_gt within))
                · have earlier := behind clocks orderly.of_append.of_append
                  rw [pages, collectionIds_snoc, List.forall_mem_append]
                  exact ⟨fun id before => (earlier id before).trans (not_le.mp ahead).le,
                    (orderly.received more).2⟩
                · obtain ⟨⟨id, listed, beyond⟩, -⟩ := orderly.received more
                  have new : page.Contributes platform (collectionPagesIn made) :=
                    ⟨id, listed, fun old =>
                      absurd (behind clocks orderly.of_append.of_append _ old) beyond.not_ge⟩
                  exact ⟨new, size_lt_collections_page held new⟩
      | _ => trivial

end Collections

/-! ### Records -/

section Records

variable {platform : Platform}

def recordIds (pages : List RecordPage) : List String :=
  pages.flatMap fun page => page.records.filterMap headerId

theorem recordIds_snoc (pages : List RecordPage) (page : RecordPage) :
    recordIds (pages ++ [page]) = recordIds pages ++ page.records.filterMap headerId := by
  rw [recordIds, List.flatMap_append, List.flatMap_singleton, ← recordIds]

/-- Some record on the page has a new id and passes the check of its metadata at every reading of
the clock. -/
def RecordPage.Contributes (clocks : List Int) (before : List RecordPage) (page : RecordPage) :
    Prop :=
  ∃ header ∈ page.records, Acceptable clocks header ∧
    ∃ id, headerId header = some id ∧ id ∉ recordIds before

/-- Where the pages list a sync id: every id has one time. -/
def listKey (times : String → Int) (id : String) : Int ×ₗ String := toLex (times id, id)

def RecordPage.InOrder (times : String → Int) (clocks : List Int) (cursor : Option ReplicaCursor)
    (page : RecordPage) : Prop :=
  ∀ next ∈ page.nextCursor,
    (∃ header ∈ page.records, Acceptable clocks header ∧
      ∃ id, headerId header = some id ∧ ∀ asked ∈ cursor, listKey times id < asked.key) ∧
    ∀ id ∈ page.records.filterMap headerId, next.key ≤ listKey times id

def recordWalk (times : String → Int) : Walk RecordPage where
  isScan := fun
    | .request (.scan _ _) _ => true
    | _ => false
  pagesIn := recordPagesIn
  inOrder := fun
    | clocks, ⟨.request (.scan cursor _) _, .ok (.page page, _)⟩ => page.InOrder times clocks cursor
    | _, _ => True
  contributes := fun clocks before page => page.Contributes clocks before
  limit := maxManifestRecords

variable {times : String → Int}

theorem recordWalk_permits (made : List ClientExchange) (call : ClientCall) (handles : Handles call) :
    (recordWalk times).contract.permitted made call := by
  rcases handles with ⟨hostCall, rfl⟩ | ⟨syncId, frames, rfl⟩
  · exact Walk.permitted_of_other rfl nofun
  · exact Walk.permitted_of_other rfl nofun

variable {page : RecordPage} {made : List ClientExchange}

theorem records_page {cursor : Option ReplicaCursor} {frames : List Bytes}
    {later : List ClientExchange}
    (extension : Extends Handles (made ++ [⟨.request (.scan cursor 100) [],
      .ok (.page page, frames)⟩]) later) :
    recordPagesIn later = recordPagesIn made ++ [page] ∧
      (recordWalk times).scans later = (recordWalk times).scans made + 1 := by
  constructor
  · rw [recordPagesIn_handles extension, recordPagesIn_append, recordPagesIn_page]
  · rw [Walk.scans, extension.countP_eq, List.countP_append]
    · rfl
    · rintro ⟨call, answer⟩ (⟨hostCall, rfl⟩ | ⟨syncId, frames, rfl⟩)
      · rfl
      · rfl

theorem size_lt_records_page {pages : List RecordPage} {clocks read : List Int}
    {remote larger : Manifest} (held : ∀ id ∈ remote, id ∈ recordIds pages)
    (adds : Adds page.records read remote larger) (within : read ⊆ clocks)
    (contributes : page.Contributes clocks pages) :
    HashMap.size remote < HashMap.size larger := by
  obtain ⟨header, listed, acceptable, id, named, fresh⟩ := contributes
  refine HashMap.size_lt_size adds.kept (adds.accepted header listed ?_ id named) (mt (held id) fresh)
  exact fun now member later alsoMember => acceptable now (within member) later (within alsoMember)

theorem does_scanRecords {known : Manifest} {rounds : Nat} {cursor : Option ReplicaCursor}
    {remote : Manifest} {result : ReconciliationResult}
    (held : ∀ id ∈ remote, id ∈ recordIds (recordPagesIn made))
    (behind : ∀ clocks, (recordWalk times).Orderly clocks made →
      ∀ id ∈ recordIds (recordPagesIn made), ∃ asked ∈ cursor, asked.key ≤ listKey times id)
    (walking : (recordWalk times).Walking made (HashMap.size remote) rounds) :
    Does (recordWalk times).contract (fun _ _ _ => True) made result
      (scanRecords platform known rounds cursor remote) := by
  induction rounds generalizing cursor remote made result with
  | zero => exact does_forever walking.forever_permitted
  | succ _ ih =>
      refine does_bind (does_request (walking.permitted nofun) fun answer _ => ?_)
      rcases answer with failure | ⟨response, frames⟩
      · trivial
      cases response with
      | page page =>
          refine does_bind (does_mono (does_receiveRecords recordWalk_permits)
            fun later _ outcome went => ?_)
          rcases outcome with failure | taken
          · trivial
          obtain ⟨extension, adds⟩ := went
          have adds := adds taken rfl
          obtain ⟨pages, scans⟩ := records_page extension
          rcases more : page.nextCursor with _ | next
          · exact does_pure trivial
          dsimp only
          split
          · exact does_throw trivial
          next ahead =>
            obtain ⟨extra, rfl, -⟩ := id extension
            refine ih (fun id member => ?_) (fun clocks orderly => ?_) (walking.advance
              ((Extends.call _ trivial).trans (extension.mono fun _ _ => trivial) :
                Extends (fun _ => True) _ _) scans pages (fun clocks read orderly => ?_)
              (adds.bounded walking.bounded))
            · rw [pages, recordIds_snoc]
              exact List.mem_append.mpr ((adds.only id member).imp_left (held id))
            · have earlier := behind clocks orderly.of_append.of_append
              rw [pages, recordIds_snoc, List.forall_mem_append]
              refine ⟨fun id before => ⟨next, rfl, ?_⟩, fun id here =>
                ⟨next, rfl, (orderly.received next more).2 id here⟩⟩
              obtain ⟨asked, rfl, passed⟩ := earlier id before
              exact (le_of_not_ge (by simpa using ahead)).trans passed
            · obtain ⟨⟨header, listed, acceptable, id, named, beyond⟩, -⟩ :=
                orderly.received next more
              have new : page.Contributes clocks (recordPagesIn made) := by
                refine ⟨header, listed, acceptable, id, named, fun old => ?_⟩
                obtain ⟨asked, here, passed⟩ := behind clocks orderly.of_append.of_append _ old
                exact absurd passed (beyond asked here).not_ge
              exact ⟨new, size_lt_records_page held adds read new⟩
      | _ => trivial

end Records

/-! ### The bounds -/

/-- In every run of the walk, whatever else it is answered: while every page is in order, a page
request is one of the first `limit + 1`, the pages before it have each brought something new, and
the walk is not left to go on for ever. -/
def RequestsBounded {Page Value : Type} (walk : Walk Page) (scan : Nat → Reconciling Value) :
    Prop :=
  ∀ rounds result made call next, walk.limit < rounds →
    Run ((scan rounds).run.run result) made (.call call next) →
    walk.Orderly (clocksIn made) made → walk.Bounded made call

theorem RequestsBounded.of_does {Page Value : Type} {walk : Walk Page}
    {scan : Nat → Reconciling Value}
    (does : ∀ rounds result, walk.limit < rounds →
      Does walk.contract (fun _ _ _ => True) [] result (scan rounds)) : RequestsBounded walk scan :=
  fun rounds result _ _ _ enough run orderly =>
    (run.meets (fun _ _ => trivial) (does rounds result enough)).1 orderly

/-! ### Runs of the walk through the labels -/

/-- The walk goes on after a page. -/
theorem run_labelPage {rounds : Nat} {cursor : String} (next : String)
    {sent : List Proto.ClipboardLabel} (labels : List Label)
    {remote : HashMap String Label} {made : List ClientExchange} {result : ReconciliationResult}
    {last : ClientProgram (Except String (HashMap String Label) × ReconciliationResult)}
    (decoded : sent.mapM labelFromWire = .ok labels) (ahead : cursor < next)
    (within : HashMap.size (HashMap.indexed (·.id) labels remote) ≤ 10000)
    (later : Run ((scanLabels rounds next (HashMap.indexed (·.id) labels remote)).run.run result)
      made last) :
    Run ((scanLabels (rounds + 1) cursor remote).run.run result)
      (⟨.request (.scanLabels cursor) [], .ok (.labels ⟨sent, some next⟩, [])⟩ ::
        ⟨.host (.applyReplicaLabels labels), .ok 0⟩ :: made) last := by
  have onward : (decide (next ≤ cursor) ||
      decide (HashMap.size (HashMap.indexed (·.id) labels remote) > 10000)) = false := by
    rw [decide_eq_false (not_le.mpr ahead), decide_eq_false (not_lt.mpr within)]
    rfl
  refine run_bind (run_request (.labels ⟨sent, some next⟩, [])) (run_bind (run_valid decoded)
    (run_bind (run_host (.applyReplicaLabels labels) (.ok 0) rfl rfl) (run_bind run_modify ?_)))
  dsimp only
  rw [← HashMap.indexed, onward]
  exact later

theorem scan_requests_bounded (platform : Platform) (known : Manifest) (times : String → Int) :
    RequestsBounded (collectionWalk platform) (scanCollections platform · "" ∅) ∧
    RequestsBounded labelWalk (scanLabels · "" ∅) ∧
    RequestsBounded (recordWalk times) (scanRecords platform known · none ∅) := by
  refine ⟨.of_does fun rounds result enough => ?_, .of_does fun rounds result enough => ?_,
    .of_does fun rounds result enough => ?_⟩
  · exact does_scanCollections (by simp [collectionIds, collectionPagesIn]) (fun _ _ _ => nofun)
      ⟨rfl, Nat.zero_le _, fun _ _ _ => .start enough⟩
  · exact does_scanLabels (by simp [labelIds, labelPagesIn]) (fun _ _ _ => nofun)
      ⟨rfl, Nat.zero_le _, fun _ _ _ => .start enough⟩
  · exact does_scanRecords (by simp) (fun _ _ _ => nofun)
      ⟨rfl, Nat.zero_le _, fun _ _ _ => .start enough⟩

/-- Two pages in order, and the request for the next one. -/
theorem scan_requests_bounded_two_labels :
    ∃ made next, Run ((scanLabels 10001 "" ∅).run.run {}) made
        (.call (.request (.scanLabels "c") []) next) ∧
      labelWalk.Orderly (clocksIn made) made ∧ labelWalk.scans made = 2 ∧
      labelWalk.Bounded made (.request (.scanLabels "c") []) := by
  let home : Label := ⟨"a", "Home", "#112233", 1, "desk", false⟩
  let work : Label := ⟨"b", "Work", "#112233", 1, "desk", false⟩
  let pages : List ClientExchange :=
    [⟨.request (.scanLabels "") [], .ok (.labels ⟨[labelToWire home], some "a"⟩, [])⟩,
      ⟨.host (.applyReplicaLabels [home]), .ok 0⟩,
      ⟨.request (.scanLabels "a") [], .ok (.labels ⟨[labelToWire work], some "c"⟩, [])⟩,
      ⟨.host (.applyReplicaLabels [work]), .ok 0⟩]
  have decodedHome : [labelToWire home].mapM labelFromWire = .ok [home] := by decide +kernel
  have decodedWork : [labelToWire work].mapM labelFromWire = .ok [work] := by decide +kernel
  have second : Run ((scanLabels 10000 "a" (HashMap.indexed (·.id) [home] ∅)).run.run {}) _
      ((scanLabels 9999 "c" _).run.run {}) :=
    run_labelPage "c" _ decodedWork (by decide +kernel) (by decide +kernel) (.here _)
  have walked : Run ((scanLabels 10001 "" ∅).run.run {}) pages _ :=
    run_labelPage "a" _ decodedHome (by decide +kernel) (by decide +kernel) second
  have orderly : labelWalk.Orderly (clocksIn pages) pages := by
    simp only [Walk.Orderly, pages, List.forall_mem_cons]
    refine ⟨?_, trivial, ?_, trivial, List.forall_mem_nil _⟩
    · rintro _ ⟨⟩
      exact ⟨⟨_, .head _, by decide +kernel⟩, by decide +kernel⟩
    · rintro _ ⟨⟩
      exact ⟨⟨_, .head _, by decide +kernel⟩, by decide +kernel⟩
  exact ⟨pages, _, walked, orderly, rfl,
    (scan_requests_bounded plainPlatform ∅ 0).2.1 10001 {} _ _ _ (by decide) walked orderly⟩

/-! ### Pages that bring nothing -/

/-- A cursor for every number of pages, above all before it. -/
def growingCursor : Nat → String
  | 0 => ""
  | count + 1 => String.singleton (Char.ofNat (count + 1))

theorem growingCursor_lt {count : Nat} (small : count < 50000) :
    growingCursor count < growingCursor (count + 1) := by
  have code {number : Nat} (valid : number < 55296) : (Char.ofNat number).toNat = number := by
    rw [Char.toNat_ofNat, if_pos (.inl valid)]
  cases count with
  | zero =>
      rw [String.lt_iff_toList_lt]
      simp [growingCursor]
  | succ count =>
      rw [String.lt_iff_toList_lt, growingCursor, growingCursor, String.toList_singleton,
        String.toList_singleton, List.cons_lt_cons_iff]
      refine .inl (Char.lt_def.mpr (UInt32.lt_iff_toNat_lt.mpr ?_))
      change (Char.ofNat (count + 1)).toNat < (Char.ofNat (count + 1 + 1)).toNat
      rw [code (by omega), code (by omega)]
      exact Nat.lt_succ_self _

/-- An empty page of labels with a cursor, and its labels applied. -/
def emptyLabelPage (count : Nat) : List ClientExchange :=
  [⟨.request (.scanLabels (growingCursor count)) [],
      .ok (.labels ⟨[], some (growingCursor (count + 1))⟩, [])⟩,
    ⟨.host (.applyReplicaLabels []), .ok 0⟩]

/-- As many empty pages as the peer likes. -/
def emptyLabelPages (start count : Nat) : List ClientExchange :=
  (List.range' start count).flatMap emptyLabelPage

theorem run_emptyLabelPages (start count rounds : Nat) (small : start + count ≤ 50000)
    (result : ReconciliationResult) :
    Run ((scanLabels (rounds + count) (growingCursor start) ∅).run.run result)
      (emptyLabelPages start count)
      ((scanLabels rounds (growingCursor (start + count)) ∅).run.run result) := by
  induction count generalizing start with
  | zero => exact .here _
  | succ count ih =>
      have later := ih (start + 1) (by omega)
      rw [Nat.add_right_comm start 1 count] at later
      exact run_labelPage _ [] rfl (growingCursor_lt (by omega)) (Nat.zero_le _) later

theorem scans_emptyLabelPages (start count : Nat) :
    labelWalk.scans (emptyLabelPages start count) = count := by
  induction count generalizing start with
  | zero => rfl
  | succ _ ih =>
      rw [emptyLabelPages, List.range'_succ, List.flatMap_cons, Walk.scans, List.countP_append,
        ← emptyLabelPages, ← Walk.scans, ← Walk.scans, ih, Nat.add_comm]
      rfl

/-- Empty pages with growing cursors: the walk sends as many requests as it has rounds. -/
theorem empty_label_pages_keep_walking :
    ∃ made next, Run ((scanLabels 20000 "" ∅).run.run {}) made
        (.call (.request (.scanLabels (growingCursor 10002)) []) next) ∧
      labelWalk.limit + 1 < labelWalk.scans made := by
  refine ⟨emptyLabelPages 0 10002, _, run_emptyLabelPages 0 10002 9998 (by decide) {}, ?_⟩
  rw [scans_emptyLabelPages]
  decide

end ArcRelay.ClipboardReplication
