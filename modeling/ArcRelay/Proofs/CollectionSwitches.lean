/-
Module: ArcRelay.Proofs.CollectionSwitches
Purpose: The collections a reconciliation sends respect the synchronization switches of both
  sides, and none that is due is left out.
Trusted boundary: as for the client; that the core lists its collections in pages by id
-/
import ArcRelay.Proofs.ReconcileWalks
import ArcRelay.Proofs.ReplicaTransfer
import ArcRelay.Proofs.StorePages

namespace ArcRelay.ClipboardReplication

open Program

/-! ### What a run has learned -/

section Readings

variable (platform : Platform)

/-- The peer's collections after the pages, the last one of each id. -/
def gathered (pages : List CollectionPage) : HashMap String Collection :=
  pages.foldl (fun remote page => absorb platform remote page.records) ∅

/-- What the walk through the peer's collections comes to: the switches are those of the last
page. -/
def remoteCollections (pages : List CollectionPage) : RemoteCollections where
  values := gathered platform pages
  edits := pages.getLast?.any (·.syncEditsAndDeletes)
  favorites := pages.getLast?.any (·.syncFavorites)

def preferencesIn (made : List ClientExchange) : List SyncPreferences :=
  made.filterMap fun
    | ⟨.host .syncPreferences, preferences⟩ => some preferences
    | _ => none

/-- The local collections the core has listed. -/
def listedIn (made : List ClientExchange) : List Collection :=
  made.flatMap fun
    | ⟨.host (.collections _), .ok page⟩ => page
    | _ => []

theorem mem_listedIn_page {made : List ClientExchange} {cursor : String} {page : List Collection}
    {value : Collection} (listed : value ∈ page) :
    value ∈ listedIn (made ++ [⟨.host (.collections cursor), .ok page⟩]) := by
  rw [listedIn, List.flatMap_append, List.flatMap_singleton]
  exact List.mem_append_right _ listed

/-- The switch is on on both sides. -/
def bothEdits (preferences : SyncPreferences) (remote : RemoteCollections) : Bool :=
  preferences.syncEditsAndDeletes && remote.edits

def bothFavorites (preferences : SyncPreferences) (remote : RemoteCollections) : Bool :=
  preferences.syncFavorites && remote.favorites

end Readings

/-! ### What may be sent for a collection, and what has to be -/

def Collection.favoriteTriple (collection : Collection) : Bool × Nat × String :=
  (collection.favorite, collection.favoriteRevision, collection.favoriteUpdatedByDeviceId)

/-- All fields but the favorite triple are equal. -/
def Collection.SameContent (first second : Collection) : Prop :=
  { first with
    favorite := second.favorite
    favoriteRevision := second.favoriteRevision
    favoriteUpdatedByDeviceId := second.favoriteUpdatedByDeviceId } = second

/-- The local collection is newer than the peer's in an aspect that is switched on. -/
def NewerIn (edits favorites : Bool) (value remote : Collection) : Prop :=
  (edits = true ∧ remote.version < value.version) ∨
    (favorites = true ∧ remote.favoriteVersion < value.favoriteVersion)

/-- What is sent for the local collection `value`, given the peer's one, if any. -/
structure Offer (edits favorites : Bool) (value : Collection) (old : Option Collection)
    (outgoing : Collection) : Prop where
  id : outgoing.id = value.id
  /-- Without edits the peer's own content goes back to it. -/
  content : edits = false → ∀ remote, old = some remote → outgoing.SameContent remote
  /-- Without favorites the peer's own favorite goes back to it, or none. -/
  favorite : favorites = false →
    outgoing.favoriteTriple = (old.map Collection.favoriteTriple).getD (false, 0, "")
  tombstone : edits = false → value.deleted = false
  newer : ∀ remote, old = some remote → NewerIn edits favorites value remote
  /-- What makes the collection due is in the offer. -/
  newContent : (∀ remote, old = some remote → edits = true ∧ remote.version < value.version) →
    outgoing.SameContent value
  newFavorite : favorites = true → outgoing.favoriteTriple = value.favoriteTriple

/-- The peer lacks the collection or has an older one in an aspect that is switched on; deletions
need the switch for edits. -/
def Due (edits favorites : Bool) (value : Collection) (old : Option Collection) : Prop :=
  (∀ remote, old = some remote → NewerIn edits favorites value remote) ∧
    (value.deleted = true → edits = true)

section Decisions

variable {edits favorites : Bool} {value outgoing : Collection} {old : Option Collection}

theorem newerIn_of_sends {remote : Collection}
    (sends : sendsContent edits value (some remote) = true ∨
      sendsFavorite favorites value (some remote) = true) : NewerIn edits favorites value remote := by
  rcases sends with content | favorite
  · simp [sendsContent] at content
    exact .inl content
  · simp [sendsFavorite] at favorite
    exact .inr favorite

/-- The checks of the loop's body let through what is due. -/
theorem sends_of_due (due : Due edits favorites value old) :
    sendsContent edits value old = true ∨ sendsFavorite favorites value old = true := by
  cases old with
  | none => exact .inl rfl
  | some remote =>
      refine (due.1 remote rfl).imp (fun newer => ?_) fun newer => ?_
      · simp [sendsContent, newer.1, newer.2]
      · simp [sendsFavorite, newer.1, newer.2]

/-- The favorite is set on top of the content. -/
theorem outgoingFavorite_sameContent (favorites : Bool) (value : Collection)
    (old : Option Collection) (base : Collection) :
    (outgoingFavorite favorites value old base).SameContent base := by
  unfold outgoingFavorite
  split
  · rfl
  · split
    · rfl
    · rfl

theorem outgoingFavorite_triple (favorites : Bool) (value : Collection)
    (old : Option Collection) (base : Collection) :
    (outgoingFavorite favorites value old base).favoriteTriple =
      if favorites then value.favoriteTriple
      else (old.map Collection.favoriteTriple).getD (false, 0, "") := by
  unfold outgoingFavorite
  split
  · rfl
  · cases old with
    | none => rfl
    | some => rfl

theorem Collection.SameContent.id_eq {first second : Collection}
    (same : first.SameContent second) : first.id = second.id := by
  unfold SameContent at same
  rw [← same]

/-- The content goes out as it is here, or as the peer has it. -/
theorem outgoing_cases
    (made : outgoingCollection (sendsContent edits value old) favorites value old = .ok outgoing) :
    ∃ base, outgoing = outgoingFavorite favorites value old base ∧
      ((sendsContent edits value old = true ∧ base = value) ∨
        (sendsContent edits value old = false ∧ old = some base)) := by
  unfold outgoingCollection at made
  split at made
  next content =>
    cases made
    exact ⟨value, rfl, .inl ⟨content, rfl⟩⟩
  next other =>
    cases old with
    | none => cases made
    | some remote =>
        cases made
        exact ⟨remote, rfl, .inr ⟨Bool.eq_false_of_not_eq_true other, rfl⟩⟩

/-- There always is something to send: a collection that the peer lacks goes with its content. -/
theorem exists_outgoing :
    ∃ outgoing, outgoingCollection (sendsContent edits value old) favorites value old
      = .ok outgoing := by
  cases old with
  | none => exact ⟨_, rfl⟩
  | some =>
      unfold outgoingCollection
      split
      · exact ⟨_, rfl⟩
      · exact ⟨_, rfl⟩

/-- What the loop's body sends is an offer. -/
theorem offer_of_outgoing (keyed : ∀ remote, old = some remote → remote.id = value.id)
    (sends : sendsContent edits value old = true ∨ sendsFavorite favorites value old = true)
    (kept : (value.deleted && !edits) = false)
    (made : outgoingCollection (sendsContent edits value old) favorites value old = .ok outgoing) :
    Offer edits favorites value old outgoing := by
  obtain ⟨base, rfl, source⟩ := outgoing_cases made
  have same := outgoingFavorite_sameContent favorites value old base
  have triple := outgoingFavorite_triple favorites value old base
  refine
    { id := same.id_eq.trans ?_
      content := ?_
      favorite := fun off => by rw [triple, off]; rfl
      tombstone := fun off => by simpa [off] using kept
      newer := fun remote present => newerIn_of_sends (present ▸ sends)
      newContent := ?_
      newFavorite := fun on => by rw [triple, on]; rfl }
  · rcases source with ⟨-, rfl⟩ | ⟨-, present⟩
    · rfl
    · exact keyed base present
  · rintro rfl remote rfl
    rcases source with ⟨content, -⟩ | ⟨-, present⟩
    · simp [sendsContent] at content
    · cases present
      exact same
  · intro newer
    rcases source with ⟨-, rfl⟩ | ⟨stale, rfl⟩
    · exact same
    · have newer := newer base rfl
      simp [sendsContent, newer] at stale

end Decisions

/-! ### The offers of a run -/

section Offers

variable (platform : Platform)
variable (made : List ClientExchange)

/-- What the run was told makes this an offer for a local collection. -/
def Offered (value outgoing : Collection) : Prop :=
  ∃ preferences, preferencesIn made = [preferences] ∧ value ∈ listedIn made ∧
    let remote := remoteCollections platform (collectionPagesIn made)
    Offer (bothEdits preferences remote) (bothFavorites preferences remote) value
      (remote.values.lookup value.id) outgoing

/-- By what the run was told, the collection is due. -/
def DueIn (value : Collection) : Prop :=
  ∃ preferences, preferencesIn made = [preferences] ∧
    let remote := remoteCollections platform (collectionPagesIn made)
    Due (bothEdits preferences remote) (bothFavorites preferences remote) value
      (remote.values.lookup value.id)

/-- The document is an offer for a local collection. -/
def Announced (value : Collection) (wire : CollectionRecord) : Prop :=
  ∃ outgoing, Offered platform made value outgoing ∧ encodeCollection platform outgoing = .ok wire

def Sent (value : Collection) : Prop :=
  ∃ wire answer, Announced platform made value wire ∧
    (⟨.request (.storeCollection wire) [], answer⟩ : ClientExchange) ∈ made

/-- A request to store a collection, or the encoding of an offer, has failed. -/
def Failed : Prop :=
  (∃ wire answer, (⟨.request (.storeCollection wire) [], answer⟩ : ClientExchange) ∈ made ∧
    ∀ count frames, answer ≠ .ok (.changed count, frames)) ∨
  ∃ value outgoing failure, Offered platform made value outgoing ∧
    encodeCollection platform outgoing = .error failure

/-- How the sending ends. -/
structure Settled (values : List Collection) (made : List ClientExchange)
    (outcome : Except String Unit) : Prop where
  sent : outcome = .ok () → ∀ value ∈ values, DueIn platform made value → Sent platform made value
  failed : outcome ≠ .ok () → Failed platform made

/-- The calls of the sending loops. -/
def Sends (call : ClientCall) : Prop :=
  (∃ wire, call = .request (.storeCollection wire) []) ∨ ∃ after, call = .host (.collections after)

section Stability

variable {platform} {made later : List ClientExchange} (extension : Extends Sends made later)

include extension

theorem preferencesIn_sends : preferencesIn later = preferencesIn made := by
  refine extension.filterMap_eq ?_
  rintro ⟨call, answer⟩ (⟨wire, rfl⟩ | ⟨after, rfl⟩)
  · rfl
  · rfl

theorem collectionPagesIn_sends : collectionPagesIn later = collectionPagesIn made := by
  refine extension.filterMap_eq ?_
  rintro ⟨call, answer⟩ (⟨wire, rfl⟩ | ⟨after, rfl⟩)
  · rfl
  · rfl

variable {value : Collection}

theorem mem_listedIn_sends (listed : value ∈ listedIn made) : value ∈ listedIn later := by
  obtain ⟨extra, rfl, -⟩ := extension
  rw [listedIn, List.flatMap_append]
  exact List.mem_append_left _ listed

theorem Offered.extend {outgoing : Collection} (offered : Offered platform made value outgoing) :
    Offered platform later value outgoing := by
  obtain ⟨preferences, read, listed, offer⟩ := offered
  refine ⟨preferences, ?_, mem_listedIn_sends extension listed, ?_⟩
  · rw [preferencesIn_sends extension, read]
  · rw [collectionPagesIn_sends extension]
    exact offer

theorem DueIn.earlier (due : DueIn platform later value) : DueIn platform made value := by
  rw [DueIn, preferencesIn_sends extension, collectionPagesIn_sends extension] at due
  exact due

theorem Sent.extend (sent : Sent platform made value) : Sent platform later value := by
  obtain ⟨wire, answer, ⟨outgoing, offered, encoded⟩, asked⟩ := sent
  exact ⟨wire, answer, ⟨outgoing, offered.extend extension, encoded⟩, extension.mem asked⟩

end Stability

end Offers

/-! ### The sending loops -/

section Loops

variable {platform : Platform} {contract : ClientContract} {made : List ClientExchange}
  {result : ReconciliationResult} {preferences : SyncPreferences} {remote : RemoteCollections}

/-- The state of the run in which collections are sent. -/
structure Sending (platform : Platform) (made : List ClientExchange) (preferences : SyncPreferences)
    (remote : RemoteCollections) : Prop where
  preferences : preferencesIn made = [preferences]
  remote : remote = remoteCollections platform (collectionPagesIn made)

theorem Sending.extend {later : List ClientExchange} (extension : Extends Sends made later)
    (sending : Sending platform made preferences remote) :
    Sending platform later preferences remote where
  preferences := by rw [preferencesIn_sends extension, sending.preferences]
  remote := by rw [collectionPagesIn_sends extension, sending.remote]

/-- What is announced may be stored. -/
abbrev Storing (platform : Platform) (contract : ClientContract) : Prop :=
  ∀ made value wire, Announced platform made value wire →
    contract.permitted made (.request (.storeCollection wire) [])

/-- Collections are kept under their own ids. -/
def Keyed (values : HashMap String Collection) : Prop :=
  ∀ id value, values.lookup id = some value → value.id = id

theorem Keyed.insert {values : HashMap String Collection} (keyed : Keyed values)
    (value : Collection) : Keyed (values.insert value.id value) := fun id other present => by
  by_cases same : id = value.id
  · subst same
    rw [AList.lookup_insert] at present
    cases present
    rfl
  · rw [AList.lookup_insert_ne same] at present
    exact keyed id other present

theorem Keyed.absorb {values : HashMap String Collection} (keyed : Keyed values)
    (records : List CollectionRecord) : Keyed (absorb platform values records) := by
  induction records generalizing values with
  | nil => exact keyed
  | cons wire _ ih =>
      rw [ClipboardReplication.absorb, List.foldl_cons]
      cases decodeCollection platform wire with
      | error => exact ih keyed
      | ok value => exact ih (keyed.insert value)

theorem keyed_gathered (pages : List CollectionPage) : Keyed (gathered platform pages) := by
  induction pages using List.reverseRecOn with
  | nil => exact fun _ _ present => nomatch present
  | append_singleton _ page ih =>
      rw [gathered, List.foldl_append]
      exact ih.absorb page.records

theorem does_sendCollection {value : Collection}
    (stores : Storing platform contract)
    (sending : Sending platform made preferences remote) (listed : value ∈ listedIn made) :
    Does contract (fun later _ outcome => Extends Sends made later ∧
        Settled platform [value] later outcome) made result
      (sendCollection platform preferences remote value) := by
  obtain ⟨read, rfl⟩ := sending
  generalize collected : remoteCollections platform (collectionPagesIn made) = remote
  have offers (outgoing : Collection) (offer : Offer (bothEdits preferences remote)
      (bothFavorites preferences remote) value (remote.values.lookup value.id) outgoing) :
      Offered platform made value outgoing :=
    ⟨preferences, read, listed, collected ▸ offer⟩
  have due (settled : DueIn platform made value) : Due (bothEdits preferences remote)
      (bothFavorites preferences remote) value (remote.values.lookup value.id) := by
    obtain ⟨again, same, due⟩ := settled
    cases read.symm.trans same
    exact collected ▸ due
  have keyed : ∀ old, remote.values.lookup value.id = some old → old.id = value.id :=
    collected ▸ keyed_gathered _ value.id
  generalize sameEdits : bothEdits preferences remote = edits at offers due
  generalize sameFavorites : bothFavorites preferences remote = favorites at offers due
  rw [bothEdits] at sameEdits
  rw [bothFavorites] at sameFavorites
  rw [sendCollection, sameEdits, sameFavorites]
  generalize remote.values.lookup value.id = old at offers due keyed ⊢
  split
  next idle =>
    refine does_pure ⟨.refl _ _, fun _ other member settled => ?_, fun failed => absurd rfl failed⟩
    cases List.mem_singleton.mp member
    rcases sends_of_due (due settled) with content | favorite
    · simp [content] at idle
    · simp [favorite] at idle
  next sends =>
    split
    next gone =>
      refine does_pure ⟨.refl _ _, fun _ other member settled => ?_, fun failed => absurd rfl failed⟩
      cases List.mem_singleton.mp member
      have on := (due settled).2
      simp_all
    next kept =>
      have sends : sendsContent edits value old = true ∨ sendsFavorite favorites value old = true := by
        simpa [-not_and, not_and_or] using sends
      obtain ⟨outgoing, produced⟩ := exists_outgoing
      have offered := offers outgoing (offer_of_outgoing keyed sends
        (Bool.eq_false_of_not_eq_true kept) produced)
      refine does_bind (does_valid ?_)
      rw [produced]
      refine does_bind (does_valid ?_)
      cases encoded : encodeCollection platform outgoing with
      | error failure =>
          exact ⟨.refl _ _, nofun, fun _ => .inr ⟨value, outgoing, failure, offered, encoded⟩⟩
      | ok wire =>
          refine does_bind (does_request (stores _ value wire ⟨outgoing, offered, encoded⟩)
            fun answer _ => ?_)
          have extension : Extends Sends made
              (made ++ [⟨.request (.storeCollection wire) [], answer⟩]) :=
            .call answer (.inl ⟨wire, rfl⟩)
          have asked : (⟨.request (.storeCollection wire) [], answer⟩ : ClientExchange) ∈
              made ++ [⟨.request (.storeCollection wire) [], answer⟩] := by simp
          rcases answer with failure | ⟨response, frames⟩
          · exact ⟨extension, nofun, fun _ => .inl ⟨wire, _, asked, nofun⟩⟩
          cases response with
          | changed =>
              refine does_modify ⟨extension, fun _ other member _ => ?_,
                fun failed => absurd rfl failed⟩
              cases List.mem_singleton.mp member
              exact ⟨wire, _, ⟨outgoing, offered.extend extension, encoded⟩, asked⟩
          | _ => exact ⟨extension, nofun, fun _ => .inl ⟨wire, _, asked, nofun⟩⟩

theorem does_sendCollections {values : List Collection}
    (stores : Storing platform contract)
    (sending : Sending platform made preferences remote)
    (listed : ∀ value ∈ values, value ∈ listedIn made) :
    Does contract (fun later _ outcome => Extends Sends made later ∧
        Settled platform values later outcome) made result
      (sendCollections platform preferences remote values) := by
  induction values generalizing made result with
  | nil =>
      exact does_pure ⟨.refl _ _, fun _ _ member => (nomatch member), fun failed => absurd rfl failed⟩
  | cons value _ ih =>
      refine does_bind (does_mono (does_sendCollection stores sending (listed value (by simp)))
        fun later _ outcome went => ?_)
      obtain ⟨extension, settled⟩ := went
      cases outcome with
      | error => exact ⟨extension, nofun, fun _ => settled.failed nofun⟩
      | ok =>
          refine does_mono (ih (sending.extend extension) fun other member =>
            mem_listedIn_sends extension (listed other (.tail _ member)))
            fun last _ outcome went => ?_
          obtain ⟨more, rest⟩ := went
          refine ⟨extension.trans more, fun ended other member due => ?_, rest.failed⟩
          rcases List.mem_cons.mp member with rfl | member
          · exact (settled.sent rfl _ (by simp) (due.earlier more)).extend more
          · exact rest.sent ended other member due

/-- Whatever the core lists, only offers are sent. -/
theorem does_sendCollectionPages {rounds : Nat} {cursor : String}
    (hosts : contract.Hosts)
    (stores : Storing platform contract)
    (waits : ∀ made, contract.permitted made .forever)
    (sending : Sending platform made preferences remote) :
    Does contract (fun _ _ _ => True) made result
      (sendCollectionPages platform preferences remote rounds cursor) := by
  induction rounds generalizing cursor made result with
  | zero => exact does_forever (waits _)
  | succ _ ih =>
      refine does_bind (does_host rfl (hosts _ _) fun answer _ => ?_)
      rcases answer with failure | page
      · trivial
      have extension : Extends Sends made (made ++ [⟨.host (.collections cursor), .ok page⟩]) :=
        .call _ (.inr ⟨cursor, rfl⟩)
      dsimp only
      split
      · exact does_pure trivial
      next last _ =>
        refine does_bind (does_mono (does_sendCollections stores (sending.extend extension) ?_)
          fun later _ outcome went => ?_)
        · exact fun value member => mem_listedIn_page member
        cases outcome with
        | error => trivial
        | ok => exact ih ((sending.extend extension).extend went.1)

end Loops

/-! ### Everything that is due is sent -/

section Coverage

variable {platform : Platform} {contract : ClientContract} {made : List ClientExchange}
  {result : ReconciliationResult} {preferences : SyncPreferences} {remote : RemoteCollections}
  {store : CollectionStore}

/-- From a cursor below which all that is due was sent, the pages cover the rest. -/
theorem does_sendStoredPages {rounds : Nat} {cursor : String}
    (hosts : contract.Hosts)
    (stores : Storing platform contract)
    (honest : ∀ after answer, contract.admits (.host (.collections after)) answer →
      store.Lists after answer)
    (sending : Sending platform made preferences remote)
    (covered : ∀ value ∈ store.values, value ∉ store.after cursor →
      DueIn platform made value → Sent platform made value)
    (enough : (store.after cursor).length < rounds) :
    Does contract (fun later _ outcome => Settled platform store.values later outcome) made result
      (sendCollectionPages platform preferences remote rounds cursor) := by
  induction rounds generalizing cursor made result with
  | zero => exact absurd enough (Nat.not_lt_zero _)
  | succ _ ih =>
      refine does_bind (does_host rfl (hosts _ _) fun answer admitted => ?_)
      obtain ⟨size, positive, rfl⟩ := honest cursor answer admitted
      have extension : Extends Sends made (made ++
          [⟨.host (.collections cursor), .ok ((store.after cursor).take size)⟩]) :=
        .call _ (.inr ⟨cursor, rfl⟩)
      dsimp only
      split
      next empty =>
        have done : store.after cursor = [] := by
          rw [List.getLast?_eq_none_iff, List.take_eq_nil_iff] at empty
          exact empty.resolve_left (Nat.pos_iff_ne_zero.mp positive)
        refine does_pure ⟨fun _ value member due => ?_, fun failed => absurd rfl failed⟩
        exact (covered value member (by simp [done]) (due.earlier extension)).extend extension
      next last found =>
        refine does_bind (does_mono (does_sendCollections stores (sending.extend extension)
          fun value member => mem_listedIn_page member) fun later _ outcome went => ?_)
        obtain ⟨more, settled⟩ := went
        have both := extension.trans more
        cases outcome with
        | error => exact ⟨nofun, fun _ => settled.failed nofun⟩
        | ok =>
            obtain ⟨front, -, split⟩ := split_at_page found
            have rest := CollectionStore.after_last split
            refine ih (sending.extend both) (fun value member behind due => ?_) ?_
            · by_cases onPage : value ∈ (store.after cursor).take size
              · exact settled.sent rfl value onPage due
              · refine (covered value member (fun above => ?_) (due.earlier both)).extend both
                rw [← List.take_append_drop size (store.after cursor), ← rest] at above
                exact (List.mem_append.mp above).elim onPage behind
            · rw [split, List.length_append, List.length_cons] at enough
              rw [rest]
              omega

end Coverage

/-! ### The whole reconciliation -/

section Reconciliation

variable {platform : Platform} {contract : ClientContract} {made : List ClientExchange}
  {result : ReconciliationResult}

/-- The walk through the peer's collections comes to what its pages say. -/
theorem does_gatherCollections {rounds : Nat} {cursor : String}
    {remote : HashMap String Collection}
    (hosts : contract.Hosts)
    (scans : ∀ made cursor, contract.permitted made (.request (.scanCollections cursor) []))
    (waits : ∀ made, preferencesIn made = [] → contract.permitted made .forever)
    (unread : preferencesIn made = [])
    (held : remote = gathered platform (collectionPagesIn made)) :
    Does contract (fun later _ outcome => preferencesIn later = [] ∧ ∀ found, outcome = .ok found →
        found = remoteCollections platform (collectionPagesIn later)) made result
      (scanCollections platform rounds cursor remote) := by
  induction rounds generalizing cursor remote made result with
  | zero => exact does_forever (waits _ unread)
  | succ _ ih =>
      refine does_bind (does_request (scans _ _) fun answer _ => ?_)
      have asked : preferencesIn (made ++ [⟨.request (.scanCollections cursor) [], answer⟩]) = [] := by
        rw [preferencesIn, List.filterMap_append, ← preferencesIn, unread]
        rfl
      rcases answer with failure | ⟨response, frames⟩
      · exact ⟨asked, nofun⟩
      cases response with
      | collections page =>
          refine does_bind (does_mono (does_receiveCollections hosts) fun later _ outcome went => ?_)
          obtain ⟨extension, same⟩ := went
          have still : preferencesIn later = [] := by
            rw [preferencesIn, extension.filterMap_eq, ← preferencesIn, asked]
            rintro ⟨call, answer⟩ ⟨value, edits, favorites, rfl⟩
            rfl
          cases outcome with
          | error => exact ⟨still, nofun⟩
          | ok taken =>
              obtain rfl := same taken rfl
              have pages : collectionPagesIn later = collectionPagesIn made ++ [page] := by
                rw [collectionPagesIn_receives extension, collectionPagesIn_append,
                  collectionPagesIn_page]
              have collected : absorb platform remote page.records =
                  gathered platform (collectionPagesIn later) := by
                rw [pages, held, gathered, gathered, List.foldl_append]
                rfl
              dsimp only
              split
              · exact does_throw ⟨still, nofun⟩
              · split
                · refine does_pure ⟨still, fun found ended => ?_⟩
                  cases ended
                  rw [remoteCollections, ← collected, pages, List.getLast?_concat]
                  rfl
                · split
                  · exact does_throw ⟨still, nofun⟩
                  · exact ih still collected
      | _ => exact ⟨asked, nofun⟩

/-- The reconciliation is its two loops, with the preferences read in between. -/
theorem does_reconcileCollections {rounds : Nat}
    {post : List ClientExchange → ReconciliationResult → Except String Unit → Prop}
    (hosts : contract.Hosts)
    (scans : ∀ made cursor, contract.permitted made (.request (.scanCollections cursor) []))
    (waits : ∀ made, preferencesIn made = [] → contract.permitted made .forever)
    (unread : ∀ made result failure, preferencesIn made = [] → post made result (.error failure))
    (sends : ∀ made result preferences remote, Sending platform made preferences remote →
      Does contract post made result
        (sendCollectionPages platform preferences remote rounds "")) :
    Does contract post [] result (reconcileCollections platform rounds) := by
  refine does_bind (does_mono (does_gatherCollections hosts scans waits rfl rfl)
    fun later _ outcome went => ?_)
  obtain ⟨before, same⟩ := went
  cases outcome with
  | error => exact unread _ _ _ before
  | ok remote =>
      obtain rfl := same remote rfl
      refine does_bind (does_modify ?_)
      refine does_bind (does_host rfl (hosts _ _) fun preferences _ => ?_)
      refine sends _ _ _ _ ⟨?_, ?_⟩
      · rw [preferencesIn, List.filterMap_append, ← preferencesIn, before]
        rfl
      · rw [collectionPagesIn_append, collectionPagesIn_host, List.append_nil]

/-- Only offers are sent, whatever the peer and the core answer. -/
def offersOnly (platform : Platform) : ClientContract where
  permitted := fun made call => ∀ wire frames, call = .request (.storeCollection wire) frames →
    ∃ value, Announced platform made value wire
  admits := fun _ _ => True

/-- The core lists the collections of the store. -/
def CollectionStore.Answers (store : CollectionStore) : ClientExchange → Prop
  | ⟨.host (.collections after), answer⟩ => store.Lists after answer
  | _ => True

/-- While the core lists the store, the sending does not go on for ever. -/
def sendingEnds (store : CollectionStore) : ClientContract where
  permitted := fun made call => call = .forever → preferencesIn made = []
  admits := fun call answer => store.Answers ⟨call, answer⟩

end Reconciliation

/-- In every run of the reconciliation of collections, every request to store one is an offer; and
if the core lists a store, a run that has read the peer's collections ends, and everything due was
sent unless a request or an encoding failed. -/
theorem collection_sync_respects_switches (platform : Platform) :
    (∀ rounds result made wire frames next,
      Run ((reconcileCollections platform rounds).run.run result) made
        (.call (.request (.storeCollection wire) frames) next) →
      ∃ value, Announced platform made value wire) ∧
    ∀ (store : CollectionStore) rounds result made last, store.values.length < rounds →
      Run ((reconcileCollections platform rounds).run.run result) made last →
      (∀ exchange ∈ made, store.Answers exchange) → preferencesIn made ≠ [] →
      (∀ next, last ≠ .call .forever next) ∧
        ∀ outcome ended, last = .done (outcome, ended) →
          Settled platform store.values made outcome := by
  constructor
  · intro rounds result made wire frames next run
    have hosts (made : List ClientExchange) (call : HostCall) :
        (offersOnly platform).permitted made (.host call) := nofun
    have stores (made : List ClientExchange) (value : Collection) (wire : CollectionRecord)
        (announced : Announced platform made value wire) :
        (offersOnly platform).permitted made (.request (.storeCollection wire) []) := by
      rintro other frames same
      cases same
      exact ⟨value, announced⟩
    have does : Does (offersOnly platform) (fun _ _ _ => True) [] result
        (reconcileCollections platform rounds) :=
      does_reconcileCollections hosts (fun _ _ => nofun) (fun _ _ => nofun)
        (fun _ _ _ _ => trivial) fun _ _ _ _ sending =>
          does_sendCollectionPages hosts stores (fun _ => nofun) sending
    exact (run.meets (fun _ _ => trivial) does).1 wire frames rfl
  · intro store rounds result made last enough run answers read
    have hosts (made : List ClientExchange) (call : HostCall) :
        (sendingEnds store).permitted made (.host call) := nofun
    have does : Does (sendingEnds store) (fun made _ outcome => preferencesIn made ≠ [] →
        Settled platform store.values made outcome) [] result
        (reconcileCollections platform rounds) := by
      refine does_reconcileCollections hosts (fun _ _ => nofun) (fun _ unread _ => unread)
        (fun _ _ _ unread read => absurd unread read) fun _ _ _ _ sending => ?_
      refine does_mono (does_sendStoredPages hosts (fun _ _ _ _ => nofun)
        (fun _ _ admitted => admitted) sending (fun value member behind => ?_) ?_)
        fun _ _ _ settled _ => settled
      · rw [CollectionStore.after_empty] at behind
        exact absurd member behind
      · rw [CollectionStore.after_empty]
        exact enough
    have meets := run.meets answers does
    constructor
    · rintro next rfl
      exact read (meets.1 rfl)
    · rintro outcome ended rfl
      exact meets read

/-- A local collection with a favorite. -/
def favoriteNote : Collection := ⟨"a", 2, "desk", true, 3, "desk", false, "note"⟩

def favoriteStore : CollectionStore where
  values := [favoriteNote]
  sorted := List.pairwise_singleton _ _
  named := by simp [favoriteNote]

/-- The peer lacks the collection and does not synchronize favorites: the collection is due, and
is sent without its favorite. -/
theorem collection_sync_respects_switches_favorite :
    ∃ made ended, Run ((reconcileCollections plainPlatform 2).run.run {}) made
        (.done (.ok (), ended)) ∧
      DueIn plainPlatform made favoriteNote ∧ Sent plainPlatform made favoriteNote := by
  let made : List ClientExchange :=
    [⟨.request (.scanCollections "") [], .ok (.collections ⟨"", [], true, false⟩, [])⟩,
      ⟨.host .syncPreferences, ⟨true, true, true⟩⟩,
      ⟨.host (.collections ""), .ok [favoriteNote]⟩,
      ⟨.request (.storeCollection ⟨1, ""⟩) [], .ok (.changed 1, [])⟩,
      ⟨.host (.collections "a"), .ok []⟩]
  have run : ∃ ended, Run ((reconcileCollections plainPlatform 2).run.run {}) made
      (.done (.ok (), ended)) := ⟨_, .call (.call (.call (.call (.call (.here _)))))⟩
  have answers : ∀ exchange ∈ made, favoriteStore.Answers exchange := by
    have first : favoriteStore.Lists "" (.ok [favoriteNote]) := ⟨1, one_pos, by decide +kernel⟩
    have second : favoriteStore.Lists "a" (.ok []) := ⟨1, one_pos, by decide +kernel⟩
    simp only [made, List.forall_mem_cons]
    exact ⟨trivial, trivial, first, trivial, second, fun _ member => nomatch member⟩
  have due : DueIn plainPlatform made favoriteNote := by
    refine ⟨⟨true, true, true⟩, rfl, ?_⟩
    change Due true false favoriteNote none
    exact ⟨nofun, fun deleted => nomatch deleted⟩
  obtain ⟨ended, run⟩ := run
  have settled := ((collection_sync_respects_switches plainPlatform).2 favoriteStore 2 {} made _
    (by decide) run answers (by simp [made, preferencesIn])).2 _ _ rfl
  exact ⟨made, ended, run, due, settled.sent rfl favoriteNote (by simp [favoriteStore]) due⟩

end ArcRelay.ClipboardReplication
