/-
Module: ArcRelay.Proofs.ReplicaReception
Purpose: Whatever a sender announces and sends, receiving a record ends after a bounded number of
  frames, panics nowhere, and returns only records whose payload is as announced.
Trusted boundary: as for the messages
-/
import ArcRelay.Proofs.ReplicaTransfer

namespace ArcRelay.ClipboardReplication

section Reception

variable {platform : Platform}

/-! ### Frames of one part -/

variable {bytes : Bytes} {frames rest : List Bytes}

/-- What was read is the concatenation of the frames it took, each of them with at least a byte. -/
theorem readPart_ok {size : Nat} {result : Bytes} (within : bytes.length ≤ size)
    (read : readPart platform size bytes frames = .ok (result, rest)) :
    ∃ taken, frames = taken ++ rest ∧ result = bytes ++ taken.flatten ∧ result.length = size ∧
      (∀ frame ∈ taken, frame ≠ []) ∧
      ∀ frame ∈ taken, frame.length ≤ platform.maxBlobChunkSize := by
  induction frames generalizing bytes with
  | nil =>
      rw [readPart] at read
      split at read
      · cases read
      next full =>
        cases read
        exact ⟨[], rfl, by simp, by omega, by simp, by simp⟩
  | cons chunk _ ih =>
      rw [readPart] at read
      split at read
      next missing =>
        split at read
        · cases read
        next short =>
          split at read
          · cases read
          next fits =>
            simp only [Bool.or_eq_true, List.isEmpty_iff, decide_eq_true_eq, not_or] at fits
            obtain ⟨taken, rfl, rfl, length, nonempty, bounded⟩ := ih
              (by rw [List.length_append]; omega) read
            refine ⟨chunk :: taken, rfl, by simp, length, ?_, ?_⟩
            · exact List.forall_mem_cons.mpr ⟨fits.1, nonempty⟩
            · exact List.forall_mem_cons.mpr ⟨Nat.le_of_not_lt short, bounded⟩
      next full =>
        cases read
        exact ⟨[], rfl, by simp, by omega, by simp, by simp⟩

/-- As every frame adds a byte, a part is settled within as many frames as it has bytes. -/
theorem readPart_append {size : Nat} (enough : size ≤ bytes.length + frames.length)
    (more : List Bytes) :
    readPart platform size bytes (frames ++ more) =
      (readPart platform size bytes frames).map fun read => (read.1, read.2 ++ more) := by
  induction frames generalizing bytes with
  | nil =>
      have full : size ≤ bytes.length := enough
      rw [readPart_done full, readPart_done full]
      rfl
  | cons chunk _ ih =>
      rw [List.cons_append, readPart, readPart]
      split
      · split
        · rfl
        · split
          · rfl
          next fits =>
            simp only [Bool.or_eq_true, List.isEmpty_iff, decide_eq_true_eq, not_or] at fits
            have positive : 0 < chunk.length := List.length_pos_iff.mpr fits.1
            rw [List.length_cons] at enough
            exact ih (by rw [List.length_append]; omega)
      · rfl

/-! ### The parts -/

/-- The frames of a part are as its descriptor says. -/
structure Described (platform : Platform) (part : Proto.BlobRef × String × Nat)
    (taken : List Bytes) : Prop where
  media : part.1.mediaType = part.2.1
  cut : Cut platform taken.flatten taken
  size : taken.flatten.length = part.1.size
  within : part.1.size ≤ part.2.2
  digest : platform.sha256 taken.flatten = part.1.sha256

variable {record stored : SyncRecord} {media : String}

theorem receivePart_ok {reference : Proto.BlobRef} {limit : Nat}
    (received : receivePart platform record reference media limit frames = .ok (stored, rest)) :
    ∃ taken, frames = taken ++ rest ∧ Described platform (reference, media, limit) taken ∧
      storePart record media taken.flatten = .ok stored := by
  rw [receivePart] at received
  split at received
  · cases received
  next described =>
    simp only [ne_eq, Bool.or_eq_true, decide_eq_true_eq, not_or, not_not] at described
    obtain ⟨⟨bytes, left⟩, read, received⟩ := except_bind_ok received
    obtain ⟨taken, rfl, rfl, size, nonempty, bounded⟩ := readPart_ok (Nat.zero_le _) read
    dsimp only at received
    split at received
    · cases received
    next digest =>
      obtain ⟨_, stores, received⟩ := except_bind_ok received
      cases received
      rw [List.nil_append] at size digest stores
      exact ⟨taken, rfl, ⟨described.1.1.1, ⟨rfl, nonempty, bounded⟩, size,
        Nat.le_of_not_lt described.1.1.2, not_not.mp digest⟩, stores⟩

variable {parts : List (Proto.BlobRef × String × Nat)}

/-- The parts are stored one after the other, each from its own frames. -/
theorem receiveParts_ok
    (received : receiveParts platform record parts frames = .ok (stored, rest)) :
    ∃ taken : List (List Bytes), frames = taken.flatten ++ rest ∧
      List.Forall₂ (Described platform) parts taken ∧
      (parts.zip taken).foldlM (fun record part => storePart record part.1.2.1 part.2.flatten)
        record = .ok stored := by
  induction parts generalizing record frames with
  | nil =>
      cases received
      exact ⟨[], rfl, .nil, rfl⟩
  | cons part _ ih =>
      obtain ⟨reference, media, limit⟩ := part
      obtain ⟨⟨next, left⟩, head, tail⟩ := except_bind_ok received
      obtain ⟨first, rfl, described, stores⟩ := receivePart_ok head
      obtain ⟨others, rfl, describedRest, storesRest⟩ := ih tail
      refine ⟨first :: others, by simp, .cons described describedRest, ?_⟩
      rw [List.zip_cons_cons, List.foldlM_cons, stores]
      exact storesRest

theorem receivePart_append {reference : Proto.BlobRef} {limit : Nat}
    (enough : limit ≤ frames.length) (more : List Bytes) :
    receivePart platform record reference media limit (frames ++ more) =
      (receivePart platform record reference media limit frames).map
        fun received => (received.1, received.2 ++ more) := by
  unfold receivePart
  split
  · rfl
  next described =>
    simp only [ne_eq, Bool.or_eq_true, decide_eq_true_eq, not_or, not_not] at described
    have short : reference.size ≤ limit := Nat.le_of_not_lt described.1.1.2
    rw [readPart_append (by rw [List.length_nil]; omega)]
    cases readPart platform reference.size [] frames with
    | error => rfl
    | ok read =>
        obtain ⟨bytes, left⟩ := read
        simp only [Except.map, bind, Except.bind]
        split
        · rfl
        · cases storePart record media bytes with
          | error => rfl
          | ok => rfl

/-- How many bytes the announced parts may have together. -/
def partsLimit (parts : List (Proto.BlobRef × String × Nat)) : Nat :=
  (parts.map fun part => part.2.2).sum

theorem Described.length_le {part : Proto.BlobRef × String × Nat} {taken : List Bytes}
    (described : Described platform part taken) : taken.length ≤ part.2.2 := by
  refine le_trans ?_ (described.size.le.trans described.within)
  rw [List.length_flatten]
  calc taken.length = (taken.map fun _ => 1).sum := by simp
    _ ≤ (taken.map List.length).sum :=
        List.sum_le_sum fun frame member =>
          List.length_pos_iff.mpr (described.cut.nonempty frame member)

theorem receiveParts_append (enough : partsLimit parts ≤ frames.length) (more : List Bytes) :
    receiveParts platform record parts (frames ++ more) =
      (receiveParts platform record parts frames).map
        fun received => (received.1, received.2 ++ more) := by
  induction parts generalizing record frames with
  | nil => rfl
  | cons part parts ih =>
      obtain ⟨reference, media, limit⟩ := part
      change limit + partsLimit parts ≤ frames.length at enough
      rw [receiveParts, receiveParts, receivePart_append (by omega)]
      cases head : receivePart platform record reference media limit frames with
      | error => rfl
      | ok received =>
          obtain ⟨stored, left⟩ := received
          obtain ⟨taken, rfl, described, -⟩ := receivePart_ok head
          have used : taken.length ≤ limit := described.length_le
          rw [List.length_append] at enough
          have left : partsLimit parts ≤ left.length := by omega
          exact ih left

/-! ### The header -/

/-- What accepted metadata guarantees. -/
structure Accepted (replica : ReplicaRecord) : Prop where
  kind : replica.record.kind ≠ .files
  memberships : (replica.record.labelMemberships.map LabelMembership.labelId).Nodup
  live : replica.record.live = true →
    replica.record.changeKind = .copy ∧ replica.record.deleted = false
  bare : replica.stripped = replica

theorem kind_fromWire_ne_files {code : Int} {kind : ContentKind}
    (decoded : ContentKind.fromWire code = .ok kind) : kind ≠ .files := by
  rintro rfl
  unfold ContentKind.fromWire at decoded
  split at decoded <;> cases decoded

theorem membershipsFromWire_distinct {seen : List String}
    {wire : List Proto.ClipboardLabelMembership} {memberships : List LabelMembership}
    (decoded : membershipsFromWire seen wire = .ok memberships) :
    (memberships.map LabelMembership.labelId).Nodup ∧
      ∀ label ∈ memberships.map LabelMembership.labelId, label ∉ seen := by
  induction wire generalizing seen memberships with
  | nil =>
      cases decoded
      exact ⟨.nil, fun label member => nomatch member⟩
  | cons _ _ ih =>
      rw [membershipsFromWire] at decoded
      split at decoded
      · cases decoded
      next accepted =>
        obtain ⟨others, decodedOthers, decoded⟩ := except_bind_ok decoded
        cases decoded
        obtain ⟨distinct, fresh⟩ := ih decodedOthers
        simp only [Bool.or_eq_true, List.contains_iff_mem, not_or] at accepted
        refine ⟨List.nodup_cons.mpr ⟨fun again => fresh _ again (.head _), distinct⟩, ?_⟩
        exact List.forall_mem_cons.mpr
          ⟨accepted.2, fun label member early => fresh label member (.tail _ early)⟩

variable {wire : Proto.ClipboardReplicaRecord}

theorem accepted_of_metadataFromWire {now later : Int} {replica : ReplicaRecord}
    (decoded : metadataFromWire now later wire = .ok replica) :
    Accepted replica := by
  unfold metadataFromWire at decoded
  split at decoded
  · cases decoded
  next record present =>
    split at decoded
    · cases decoded
    · obtain ⟨memberships, decodedMemberships, decoded⟩ := except_bind_ok decoded
      obtain ⟨kind, decodedKind, decoded⟩ := except_bind_ok decoded
      obtain ⟨changeKind, -, decoded⟩ := except_bind_ok decoded
      split at decoded
      · cases decoded
      next consistent =>
        cases decoded
        refine ⟨kind_fromWire_ne_files decodedKind,
          (membershipsFromWire_distinct decodedMemberships).1, fun live => ?_, rfl⟩
        change record.live = true at live
        change changeKind = .copy ∧ record.deleted = false
        simpa [live] using consistent

/-! ### The record -/

/-- The media types of payload, in the order of their fields. -/
def knownMedia : List String := ["text/plain", "text/html", "text/rtf", "image/png"]

/-- The bytes of the payload field of a media type. -/
def SyncRecord.field (record : SyncRecord) (media : String) : Option Bytes :=
  if media = "text/plain" then record.text.map utf8
  else if media = "text/html" then record.html.map utf8
  else if media = "text/rtf" then record.rtf.map utf8
  else if media = "image/png" then record.imagePng
  else none

/-- The media types of the payload fields that are set. -/
def SyncRecord.payloadMedia (record : SyncRecord) : List String :=
  knownMedia.filter fun media => (record.field media).isSome

/-- A part arrived as described, and is in the field of its media type. -/
structure PartReceived (platform : Platform) (record : SyncRecord)
    (part : Proto.BlobRef × String × Nat) (taken : List Bytes) : Prop
    extends Described platform part taken where
  field : record.field part.2.1 = some taken.flatten

/-- What is known of a record that was received. -/
structure Received (platform : Platform) (now later : Int) (wire : Proto.ClipboardReplicaRecord)
    (frames : List Bytes) (replica : ReplicaRecord) (rest : List Bytes) : Prop where
  header : metadataFromWire now later wire = .ok replica.stripped
  kind : replica.record.kind ≠ .files
  memberships : (replica.record.labelMemberships.map LabelMembership.labelId).Nodup
  live : replica.record.live = true →
    replica.record.changeKind = .copy ∧ replica.record.deleted = false
  metadataOnly : wire.metadataOnly = true →
    replica.record.payloadMedia = [] ∧ replica.record.live = false ∧ rest = frames
  payload : wire.metadataOnly = false →
    replica.record.payloadMedia =
        (expectedParts replica.record wire.parts.length).map Prod.fst ∧
      wire.parts.length = (expectedParts replica.record wire.parts.length).length ∧
      ∃ taken : List (List Bytes), frames = taken.flatten ++ rest ∧
        List.Forall₂ (PartReceived platform replica.record)
          (wire.parts.zip (expectedParts replica.record wire.parts.length)) taken
  text : wire.metadataOnly = false → replica.record.kind = .text →
    replica.record.deleted = false → ∃ text, replica.record.text = some text ∧ text ≠ ""

theorem utf8_of_fromUtf8 {text : String} (valid : fromUtf8 bytes = some text) :
    utf8 text = bytes := by
  unfold fromUtf8 String.fromUTF8? at valid
  split at valid
  · cases valid
    rfl
  · cases valid

/-- The record without its payload, its labels and its text syntax. -/
def SyncRecord.bare (record : SyncRecord) : SyncRecord :=
  { record with
    text := none, html := none, rtf := none, imagePng := none, labels := [], textSyntax := .plain }

/-- Storing a part sets the field of its media type and nothing else. -/
theorem storePart_ok (known : media ∈ knownMedia)
    (stores : storePart record media bytes = .ok stored) :
    stored.field media = some bytes ∧ (∀ other ≠ media, stored.field other = record.field other) ∧
      stored.bare = record.bare := by
  unfold storePart at stores
  split at stores
  next image =>
    subst image
    cases stores
    exact ⟨rfl, fun other different => by simp [SyncRecord.field, different], rfl⟩
  next textual =>
    split at stores
    · cases stores
    next text valid =>
      have same := utf8_of_fromUtf8 valid
      split at stores
      next plain =>
        subst plain
        cases stores
        exact ⟨congrArg some same, fun other different => by simp [SyncRecord.field, different], rfl⟩
      next notPlain =>
        split at stores
        next html =>
          subst html
          cases stores
          exact ⟨congrArg some same, fun other different => by simp [SyncRecord.field, different],
            rfl⟩
        next notHtml =>
          have rtf : media = "text/rtf" := by simpa [knownMedia, textual, notPlain, notHtml] using known
          subst rtf
          cases stores
          exact ⟨congrArg some same, fun other different => by simp [SyncRecord.field, different],
            rfl⟩

/-- Storing parts of different media types sets their fields and nothing else. -/
theorem foldlM_storePart {taken : List (List Bytes)}
    (distinct : (parts.map fun part => part.2.1).Nodup)
    (known : ∀ part ∈ parts, part.2.1 ∈ knownMedia)
    (described : List.Forall₂ (Described platform) parts taken)
    (stores : (parts.zip taken).foldlM
      (fun record part => storePart record part.1.2.1 part.2.flatten) record = .ok stored) :
    List.Forall₂ (PartReceived platform stored) parts taken ∧
      (∀ media ∉ parts.map fun part => part.2.1, stored.field media = record.field media) ∧
      stored.bare = record.bare := by
  induction described generalizing record with
  | nil =>
      cases stores
      exact ⟨.nil, fun _ _ => rfl, rfl⟩
  | @cons part _ _ _ described _ ih =>
      rw [List.zip_cons_cons, List.foldlM_cons] at stores
      obtain ⟨next, storesFirst, storesRest⟩ := except_bind_ok stores
      obtain ⟨fresh, distinctRest⟩ := List.nodup_cons.mp distinct
      obtain ⟨field, others, bare⟩ := storePart_ok (known part (.head _)) storesFirst
      obtain ⟨received, untouched, bareRest⟩ := ih distinctRest
        (fun part member => known part (.tail _ member)) storesRest
      refine ⟨.cons ⟨described, (untouched _ fresh).trans field⟩ received, ?_, bareRest.trans bare⟩
      intro media absent
      rw [List.map_cons, List.mem_cons, not_or] at absent
      exact (untouched media absent.2).trans (others media absent.1)

/-- The parts a header may announce have different known media types, in the order of the fields. -/
theorem expectedParts_media (record : SyncRecord) (announced : Nat) :
    ((expectedParts record announced).map Prod.fst).Nodup ∧
      (∀ part ∈ expectedParts record announced, part.1 ∈ knownMedia) ∧
      knownMedia.filter ((expectedParts record announced).map Prod.fst).contains =
        (expectedParts record announced).map Prod.fst := by
  unfold expectedParts
  split
  · decide
  · cases record.kind with
    | text =>
        dsimp only
        decide
    | html =>
        dsimp only
        split
        · decide
        · decide
    | image =>
        dsimp only
        decide
    | files =>
        dsimp only
        decide

theorem expectedParts_of_bare {first second : SyncRecord} (same : first.bare = second.bare)
    (announced : Nat) : expectedParts first announced = expectedParts second announced := by
  have deleted : first.bare.deleted = second.bare.deleted := congrArg SyncRecord.deleted same
  have kind : first.bare.kind = second.bare.kind := congrArg SyncRecord.kind same
  change first.deleted = second.deleted at deleted
  change first.kind = second.kind at kind
  rw [expectedParts, expectedParts, deleted, kind]

theorem field_of_bare (bare : record.bare = record) (media : String) :
    record.field media = none := by
  rw [← bare]
  simp [SyncRecord.field, SyncRecord.bare]

/-- The fields that are set are those of the parts, when none was set before. -/
theorem payloadMedia_of_parts {taken : List (List Bytes)}
    (received : List.Forall₂ (PartReceived platform record) parts taken)
    (others : ∀ media ∉ parts.map fun part => part.2.1, record.field media = none) :
    record.payloadMedia = knownMedia.filter (parts.map fun part => part.2.1).contains := by
  have set : ∀ part ∈ parts, (record.field part.2.1).isSome = true := by
    clear others
    induction received with
    | nil => exact fun part member => nomatch member
    | cons head _ ih =>
        refine List.forall_mem_cons.mpr ⟨?_, ih⟩
        rw [head.field]
        rfl
  refine List.filter_congr fun media _ => ?_
  by_cases member : media ∈ parts.map fun part => part.2.1
  · rw [List.contains_iff_mem.mpr member]
    obtain ⟨part, inside, rfl⟩ := List.mem_map.mp member
    exact set part inside
  · rw [others media member]
    simpa using member

theorem map_media_zip {references : List Proto.BlobRef} {expected : List (String × Nat)}
    (count : references.length = expected.length) :
    (references.zip expected).map (fun part => part.2.1) = expected.map Prod.fst := by
  have zipped := congrArg (List.map Prod.fst) (List.map_snd_zip count.ge)
  rwa [List.map_map] at zipped

/-- The record that was put together from its parts. -/
theorem received_of_parts {now later : Int} {metadata : ReplicaRecord}
    (decoded : metadataFromWire now later wire = .ok metadata)
    (contents : wire.metadataOnly = false)
    (count : wire.parts.length = (expectedParts metadata.record wire.parts.length).length)
    (parts : receiveParts platform metadata.record
      (wire.parts.zip (expectedParts metadata.record wire.parts.length)) frames = .ok (record, rest))
    (nonempty : ¬ (record.kind = .text && record.text.all String.isEmpty && !record.deleted) = true)
    (textSyntax : TextSyntax) :
    Received platform now later wire frames
      { metadata with record := { record with textSyntax := textSyntax } } rest := by
  have accepted := accepted_of_metadataFromWire decoded
  have bare : metadata.record.bare = metadata.record := congrArg ReplicaRecord.record accepted.bare
  obtain ⟨distinct, known, ordered⟩ := expectedParts_media metadata.record wire.parts.length
  have medias := map_media_zip count
  obtain ⟨taken, split, described, stores⟩ := receiveParts_ok parts
  obtain ⟨received, untouched, kept⟩ := foldlM_storePart (medias ▸ distinct)
    (fun part member => known part.2 (List.of_mem_zip member).2) described stores
  have same : record.bare = metadata.record := kept.trans bare
  have media := payloadMedia_of_parts received fun media absent =>
    (untouched media absent).trans (field_of_bare bare media)
  rw [medias, ordered] at media
  have expected : expectedParts record wire.parts.length =
      expectedParts metadata.record wire.parts.length := expectedParts_of_bare kept _
  have header : (⟨record.bare, metadata.firstCapturedAtMs, metadata.copyCount,
      metadata.lastUsedAtMs⟩ : ReplicaRecord) = metadata := by rw [same]
  refine ⟨decoded.trans (congrArg Except.ok header.symm), ?_, ?_, ?_, ?_, fun _ => ⟨?_, ?_, ?_⟩, ?_⟩
  · exact header ▸ accepted.kind
  · exact header ▸ accepted.memberships
  · exact header ▸ accepted.live
  · intro only
    rw [contents] at only
    cases only
  · exact media.trans (congrArg _ expected.symm)
  · exact count.trans (congrArg _ expected.symm)
  · refine ⟨taken, split, ?_⟩
    change List.Forall₂ _ (wire.parts.zip (expectedParts record _)) _
    rw [expected]
    exact received.imp fun part frames found => ⟨found.toDescribed, found.field⟩
  · intro _ text alive
    change record.kind = .text at text
    change record.deleted = false at alive
    change ∃ value, record.text = some value ∧ value ≠ ""
    rw [text, alive] at nonempty
    cases present : record.text with
    | none =>
        rw [present] at nonempty
        exact absurd rfl nonempty
    | some value =>
        rw [present] at nonempty
        exact ⟨value, rfl, by simpa using nonempty⟩

theorem receiveRecord_received {now later : Int} {replica : ReplicaRecord}
    (received : receiveRecord platform now later wire frames = .ok (replica, rest)) :
    Received platform now later wire frames replica rest := by
  obtain ⟨metadata, decoded, received⟩ := except_bind_ok received
  have accepted := accepted_of_metadataFromWire decoded
  cases only : wire.metadataOnly with
  | true =>
      rw [if_pos only] at received
      split at received
      · cases received
      next fine =>
        cases received
        simp only [Bool.or_eq_true, not_or, Bool.not_eq_true] at fine
        have bare : replica.record.bare = replica.record :=
          congrArg ReplicaRecord.record accepted.bare
        refine ⟨by rw [accepted.bare, decoded], accepted.kind, accepted.memberships, accepted.live,
          fun _ => ⟨?_, fine.2, rfl⟩, fun contents => ?_, fun contents => ?_⟩
        · exact List.filter_eq_nil_iff.mpr fun media _ => by simp [field_of_bare bare]
        · rw [only] at contents
          cases contents
        · rw [only] at contents
          cases contents
  | false =>
      rw [if_neg (by simp [only])] at received
      dsimp only at received
      split at received
      · cases received
      next count =>
        obtain ⟨⟨record, left⟩, parts, received⟩ := except_bind_ok received
        dsimp only at received
        split at received
        · cases received
        next nonempty =>
          cases received
          exact received_of_parts decoded only (not_not.mp count) parts nonempty _

/-! ### The unreachable arms -/

theorem expectedPartsOrPanic_eq (kind : record.kind ≠ .files) (announced : Nat) :
    expectedPartsOrPanic record announced = some (expectedParts record announced) := by
  unfold expectedPartsOrPanic expectedParts
  split
  · rfl
  · split
    · rfl
    · rfl
    · rfl
    next files => exact absurd files kind

theorem storePartOrPanic_eq (known : media ∈ knownMedia) (record : SyncRecord) (bytes : Bytes) :
    storePartOrPanic record media bytes = some (storePart record media bytes) := by
  unfold storePartOrPanic storePart
  split
  · rfl
  next textual =>
    cases fromUtf8 bytes with
    | none => rfl
    | some text =>
        dsimp only
        split
        · rfl
        next notPlain =>
          split
          · rfl
          next notHtml =>
            have rtf : media = "text/rtf" := by
              simpa [knownMedia, textual, notPlain, notHtml] using known
            rw [if_pos rtf]

theorem receivePartsOrPanic_eq (known : ∀ part ∈ parts, part.2.1 ∈ knownMedia)
    (record : SyncRecord) (frames : List Bytes) :
    receivePartsOrPanic platform record parts frames =
      some (receiveParts platform record parts frames) := by
  induction parts generalizing record frames with
  | nil => rfl
  | cons part _ ih =>
      obtain ⟨reference, media, limit⟩ := part
      have head : media ∈ knownMedia := known _ (.head _)
      rw [receivePartsOrPanic, receiveParts, receivePart]
      split
      · rfl
      · cases readPart platform reference.size [] frames with
        | error => rfl
        | ok read =>
            obtain ⟨bytes, left⟩ := read
            simp only [bind, Except.bind]
            rw [storePartOrPanic_eq head]
            split
            · rfl
            · cases storePart record media bytes with
              | error => rfl
              | ok stored =>
                  exact ih (fun part member => known part (.tail _ member)) stored
                    left

/-- Neither arm is reached. -/
theorem receiveRecordOrPanic_eq (now later : Int) (wire : Proto.ClipboardReplicaRecord)
    (frames : List Bytes) :
    receiveRecordOrPanic platform now later wire frames =
      some (receiveRecord platform now later wire frames) := by
  unfold receiveRecordOrPanic receiveRecord
  cases decoded : metadataFromWire now later wire with
  | error => rfl
  | ok replica =>
      have accepted := accepted_of_metadataFromWire decoded
      have known := (expectedParts_media replica.record wire.parts.length).2.1
      simp only [bind, Except.bind]
      rw [expectedPartsOrPanic_eq accepted.kind]
      dsimp only
      rw [receivePartsOrPanic_eq fun part member => known part.2 (List.of_mem_zip member).2]
      split
      · split
        · rfl
        · rfl
      · split
        · rfl
        · cases receiveParts platform replica.record
            (wire.parts.zip (expectedParts replica.record wire.parts.length)) frames with
          | error => rfl
          | ok =>
              dsimp only
              split
              · rfl
              · rfl

/-! ### Ending -/

/-- The bytes all parts of a record have at most. -/
def payloadLimit : Nat := textLimit + richLimit + richLimit

theorem expectedParts_limit (record : SyncRecord) (announced : Nat) :
    ((expectedParts record announced).map Prod.snd).sum ≤ payloadLimit := by
  unfold expectedParts
  split
  · decide
  · cases record.kind with
    | text =>
        dsimp only
        decide
    | html =>
        dsimp only
        split
        · decide
        · decide
    | image =>
        dsimp only
        decide
    | files =>
        dsimp only
        decide

theorem partsLimit_zip {references : List Proto.BlobRef} {expected : List (String × Nat)}
    (count : references.length = expected.length) :
    partsLimit (references.zip expected) = (expected.map Prod.snd).sum := by
  have zipped := congrArg (List.map Prod.snd) (List.map_snd_zip count.ge)
  rw [List.map_map] at zipped
  exact congrArg List.sum zipped

/-- A record is received or refused within as many frames as its parts have bytes. -/
theorem receiveRecord_append (enough : payloadLimit ≤ frames.length) (now later : Int)
    (wire : Proto.ClipboardReplicaRecord) (more : List Bytes) :
    receiveRecord platform now later wire (frames ++ more) =
      (receiveRecord platform now later wire frames).map
        fun received => (received.1, received.2 ++ more) := by
  unfold receiveRecord
  cases metadataFromWire now later wire with
  | error => rfl
  | ok replica =>
      simp only [bind, Except.bind]
      split
      · split
        · rfl
        · rfl
      · split
        · rfl
        next count =>
          have bounded := partsLimit_zip (not_not.mp count) ▸
            (expectedParts_limit replica.record wire.parts.length).trans enough
          rw [receiveParts_append bounded]
          cases receiveParts platform replica.record
            (wire.parts.zip (expectedParts replica.record wire.parts.length)) frames with
          | error => rfl
          | ok =>
              simp only [Except.map]
              split
              · rfl
              · rfl

end Reception

/-- For every header and all frames: no `unreachable!()` arm is reached; each part is settled within
as many frames as it announces bytes, and the whole record within the limits of its parts, whatever
frames follow; and what is received is as the header announced it. -/
theorem receive_record_safe (platform : Platform) (now later : Int)
    (wire : Proto.ClipboardReplicaRecord) :
    (∀ frames, receiveRecordOrPanic platform now later wire frames =
      some (receiveRecord platform now later wire frames)) ∧
    (∀ size frames, size ≤ frames.length → ∀ more,
      readPart platform size [] (frames ++ more) =
        (readPart platform size [] frames).map fun read => (read.1, read.2 ++ more)) ∧
    (∀ frames, payloadLimit ≤ frames.length → ∀ more,
      receiveRecord platform now later wire (frames ++ more) =
        (receiveRecord platform now later wire frames).map
          fun received => (received.1, received.2 ++ more)) ∧
    ∀ frames replica rest, receiveRecord platform now later wire frames = .ok (replica, rest) →
      Received platform now later wire frames replica rest := by
  refine ⟨receiveRecordOrPanic_eq now later wire, fun size frames enough more => ?_,
    fun frames enough more => receiveRecord_append enough now later wire more,
    fun frames replica rest received => receiveRecord_received received⟩
  exact readPart_append (by rw [List.length_nil, Nat.zero_add]; exact enough) more

/-- The note is received from its two frames, and has its text. -/
theorem receive_record_safe_note :
    ∃ wire parts, encodeRecord plainPlatform jsonNote = .ok (wire, parts) ∧
      Received plainPlatform 20 20 wire (sendParts plainPlatform parts) jsonNote [] := by
  refine ⟨_, _, rfl, ?_⟩
  exact (receive_record_safe plainPlatform 20 20 _).2.2.2 _ _ _ (by decide +kernel)

end ArcRelay.ClipboardReplication
