/-
Module: ArcRelay.ClipboardReplication.Peer
Purpose: The side of replication that serves a peer's requests, as a program over the calls it
  makes of its clipboard service.
Trusted boundary: what the clipboard service of the core answers
-/
import ArcRelay.Library.Program
import ArcRelay.ClipboardReplication.Wire

namespace ArcRelay.ClipboardReplication

/-! ### The host -/

structure SyncPreferences where
  enabled : Bool
  syncEditsAndDeletes : Bool
  syncFavorites : Bool
deriving Repr, DecidableEq

/-- The calls a device makes of its own clipboard service and clock. -/
inductive HostCall where
  | revision
  | replicaPage (cursor : Option ReplicaCursor) (limit : Nat)
  | replicaRecord (syncId : String)
  | replicaLabels
  | applyReplicaLabels (labels : List Label)
  | checkReplicaStorage (replica : ReplicaRecord)
  | applyReplicaRecord (replica : ReplicaRecord)
  | shouldSendSyncRecord (record : SyncRecord)
  | syncPreferences
  | collections (after : String)
  | receiveCollection (collection : Collection) (remoteEdits remoteFavorites : Bool)
  | applyCollection (collection : Collection)
  /-- `chrono_now_ms`. -/
  | clock
deriving Repr, DecidableEq

/-- Failures are given by their text. -/
@[reducible] def HostCall.Answer : HostCall → Type
  | .revision => Except String Nat
  | .replicaPage _ _ => Except String ReplicaPage
  | .replicaRecord _ => Except String (Option ReplicaRecord)
  | .replicaLabels => Except String (List Label)
  | .applyReplicaLabels _ => Except String Nat
  | .checkReplicaStorage _ => Except String Unit
  | .applyReplicaRecord _ => Except String Bool
  | .shouldSendSyncRecord _ => Bool
  | .syncPreferences => SyncPreferences
  | .collections _ => Except String (List Collection)
  | .receiveCollection _ _ _ => Except String Bool
  | .applyCollection _ => Except String Bool
  | .clock => Int

/-! ### Requests and responses -/

structure CollectionRecord where
  formatVersion : Nat
  documentJson : String
deriving Repr, DecidableEq

structure CollectionPage where
  nextCursor : String
  records : List CollectionRecord
  syncEditsAndDeletes : Bool
  syncFavorites : Bool
deriving Repr, DecidableEq

structure LabelPage where
  labels : List Proto.ClipboardLabel
  nextCursor : Option String
deriving Repr, DecidableEq

structure RecordPage where
  records : List Proto.ClipboardReplicaRecord
  nextCursor : Option ReplicaCursor
deriving Repr, DecidableEq

inductive Request where
  | scanCollections (afterId : String)
  | storeCollection (record : CollectionRecord)
  | revision
  | scan (cursor : Option ReplicaCursor) (limit : Nat)
  | fetch (syncId : String)
  | check (header : Proto.ClipboardReplicaRecord)
  | store (header : Proto.ClipboardReplicaRecord)
  | scanLabels (cursor : String)
  | storeLabels (labels : List Proto.ClipboardLabel)
deriving Repr, DecidableEq

inductive Response where
  | collections (page : CollectionPage)
  | changed (count : Nat)
  | revision (revision : Nat)
  | page (page : RecordPage)
  | record (header : Proto.ClipboardReplicaRecord)
  | labels (page : LabelPage)
deriving Repr, DecidableEq

section Service

variable (platform : Platform)

/-! ### Collections -/

def decodeCollection (record : CollectionRecord) : Except String Collection :=
  if record.formatVersion ≠ 1 || record.documentJson.utf8ByteSize > platform.maxCollectionBytes then
    .error "unsupported or oversized clipboard collection"
  else
    match platform.collectionFromJson record.documentJson with
    | none => .error "invalid clipboard collection document"
    | some collection => do
        platform.validateCollection collection
        return collection

def encodeCollection (collection : Collection) : Except String CollectionRecord := do
  platform.validateCollection collection
  return ⟨1, platform.collectionToJson collection⟩

/-! ### Calls -/

abbrev HostProgram := Program HostCall HostCall.Answer

/-- A part of the code that can fail with a text. -/
abbrev Serving := ExceptT String HostProgram

def await (call : HostCall) : HostProgram call.Answer := Program.ask call

/-- `.await.map_err(|e| e.to_string())?`. -/
def attempt {Value : Type} (answer : HostProgram (Except String Value)) : Serving Value :=
  ExceptT.mk answer

/-- `?` on a result that needs no call. -/
def valid {Value : Type} (result : Except String Value) : Serving Value :=
  ExceptT.mk (pure result)

/-- `metadata_from_wire` with its readings of the clock. -/
def readMetadata (header : Proto.ClipboardReplicaRecord) : Serving ReplicaRecord := do
  let now ← ExceptT.lift (await .clock)
  let later ← ExceptT.lift (await .clock)
  valid (metadataFromWire now later header)

/-- `receive_record` with its readings of the clock. -/
def readRecord (header : Proto.ClipboardReplicaRecord) (frames : List Bytes) :
    Serving ReplicaRecord := do
  let now ← ExceptT.lift (await .clock)
  let later ← ExceptT.lift (await .clock)
  let (replica, _) ← valid (receiveRecord platform now later header frames)
  return replica

/-! ### Serving -/

/-- Send as many records of a page as fit half a control frame, but at least one; the cursor then
points at the last one sent. -/
def fitRecords (bytes : Nat) (sent : List ReplicaRecord) :
    List ReplicaRecord → List ReplicaRecord × Bool
  | [] => (sent, false)
  | record :: rest =>
      let size := platform.encodedLen (metadataToWire record)
      if !sent.isEmpty && bytes + size > platform.maxControlFrameSize / 2 then (sent, true)
      else fitRecords (bytes + size) (sent ++ [record]) rest

def scanPage (page : ReplicaPage) : RecordPage :=
  let (sent, cut) := fitRecords platform 0 [] page.records
  { records := sent.map metadataToWire
    nextCursor := if cut then sent.getLast?.map ReplicaRecord.cursor else page.nextCursor }

/-- The answer to `ScanLabels`: the first hundred labels above the cursor, by id. -/
def labelPage (cursor : String) (labels : List Label) : LabelPage :=
  let above := (labels.mergeSort (·.id ≤ ·.id)).filter (cursor < ·.id)
  let sent := above.take 100
  { labels := sent.map labelToWire
    nextCursor := if above.length > 100 then sent.getLast?.map (·.id) else none }

def collectionPage (after : String) : Serving CollectionPage := do
  let preferences : SyncPreferences ← ExceptT.lift (await .syncPreferences)
  if !preferences.enabled then
    throw "clipboard synchronization is disabled"
  else if after.utf8ByteSize > 64 then
    throw "invalid collection cursor"
  else
    let values ← attempt (await (.collections after))
    let records ← valid (values.mapM (encodeCollection platform))
    return {
      nextCursor := (values.getLast?.map (·.id)).getD ""
      records
      syncEditsAndDeletes := preferences.syncEditsAndDeletes
      syncFavorites := preferences.syncFavorites }

/-- The labels of a `StoreLabels` request; `seen` are the ids before them. -/
def labelsFromWire (seen : List String) : List Proto.ClipboardLabel → Except String (List Label)
  | [] => .ok []
  | wire :: rest =>
      if seen.contains wire.id then .error "duplicate clipboard label"
      else do
        let label ← labelFromWire wire
        let labels ← labelsFromWire (wire.id :: seen) rest
        return label :: labels

/-- `serve_request`; the answer is the response and the frames of its payload. -/
def serveRequest (frames : List Bytes) : Request → Serving (Response × List Bytes)
  | .scanCollections after => do
      let page ← collectionPage platform after
      return (.collections page, [])
  | .storeCollection record => do
      let collection ← valid (decodeCollection platform record)
      let changed ← attempt (await (.applyCollection collection))
      return (.changed changed.toNat, [])
  | .revision => do
      let revision ← attempt (await .revision)
      return (.revision revision, [])
  | .scan cursor limit => do
      let page ← attempt (await (.replicaPage cursor (max 1 (min limit 100))))
      return (.page (scanPage platform page), [])
  | .fetch syncId => do
      match ← attempt (await (.replicaRecord syncId)) with
      | none => throw "clipboard record no longer exists"
      | some replica =>
          let allowed : Bool ← ExceptT.lift (await (.shouldSendSyncRecord replica.record))
          if !allowed then
            throw "clipboard synchronization is disabled for this record"
          else
            let (header, parts) ← valid (encodeRecord platform replica)
            return (.record header, sendParts platform parts)
  | .check header => do
      let replica ← readMetadata header
      attempt (await (.checkReplicaStorage replica))
      return (.changed 1, [])
  | .store header => do
      let replica ← readRecord platform header frames
      let changed ← attempt (await (.applyReplicaRecord replica))
      return (.changed changed.toNat, [])
  | .scanLabels cursor => do
      let labels ← attempt (await .replicaLabels)
      return (.labels (labelPage cursor labels), [])
  | .storeLabels labels => do
      if labels.length > 100 then
        throw "clipboard label page exceeds limit"
      else
        let labels ← valid (labelsFromWire [] labels)
        let changed ← attempt (await (.applyReplicaLabels labels))
        return (.changed (changed % 2 ^ 32), [])

/-- `serve_stream`: a failure crosses as the text of the response's status. -/
def serveStream (request : Request) (frames : List Bytes) :
    HostProgram (Except String (Response × List Bytes)) := do
  let preferences : SyncPreferences ← await .syncPreferences
  if !preferences.enabled then
    return .error "clipboard synchronization is disabled"
  else
    (serveRequest platform frames request).run

end Service

end ArcRelay.ClipboardReplication
