/-
Module: ArcRelay.ClipboardReplication.Reconcile
Purpose: The side of replication that reconciles its clipboard with a peer's: the walks through
  collections, labels and records, what is fetched and sent, and the passes.
Trusted boundary: what the clipboard service of the core and the peer answer
-/
import ArcRelay.Library.HashMap
import ArcRelay.Library.ProgramRuns
import ArcRelay.ClipboardReplication.Peer

namespace ArcRelay.ClipboardReplication

/-! ### Results -/

structure ReconciliationResult where
  collectionReceipts : List (String × String) := []
  received : Nat := 0
  sent : Nat := 0
  labelsReceived : Nat := 0
  labelsSent : Nat := 0
  failed : Nat := 0
  totalRecords : Nat := 0
  converged : Bool := false
  localRevision : Nat := 0
  remoteRevision : Nat := 0
  errors : List String := []
  differences : Nat := 0

section Client

variable (platform : Platform)

def hexByte (byte : UInt8) : String :=
  let digits := Nat.toDigits 16 byte.toNat
  String.ofList (if digits.length < 2 then '0' :: digits else digits)

/-- The id under which a record's failure is reported: six bytes of its digest. -/
def recordId (syncId : String) : String :=
  String.join (((platform.sha256 (utf8 syncId)).take 6).map hexByte)

/-- `ReconciliationResult::failure`. -/
def ReconciliationResult.failure (result : ReconciliationResult) (syncId error : String) :
    ReconciliationResult :=
  { result with
    failed := result.failed + 1
    errors :=
      if result.errors.length < 8 then result.errors ++ [recordId platform syncId ++ ": " ++ error]
      else result.errors }

/-! ### The client's calls -/

/-- What the client awaits.  Its loops go on for as long as there are pages; they are bounded
here, and a loop that reaches the bound makes the call that is never answered. -/
inductive ClientCall where
  | host (call : HostCall)
  /-- `PeerClient::request` with the frames of the payload it sends. -/
  | request (body : Request) (frames : List Bytes)
  | forever
deriving Repr, DecidableEq

@[reducible] def ClientCall.Answer : ClientCall → Type
  | .host call => call.Answer
  | .request _ _ => Except String (Response × List Bytes)
  | .forever => Empty

abbrev ClientProgram := Program ClientCall ClientCall.Answer

/-- The client's code: it can fail with a text, and keeps the result it has come to. -/
abbrev Reconciling := ExceptT String (StateT ReconciliationResult ClientProgram)

/-- The client's code where it does not touch the result. -/
abbrev Asking := ExceptT String ClientProgram

/-- Code that only needs the device's own host. -/
def onHost {Value : Type} (program : Serving Value) : Asking Value :=
  ExceptT.mk (program.run.interpret fun call => Program.ask (ClientCall.host call))

/-- `PeerClient::request`. -/
def request (body : Request) (frames : List Bytes) : Asking (Response × List Bytes) :=
  ExceptT.mk (Program.ask (ClientCall.request body frames))

/-- A loop past its bound. -/
def forever {Value : Type} : Asking Value := ExceptT.mk (Program.ask ClientCall.forever >>= Empty.elim)

/-- `.await?` within code that keeps a result. -/
def awaiting {Value : Type} (asking : Asking Value) : Reconciling Value :=
  ExceptT.mk (StateT.lift asking.run)

/-- `.await` whose failure is looked at. -/
def outcomeOf {Value : Type} (asking : Asking Value) : Reconciling (Except String Value) :=
  ExceptT.lift (StateT.lift asking.run)

/-! ### The peer's client -/

/-- `PeerClient::revision`. -/
def peerRevision : Asking Nat := do
  match (← request .revision []).1 with
  | .revision revision => return revision
  | _ => throw "invalid clipboard revision response"

/-- `PeerClient::fetch`. -/
def fetch (syncId : String) : Asking ReplicaRecord := do
  match ← request (.fetch syncId) [] with
  | (.record header, frames) =>
      if header.metadata.all (·.syncId ≠ syncId) then
        throw "clipboard response record mismatch"
      else
        onHost (readRecord platform header frames)
  | _ => throw "invalid clipboard record response"

/-- The definitions of the labels a record refers to. -/
def labelDefinitions (record : SyncRecord) : List Label :=
  record.labels.filter fun label => record.labelMemberships.any (·.labelId = label.id)

def sendDefinitions : List (List Label) → Asking Unit
  | [] => return ()
  | labels :: rest => do
      let _ ← request (.storeLabels (labels.map labelToWire)) []
      sendDefinitions rest

/-- A storage check before a payload is sent; a live record is sent without it. -/
def checkStorage (replica : ReplicaRecord) (includePayload : Bool) : Asking Unit := do
  if includePayload && !replica.record.live then
    let _ ← request (.check (metadataToWire replica)) []

/-- `PeerClient::send_record`. -/
def sendRecord (replica : ReplicaRecord) (includePayload : Bool) : Asking Bool := do
  checkStorage replica includePayload
  sendDefinitions (chunks 100 (labelDefinitions replica.record))
  let (header, parts) ← onHost (valid
    (if includePayload then encodeRecord platform replica else .ok (metadataToWire replica, [])))
  match (← request (.store header) (sendParts platform parts)).1 with
  | .changed count => return decide (count > 0)
  | _ => throw "invalid clipboard receipt"

/-! ### Collections -/

/-- What the walk through the peer's collections gathers. -/
structure RemoteCollections where
  values : HashMap String Collection
  edits : Bool
  favorites : Bool

def receiveCollections (cursor : String) (edits favorites : Bool) :
    HashMap String Collection → List CollectionRecord →
      Reconciling (HashMap String Collection)
  | remote, [] => return remote
  | remote, wire :: rest => do
      let value ← awaiting (onHost (valid (decodeCollection platform wire)))
      if value.id ≤ cursor then
        throw "invalid collection order"
      else
        let changed ← awaiting
          (onHost (attempt (await (.receiveCollection value edits favorites))))
        modify fun result =>
          { result with
            received := result.received + changed.toNat
            differences := result.differences + changed.toNat }
        receiveCollections cursor edits favorites (remote.insert value.id value) rest

def scanCollections : Nat → String → HashMap String Collection → Reconciling RemoteCollections
  | 0, _, _ => awaiting forever
  | rounds + 1, cursor, remote => do
      match (← awaiting (request (.scanCollections cursor) [])).1 with
      | .collections page =>
          let remote ← receiveCollections platform cursor page.syncEditsAndDeletes
            page.syncFavorites remote page.records
          if remote.size > 10000 then
            throw "too many collections"
          else if page.nextCursor.isEmpty then
            return ⟨remote, page.syncEditsAndDeletes, page.syncFavorites⟩
          else if page.nextCursor ≤ cursor then
            throw "invalid collection cursor"
          else
            scanCollections rounds page.nextCursor remote
      | _ => throw "invalid collection page"

/-- Whether the collection's content is to be sent: the peer lacks it, or it is newer here and
both sides synchronize edits. -/
def sendsContent (edits : Bool) (value : Collection) (old : Option Collection) : Bool :=
  old.isNone || (edits && old.any fun remote => remote.version < value.version)

def sendsFavorite (favorites : Bool) (value : Collection) (old : Option Collection) : Bool :=
  favorites && old.any fun remote => remote.favoriteVersion < value.favoriteVersion

/-- The favorite of what is sent: the local one where both sides synchronize favorites, otherwise
the one the peer already has. -/
def outgoingFavorite (favorites : Bool) (value : Collection) (old : Option Collection)
    (outgoing : Collection) : Collection :=
  if favorites then
    { outgoing with
      favorite := value.favorite
      favoriteRevision := value.favoriteRevision
      favoriteUpdatedByDeviceId := value.favoriteUpdatedByDeviceId }
  else
    match old with
    | some remote =>
        { outgoing with
          favorite := remote.favorite
          favoriteRevision := remote.favoriteRevision
          favoriteUpdatedByDeviceId := remote.favoriteUpdatedByDeviceId }
    | none =>
        { outgoing with
          favorite := false
          favoriteRevision := 0
          favoriteUpdatedByDeviceId := "" }

/-- What is sent for a collection: the local content, or the peer's own for the sake of a
favorite. -/
def outgoingCollection (sendContent favorites : Bool) (value : Collection)
    (old : Option Collection) : Except String Collection :=
  if sendContent then .ok (outgoingFavorite favorites value old value)
  else
    match old with
    | some remote => .ok (outgoingFavorite favorites value old remote)
    | none => .error "collection version missing"

/-- The body of the loop over the local collections. -/
def sendCollection (preferences : SyncPreferences) (remote : RemoteCollections)
    (value : Collection) : Reconciling Unit := do
  let old := remote.values.lookup value.id
  let edits := preferences.syncEditsAndDeletes && remote.edits
  let favorites := preferences.syncFavorites && remote.favorites
  let sendContent := sendsContent edits value old
  if !sendContent && !sendsFavorite favorites value old then
    return ()
  else if value.deleted && !edits then
    return ()
  else
    let outgoing ← awaiting (onHost (valid (outgoingCollection sendContent favorites value old)))
    let wire ← awaiting (onHost (valid (encodeCollection platform outgoing)))
    match (← awaiting (request (.storeCollection wire) [])).1 with
    | .changed count =>
        modify fun result =>
          { result with
            sent := result.sent + count
            differences := result.differences + count }
    | _ => throw "invalid collection receipt"

def sendCollections (preferences : SyncPreferences) (remote : RemoteCollections) :
    List Collection → Reconciling Unit
  | [] => return ()
  | value :: rest => do
      sendCollection platform preferences remote value
      sendCollections preferences remote rest

def sendCollectionPages (preferences : SyncPreferences) (remote : RemoteCollections) :
    Nat → String → Reconciling Unit
  | 0, _ => awaiting forever
  | rounds + 1, cursor => do
      let page ← awaiting (onHost (attempt (await (.collections cursor))))
      match page.getLast? with
      | none => return ()
      | some last =>
          sendCollections platform preferences remote page
          sendCollectionPages preferences remote rounds last.id

/-- The digest of a collection's document. -/
def fingerprint (value : Collection) : String :=
  String.join ((platform.sha256 (utf8 (platform.collectionToJson value))).map hexByte)

variable (rounds : Nat)

/-- `collections::reconcile`. -/
def reconcileCollections : Reconciling Unit := do
  let remote ← scanCollections platform rounds "" ∅
  modify fun result =>
    { result with
      collectionReceipts :=
        remote.values.entries.map fun entry => (entry.1, fingerprint platform entry.2) }
  let preferences : SyncPreferences ← awaiting (onHost (ExceptT.lift (await .syncPreferences)))
  sendCollectionPages platform preferences remote rounds ""

/-! ### Labels -/

def scanLabels : Nat → String → HashMap String Label → Reconciling (HashMap String Label)
  | 0, _, _ => awaiting forever
  | rounds + 1, cursor, remote => do
      match (← awaiting (request (.scanLabels cursor) [])).1 with
      | .labels page =>
          let labels ← awaiting (onHost (valid (page.labels.mapM labelFromWire)))
          let remote := labels.foldl (fun remote label => remote.insert label.id label) remote
          let changed ← awaiting (onHost (attempt (await (.applyReplicaLabels labels))))
          modify fun result =>
            { result with
              labelsReceived := result.labelsReceived + changed
              differences := result.differences + changed }
          match page.nextCursor with
          | none => return remote
          | some next =>
              if next ≤ cursor || remote.size > 10000 then
                throw "invalid clipboard labels cursor"
              else
                scanLabels rounds next remote
      | _ => throw "invalid clipboard labels response"

/-- The peer lacks the label or has an older one. -/
def labelMissing (remote : HashMap String Label) (label : Label) : Bool :=
  (remote.lookup label.id).all fun known => known.version < label.version

def sendLabels : List (List Label) → Reconciling Unit
  | [] => return ()
  | labels :: rest => do
      match (← awaiting (request (.storeLabels (labels.map labelToWire)) [])).1 with
      | .changed count =>
          modify fun result =>
            { result with
              labelsSent := result.labelsSent + count
              differences := result.differences + labels.length }
          sendLabels rest
      | _ => throw "invalid clipboard label receipt"

/-- The part of `reconcile_once` that synchronizes the dictionary. -/
def reconcileLabels : Reconciling Unit := do
  let remote ← scanLabels rounds "" ∅
  let labels ← awaiting (onHost (attempt (await .replicaLabels)))
  sendLabels (chunks 100 (labels.filter (labelMissing remote)))

/-! ### Records -/

abbrev Manifest := HashMap String ReplicaRecord

def maxManifestRecords : Nat := 100000

def localManifestPages : Nat → Option ReplicaCursor → Manifest → Asking Manifest
  | 0, _, _ => forever
  | rounds + 1, cursor, records => do
      let page ← onHost (attempt (await (.replicaPage cursor 100)))
      let records := page.records.foldl
        (fun records replica => records.insert replica.record.syncId replica) records
      if records.size > maxManifestRecords then
        throw "clipboard manifest exceeds safety limit"
      else
        match page.nextCursor with
        | none => return records
        | some next => localManifestPages rounds (some next) records

/-- `local_manifest`. -/
def localManifest : Asking Manifest := localManifestPages rounds none ∅

variable (known : Option ReplicaRecord)

/-- The peer's record, with its payload where this device lacks it. -/
def remoteRecord (replica : ReplicaRecord) : Asking ReplicaRecord :=
  if needsPayload known replica then fetch platform replica.record.syncId else pure replica

/-- Take over a record of the peer. -/
def applyRemote (replica : ReplicaRecord) : Asking Bool := do
  onHost (attempt (await (.checkReplicaStorage replica)))
  let replica ← remoteRecord platform known replica
  onHost (attempt (await (.applyReplicaRecord replica)))

/-- Take over a record of the manifest unless the local one covers it. -/
def receiveUncovered (replica : ReplicaRecord) : Reconciling Unit := do
  if known.any (covers · replica) then
    return ()
  else
    modify fun result => { result with differences := result.differences + 1 }
    match ← outcomeOf (applyRemote platform known replica) with
    | .ok true => modify fun result => { result with received := result.received + 1 }
    | .ok false => return ()
    | .error error =>
        modify fun result => result.failure platform replica.record.syncId error

/-- The records of one page of the peer's manifest. -/
def receiveRecords (known : Manifest) :
    Manifest → List Proto.ClipboardReplicaRecord → Reconciling Manifest
  | remote, [] => return remote
  | remote, header :: rest => do
      match ← outcomeOf (onHost (readMetadata header)) with
      | .error error =>
          let id := (header.metadata.map (·.syncId)).getD ""
          modify fun result => result.failure platform id error
          receiveRecords known remote rest
      | .ok replica =>
          receiveUncovered platform (known.lookup replica.record.syncId) replica
          let remote : Manifest := remote.insert replica.record.syncId replica
          if remote.size > maxManifestRecords then
            throw "clipboard manifest exceeds safety limit"
          else
            receiveRecords known remote rest

def scanRecords (known : Manifest) : Nat → Option ReplicaCursor → Manifest → Reconciling Manifest
  | 0, _, _ => awaiting forever
  | rounds + 1, cursor, remote => do
      match (← awaiting (request (.scan cursor 100) [])).1 with
      | .page page =>
          let remote ← receiveRecords platform known remote page.records
          match page.nextCursor with
          | none => return remote
          | some next =>
              if cursor.any (fun old => old.key ≤ next.key) then
                throw "invalid clipboard manifest cursor"
              else
                scanRecords known rounds (some next) remote
      | _ => throw "invalid clipboard manifest response"

/-- Send a record, with its payload where the peer lacks it. -/
def sendLocal (metadata : ReplicaRecord) : Asking Bool := do
  if needsPayload known metadata then
    match ← onHost (attempt (await (.replicaRecord metadata.record.syncId))) with
    | none => throw "clipboard record was removed during synchronization"
    | some replica => sendRecord platform replica true
  else
    sendRecord platform metadata false

/-- Send a local record unless the peer's covers it. -/
def sendUncovered (metadata : ReplicaRecord) : Reconciling Unit := do
  if known.any (covers · metadata) then
    return ()
  else
    modify fun result => { result with differences := result.differences + 1 }
    match ← outcomeOf (sendLocal platform known metadata) with
    | .ok true => modify fun result => { result with sent := result.sent + 1 }
    | .ok false => return ()
    | .error error =>
        modify fun result => result.failure platform metadata.record.syncId error

def sendRecords (remote : Manifest) : List ReplicaRecord → Reconciling Unit
  | [] => return ()
  | metadata :: rest => do
      sendUncovered platform (remote.lookup metadata.record.syncId) metadata
      sendRecords remote rest

/-- The records of a manifest as they are sent: the latest capture first. -/
def manifestOrder (records : Manifest) : List ReplicaRecord :=
  (records.entries.map (·.2)).mergeSort fun first second => second.cursor.key ≤ first.cursor.key

/-- The part of `reconcile_once` that exchanges records. -/
def reconcileRecords : Reconciling Unit := do
  let known ← awaiting (localManifest rounds)
  let remote ← scanRecords platform known rounds none ∅
  let records ← awaiting (localManifest rounds)
  let ordered := manifestOrder records
  modify fun result =>
    { result with totalRecords := (ordered.filter fun replica => !replica.record.deleted).length }
  sendRecords platform remote ordered

/-! ### Passes -/

def reconcileOnce : Reconciling Unit := do
  reconcileCollections platform rounds
  reconcileLabels rounds
  reconcileRecords platform rounds

/-- A pass that found no difference between stable revisions has converged. -/
def markConverged (differences localBefore localAfter remoteBefore remoteAfter : Nat)
    (result : ReconciliationResult) : ReconciliationResult :=
  if differences = result.differences && localBefore = localAfter
      && remoteBefore = remoteAfter then
    { result with converged := true, localRevision := localAfter, remoteRevision := remoteAfter }
  else result

/-- The end of a pass. -/
def settlePass (differences localBefore remoteBefore : Nat) : Reconciling Bool := do
  if (← get).failed > 0 then
    return false
  else
    let localAfter ← awaiting (onHost (attempt (await .revision)))
    let remoteAfter ← awaiting peerRevision
    modify (markConverged differences localBefore localAfter remoteBefore remoteAfter)
    return (← get).converged

def reconcilePass : Reconciling Bool := do
  let localBefore ← awaiting (onHost (attempt (await .revision)))
  let remoteBefore ← awaiting peerRevision
  let differences := (← get).differences
  reconcileOnce platform rounds
  settlePass differences localBefore remoteBefore

/-- The loop of `reconcile` over the passes that are left. -/
def reconcilePasses (rounds : Nat) : Nat → ReconciliationResult → ClientProgram ReconciliationResult
  | 0, result => return result
  | passes + 1, result => do
      match ← (reconcilePass platform rounds).run.run result with
      | (.ok true, result) => return result
      | (.ok false, result) =>
          if result.failed > 0 then return result
          else reconcilePasses rounds passes result
      | (.error error, result) => return result.failure platform "connection" error

/-- `reconcile`, with its loops over pages bounded by `rounds`. -/
def reconcile : ClientProgram ReconciliationResult :=
  reconcilePasses platform rounds 3 {}

end Client

end ArcRelay.ClipboardReplication
