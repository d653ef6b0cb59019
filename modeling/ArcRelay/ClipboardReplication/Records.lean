/-
Module: ArcRelay.ClipboardReplication.Records
Purpose: Clipboard records, labels and collections as two devices exchange them, and the order
  in which one replica of a record covers another.
Trusted boundary: the syntaxes the core tells apart in a text are only distinguished by number
-/
import ArcRelay.Library.Runtime

namespace ArcRelay.ClipboardReplication

inductive ContentKind where
  | text | html | image | files
deriving Repr, DecidableEq

inductive ChangeKind where
  | copy | edit | favorite | delete | snapshot | label
deriving Repr, DecidableEq

/-- `ClipboardTextSyntax` of the core; `plain` is its default. -/
inductive TextSyntax where
  | plain
  | other (code : Nat)
deriving Repr, DecidableEq

/-- A version: a revision and the device that made it, compared in this order. -/
abbrev Version := Nat ×ₗ String

def version (revision : Nat) (device : String) : Version := toLex (revision, device)

structure Label where
  id : String
  name : String
  color : String
  revision : Nat
  updatedByDeviceId : String
  deleted : Bool
deriving Repr, DecidableEq

def Label.version (label : Label) : Version :=
  ClipboardReplication.version label.revision label.updatedByDeviceId

structure LabelMembership where
  labelId : String
  attached : Bool
  revision : Nat
  updatedByDeviceId : String
deriving Repr, DecidableEq

def LabelMembership.version (membership : LabelMembership) : Version :=
  ClipboardReplication.version membership.revision membership.updatedByDeviceId

/-- `ClipboardSyncRecord` of the core. -/
structure SyncRecord where
  syncId : String
  kind : ContentKind
  text : Option String
  html : Option String
  rtf : Option String
  imagePng : Option Bytes
  width : Option Nat
  height : Option Nat
  preview : String
  sourceApp : Option String
  sourceDeviceId : String
  sourceDeviceName : String
  capturedAtMs : Int
  revision : Nat
  updatedByDeviceId : String
  favorite : Bool
  favoriteRevision : Nat
  favoriteUpdatedByDeviceId : String
  labels : List Label
  labelMemberships : List LabelMembership
  deleted : Bool
  changeKind : ChangeKind
  live : Bool
  textSyntax : TextSyntax
deriving Repr, DecidableEq

def SyncRecord.contentVersion (record : SyncRecord) : Version :=
  version record.revision record.updatedByDeviceId

def SyncRecord.favoriteVersion (record : SyncRecord) : Version :=
  version record.favoriteRevision record.favoriteUpdatedByDeviceId

/-- `ClipboardReplicaRecord` of the core. -/
structure ReplicaRecord where
  record : SyncRecord
  firstCapturedAtMs : Int
  copyCount : Nat
  lastUsedAtMs : Option Int
deriving Repr, DecidableEq

structure ReplicaCursor where
  capturedAtMs : Int
  syncId : String
deriving Repr, DecidableEq

/-- Pages run through the records in descending order of this key. -/
def ReplicaCursor.key (cursor : ReplicaCursor) : Int ×ₗ String :=
  toLex (cursor.capturedAtMs, cursor.syncId)

def ReplicaRecord.cursor (replica : ReplicaRecord) : ReplicaCursor :=
  ⟨replica.record.capturedAtMs, replica.record.syncId⟩

structure ReplicaPage where
  records : List ReplicaRecord
  nextCursor : Option ReplicaCursor
deriving Repr, DecidableEq

/-- `ClipboardCollection` of the core; `content` stands for the fields replication only passes
on. -/
structure Collection where
  id : String
  revision : Nat
  updatedByDeviceId : String
  favorite : Bool
  favoriteRevision : Nat
  favoriteUpdatedByDeviceId : String
  deleted : Bool
  content : String
deriving Repr, DecidableEq

def Collection.version (collection : Collection) : Version :=
  ClipboardReplication.version collection.revision collection.updatedByDeviceId

def Collection.favoriteVersion (collection : Collection) : Version :=
  ClipboardReplication.version collection.favoriteRevision
    collection.favoriteUpdatedByDeviceId

/-- `>=` on optional times: `None` is below every time. -/
def notBefore (current incoming : Option Int) : Bool :=
  match current, incoming with
  | _, none => true
  | none, some _ => false
  | some current, some incoming => decide (incoming ≤ current)

def covers (current incoming : ReplicaRecord) : Bool :=
  let a := current.record
  let b := incoming.record
  decide (b.contentVersion ≤ a.contentVersion) &&
    decide (b.favoriteVersion ≤ a.favoriteVersion) &&
    decide (b.capturedAtMs ≤ a.capturedAtMs) &&
    decide (current.firstCapturedAtMs ≤ incoming.firstCapturedAtMs) &&
    decide (incoming.copyCount ≤ current.copyCount) &&
    notBefore current.lastUsedAtMs incoming.lastUsedAtMs &&
    b.labelMemberships.all fun incoming =>
      a.labelMemberships.any fun current =>
        decide (current.labelId = incoming.labelId) &&
          decide (incoming.version ≤ current.version)

def needsPayload (current : Option ReplicaRecord) (incoming : ReplicaRecord) : Bool :=
  !incoming.record.deleted &&
    current.all fun current =>
      decide (current.record.contentVersion < incoming.record.contentVersion)

end ArcRelay.ClipboardReplication
