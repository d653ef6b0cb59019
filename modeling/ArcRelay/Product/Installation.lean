/-
Module: ArcRelay.Product.Installation
Purpose: The installation identity of a product: `load_or_create` as a program over one file, and
  any number of launches that share the file.
Trusted boundary: serde_json, the uuid crate, the clock and the file system, as far as
  `Externals`, `Launch` and `perform` describe them
-/
import ArcRelay.Library.RecordedPools
import ArcRelay.Product.Manifest

namespace ArcRelay.Product

structure ProductInstallation where
  schemaVersion : UInt16
  productId : String
  installationId : String
  createdAtMs : Int64
deriving Repr, DecidableEq

def productInstallationSchemaVersion : UInt16 := 1

/-- What the product code takes from other crates: `serde_json::to_vec_pretty`,
`serde_json::from_slice` and `Uuid::parse_str`. -/
structure Externals where
  toVecPretty : ProductInstallation → Except String Bytes
  fromSlice : Bytes → Except String ProductInstallation
  parseUuid : String → Option (Vector UInt8 16)

variable (externals : Externals)

/-- `is_uuid_v4`: the version is the upper half of the seventh byte. -/
def isUuidV4 (value : String) : Bool :=
  (externals.parseUuid value).any fun uuid => decide ((uuid[6] : UInt8) >>> 4 = 4)

/-- `now_ms`, from the milliseconds since the epoch; there are none if the clock is set to a time
before it. -/
def nowMs (sinceEpoch : Option Nat) : Int64 :=
  Int64.ofNat (min (sinceEpoch.getD 0) i64Max.toNat)

/-- What one launch draws from the random source and reads from the clock.  `Uuid::new_v4` draws
a UUID of version 4. -/
structure Launch (externals : Externals) where
  uuid : String
  sinceEpoch : Option Nat
  random : isUuidV4 externals uuid = true

variable (manifest : ProductManifest)

/-- The identity a launch writes if it finds none. -/
def newInstallation {externals : Externals} (launch : Launch externals) : ProductInstallation where
  schemaVersion := productInstallationSchemaVersion
  productId := manifest.productId
  installationId := launch.uuid
  createdAtMs := nowMs launch.sinceEpoch

/-! ### The steps of `load_or_create` -/

/-- The calls to the file system.  All but the first two are about the identity file. -/
inductive FileCall where
  | createDirAll
  | hardenDirectory
  | pathExists
  /-- `create_private_file`: create the file unless there is one. -/
  | createPrivateFile
  /-- One `write` of the handle that created the file; the answer is how many bytes it took. -/
  | write (bytes : Bytes)
  | syncAll
  | hardenPrivateFile
  /-- Whether the path is a symlink. -/
  | symlinkMetadata
  | read
deriving Repr, DecidableEq

@[reducible] def FileCall.Answer : FileCall → Type
  | .createDirAll => Except IoError Unit
  | .hardenDirectory => Except IoError Unit
  -- `Path::exists` has no error: a failed lookup is a file that is not there.
  | .pathExists => Bool
  | .createPrivateFile => Except IoError Unit
  | .write _ => Except IoError Nat
  | .syncAll => Except IoError Unit
  | .hardenPrivateFile => Except IoError Unit
  | .symlinkMetadata => Except IoError Bool
  | .read => Except IoError Bytes

abbrev FileProgram := Program FileCall FileCall.Answer

/-- A part of a launch that ends it when it fails. -/
abbrev Launching := ExceptT ProtocolError FileProgram

def await (call : FileCall) : FileProgram call.Answer := Program.ask call

/-- `?` on an I/O result. -/
def attempt {Value : Type} (call : FileProgram (Except IoError Value)) : Launching Value :=
  ExceptT.mk do
    match ← call with
    | .ok value => return .ok value
    | .error error => return .error (.io error)

/-- `Write::write_all`: write until nothing is left.  A write that takes nothing is an error. -/
def writeAll : Bytes → FileProgram (Except IoError Unit)
  | [] => return .ok ()
  | byte :: rest => do
      match ← await (.write (byte :: rest)) with
      | .error error => return .error error
      | .ok 0 => return .error ⟨.writeZero, "failed to write whole buffer"⟩
      | .ok (taken + 1) => writeAll (rest.drop taken)
termination_by bytes => bytes.length
decreasing_by
  simp only [List.length_drop, List.length_cons]
  omega

/-- The fields a stored identity has to agree in. -/
def matchesProduct (installation : ProductInstallation) : Bool :=
  !(decide (installation.schemaVersion ≠ productInstallationSchemaVersion) ||
    decide (installation.productId ≠ manifest.productId) ||
    !isUuidV4 externals installation.installationId ||
    decide (installation.createdAtMs ≤ 0))

/-- `load_installation` once it has read the file. -/
def acceptInstallation (bytes : Bytes) : Launching ProductInstallation :=
  match externals.fromSlice bytes with
  | .error failure => throw (.serialization failure)
  | .ok installation =>
      if !matchesProduct externals manifest installation then
        throw (productError "product installation identity does not match this product")
      else do
        attempt (await .hardenPrivateFile)
        return installation

def loadInstallation : Launching ProductInstallation := do
  let symlink ← attempt (await .symlinkMetadata)
  if symlink then
    throw (productError "product installation identity cannot be a symlink")
  else
    let bytes ← attempt (await .read)
    acceptInstallation externals manifest bytes

/-- The arm of `load_or_create` whose `create_private_file` succeeded. -/
def storeInstallation (installation : ProductInstallation) (bytes : Bytes) :
    Launching ProductInstallation := do
  attempt (writeAll bytes)
  attempt (await .syncAll)
  attempt (await .hardenPrivateFile)
  return installation

/-- `load_or_create` once it has seen no identity file. -/
def createInstallation (installation : ProductInstallation) : Launching ProductInstallation := do
  match externals.toVecPretty installation with
  | .error failure => throw (.serialization failure)
  | .ok bytes =>
      match ← ExceptT.lift (await .createPrivateFile) with
      | .ok () => storeInstallation installation bytes
      | .error error =>
          if error.kind = .alreadyExists then loadInstallation externals manifest
          else throw (.io error)

/-- `ProductInstallation::load_or_create`. -/
def loadOrCreate (launch : Launch externals) : Launching ProductInstallation := do
  match manifest.validate with
  | .error failure => throw failure
  | .ok () =>
      attempt (await .createDirAll)
      attempt (await .hardenDirectory)
      let found : Bool ← ExceptT.lift (await .pathExists)
      if found then loadInstallation externals manifest
      else createInstallation externals manifest (newInstallation manifest launch)

/-! ### The file -/

/-- The identity file: the launch that created it, whose handle alone may write it, and what it
holds. -/
structure IdentityFile where
  creator : Nat
  content : Bytes
deriving Repr, DecidableEq

/-- What the file system decides at one call: it serves it, a `write` with at most `count` bytes,
or it fails. -/
inductive Service where
  | serves (count : Nat)
  | fails (text : String)
deriving Repr, DecidableEq

/-- A call that changes nothing a launch looks at. -/
def unobserved (service : Service) (file : Option IdentityFile) :
    Option (Except IoError Unit × Option IdentityFile) :=
  match service with
  | .serves _ => some (.ok (), file)
  | .fails text => some (.error ⟨.other, text⟩, file)

/-- One call of `launch` on the shared file.  Each is atomic: creation excludes every other, and
what a handle has written is seen by the next read. -/
def perform (launch : Nat) (service : Service) (file : Option IdentityFile) :
    (call : FileCall) → Option (call.Answer × Option IdentityFile)
  | .createDirAll => unobserved service file
  | .hardenDirectory => unobserved service file
  | .syncAll => unobserved service file
  | .hardenPrivateFile => unobserved service file
  | .pathExists =>
      match service with
      | .serves _ => some (file.isSome, file)
      | .fails _ => some (false, file)
  | .createPrivateFile =>
      match service with
      | .fails text => some (.error ⟨.other, text⟩, file)
      | .serves _ =>
          match file with
          | some _ => some (.error ⟨.alreadyExists, "File exists (os error 17)"⟩, file)
          | none => some (.ok (), some ⟨launch, []⟩)
  | .write bytes =>
      match service with
      | .fails text => some (.error ⟨.other, text⟩, file)
      | .serves count =>
          match file with
          | some ⟨creator, content⟩ =>
              if creator = launch then
                some (.ok (min count bytes.length),
                  some ⟨creator, content ++ bytes.take (min count bytes.length)⟩)
              else none
          | none => none
  | .symlinkMetadata =>
      match service with
      | .fails text => some (.error ⟨.other, text⟩, file)
      | .serves _ =>
          match file with
          | some _ => some (.ok false, file)
          | none => some (.error ⟨.notFound, "No such file or directory (os error 2)"⟩, file)
  | .read =>
      match service with
      | .fails text => some (.error ⟨.other, text⟩, file)
      | .serves _ =>
          match file with
          | some ⟨_, content⟩ => some (.ok content, file)
          | none => some (.error ⟨.notFound, "No such file or directory (os error 2)"⟩, file)

/-- Any number of launches of one product on one directory.  A launch may be killed at every
step. -/
def launches : Machine Nat Service (Launch externals)
      (Recorded (Option IdentityFile) (Launch externals) FileCall FileCall.Answer
        (Except ProtocolError ProductInstallation))
      FileCall FileCall.Answer (Except ProtocolError ProductInstallation) :=
  recordedMachine (fun launch => (loadOrCreate externals manifest launch).run) perform

end ArcRelay.Product
