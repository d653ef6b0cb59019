/-
Module: ArcRelay.Product.Manifest
Purpose: The manifest of a product and the checks it has to pass.
Trusted boundary: none
-/
import ArcRelay.Library.HashMap
import ArcRelay.Library.Runtime

namespace ArcRelay.Product

/-! ### Errors -/

inductive IoErrorKind where
  | alreadyExists | notFound | writeZero | other
deriving Repr, DecidableEq

structure IoError where
  kind : IoErrorKind
  text : String
deriving Repr, DecidableEq

/-- The cases of `ProtocolError` that the product code returns. -/
inductive ProtocolError where
  | io (error : IoError)
  | serialization (message : String)
  | other (message : String)
deriving Repr, DecidableEq

def productError (message : String) : ProtocolError :=
  .other ("product context error: " ++ message)

/-! ### Manifests -/

inductive CapabilityId where
  | mouse | transfer | clipboard | monitor | privacy | automate | print
deriving Repr, DecidableEq

inductive ActivationPolicy where
  | always | onDemand | onInterest | scheduled
deriving Repr, DecidableEq

structure ProductManifest where
  schemaVersion : UInt16
  productId : String
  productCode : String
  displayName : String
  dataNamespace : String
  includedModules : List CapabilityId
  enabledUiRoutes : List String
  /-- A map; only its keys are looked at. -/
  defaultActivationPolicy : HashMap CapabilityId ActivationPolicy

def productManifestSchemaVersion : UInt16 := 1

/-- `is_ascii_lowercase`, `is_ascii_digit` or a hyphen. -/
def identifierByte (byte : UInt8) : Bool :=
  (decide (97 ≤ byte) && decide (byte ≤ 122)) || (decide (48 ≤ byte) && decide (byte ≤ 57)) ||
    byte == 45

/-- `u8::is_ascii_alphanumeric`. -/
def isAsciiAlphanumeric (byte : UInt8) : Bool :=
  (decide (97 ≤ byte) && decide (byte ≤ 122)) || (decide (65 ≤ byte) && decide (byte ≤ 90)) ||
    (decide (48 ≤ byte) && decide (byte ≤ 57))

/-- The check that a segment of a product id and a short identifier share. -/
def validIdentifier (bytes : Bytes) (maximum : Nat) : Bool :=
  !bytes.isEmpty && decide (bytes.length ≤ maximum) && bytes.all identifierByte &&
    bytes.head?.any isAsciiAlphanumeric && bytes.getLast?.any isAsciiAlphanumeric

/-- `value.split('.')`, each segment as its bytes: a full stop is a byte of its own. -/
def segments (value : String) : List Bytes := (utf8 value).splitOn 46

def validProductId (value : String) : Bool :=
  decide ((utf8 value).length ≤ 64) && decide (3 ≤ (segments value).length) &&
    (segments value).all fun segment => validIdentifier segment 32

def validShortIdentifier (value : String) (maximum : Nat) : Bool :=
  validIdentifier (utf8 value) maximum

/-- `ProductManifest::validate`: the first check that fails names the error. -/
def ProductManifest.validate (manifest : ProductManifest) : Except ProtocolError Unit :=
  if manifest.schemaVersion ≠ productManifestSchemaVersion then
    .error (productError "unsupported product manifest schema")
  else if !validProductId manifest.productId then
    .error (productError "invalid product id")
  else if !validShortIdentifier manifest.productCode 8 then
    .error (productError "invalid product code")
  else if isBlank manifest.displayName || decide (64 < manifest.displayName.toList.length) ||
      manifest.displayName.toList.any charIsControl then
    .error (productError "invalid product display name")
  else if !validShortIdentifier manifest.dataNamespace 64 then
    .error (productError "invalid data namespace")
  else if manifest.includedModules.isEmpty || decide (32 < manifest.includedModules.length) then
    .error (productError "product must contain 1 to 32 modules")
  else if manifest.includedModules.toFinset.card ≠ manifest.includedModules.length then
    .error (productError "product modules must be unique")
  else if manifest.defaultActivationPolicy.keys.toFinset ≠ manifest.includedModules.toFinset then
    .error (productError "every product module must have exactly one activation policy")
  else if decide (32 < manifest.enabledUiRoutes.length) ||
      (manifest.enabledUiRoutes.any fun route => !validShortIdentifier route 48) ||
      decide (manifest.enabledUiRoutes.toFinset.card ≠ manifest.enabledUiRoutes.length) then
    .error (productError "invalid or duplicate product UI route")
  else .ok ()

/-- The built-in manifest `arcrelay-transfer.json`. -/
def ProductManifest.transfer : ProductManifest where
  schemaVersion := 1
  productId := "com.arcrelay.transfer"
  productCode := "xfer"
  displayName := "ArcRelay Transfer"
  dataNamespace := "arcrelay-transfer"
  includedModules := [.transfer]
  enabledUiRoutes := ["transfer"]
  defaultActivationPolicy := AList.singleton .transfer .onInterest

/-- The built-in manifest `arcrelay-suite.json`. -/
def ProductManifest.suite : ProductManifest where
  schemaVersion := 1
  productId := "com.arcrelay.suite"
  productCode := "suite"
  displayName := "ArcRelay"
  dataNamespace := "arcrelay-suite"
  includedModules := [.mouse, .transfer, .clipboard, .monitor, .privacy, .automate, .print]
  enabledUiRoutes :=
    ["mouse", "transfer", "clipboard", "monitor", "privacy", "automate", "print"]
  defaultActivationPolicy :=
    (((((((∅ : HashMap CapabilityId ActivationPolicy).insert .mouse .onInterest).insert
      .transfer .onInterest).insert .clipboard .onInterest).insert
      .monitor .onInterest).insert .privacy .onInterest).insert
      .automate .scheduled).insert .print .onInterest

/-- `built_in_manifest` does not panic: both manifests satisfy the runtime contract. -/
theorem built_in_manifests_valid :
    ProductManifest.transfer.validate = .ok () ∧ ProductManifest.suite.validate = .ok () := by
  constructor
  · decide +kernel
  · decide +kernel

end ArcRelay.Product
