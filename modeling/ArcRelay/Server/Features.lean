/-
Module: ArcRelay.Server.Features
Purpose: The features the server offers and the negotiation of their versions with a client.
Trusted boundary: the numbers prost generates for the features; they are only assumed to differ
  and to be known
-/
import ArcRelay.Library.HashMap

namespace ArcRelay.Features

/-- `proto::Feature`, as far as the server names them. -/
inductive Feature where
  | unspecified | subscriptions | system | processes | media | clipboard | clipboardSync | windows
  | blobs | actions | notifications | remoteFiles | inputReliable | workspaceInput
deriving Repr, DecidableEq

/-- The generated numbers.  `known` is `Feature::try_from(..).is_ok()`: the enumeration may have
members the server does not name. -/
structure FeatureNumbers where
  number : Feature → Int
  known : Int → Bool
  number_injective : Function.Injective number
  known_number : ∀ feature, known (number feature) = true

structure FeatureVersion where
  feature : Int
  minVersion : Nat
  maxVersion : Nat
deriving Repr, DecidableEq

section Negotiation

variable (numbers : FeatureNumbers)

/-! ### What the server offers -/

/-- `REMOTE_FILE_PROTOCOL_VERSION`. -/
def remoteFileProtocolVersion : Nat := 3

/-- `clipboard_replication::VERSION`. -/
def clipboardReplicationVersion : Nat := 3

def featureVersion (feature : Feature) : FeatureVersion :=
  let version := if feature = .remoteFiles then remoteFileProtocolVersion else 1
  { feature := numbers.number feature
    minVersion := version
    maxVersion := if feature = .clipboardSync then clipboardReplicationVersion else version }

/-- What the host can do. -/
structure Availability where
  actions : Bool
  notifications : Bool
  remoteFiles : Bool
  /-- The permission to control input is not unsupported. -/
  inputControl : Bool
  workspaceInput : Bool
deriving Repr, DecidableEq

/-- The features in the order they are pushed. -/
def offeredFeatures (available : Availability) : List Feature :=
  [.subscriptions, .system, .processes, .media, .clipboard, .clipboardSync, .windows, .blobs] ++
    (if available.actions then [.actions] else []) ++
    (if available.notifications then [.notifications] else []) ++
    (if available.remoteFiles then [.remoteFiles] else []) ++
    (if available.inputControl then
      .inputReliable :: (if available.workspaceInput then [.workspaceInput] else [])
    else [])

def serverFeatures (available : Availability) : List FeatureVersion :=
  ((offeredFeatures available).map (featureVersion numbers)).mergeSort
    fun first second => first.feature ≤ second.feature

/-! ### Negotiation -/

/-- The ranges of the client by feature, or the failure at the first bad one. -/
def clientRanges : List FeatureVersion → HashMap Int (Nat × Nat) →
    Except String (HashMap Int (Nat × Nat))
  | [], ranges => .ok ranges
  | feature :: rest, ranges =>
      if !numbers.known feature.feature
          || feature.feature = numbers.number .unspecified
          || feature.minVersion = 0
          || feature.minVersion > feature.maxVersion
          -- `insert(..).is_some()`
          || (ranges.lookup feature.feature).isSome then
        .error "invalid client feature range"
      else
        clientRanges rest
          (ranges.insert feature.feature (feature.minVersion, feature.maxVersion))

/-- The greatest version of each of the server's features that the client has as well. -/
def selectVersions (ranges : HashMap Int (Nat × Nat)) :
    List FeatureVersion → HashMap Int Nat → HashMap Int Nat
  | [], selected => selected
  | feature :: rest, selected =>
      match ranges.lookup feature.feature with
      | none => selectVersions ranges rest selected
      | some (clientMin, clientMax) =>
          let minimum := max clientMin feature.minVersion
          let maximum := min clientMax feature.maxVersion
          if minimum ≤ maximum then
            selectVersions ranges rest (selected.insert feature.feature maximum)
          else
            selectVersions ranges rest selected

def negotiateFeatures (client server : List FeatureVersion) : Except String (HashMap Int Nat) := do
  if client.length > 64 then
    throw "too many client features"
  else
    let ranges ← clientRanges numbers client ∅
    return selectVersions ranges server ∅

def selectedFeatureVersions (features : HashMap Int Nat) : List FeatureVersion :=
  (features.entries.map fun entry => ⟨entry.1, entry.2, entry.2⟩).mergeSort
    fun first second => first.feature ≤ second.feature

end Negotiation

end ArcRelay.Features
