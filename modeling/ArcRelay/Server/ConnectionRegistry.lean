/-
Module: ArcRelay.Server.ConnectionRegistry
Purpose: The registry of live connections, the operations of any number of connections on it, and
  the control sessions that enter and leave it while telling the application which devices are
  connected.
Trusted boundary: a `quinn::Connection` is any type; an `Arc<Notify>` is the number of its
  registration
-/
import ArcRelay.Library.HashMap
import ArcRelay.Library.Transitions

namespace ArcRelay

/-! ### The registry -/

/-- The identity of a session's `Arc<Notify>`. -/
abbrev DisconnectSignal := Nat

/-- An entry of the registry. -/
structure ActiveConnection (Transport : Type) where
  disconnect : DisconnectSignal
  transport : Option Transport
  negotiatedFeatures : HashMap Int Nat

def ActiveConnection.supportsFeature {Transport : Type} (connection : ActiveConnection Transport)
    (feature : Int) (version : Nat) : Bool :=
  connection.negotiatedFeatures.lookup feature = some version

/-- The live connection of every device, and the signals that hold a permit. -/
structure ConnectionRegistry (Transport : Type) where
  inner : HashMap String (ActiveConnection Transport) := ∅
  notified : List DisconnectSignal := []

namespace ConnectionRegistry

variable {Transport : Type} (registry : ConnectionRegistry Transport)

/-- `Notify::notify_one`. -/
def notifyOne (signal : DisconnectSignal) : ConnectionRegistry Transport :=
  { registry with notified := signal :: registry.notified }

/-- `register_inner`; `notify` is the new `Arc<Notify>` that it returns.  A replaced connection is
told to disconnect. -/
def registerInner (deviceId : String) (notify : DisconnectSignal) (transport : Option Transport)
    (negotiatedFeatures : HashMap Int Nat) : ConnectionRegistry Transport :=
  let inserted :=
    { registry with inner := registry.inner.insert deviceId ⟨notify, transport, negotiatedFeatures⟩ }
  match registry.inner.lookup deviceId with
  | none => inserted
  | some previous => inserted.notifyOne previous.disconnect

def registerTransportWithFeatures (deviceId : String) (notify : DisconnectSignal)
    (transport : Transport) (negotiatedFeatures : HashMap Int Nat) : ConnectionRegistry Transport :=
  registry.registerInner deviceId notify (some transport) negotiatedFeatures

/-- A connection only removes its own entry. -/
def unregister (deviceId : String) (notify : DisconnectSignal) : ConnectionRegistry Transport :=
  if (registry.inner.lookup deviceId).any (·.disconnect = notify) then
    { registry with inner := registry.inner.erase deviceId }
  else registry

def disconnect (deviceId : String) : Bool × ConnectionRegistry Transport :=
  match registry.inner.lookup deviceId with
  | none => (false, registry)
  | some connection => (true, registry.notifyOne connection.disconnect)

def transportForFeature (deviceId : String) (feature : Int) (version : Nat) : Option Transport :=
  ((registry.inner.lookup deviceId).filter (·.supportsFeature feature version)).bind (·.transport)

def listConnected : List String := registry.inner.keys

def listConnectedWithFeature (feature : Int) (version : Nat) : List String :=
  (registry.inner.entries.filter fun entry =>
    entry.2.transport.isSome && entry.2.supportsFeature feature version).map (·.1)

theorem lookup_registerInner (deviceId other : String)
    (notify : DisconnectSignal) (transport : Option Transport) (features : HashMap Int Nat) :
    (registry.registerInner deviceId notify transport features).inner.lookup other =
      if other = deviceId then some ⟨notify, transport, features⟩
      else registry.inner.lookup other := by
  have inserted : (registry.registerInner deviceId notify transport features).inner =
      registry.inner.insert deviceId ⟨notify, transport, features⟩ := by
    rw [registerInner]
    split <;> rfl
  rw [inserted]
  split
  next same =>
    subst same
    exact AList.lookup_insert _
  next different => exact AList.lookup_insert_ne different

theorem inner_disconnect (deviceId : String) :
    (registry.disconnect deviceId).2.inner = registry.inner := by
  rw [disconnect]
  split <;> rfl

theorem lookup_unregister (deviceId other : String)
    (notify : DisconnectSignal) (connection : ActiveConnection Transport) :
    (registry.unregister deviceId notify).inner.lookup other = some connection ↔
      registry.inner.lookup other = some connection ∧
        ¬(other = deviceId ∧ connection.disconnect = notify) := by
  rw [unregister]
  split
  next own =>
    by_cases same : other = deviceId
    · subst same
      simp only [AList.lookup_erase, reduceCtorEq, true_and, false_iff, not_and, not_not]
      intro found
      simpa [found] using own
    · rw [AList.lookup_erase_ne same]
      simp [same]
  next stale =>
    constructor
    · intro found
      refine ⟨found, ?_⟩
      rintro ⟨rfl, same⟩
      simp [found, same] at stale
    · exact fun both => both.1

end ConnectionRegistry

/-! ### Connections at work -/

/-- What a connection registers. -/
structure Registration (Transport : Type) where
  deviceId : String
  transport : Option Transport
  negotiatedFeatures : HashMap Int Nat

def Registration.connection {Transport : Type} (registration : Registration Transport)
    (notify : DisconnectSignal) : ActiveConnection Transport :=
  ⟨notify, registration.transport, registration.negotiatedFeatures⟩

inductive RegistryEvent (Transport : Type) where
  | register (registration : Registration Transport)
  | unregister (deviceId : String) (notify : DisconnectSignal)
  | disconnect (deviceId : String)

/-- The registry and the number of registrations so far, which is the next `Arc<Notify>`. -/
structure RegistryState (Transport : Type) where
  registry : ConnectionRegistry Transport := {}
  issued : Nat := 0

/-- One operation.  Nobody holds an `Arc<Notify>` that no registration has returned; apart from
that, anyone may unregister anything at any time. -/
def RegistryState.step {Transport : Type} (state : RegistryState Transport) :
    RegistryEvent Transport → Option (RegistryState Transport)
  | .register registration =>
      some
        { registry := state.registry.registerInner registration.deviceId state.issued
            registration.transport registration.negotiatedFeatures
          issued := state.issued + 1 }
  | .unregister deviceId notify =>
      if notify < state.issued then
        some { state with registry := state.registry.unregister deviceId notify }
      else none
  | .disconnect deviceId =>
      some { state with registry := (state.registry.disconnect deviceId).2 }

def registrySystem (Transport : Type) :
    TransitionSystem (RegistryState Transport) (RegistryEvent Transport) where
  start := {}
  step := RegistryState.step

/-! ### Sessions -/

namespace ConnectionEvents

/-- `ServerEvent`, as far as it is about connections. -/
inductive ConnectionEvent where
  | deviceConnected (deviceId deviceName : String)
  | deviceDisconnected (deviceId deviceName : String)
deriving Repr, DecidableEq

def ConnectionEvent.deviceId : ConnectionEvent → String
  | .deviceConnected deviceId _ | .deviceDisconnected deviceId _ => deviceId

def ConnectionEvent.isConnected : ConnectionEvent → Bool
  | .deviceConnected .. => true
  | .deviceDisconnected .. => false

/-- How far a session has come with the registry and the events. -/
inductive Phase where
  /-- In the registry, about to send `DeviceConnected`. -/
  | registered
  | connected
  /-- The cleanup has left the registry and is about to send `DeviceDisconnected`. -/
  | unregistered
  | ended
deriving Repr, DecidableEq

structure ControlSession where
  deviceId : String
  deviceName : String
  phase : Phase
deriving Repr, DecidableEq

structure System (Transport : Type) where
  registry : ConnectionRegistry Transport := {}
  /-- In the order in which they registered; the place of one is the identity of its signal. -/
  sessions : List ControlSession := []
  /-- Everything sent through `event_tx`, in order. -/
  events : List ConnectionEvent := []

inductive Turn (Transport : Type) where
  /-- A control session of a device has sent its welcome and enters the registry. -/
  | register (deviceId deviceName : String) (transport : Transport)
      (negotiatedFeatures : HashMap Int Nat)
  /-- `event_tx.send`, which may fail or, in the cleanup, time out. -/
  | send (session : Nat) (delivered : Bool)
  /-- The cleanup starts, after the session or when it is dropped at an await. -/
  | unregister (session : Nat)
  /-- The application disconnects a device. -/
  | disconnect (deviceId : String)

variable {Transport : Type}

def System.setPhase (system : System Transport) (index : Nat) (session : ControlSession)
    (phase : Phase) : System Transport :=
  { system with sessions := system.sessions.set index { session with phase } }

def System.send (system : System Transport) (event : ConnectionEvent) (delivered : Bool) :
    System Transport :=
  if delivered then { system with events := system.events ++ [event] } else system

def step (system : System Transport) : Turn Transport → Option (System Transport)
  | .register deviceId deviceName transport negotiatedFeatures =>
      some
        { system with
          registry := system.registry.registerTransportWithFeatures deviceId
            system.sessions.length transport negotiatedFeatures
          sessions := system.sessions ++ [⟨deviceId, deviceName, .registered⟩] }
  | .send index delivered => do
      let session ← system.sessions[index]?
      match session.phase with
      | .registered =>
          some ((system.setPhase index session .connected).send
            (.deviceConnected session.deviceId session.deviceName) delivered)
      | .unregistered =>
          some ((system.setPhase index session .ended).send
            (.deviceDisconnected session.deviceId session.deviceName) delivered)
      | .connected | .ended => none
  | .unregister index => do
      let session ← system.sessions[index]?
      match session.phase with
      | .registered | .connected =>
          some { system.setPhase index session .unregistered with
            registry := system.registry.unregister session.deviceId index }
      | .unregistered | .ended => none
  | .disconnect deviceId =>
      some { system with registry := (system.registry.disconnect deviceId).2 }

/-- Any number of overlapping control sessions of any devices. -/
def connectionSystem (Transport : Type) : TransitionSystem (System Transport) (Turn Transport) where
  start := {}
  step := step

end ConnectionEvents

end ArcRelay
