/-
Module: ArcRelay.Proofs.ConnectionReplacement
Purpose: After any operations of any connections, the registry holds for each device the
  connection registered last, unless that one was unregistered.
Trusted boundary: none
-/
import ArcRelay.Server.ConnectionRegistry

namespace ArcRelay

variable {Transport : Type}

/-! ### What has happened -/

/-- The registrations so far; the place of one is its token. -/
def registrations (events : List (RegistryEvent Transport)) : List (Registration Transport) :=
  events.filterMap fun
    | .register registration => some registration
    | _ => none

/-- The token was registered for the device, and none later. -/
structure LastRegistered (events : List (RegistryEvent Transport)) (device : String)
    (token : DisconnectSignal) (registration : Registration Transport) : Prop where
  registered : (registrations events)[token]? = some registration
  here : registration.deviceId = device
  last : ∀ later other, token < later → (registrations events)[later]? = some other →
    other.deviceId ≠ device

def Unregistered (events : List (RegistryEvent Transport)) (device : String)
    (token : DisconnectSignal) : Prop :=
  RegistryEvent.unregister device token ∈ events

/-- The device's connection, by what has happened: the last one, unless it was unregistered. -/
def Current (events : List (RegistryEvent Transport)) (device : String) (token : DisconnectSignal)
    (registration : Registration Transport) : Prop :=
  LastRegistered events device token registration ∧ ¬Unregistered events device token

variable {events : List (RegistryEvent Transport)} {token : DisconnectSignal}

theorem LastRegistered.unique {device : String} {other : DisconnectSignal}
    {registration another : Registration Transport}
    (first : LastRegistered events device token registration)
    (second : LastRegistered events device other another) :
    token = other ∧ registration = another := by
  have same : token = other := by
    rcases Nat.lt_trichotomy token other with less | same | more
    · exact absurd second.here (first.last other another less second.registered)
    · exact same
    · exact absurd first.here (second.last token registration more first.registered)
  subst same
  exact ⟨rfl, Option.some.inj (first.registered.symm.trans second.registered)⟩

/-! ### One more event -/

section Events

variable {events : List (RegistryEvent Transport)} {device : String} {token : DisconnectSignal}
  {registration : Registration Transport}

theorem getElem?_concat_iff {Item : Type} {items : List Item} {new item : Item} {index : Nat} :
    (items ++ [new])[index]? = some item ↔
      items[index]? = some item ∨ index = items.length ∧ item = new := by
  rcases Nat.lt_trichotomy index items.length with less | rfl | more
  · rw [List.getElem?_append_left less]
    simp [less.ne]
  · simp [eq_comm]
  · rw [List.getElem?_append_right more.le, List.getElem?_eq_none more.le]
    simp [more.ne', Nat.sub_ne_zero_of_lt more]

theorem registrations_append_register (new : Registration Transport) :
    registrations (events ++ [.register new]) = registrations events ++ [new] := by
  simp [registrations]

theorem lastRegistered_congr {later : List (RegistryEvent Transport)}
    (same : registrations later = registrations events) :
    LastRegistered later device token registration ↔
      LastRegistered events device token registration := by
  constructor
  · rintro ⟨registered, here, last⟩
    exact ⟨same ▸ registered, here, same ▸ last⟩
  · rintro ⟨registered, here, last⟩
    exact ⟨same ▸ registered, here, same ▸ last⟩

theorem current_append_disconnect (other : String) :
    Current (events ++ [.disconnect other]) device token registration ↔
      Current events device token registration := by
  have same : registrations (events ++ [.disconnect other]) = registrations events := by
    simp [registrations]
  rw [Current, Current, lastRegistered_congr same, Unregistered, Unregistered]
  simp

theorem current_append_unregister (other : String) (stale : DisconnectSignal) :
    Current (events ++ [.unregister other stale]) device token registration ↔
      Current events device token registration ∧ ¬(device = other ∧ token = stale) := by
  have same : registrations (events ++ [.unregister other stale]) = registrations events := by
    simp [registrations]
  rw [Current, Current, lastRegistered_congr same, Unregistered, Unregistered]
  simp [and_assoc]

/-- The new connection of a device is the current one: nobody could unregister it before. -/
theorem current_append_register_self (new : Registration Transport)
    (past : ∀ device token, Unregistered events device token → token < (registrations events).length) :
    Current (events ++ [.register new]) new.deviceId token registration ↔
      token = (registrations events).length ∧ registration = new := by
  have created : LastRegistered (events ++ [.register new]) new.deviceId
      (registrations events).length new := by
    refine ⟨?_, rfl, fun later other after found => ?_⟩
    · rw [registrations_append_register, getElem?_concat_iff]
      exact .inr ⟨rfl, rfl⟩
    · rw [registrations_append_register, getElem?_concat_iff] at found
      rcases found with found | ⟨rfl, -⟩
      · exact absurd (List.getElem?_eq_some_iff.mp found).1 (Nat.not_lt_of_lt after)
      · exact absurd after (Nat.lt_irrefl _)
  constructor
  · rintro ⟨last, -⟩
    obtain ⟨rfl, rfl⟩ := last.unique created
    exact ⟨rfl, rfl⟩
  · rintro ⟨rfl, rfl⟩
    refine ⟨created, fun gone => ?_⟩
    have earlier : Unregistered events registration.deviceId (registrations events).length := by
      simpa [Unregistered] using gone
    exact absurd (past _ _ earlier) (Nat.lt_irrefl _)

theorem current_append_register_of_ne (new : Registration Transport)
    (different : device ≠ new.deviceId) :
    Current (events ++ [.register new]) device token registration ↔
      Current events device token registration := by
  have unregistered : Unregistered (events ++ [.register new]) device token ↔
      Unregistered events device token := by simp [Unregistered]
  have last : LastRegistered (events ++ [.register new]) device token registration ↔
      LastRegistered events device token registration := by
    constructor
    · rintro ⟨registered, here, last⟩
      simp only [registrations_append_register, getElem?_concat_iff] at registered last
      rcases registered with registered | ⟨-, rfl⟩
      · exact ⟨registered, here, fun later other after found => last later other after (.inl found)⟩
      · exact absurd here.symm different
    · rintro ⟨registered, here, last⟩
      refine ⟨?_, here, fun later other after found => ?_⟩
      · rw [registrations_append_register, getElem?_concat_iff]
        exact .inl registered
      · rw [registrations_append_register, getElem?_concat_iff] at found
        rcases found with found | ⟨-, rfl⟩
        · exact last later other after found
        · exact Ne.symm different
  rw [Current, Current, last, unregistered]

end Events

/-! ### Runs -/

/-- The registry holds exactly the current connections, with what they registered. -/
structure Records (events : List (RegistryEvent Transport)) (state : RegistryState Transport) :
    Prop where
  issued : state.issued = (registrations events).length
  past : ∀ device token, Unregistered events device token →
    token < (registrations events).length
  held : ∀ device connection, state.registry.inner.lookup device = some connection ↔
    ∃ token registration, Current events device token registration ∧
      connection = registration.connection token

theorem Records.start : Records ([] : List (RegistryEvent Transport)) {} where
  issued := rfl
  past := nofun
  held := by
    intro device connection
    constructor
    · intro found
      cases found
    · rintro ⟨token, registration, current, -⟩
      cases current.1.registered

variable {state : RegistryState Transport}

/-- The current connections after a registration are the new one and those of other devices. -/
theorem Records.register (records : Records events state) (new : Registration Transport) :
    Records (events ++ [.register new])
      { registry := state.registry.registerInner new.deviceId state.issued new.transport
          new.negotiatedFeatures
        issued := state.issued + 1 } where
  issued := by rw [registrations_append_register, List.length_append, records.issued]; rfl
  past := by
    intro device token gone
    have earlier : Unregistered events device token := by simpa [Unregistered] using gone
    rw [registrations_append_register, List.length_append]
    exact (records.past device token earlier).trans (Nat.lt_succ_self _)
  held := by
    intro device connection
    rw [ConnectionRegistry.lookup_registerInner]
    split
    next same =>
      subst same
      simp only [current_append_register_self new records.past, records.issued]
      constructor
      · intro found
        exact ⟨_, _, ⟨rfl, rfl⟩, (Option.some.inj found).symm⟩
      · rintro ⟨_, _, ⟨rfl, rfl⟩, rfl⟩
        rfl
    next different =>
      simp only [current_append_register_of_ne new different]
      exact records.held device connection

theorem Records.unregister (records : Records events state) {deviceId : String}
    {notify : DisconnectSignal} (returned : notify < state.issued) :
    Records (events ++ [.unregister deviceId notify])
      { state with registry := state.registry.unregister deviceId notify } := by
  have same : registrations (events ++ [.unregister deviceId notify]) = registrations events := by
    simp [registrations]
  refine ⟨same ▸ records.issued, fun device token gone => ?_, fun device connection => ?_⟩
  · rw [same]
    rcases List.mem_append.mp gone with earlier | now
    · exact records.past device token earlier
    · cases List.mem_singleton.mp now
      exact records.issued ▸ returned
  · simp only [current_append_unregister]
    rw [ConnectionRegistry.lookup_unregister, records.held]
    constructor
    · rintro ⟨⟨token, registration, current, rfl⟩, other⟩
      exact ⟨token, registration, ⟨current, other⟩, rfl⟩
    · rintro ⟨token, registration, ⟨current, other⟩, rfl⟩
      exact ⟨⟨token, registration, current, rfl⟩, other⟩

theorem Records.disconnect (records : Records events state) (deviceId : String) :
    Records (events ++ [.disconnect deviceId])
      { state with registry := (state.registry.disconnect deviceId).2 } := by
  have same : registrations (events ++ [.disconnect deviceId]) = registrations events := by
    simp [registrations]
  refine ⟨same ▸ records.issued, fun device token gone => ?_, fun device connection => ?_⟩
  · rw [same]
    apply records.past device token
    simpa [Unregistered] using gone
  · simp only [current_append_disconnect]
    rw [ConnectionRegistry.inner_disconnect]
    exact records.held device connection

theorem Records.step {next : RegistryState Transport} {event : RegistryEvent Transport}
    (records : Records events state) (stepped : state.step event = some next) :
    Records (events ++ [event]) next := by
  cases event with
  | register new =>
      cases stepped
      exact records.register new
  | unregister =>
      rw [RegistryState.step] at stepped
      split at stepped
      next returned =>
        cases stepped
        exact records.unregister returned
      next => cases stepped
  | disconnect deviceId =>
      cases stepped
      exact records.disconnect deviceId

theorem records_of_runs (run : Runs (registrySystem Transport) events state) :
    Records events state := by
  induction run with
  | start => exact .start
  | step _ _ stepped ih => exact ih.step stepped

/-! ### Signals -/

/-- A permit is kept. -/
theorem notified_step {next : RegistryState Transport} {event : RegistryEvent Transport}
    (stepped : state.step event = some next) (signalled : token ∈ state.registry.notified) :
    token ∈ next.registry.notified := by
  cases event with
  | register =>
      cases stepped
      rw [ConnectionRegistry.registerInner]
      split
      · exact signalled
      · exact .tail _ signalled
  | unregister =>
      rw [RegistryState.step] at stepped
      split at stepped
      · cases stepped
        rw [ConnectionRegistry.unregister]
        split <;> exact signalled
      · cases stepped
  | disconnect =>
      cases stepped
      rw [ConnectionRegistry.disconnect]
      split
      · exact signalled
      · exact .tail _ signalled

/-- A registration signals the connection it replaces, and the signal is not lost. -/
theorem replaced_signalled {before after : List (RegistryEvent Transport)}
    {new registration : Registration Transport}
    (run : Runs (registrySystem Transport) events state)
    (replaced : events = before ++ .register new :: after)
    (current : Current before new.deviceId token registration) :
    token ∈ state.registry.notified := by
  induction run generalizing after with
  | start => simp at replaced
  | @step _ _ _ _ earlier _ stepped ih =>
      rcases List.eq_nil_or_concat after with rfl | ⟨front, last, rfl⟩
      · obtain ⟨rfl, same⟩ := List.append_inj' replaced rfl
        cases same
        have held := (records_of_runs earlier).held new.deviceId (registration.connection token)
        have found := held.mpr ⟨token, registration, current, rfl⟩
        cases stepped
        rw [ConnectionRegistry.registerInner, found]
        exact .head _
      · rw [List.concat_eq_append, ← List.cons_append, ← List.append_assoc] at replaced
        obtain ⟨before, -⟩ := List.append_inj' replaced rfl
        exact notified_step stepped (ih before)

/-- After any operations the registry lists a device exactly if its last connection was not
unregistered, with what that connection registered; whoever was replaced while registered has been
signalled; `disconnect` answers whether the device is listed and signals its connection; and to
unregister any other connection changes nothing. -/
theorem connection_replacement {events : List (RegistryEvent Transport)}
    {state : RegistryState Transport} (run : Runs (registrySystem Transport) events state)
    (device : String) :
    (device ∈ state.registry.listConnected ↔ ∃ token registration,
      LastRegistered events device token registration ∧ ¬Unregistered events device token) ∧
    (∀ token registration, Current events device token registration →
      state.registry.inner.lookup device = some (registration.connection token)) ∧
    (∀ before new after token registration, events = before ++ .register new :: after →
      new.deviceId = device → Current before device token registration →
      token ∈ state.registry.notified) ∧
    ((state.registry.disconnect device).1 = true ↔ device ∈ state.registry.listConnected) ∧
    (∀ token registration, Current events device token registration →
      (state.registry.disconnect device).2 = state.registry.notifyOne token) ∧
    (device ∉ state.registry.listConnected →
      (state.registry.disconnect device).2 = state.registry) ∧
    ∀ token, (∀ registration, ¬Current events device token registration) →
      state.registry.unregister device token = state.registry := by
  have records := records_of_runs run
  have holds : ∀ token registration, Current events device token registration →
      state.registry.inner.lookup device = some (registration.connection token) :=
    fun token registration current =>
      (records.held device _).mpr ⟨token, registration, current, rfl⟩
  have listed : device ∈ state.registry.listConnected ↔
      ∃ connection, state.registry.inner.lookup device = some connection := by
    rw [← Option.isSome_iff_exists, AList.lookup_isSome]
    exact Iff.rfl
  refine ⟨?_, holds, ?_, ?_, fun token registration current => ?_, fun absent => ?_,
    fun token stale => ?_⟩
  · rw [listed]
    constructor
    · rintro ⟨connection, found⟩
      obtain ⟨token, registration, current, -⟩ := (records.held device connection).mp found
      exact ⟨token, registration, current⟩
    · rintro ⟨token, registration, current⟩
      exact ⟨_, holds token registration current⟩
  · rintro before new after token registration replaced rfl current
    exact replaced_signalled run replaced current
  · rw [listed, ConnectionRegistry.disconnect]
    cases state.registry.inner.lookup device with
    | none => simp
    | some => simp
  · rw [ConnectionRegistry.disconnect, holds token registration current]
    rfl
  · rw [listed] at absent
    rw [ConnectionRegistry.disconnect, Option.eq_none_iff_forall_ne_some.mpr (not_exists.mp absent)]
  · rw [ConnectionRegistry.unregister, if_neg]
    intro own
    cases found : state.registry.inner.lookup device with
    | none => simp [found] at own
    | some connection =>
        obtain ⟨current, registration, held, rfl⟩ := (records.held device connection).mp found
        rw [found] at own
        obtain rfl : current = token := of_decide_eq_true own
        exact stale registration held

/-- One device connects twice, and the first connection cleans up late. -/
def lateCleanup : List (RegistryEvent Unit) :=
  [.register ⟨"pad", some (), ∅⟩, .register ⟨"pad", none, ∅⟩, .unregister "pad" 0]

/-- The second connection stays listed, and the first has been signalled. -/
theorem connection_replacement_lateCleanup :
    ∃ state, Runs (registrySystem Unit) lateCleanup state ∧
      "pad" ∈ state.registry.listConnected ∧ 0 ∈ state.registry.notified := by
  have played : ((registrySystem Unit).replay (fun _ _ => true) {} lateCleanup).isSome := by
    decide +kernel
  obtain ⟨state, last⟩ := Option.isSome_iff_exists.mp played
  have run : Runs (registrySystem Unit) lateCleanup state :=
    RunsWhere.of_replay (fun _ _ _ => trivial) last
  obtain ⟨listed, -, signalled, -⟩ := connection_replacement run "pad"
  have second : LastRegistered lateCleanup "pad" 1 ⟨"pad", none, ∅⟩ := by
    refine ⟨rfl, rfl, fun later other after found => ?_⟩
    have bound := (List.getElem?_eq_some_iff.mp found).1
    exact absurd after (Nat.not_lt.mpr (Nat.le_of_lt_succ bound))
  have first : Current [RegistryEvent.register (⟨"pad", some (), ∅⟩ : Registration Unit)] "pad" 0
      ⟨"pad", some (), ∅⟩ := by
    refine ⟨⟨rfl, rfl, fun later other after found => ?_⟩, by simp [Unregistered]⟩
    have bound := (List.getElem?_eq_some_iff.mp found).1
    exact absurd after (Nat.not_lt.mpr (Nat.le_of_lt_succ bound))
  refine ⟨state, run, listed.mpr ⟨1, _, second, by simp [lateCleanup, Unregistered]⟩, ?_⟩
  exact signalled [_] _ [_] 0 _ rfl rfl first

end ArcRelay
