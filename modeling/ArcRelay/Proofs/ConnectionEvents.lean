/-
Module: ArcRelay.Proofs.ConnectionEvents
Purpose: When the connection events the application has received describe the registry.
Trusted boundary: none
-/
import ArcRelay.Server.ConnectionRegistry

namespace ArcRelay.ConnectionEvents

variable {Transport : Type}

/-- No session of the device is between a registry step and the event that reports it. -/
def Settled (device : String) (system : System Transport) : Prop :=
  ∀ session ∈ system.sessions, session.deviceId = device →
    session.phase ≠ .registered ∧ session.phase ≠ .unregistered

instance (device : String) (system : System Transport) : Decidable (Settled device system) :=
  inferInstanceAs (Decidable (∀ session ∈ system.sessions, _))

/-- The last connection event sent for the device. -/
def lastEvent (device : String) (events : List ConnectionEvent) : Option ConnectionEvent :=
  (events.filter (·.deviceId = device)).getLast?

/-- The place of the session of the device that registered last. -/
def newest (device : String) (sessions : List ControlSession) : Option Nat :=
  ((sessions.map (·.deviceId)).zipIdx.filter (·.1 = device)).getLast?.map (·.2)

def System.newest (system : System Transport) (device : String) : Option ControlSession :=
  (ConnectionEvents.newest device system.sessions).bind (system.sessions[·]?)

/-- No send is lost.  A session does not send its `DeviceConnected` after the newest session of its
device has come and gone, nor its `DeviceDisconnected` while the newest one has reported itself
connected and is still there. -/
def InOrder (system : System Transport) : Turn Transport → Prop
  | .send index delivered => delivered = true ∧ ∀ session ∈ system.sessions[index]?,
      ∀ newest ∈ system.newest session.deviceId,
        (session.phase = .registered → newest.phase ≠ .ended) ∧
          (session.phase = .unregistered → newest.phase ≠ .connected)
  | _ => True

instance (system : System Transport) (turn : Turn Transport) : Decidable (InOrder system turn) :=
  match turn with
  | .send .. => inferInstanceAs (Decidable (_ ∧ _))
  | .register .. | .unregister _ | .disconnect _ => .isTrue trivial

section Lists

variable {event : ConnectionEvent} {device : String} {events : List ConnectionEvent}
  {sessions : List ControlSession} {session : ControlSession} {index : Nat}

@[simp] theorem lastEvent_append_self (same : event.deviceId = device) :
    lastEvent device (events ++ [event]) = some event := by
  simp [lastEvent, List.filter_append, same]

theorem lastEvent_append_of_ne (different : event.deviceId ≠ device) :
    lastEvent device (events ++ [event]) = lastEvent device events := by
  simp [lastEvent, List.filter_append, different]

theorem newest_append_self (same : session.deviceId = device) :
    newest device (sessions ++ [session]) = some sessions.length := by
  simp [newest, List.zipIdx_append, same]

theorem newest_append_of_ne (different : session.deviceId ≠ device) :
    newest device (sessions ++ [session]) = newest device sessions := by
  simp [newest, List.zipIdx_append, different]

/-- The phases do not matter. -/
theorem newest_set (found : sessions[index]? = some session) (phase : Phase) :
    newest device (sessions.set index { session with phase }) = newest device sessions := by
  obtain ⟨within, rfl⟩ := List.getElem?_eq_some_iff.mp found
  have same : (sessions.set index { sessions[index] with phase }).map (·.deviceId) =
      sessions.map (·.deviceId) := by
    rw [List.map_set, ← List.map_set (a := sessions[index]), List.set_getElem_self]
  rw [newest, newest, same]

end Lists

/-! ### The newest session of a device -/

/-- A session of this phase has the registry's entry, unless it was replaced. -/
def Phase.live : Phase → Bool
  | .registered | .connected => true
  | .unregistered | .ended => false

/-- What a session of this phase has told the application last about its registry step. -/
def Phase.told : Phase → Option Bool
  | .connected => some true
  | .ended => some false
  | .registered | .unregistered => none

theorem Phase.told_of_ne_ended {phase : Phase} {connected : Bool} (stays : phase ≠ .ended)
    (told : connected ∈ phase.told) : true = connected := by
  cases phase with
  | connected => exact Option.some.inj told
  | ended => exact absurd rfl stays
  | registered | unregistered => cases told

theorem Phase.told_of_ne_connected {phase : Phase} {connected : Bool} (left : phase ≠ .connected)
    (told : connected ∈ phase.told) : false = connected := by
  cases phase with
  | ended => exact Option.some.inj told
  | connected => exact absurd rfl left
  | registered | unregistered => cases told

/-- The registry and the events follow the newest session of the device. -/
structure Follows (system : System Transport) (device : String) (place : Nat)
    (session : ControlSession) : Prop where
  found : system.sessions[place]? = some session
  named : session.deviceId = device
  entry : (system.registry.inner.lookup device).map (·.disconnect) =
    if session.phase.live then some place else none
  told : ∀ connected ∈ session.phase.told,
    (lastEvent device system.events).any (·.isConnected) = connected

/-- Either a device never had a session or its newest one decides. -/
inductive Accounts (system : System Transport) (device : String) : Prop where
  | unknown (newest : newest device system.sessions = none)
      (absent : ∀ session ∈ system.sessions, session.deviceId ≠ device)
      (entry : system.registry.inner.lookup device = none)
      (silent : lastEvent device system.events = none)
  | known {place : Nat} {session : ControlSession}
      (newest : newest device system.sessions = some place)
      (follows : Follows system device place session)

variable {system next : System Transport} {index : Nat} {session : ControlSession} {phase : Phase}
  {device : String}

theorem Accounts.register {deviceId deviceName : String} {transport : Transport}
    {features : HashMap Int Nat} (accounts : Accounts system device)
    (stepped : step system (.register deviceId deviceName transport features) = some next) :
    Accounts next device := by
  cases stepped
  by_cases same : deviceId = device
  · subst same
    refine .known (newest_append_self rfl) ⟨List.getElem?_concat_length, rfl, ?_, nofun⟩
    rw [ConnectionRegistry.registerTransportWithFeatures, ConnectionRegistry.lookup_registerInner,
      if_pos rfl]
    rfl
  · have entry : ((system.registry.registerTransportWithFeatures deviceId system.sessions.length
        transport features).inner.lookup device) = system.registry.inner.lookup device := by
      rw [ConnectionRegistry.registerTransportWithFeatures, ConnectionRegistry.lookup_registerInner,
        if_neg (Ne.symm same)]
    cases accounts with
    | unknown newest absent free silent =>
        refine .unknown ((newest_append_of_ne same).trans newest) (fun session member => ?_)
          (entry.trans free) silent
        rcases List.mem_append.mp member with earlier | new
        · exact absent session earlier
        · exact List.mem_singleton.mp new ▸ same
    | known newest follows =>
        refine .known ((newest_append_of_ne same).trans newest)
          ⟨?_, follows.named, entry ▸ follows.entry, follows.told⟩
        rw [List.getElem?_append_left (List.getElem?_eq_some_iff.mp follows.found).1]
        exact follows.found

/-- A session changes its phase: the accounts of other devices stay as they are, and those of its
own follow from what becomes of the newest session. -/
theorem Accounts.change (accounts : Accounts system device)
    (found : system.sessions[index]? = some session)
    (changed : next.sessions = system.sessions.set index { session with phase })
    (others : session.deviceId ≠ device →
      next.registry.inner.lookup device = system.registry.inner.lookup device ∧
        lastEvent device next.events = lastEvent device system.events)
    (own : Follows system device index session → next.sessions[index]? = some { session with phase } →
      Follows next device index { session with phase })
    (older : ∀ place standing, session.deviceId = device → place ≠ index →
      system.newest device = some standing → Follows system device place standing →
      next.sessions[place]? = some standing → Follows next device place standing) :
    Accounts next device := by
  have newestNext : newest device next.sessions = newest device system.sessions := by
    rw [changed, newest_set found]
  cases accounts with
  | unknown newest absent free silent =>
      obtain ⟨entry, events⟩ := others (absent session (List.mem_of_getElem? found))
      refine .unknown (newestNext.trans newest) (fun other member => ?_) (entry.trans free)
        (events.trans silent)
      rw [changed] at member
      rcases List.mem_or_eq_of_mem_set member with member | rfl
      · exact absent other member
      · exact absent session (List.mem_of_getElem? found)
  | @known place standing newest follows =>
      by_cases here : place = index
      · subst here
        obtain rfl : session = standing := Option.some.inj (found.symm.trans follows.found)
        have kept : next.sessions[place]? = some { session with phase } := by
          rw [changed]
          exact List.getElem?_set_self (List.getElem?_eq_some_iff.mp found).1
        exact .known (newestNext.trans newest) (own follows kept)
      · have kept : next.sessions[place]? = some standing := by
          rw [changed, List.getElem?_set_ne (Ne.symm here)]
          exact follows.found
        suffices follows : Follows next device place standing from
          .known (newestNext.trans newest) follows
        by_cases same : session.deviceId = device
        · have standing : system.newest device = some standing := by
            rw [System.newest, newest]
            exact follows.found
          exact older place _ same here standing follows kept
        · obtain ⟨entry, events⟩ := others same
          exact ⟨kept, follows.named, entry ▸ follows.entry, events ▸ follows.told⟩

/-- The cleanup of a session that was replaced leaves the entry to the newest one. -/
theorem Accounts.unregister (accounts : Accounts system device)
    (found : system.sessions[index]? = some session) (live : session.phase.live = true) :
    Accounts { system.setPhase index session .unregistered with
      registry := system.registry.unregister session.deviceId index } device := by
  refine accounts.change found rfl (fun different => ⟨?_, rfl⟩) (fun follows kept => ?_)
    fun place standing same apart _ follows kept => ⟨kept, follows.named, ?_, follows.told⟩
  · exact Option.ext fun connection => by
      simp [ConnectionRegistry.lookup_unregister, Ne.symm different]
  · refine ⟨kept, follows.named, ?_, nofun⟩
    have entry := follows.entry
    rw [if_pos live] at entry
    rw [Option.map_eq_none_iff.mpr]
    · rfl
    · refine Option.eq_none_iff_forall_ne_some.mpr fun connection held => ?_
      rw [ConnectionRegistry.lookup_unregister] at held
      rw [held.1, Option.map_some, Option.some.injEq] at entry
      exact held.2 ⟨follows.named.symm, entry⟩
  · rw [← follows.entry]
    refine congrArg _ (Option.ext fun connection => ?_)
    rw [ConnectionRegistry.lookup_unregister, and_iff_left_iff_imp]
    rintro held ⟨-, taken⟩
    have entry := follows.entry
    rw [held, Option.map_some, taken] at entry
    split at entry
    · exact apart (Option.some.inj entry).symm
    · cases entry

/-- An event of a session that was replaced repeats what the newest one has told, or that one is
about to tell. -/
theorem Accounts.send {event : ConnectionEvent} (accounts : Accounts system device)
    (found : system.sessions[index]? = some session)
    (named : event.deviceId = session.deviceId) (kept : phase.live = session.phase.live)
    (told : phase.told = some event.isConnected)
    (ordered : ∀ newest ∈ system.newest session.deviceId, ∀ connected ∈ newest.phase.told,
      event.isConnected = connected) :
    Accounts ((system.setPhase index session phase).send event true) device := by
  rw [System.send, if_pos rfl]
  refine accounts.change found rfl (fun different => ⟨rfl, ?_⟩)
    (fun follows found => ⟨found, follows.named, ?_, fun connected reported => ?_⟩)
    fun place standing same _ newest follows found =>
      ⟨found, follows.named, follows.entry, fun connected reported => ?_⟩
  · exact lastEvent_append_of_ne (named ▸ different)
  · exact kept ▸ follows.entry
  · rw [lastEvent_append_self (named.trans follows.named), Option.any_some]
    exact Option.some.inj (told.symm.trans reported)
  · subst same
    rw [lastEvent_append_self named, Option.any_some]
    exact ordered standing newest connected reported

theorem Accounts.step {turn : Turn Transport} (accounts : Accounts system device)
    (ordered : InOrder system turn) (stepped : step system turn = some next) :
    Accounts next device := by
  cases turn with
  | register => exact accounts.register stepped
  | disconnect deviceId =>
      cases stepped
      have same := ConnectionRegistry.inner_disconnect system.registry deviceId
      cases accounts with
      | unknown newest absent entry silent => exact .unknown newest absent (same ▸ entry) silent
      | known newest follows =>
          exact .known newest ⟨follows.found, follows.named, same ▸ follows.entry, follows.told⟩
  | unregister index =>
      obtain ⟨session, found, left⟩ := Option.bind_eq_some_iff.mp stepped
      split at left
      next phase =>
        cases left
        exact accounts.unregister found (by rw [phase]; rfl)
      next phase =>
        cases left
        exact accounts.unregister found (by rw [phase]; rfl)
      all_goals cases left
  | send index delivered =>
      obtain ⟨session, found, sent⟩ := Option.bind_eq_some_iff.mp stepped
      obtain ⟨rfl, ordered⟩ := ordered
      split at sent
      next phase =>
        cases sent
        exact accounts.send found rfl (by rw [phase]; rfl) rfl fun newest last _ told =>
          Phase.told_of_ne_ended ((ordered session found newest last).1 phase) told
      next phase =>
        cases sent
        exact accounts.send found rfl (by rw [phase]; rfl) rfl fun newest last _ told =>
          Phase.told_of_ne_connected ((ordered session found newest last).2 phase) told
      all_goals cases sent

def Accounted (system : System Transport) : Prop := ∀ device, Accounts system device

/-- A settled device is in the registry exactly if its newest session has said that it is
connected. -/
theorem Accounts.agree (accounts : Accounts system device) (settled : Settled device system) :
    (lastEvent device system.events).any (·.isConnected) = true ↔
      device ∈ system.registry.listConnected := by
  have listed : device ∈ system.registry.listConnected ↔
      system.registry.inner.lookup device ≠ none :=
    AList.lookup_isSome.symm.trans Option.isSome_iff_ne_none
  rw [listed]
  cases accounts with
  | unknown _ _ entry silent => simp [entry, silent]
  | @known place session _ follows =>
      have calm := settled session (List.mem_of_getElem? follows.found) follows.named
      have entry := follows.entry
      have told := follows.told
      cases phase : session.phase with
      | registered => exact absurd phase calm.1
      | unregistered => exact absurd phase calm.2
      | connected =>
          rw [told true (by rw [phase]; rfl)]
          refine iff_of_true rfl fun none => ?_
          rw [none, phase] at entry
          cases entry
      | ended =>
          rw [told false (by rw [phase]; rfl)]
          refine iff_of_false Bool.false_ne_true (not_not.mpr ?_)
          rw [phase] at entry
          exact Option.map_eq_none_iff.mp entry

/-- In every run in which no event is lost and no session reports after the newest session of its
device has reported the opposite: whenever no session of a device is between its registry step and
its event, the last event of the device says connected exactly if the registry contains it. -/
theorem connection_events_agree {turns : List (Turn Transport)} {system : System Transport}
    (run : RunsWhere (connectionSystem Transport) InOrder turns system) (device : String)
    (settled : Settled device system) :
    (lastEvent device system.events).any (·.isConnected) = true ↔
      device ∈ system.registry.listConnected := by
  have accounted : Accounted system :=
    run.invariant (fun device => .unknown rfl nofun rfl rfl)
      fun system turn next accounted ordered stepped device =>
        (accounted device).step ordered stepped
  exact (accounted device).agree settled

/-- A phone that comes back before its first session has noticed: the first session, told to
disconnect, reports the phone as disconnected before the second one reports it as connected. -/
def reconnection : List (Turn Unit) :=
  [.register "phone" "Phone" () ∅, .send 0 true, .register "phone" "Phone" () ∅, .unregister 0,
    .send 0 true, .send 1 true]

theorem connection_events_agree_reconnection :
    ∃ system, RunsWhere (connectionSystem Unit) InOrder reconnection system ∧
      Settled "phone" system ∧ system.events.map (·.isConnected) = [true, false, true] ∧
      system.registry.notified = [0] ∧
      ((lastEvent "phone" system.events).any (·.isConnected) = true ↔
        "phone" ∈ system.registry.listConnected) := by
  obtain ⟨system, run, settled, sent, notified⟩ : ∃ system,
      RunsWhere (connectionSystem Unit) InOrder reconnection system ∧
        Settled "phone" system ∧ system.events.map (·.isConnected) = [true, false, true] ∧
        system.registry.notified = [0] :=
    RunsWhere.exists_of_replay (fun _ _ => of_decide_eq_true) (by decide +kernel)
  exact ⟨system, run, settled, sent, notified, connection_events_agree run "phone" settled⟩

/-- The same, but the second session is faster: the first one finds the registry taken and still
reports the phone as disconnected. -/
def replacement : List (Turn Unit) :=
  [.register "phone" "Phone" () ∅, .send 0 true, .register "phone" "Phone" () ∅, .send 1 true,
    .unregister 0, .send 0 true]

theorem replaced_session_reports_disconnect :
    ∃ system, Runs (connectionSystem Unit) replacement system ∧ Settled "phone" system ∧
      lastEvent "phone" system.events = some (.deviceDisconnected "phone" "Phone") ∧
      "phone" ∈ system.registry.listConnected :=
  Runs.exists_of_replay (by decide +kernel)

end ArcRelay.ConnectionEvents
