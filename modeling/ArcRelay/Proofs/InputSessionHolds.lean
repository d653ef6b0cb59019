/-
Module: ArcRelay.Proofs.InputSessionHolds
Purpose: The key and button events the manager returns track what its sessions hold.
Trusted boundary: the domain's gesture sequence accepts every gesture it validates
-/
import ArcRelay.Server.InputSession

namespace ArcRelay.InputSession

variable {Button Gesture Other Sequence : Type} [DecidableEq Button]

/-! ### The native model -/

/-- The keys and buttons that are down on the machine. -/
structure Native (Button : Type) where
  keys : Finset UInt16
  buttons : Finset Button

def Native.allUp : Native Button := ⟨∅, ∅⟩

variable (native : Native Button)

/-- A down event adds its key or button, an up event removes it. -/
def applyNative : InputEvent Button Gesture Other → Native Button
  | .key hidUsage true _ => { native with keys := insert hidUsage native.keys }
  | .key hidUsage false _ => { native with keys := native.keys.erase hidUsage }
  | .pointerButton button true _ => { native with buttons := insert button native.buttons }
  | .pointerButton button false _ => { native with buttons := native.buttons.erase button }
  | _ => native

def replayNative (events : List (InputEvent Button Gesture Other)) : Native Button :=
  events.foldl applyNative native

/-- An event the machine can make sense of: up only for what is down, down only for what is up
or for a repeated key, and never a bare `ReleaseAll`. -/
def LegalEvent : InputEvent Button Gesture Other → Prop
  | .key hidUsage true repeats => hidUsage ∉ native.keys ∨ repeats = true
  | .key hidUsage false _ => hidUsage ∈ native.keys
  | .pointerButton button true _ => button ∉ native.buttons
  | .pointerButton button false _ => button ∈ native.buttons
  | .releaseAll => False
  | _ => True

/-- Every event of a list is legal when it arrives. -/
def LegalEvents (native : Native Button) : List (InputEvent Button Gesture Other) → Prop
  | [] => True
  | event :: events => LegalEvent native event ∧ LegalEvents (applyNative native event) events

/-! Keys and buttons are two instances of the same edge model. -/

def keyEdge : InputEvent Button Gesture Other → Option (Edge UInt16)
  | .key hidUsage down repeats => some (if down then .down hidUsage repeats else .up hidUsage)
  | _ => none

def buttonEdge : InputEvent Button Gesture Other → Option (Edge Button)
  | .pointerButton button down _ => some (if down then .down button false else .up button)
  | _ => none

theorem replayNative_eq (events : List (InputEvent Button Gesture Other)) :
    replayNative native events =
      ⟨applyEdges native.keys (events.filterMap keyEdge),
        applyEdges native.buttons (events.filterMap buttonEdge)⟩ := by
  induction events generalizing native with
  | nil => rfl
  | cons event events ih =>
      have step : replayNative native (event :: events) =
          replayNative (applyNative native event) events := rfl
      rw [step, ih]
      cases event with
      | key _ down => cases down <;> rfl
      | pointerButton _ down => cases down <;> rfl
      | releaseAll => rfl
      | systemGesture => rfl
      | other => rfl

theorem legalEvents_iff (events : List (InputEvent Button Gesture Other)) :
    LegalEvents native events ↔
      InputEvent.releaseAll ∉ events ∧ Legal native.keys (events.filterMap keyEdge) ∧
        Legal native.buttons (events.filterMap buttonEdge) := by
  induction events generalizing native with
  | nil => simp [LegalEvents, Legal]
  | cons event _ ih =>
      rw [LegalEvents, ih]
      cases event with
      | key _ down =>
          cases down <;>
            simp [LegalEvent, applyNative, keyEdge, buttonEdge, Legal, LegalEdge, applyEdge,
              List.filterMap_cons] <;> tauto
      | pointerButton _ down =>
          cases down <;>
            simp [LegalEvent, applyNative, keyEdge, buttonEdge, Legal, LegalEdge, applyEdge,
              List.filterMap_cons] <;> tauto
      | releaseAll => simp [LegalEvent]
      | systemGesture =>
          simp [LegalEvent, applyNative, keyEdge, buttonEdge, List.filterMap_cons]
      | other => simp [LegalEvent, applyNative, keyEdge, buttonEdge, List.filterMap_cons]

theorem replayNative_append (first second : List (InputEvent Button Gesture Other)) :
    replayNative native (first ++ second) = replayNative (replayNative native first) second :=
  List.foldl_append

variable {native : Native Button}

theorem legalEvents_append {first second : List (InputEvent Button Gesture Other)} :
    LegalEvents native (first ++ second) ↔
      LegalEvents native first ∧ LegalEvents (replayNative native first) second := by
  induction first generalizing native with
  | nil => simp [LegalEvents, replayNative]
  | cons _ _ ih =>
      simp only [List.cons_append, LegalEvents, ih, and_assoc]
      rfl

/-! ### One session in hand -/

/-- One holder of `key`. -/
def holdsKey (key : UInt16) (_ : InputLease) (session : ActiveInputSession Button Sequence) : Nat :=
  if key ∈ session.pressedKeys then 1 else 0

/-- One holder of `button`. -/
def holdsButton (button : Button) (_ : InputLease)
    (session : ActiveInputSession Button Sequence) : Nat :=
  if button ∈ session.pressedButtons then 1 else 0

/-- Whose session it is and which way its events go; no event changes it. -/
def ActiveInputSession.identity (session : ActiveInputSession Button Sequence) :
    InputLease × String × Bool :=
  (session.lease, session.deviceId, session.workspaceRouted)

/-- The counts, the native state and the session in hand agree; the other sessions are those
of `active`. -/
structure InHand (state : InputSessionState Button Sequence)
    (current : ActiveInputSession Button Sequence) (native : Native Button) : Prop where
  keys : HeldBy (fun key => HashMap.total state.active (holdsKey key)) current.pressedKeys
    state.pressedKeyCounts native.keys
  buttons : HeldBy (fun button => HashMap.total state.active (holdsButton button))
    current.pressedButtons state.pressedButtonCounts native.buttons

/-- What one event of a batch, or a whole batch, leaves: legal events, the same other
sessions, the same identity, and agreement after the events. -/
structure Normalized (state after : InputSessionState Button Sequence)
    (current next : ActiveInputSession Button Sequence) (native : Native Button)
    (events : List (InputEvent Button Gesture Other)) : Prop where
  active : after.active = state.active
  identity : next.identity = current.identity
  legal : LegalEvents native events
  inHand : InHand after next (replayNative native events)

variable {state : InputSessionState Button Sequence}
    {current next : ActiveInputSession Button Sequence}

variable {events : List (InputEvent Button Gesture Other)}

/-- Events that are neither for a key nor for a button. -/
theorem Normalized.silent
    (inHand : InHand state current native) (identity : next.identity = current.identity)
    (keys : next.pressedKeys = current.pressedKeys)
    (buttons : next.pressedButtons = current.pressedButtons)
    (noRelease : InputEvent.releaseAll ∉ events) (noKeys : events.filterMap keyEdge = [])
    (noButtons : events.filterMap buttonEdge = []) :
    Normalized state state current next native events := by
  refine ⟨rfl, identity, ?_, ?_⟩
  · rw [legalEvents_iff, noKeys, noButtons]
    exact ⟨noRelease, trivial, trivial⟩
  · rw [replayNative_eq, noKeys, noButtons]
    exact ⟨keys ▸ inHand.keys, buttons ▸ inHand.buttons⟩

/-- A change of the held keys by a list of key events. -/
theorem Normalized.ofKeys
    {edges : List (Edge UInt16)} {held : HashSet UInt16} {counts : HashMap UInt16 Nat}
    (inHand : InHand state current native) (noRelease : InputEvent.releaseAll ∉ events)
    (keys : events.filterMap keyEdge = edges) (noButtons : events.filterMap buttonEdge = [])
    (changed : Legal native.keys edges ∧
      HeldBy (fun key => HashMap.total state.active (holdsKey key)) held counts
        (applyEdges native.keys edges)) :
    Normalized state { state with pressedKeyCounts := counts } current
      { current with pressedKeys := held } native events := by
  refine ⟨rfl, rfl, ?_, ?_⟩
  · rw [legalEvents_iff, keys, noButtons]
    exact ⟨noRelease, changed.1, trivial⟩
  · rw [replayNative_eq, keys, noButtons]
    exact ⟨changed.2, inHand.buttons⟩

/-- A change of the held buttons by a list of button events. -/
theorem Normalized.ofButtons
    {edges : List (Edge Button)} {held : HashSet Button} {counts : HashMap Button Nat}
    (inHand : InHand state current native) (noRelease : InputEvent.releaseAll ∉ events)
    (noKeys : events.filterMap keyEdge = []) (buttons : events.filterMap buttonEdge = edges)
    (changed : Legal native.buttons edges ∧
      HeldBy (fun button => HashMap.total state.active (holdsButton button)) held counts
        (applyEdges native.buttons edges)) :
    Normalized state { state with pressedButtonCounts := counts } current
      { current with pressedButtons := held } native events := by
  refine ⟨rfl, rfl, ?_, ?_⟩
  · rw [legalEvents_iff, noKeys, buttons]
    exact ⟨noRelease, trivial, changed.1⟩
  · rw [replayNative_eq, noKeys, buttons]
    exact ⟨inHand.keys, changed.2⟩

omit [DecidableEq Button] in
/-- The projections of the events that `release_session_state` returns. -/
theorem release_edges (Other : Type) (cancelled : Option Gesture) (keys : List UInt16)
    (buttons : List Button) :
    let events : List (InputEvent Button Gesture Other) :=
      (cancelled.map .systemGesture).toList ++
        keys.map (fun hidUsage => .key hidUsage false false) ++
        buttons.map (fun button => .pointerButton button false 1)
    InputEvent.releaseAll ∉ events ∧ events.filterMap keyEdge = keys.map Edge.up ∧
      events.filterMap buttonEdge = buttons.map Edge.up := by
  refine ⟨?_, ?_, ?_⟩
  · cases cancelled <;> simp
  · cases cancelled <;>
      simp [List.filterMap_cons, List.filterMap_append, List.filterMap_map, Function.comp_def,
        keyEdge]
  · cases cancelled <;>
      simp [List.filterMap_cons, List.filterMap_append, List.filterMap_map, Function.comp_def,
        buttonEdge]

variable {gestures : Gestures Gesture Sequence} {order : DrainOrder Button}
    {after : InputSessionState Button Sequence}

/-- `release_session_state` gives up everything the session holds. -/
theorem releaseSessionState_normalized
    (inHand : InHand state current native)
    (returned : releaseSessionState gestures order state current = (events, after, next)) :
    Normalized state after current next native events ∧ next.pressedKeys = ∅ ∧
      next.pressedButtons = ∅ := by
  simp only [releaseSessionState] at returned
  cases returned
  obtain ⟨noRelease, keyEdges, buttonEdges⟩ := release_edges Other
    (gestures.cancel current.systemGesture).1
    (drainCounts state.pressedKeyCounts (order.keys current.pressedKeys)).1
    (drainCounts state.pressedButtonCounts (order.buttons current.pressedButtons)).1
  obtain ⟨keysLegal, keysHeld⟩ := inHand.keys.drain (order.keys_perm current.pressedKeys)
  obtain ⟨buttonsLegal, buttonsHeld⟩ :=
    inHand.buttons.drain (order.buttons_perm current.pressedButtons)
  refine ⟨⟨rfl, rfl, ?_, ?_⟩, rfl, rfl⟩
  · rw [legalEvents_iff, keyEdges, buttonEdges]
    exact ⟨noRelease, keysLegal, buttonsLegal⟩
  · rw [replayNative_eq, keyEdges, buttonEdges]
    exact ⟨keysHeld, buttonsHeld⟩

omit [DecidableEq Button] in
theorem filterMap_gestures_eq_nil {T : Type} {edge : InputEvent Button Gesture Other → Option T}
    (silent : ∀ gesture, edge (.systemGesture gesture) = none) (phases : List Gesture) :
    (phases.map .systemGesture : List (InputEvent Button Gesture Other)).filterMap edge = [] := by
  simp [List.filterMap_map, silent]

/-- One event of a batch. -/
theorem normalizeEvent_normalized {context : EventContext Button}
    {event : InputEvent Button Gesture Other}
    (inHand : InHand state current native)
    (returned : normalizeEvent gestures context state current event =
      some (events, after, next)) :
    Normalized state after current next native events := by
  cases event with
  | key hidUsage down repeats =>
      cases down with
      | true =>
          by_cases held : hidUsage ∈ current.pressedKeys
          · simp only [normalizeEvent, if_true, held] at returned
            cases returned
            cases repeats with
            | false => exact .silent inHand rfl rfl rfl (by simp) (by simp) (by simp)
            | true =>
                -- A repeat of a held key goes out again and changes nothing.
                obtain ⟨legal, tracks⟩ :=
                  inHand.keys.tracks.redundant (inHand.keys.count_pos held)
                exact .ofKeys inHand (by simp) rfl rfl ⟨legal, tracks, inHand.keys.counted⟩
          · simp only [normalizeEvent, if_true, held, if_false] at returned
            cases returned
            refine .ofKeys inHand ?_ ?_ ?_ (inHand.keys.press held repeats)
            · split_ifs <;> simp
            · split_ifs <;> rfl
            · split_ifs <;> rfl
      | false =>
          by_cases held : hidUsage ∈ current.pressedKeys
          · simp only [normalizeEvent, Bool.false_eq_true, if_false, held, if_true] at returned
            cases returned
            refine .ofKeys inHand ?_ ?_ ?_ (inHand.keys.lift held)
            · split_ifs <;> simp
            · split_ifs <;> rfl
            · split_ifs <;> rfl
          · simp only [normalizeEvent, Bool.false_eq_true, if_false, held] at returned
            cases returned
            exact .silent inHand rfl rfl rfl (by simp) (by simp) (by simp)
  | pointerButton button down =>
      cases down with
      | true =>
          by_cases held : button ∈ current.pressedButtons
          · simp only [normalizeEvent, if_true, held] at returned
            cases returned
            exact .silent inHand rfl rfl rfl (by simp) (by simp) (by simp)
          · simp only [normalizeEvent, if_true, held, if_false] at returned
            cases returned
            refine .ofButtons inHand ?_ ?_ ?_ (inHand.buttons.press held false)
            · split_ifs <;> simp
            · split_ifs <;> rfl
            · split_ifs <;> rfl
      | false =>
          by_cases held : button ∈ current.pressedButtons
          · simp only [normalizeEvent, Bool.false_eq_true, if_false, held, if_true] at returned
            cases returned
            refine .ofButtons inHand ?_ ?_ ?_ (inHand.buttons.lift held)
            · split_ifs <;> simp
            · split_ifs <;> rfl
            · split_ifs <;> rfl
          · simp only [normalizeEvent, Bool.false_eq_true, if_false, held] at returned
            cases returned
            exact .silent inHand rfl rfl rfl (by simp) (by simp) (by simp)
  | releaseAll =>
      exact (releaseSessionState_normalized inHand (Option.some.inj returned)).1
  | systemGesture =>
      simp only [normalizeEvent, Option.bind_eq_bind, Option.bind_eq_some_iff, Prod.exists,
        Option.pure_def, Option.some.injEq, Prod.mk.injEq] at returned
      obtain ⟨phases, sequence, applied, rfl, rfl, rfl⟩ := returned
      exact .silent inHand rfl rfl rfl (by simp)
        (filterMap_gestures_eq_nil (fun _ => rfl) phases)
        (filterMap_gestures_eq_nil (fun _ => rfl) phases)
  | other =>
      simp only [normalizeEvent] at returned
      cases returned
      exact .silent inHand rfl rfl rfl (by simp) rfl rfl

variable {contexts : Nat → EventContext Button}

/-- A whole batch. -/
theorem normalizeEvents_normalized {batch events : List (InputEvent Button Gesture Other)}
    (inHand : InHand state current native)
    (returned : normalizeEvents gestures contexts state current batch =
      some (events, after, next)) :
    Normalized state after current next native events := by
  induction batch generalizing contexts state current native events with
  | nil =>
      simp only [normalizeEvents] at returned
      cases returned
      exact .silent inHand rfl rfl rfl (by simp) rfl rfl
  | cons _ _ ih =>
      simp only [normalizeEvents, Option.bind_eq_bind, Option.bind_eq_some_iff, Prod.exists,
        Option.pure_def, Option.some.injEq, Prod.mk.injEq] at returned
      obtain ⟨first, middle, between, stepped, rest, after, next, looped, rfl, rfl, rfl⟩ :=
        returned
      have head := normalizeEvent_normalized inHand stepped
      have tail := ih head.inHand looped
      refine ⟨tail.active.trans head.active, tail.identity.trans head.identity, ?_, ?_⟩
      · exact legalEvents_append.mpr ⟨head.legal, tail.legal⟩
      · rw [replayNative_append]
        exact tail.inHand

/-- The domain's contract: a gesture that validates can be applied. -/
def Gestures.Sound (gestures : Gestures Gesture Sequence) : Prop :=
  ∀ sequence gesture, gestures.validate gesture = none →
    (gestures.apply sequence gesture).isSome = true

variable {batch : List (InputEvent Button Gesture Other)}

/-- A batch without an invalid gesture runs to its end. -/
theorem normalizeEvents_isSome (sound : gestures.Sound) (contexts : Nat → EventContext Button)
    (state : InputSessionState Button Sequence) (current : ActiveInputSession Button Sequence)
    (valid : invalidGesture gestures batch = none) :
    ∃ events after next, normalizeEvents gestures contexts state current batch =
      some (events, after, next) := by
  induction batch generalizing contexts state current with
  | nil => exact ⟨[], state, current, rfl⟩
  | cons event batch ih =>
      obtain ⟨⟨first, middle, between⟩, stepped⟩ : ∃ result,
          normalizeEvent gestures (contexts 0) state current event = some result := by
        cases event with
        | key =>
            simp only [normalizeEvent]
            split_ifs <;> exact ⟨_, rfl⟩
        | pointerButton =>
            simp only [normalizeEvent]
            split_ifs <;> exact ⟨_, rfl⟩
        | releaseAll => exact ⟨_, rfl⟩
        | systemGesture gesture =>
            have validated : gestures.validate gesture = none := by
              cases rejected : gestures.validate gesture with
              | none => rfl
              | some => simp [invalidGesture, rejected] at valid
            obtain ⟨⟨phases, sequence⟩, applied⟩ :=
              Option.isSome_iff_exists.mp (sound current.systemGesture gesture validated)
            simp only [normalizeEvent, applied]
            exact ⟨_, rfl⟩
        | other => exact ⟨_, rfl⟩
      have restValid : invalidGesture gestures batch = none := by
        cases event with
        | systemGesture gesture =>
            cases rejected : gestures.validate gesture with
            | none => simpa [invalidGesture, rejected] using valid
            | some => simp [invalidGesture, rejected] at valid
        | key => exact valid
        | pointerButton => exact valid
        | releaseAll => exact valid
        | other => exact valid
      obtain ⟨rest, after, next, looped⟩ :=
        ih (fun index => contexts (index + 1)) middle between restValid
      exact ⟨first ++ rest, after, next, by simp [normalizeEvents, stepped, looped]⟩

omit [DecidableEq Button] in
/-- A batch with an invalid gesture is recognised. -/
theorem invalidGesture_isSome {gesture : Gesture}
    (member : InputEvent.systemGesture gesture ∈ batch)
    (rejected : gestures.validate gesture ≠ none) :
    ∃ message, invalidGesture gestures batch = some message := by
  induction batch with
  | nil => exact absurd member List.not_mem_nil
  | cons event _ ih =>
      rcases List.mem_cons.mp member with rfl | later
      · obtain ⟨message, found⟩ := Option.ne_none_iff_exists'.mp rejected
        exact ⟨message, by simp [invalidGesture, found]⟩
      · obtain ⟨message, found⟩ := ih later
        cases event with
        | systemGesture other =>
            cases checked : gestures.validate other with
            | none => exact ⟨message, by simpa [invalidGesture, checked] using found⟩
            | some earlier => exact ⟨earlier, by simp [invalidGesture, checked]⟩
        | key => exact ⟨message, found⟩
        | pointerButton => exact ⟨message, found⟩
        | releaseAll => exact ⟨message, found⟩
        | other => exact ⟨message, found⟩

/-! ### The invariant of the manager -/

/-- Between calls: the counts are the numbers of holding sessions, the native state shows
exactly what is held, every session sits under its own lease, and there is at most one. -/
structure Consistent (state : InputSessionState Button Sequence) (native : Native Button) :
    Prop where
  keys : Tracks state.pressedKeyCounts native.keys
  keyCounts : ∀ key, HashMap.count state.pressedKeyCounts key =
    HashMap.total state.active (holdsKey key)
  buttons : Tracks state.pressedButtonCounts native.buttons
  buttonCounts : ∀ button, HashMap.count state.pressedButtonCounts button =
    HashMap.total state.active (holdsButton button)
  leases : ∀ lease session, state.active.lookup lease = some session → session.lease = lease
  single : HashMap.size state.active ≤ 1

theorem Consistent.new :
    Consistent (InputSessionState.new : InputSessionState Button Sequence) Native.allUp where
  keys := Tracks.empty
  keyCounts := fun _ => rfl
  buttons := Tracks.empty
  buttonCounts := fun _ => rfl
  leases := by simp [InputSessionState.new]
  single := by simp [InputSessionState.new]

variable {lease : InputLease} {session : ActiveInputSession Button Sequence}

/-- Taking a session out of the map leaves it in hand. -/
theorem Consistent.takeOut (consistent : Consistent state native)
    (present : state.active.lookup lease = some session) :
    InHand { state with active := state.active.erase lease } session native where
  keys := ⟨consistent.keys, fun key => by
    rw [consistent.keyCounts key, ← HashMap.total_erase (holdsKey key) present]
    rfl⟩
  buttons := ⟨consistent.buttons, fun button => by
    rw [consistent.buttonCounts button, ← HashMap.total_erase (holdsButton button) present]
    rfl⟩

/-- Putting the session in hand back. -/
theorem InHand.putBack (inHand : InHand state current native) (sameLease : current.lease = lease)
    (empty : HashMap.size state.active = 0)
    (leases : ∀ other session, state.active.lookup other = some session → session.lease = other) :
    Consistent (state.setSession lease current) native := by
  have absent : state.active.lookup lease = none := by
    cases found : state.active.lookup lease with
    | none => rfl
    | some =>
        have positive := HashMap.weight_le_total (fun _ _ => 1) found
        rw [HashMap.total_one, empty] at positive
        exact absurd positive (by decide)
  refine
    { keys := inHand.keys.tracks
      keyCounts := ?_
      buttons := inHand.buttons.tracks
      buttonCounts := ?_
      leases := ?_
      single := ?_ }
  · intro key
    exact (inHand.keys.counted key).trans
      (HashMap.total_insert_new current (holdsKey key) absent).symm
  · intro button
    exact (inHand.buttons.counted button).trans
      (HashMap.total_insert_new current (holdsButton button) absent).symm
  · intro other session found
    by_cases same : other = lease
    · subst other
      simp only [InputSessionState.setSession, AList.lookup_insert, Option.some.injEq] at found
      rw [← found, sameLease]
    · exact leases other session ((AList.lookup_insert_ne same).symm.trans found)
  · have size := HashMap.size_insert_new current absent
    rw [empty] at size
    exact size.le

/-- The only session leaves an empty map. -/
theorem Consistent.erase_empty (consistent : Consistent state native)
    (present : state.active.lookup lease = some session) :
    state.active.erase lease = ∅ ∧ state.active.entries = [⟨lease, session⟩] := by
  have perm := HashMap.entries_perm_erase present
  have single := consistent.single
  rw [HashMap.size, perm.length_eq, List.length_cons] at single
  have nothing : (state.active.erase lease).entries = [] :=
    List.eq_nil_of_length_eq_zero (by omega)
  refine ⟨AList.ext nothing, ?_⟩
  rw [nothing] at perm
  exact perm.eq_singleton

/-- A session taken out and put back as it was: the very same state. -/
theorem Consistent.setSession_erase (consistent : Consistent state native)
    (present : state.active.lookup lease = some session) :
    { state with active := state.active.erase lease }.setSession lease session = state := by
  obtain ⟨erased, entries⟩ := consistent.erase_empty present
  have restored : (state.active.erase lease).insert lease session = state.active := by
    apply AList.ext
    rw [erased, entries]
    rfl
  simp only [InputSessionState.setSession, restored]

/-- Putting back a session that holds what it held, whatever else changed in it. -/
theorem Consistent.refresh (consistent : Consistent state native)
    (present : state.active.lookup lease = some session)
    (next : ActiveInputSession Button Sequence) (sameLease : next.lease = session.lease)
    (sameKeys : next.pressedKeys = session.pressedKeys)
    (sameButtons : next.pressedButtons = session.pressedButtons) :
    Consistent (state.setSession lease next) native := by
  have exchanged (weight : InputLease → ActiveInputSession Button Sequence → Nat)
      (sameWeight : weight lease next = weight lease session) :
      HashMap.total (state.active.insert lease next) weight =
        HashMap.total state.active weight := by
    have := HashMap.total_insert_present next weight present
    omega
  refine
    { keys := consistent.keys
      keyCounts := fun key => ?_
      buttons := consistent.buttons
      buttonCounts := fun button => ?_
      leases := ?_
      single := ?_ }
  · exact (consistent.keyCounts key).trans (exchanged _ (by simp [holdsKey, sameKeys])).symm
  · exact (consistent.buttonCounts button).trans
      (exchanged _ (by simp [holdsButton, sameButtons])).symm
  · intro other found present'
    by_cases same : other = lease
    · subst other
      simp only [InputSessionState.setSession, AList.lookup_insert, Option.some.injEq]
        at present'
      rw [← present', sameLease]
      exact consistent.leases lease session present
    · exact consistent.leases other found ((AList.lookup_insert_ne same).symm.trans present')
  · exact (HashMap.size_insert_present next present).le.trans consistent.single

/-! ### One call -/

/-- What one call leaves: legal events and agreement after them. -/
structure Settled (native : Native Button) (reply : Reply Button Gesture Other)
    (after : InputSessionState Button Sequence) : Prop where
  legal : LegalEvents native reply.events
  consistent : Consistent after (replayNative native reply.events)
  returned : ∀ message, reply ≠ .normalized (.panicked message)

variable {deviceId : String} {now : Instant}

theorem Consistent.acquire (consistent : Consistent state native) {workspaceRouted : Bool}
    {draws : List (UInt64 × UInt32)} {result : Except String InputLease}
    (returned : acquireWithRouting gestures state deviceId workspaceRouted draws now =
      some (result, after)) : Consistent after native := by
  unfold acquireWithRouting at returned
  cases entries : state.active.entries with
  | cons =>
      rw [entries] at returned
      cases returned
      exact consistent
  | nil =>
      rw [entries] at returned
      simp only [Option.bind_eq_bind, Option.bind_eq_some_iff, Option.pure_def,
        Option.some.injEq, Prod.mk.injEq] at returned
      obtain ⟨lease, drawn, rfl, rfl⟩ := returned
      have empty : state.active = ∅ := AList.ext entries
      -- A session that holds nothing joins an empty map.
      have inHand : InHand state
          (newSession gestures lease deviceId workspaceRouted now) native :=
        ⟨⟨consistent.keys, fun key => by rw [consistent.keyCounts key]; rfl⟩,
          ⟨consistent.buttons, fun button => by rw [consistent.buttonCounts button]; rfl⟩⟩
      exact inHand.putBack rfl (by simp [empty]) (by simp [empty])

theorem Consistent.acceptReliable (consistent : Consistent state native)
    {sequence elapsedUs : UInt64} {checkAt : Instant}
    {result : Except String InputFeedbackSnapshot}
    (returned : InputSession.acceptReliable state lease deviceId sequence elapsedUs checkAt now =
      (result, after)) : Consistent after native := by
  unfold InputSession.acceptReliable at returned
  cases present : state.active.lookup lease with
  | none =>
      simp only [present, Prod.mk.injEq] at returned
      exact returned.2 ▸ consistent
  | some =>
      simp only [present] at returned
      split_ifs at returned <;> simp only [Prod.mk.injEq] at returned <;>
        obtain ⟨rfl, rfl⟩ := returned <;>
        first
        | exact consistent
        | exact consistent.refresh present _ rfl rfl rfl

theorem Consistent.acceptOrderedMotion (consistent : Consistent state native)
    {pointerX pointerY scrollX scrollY : Int} {preciseScroll : Bool} {checkAt : Instant}
    {result : Except String MotionDelta}
    (returned : InputSession.acceptOrderedMotion state lease deviceId pointerX pointerY scrollX
      scrollY preciseScroll checkAt now = (result, after)) : Consistent after native := by
  unfold InputSession.acceptOrderedMotion at returned
  cases present : state.active.lookup lease with
  | none =>
      simp only [present, Prod.mk.injEq] at returned
      exact returned.2 ▸ consistent
  | some session =>
      simp only [present] at returned
      split_ifs at returned
      · exact (Prod.mk.inj returned).2 ▸ consistent
      · exact (Prod.mk.inj returned).2 ▸ consistent
      · cases deltas : motionDeltas session pointerX pointerY scrollX scrollY with
        | error =>
            rw [deltas] at returned
            exact (Prod.mk.inj returned).2 ▸ consistent
        | ok =>
            rw [deltas] at returned
            exact (Prod.mk.inj returned).2 ▸ consistent.refresh present _ rfl rfl rfl

/-- A batch of the owner: the session is taken out, changed event by event and put back. -/
theorem Consistent.normalize (sound : gestures.Sound) (consistent : Consistent state native)
    {outcome : CallOutcome (Except String (List (InputEvent Button Gesture Other)))}
    (returned : normalizeReliableEvents gestures contexts state lease deviceId batch =
      (outcome, after)) : Settled native (.normalized outcome) after := by
  unfold normalizeReliableEvents at returned
  cases valid : invalidGesture gestures batch with
  | some =>
      simp only [valid] at returned
      cases returned
      exact ⟨trivial, consistent, by simp⟩
  | none =>
      cases present : state.active.lookup lease with
      | none =>
          simp only [valid, present] at returned
          cases returned
          exact ⟨trivial, consistent, by simp⟩
      | some session =>
          simp only [valid, present] at returned
          split_ifs at returned with mismatch
          · cases returned
            refine ⟨trivial, ?_, by simp⟩
            rw [consistent.setSession_erase present]
            exact consistent
          · obtain ⟨events, looped, next, result⟩ := normalizeEvents_isSome sound contexts
              { state with active := state.active.erase lease } session valid
            rw [result] at returned
            cases returned
            have normalized :=
              normalizeEvents_normalized (consistent.takeOut present) result
            have erased := (consistent.erase_empty present).1
            have leased : next.lease = lease :=
              (congrArg Prod.fst normalized.identity).trans
                (consistent.leases lease session present)
            exact ⟨normalized.legal,
              normalized.inHand.putBack leased (by simp [normalized.active, erased])
                (by simp [normalized.active, erased]), by simp⟩

theorem Consistent.cancelIdle (consistent : Consistent state native)
    (returned : cancelIdleSystemGesture gestures state lease deviceId now = (events, after)) :
    Settled native (.released events) after := by
  unfold cancelIdleSystemGesture at returned
  cases present : state.active.lookup lease with
  | none =>
      simp only [present] at returned
      cases returned
      exact ⟨trivial, consistent, by simp⟩
  | some session =>
      simp only [present] at returned
      split at returned
      · cases returned
        exact ⟨trivial, consistent, by simp⟩
      · cases returned
        have refreshed := consistent.refresh present
          { session with
            systemGestureUpdated := none
            systemGesture := (gestures.cancel session.systemGesture).2 } rfl rfl rfl
        cases cancelled : (gestures.cancel session.systemGesture).1 with
        | none => exact ⟨trivial, refreshed, by simp⟩
        | some => exact ⟨⟨trivial, trivial⟩, refreshed, by simp⟩

/-- The release of an active lease: the session goes, with everything it held. -/
theorem Consistent.release_active (consistent : Consistent state native)
    (present : state.active.lookup lease = some session)
    (returned : InputSession.release gestures order state lease = (events, after)) :
    LegalEvents native events ∧ Consistent after (replayNative native events) ∧
      after.active = state.active.erase lease := by
  obtain ⟨events', after', next, result⟩ : ∃ events' after' next,
      @releaseSessionState Button Gesture Other Sequence _ gestures order
        { state with active := state.active.erase lease } session = (events', after', next) :=
    ⟨_, _, _, rfl⟩
  simp only [InputSession.release, present, result, Prod.mk.injEq] at returned
  obtain ⟨rfl, rfl⟩ := returned
  obtain ⟨normalized, noKeys, noButtons⟩ :=
    releaseSessionState_normalized (consistent.takeOut present) result
  have erased : after'.active = ∅ :=
    normalized.active.trans (consistent.erase_empty present).1
  refine ⟨normalized.legal, ?_, normalized.active⟩
  refine
    { keys := normalized.inHand.keys.tracks
      keyCounts := fun key => ?_
      buttons := normalized.inHand.buttons.tracks
      buttonCounts := fun button => ?_
      leases := by simp [erased]
      single := by simp [erased] }
  · rw [normalized.inHand.keys.counted key, noKeys]
    rfl
  · rw [normalized.inHand.buttons.counted button, noButtons]
    rfl

theorem Consistent.release (consistent : Consistent state native)
    (returned : InputSession.release gestures order state lease = (events, after)) :
    Settled native (.released events) after := by
  cases present : state.active.lookup lease with
  | none =>
      simp only [InputSession.release, present] at returned
      cases returned
      exact ⟨trivial, consistent, by simp⟩
  | some =>
      obtain ⟨legal, settled, -⟩ := consistent.release_active present returned
      exact ⟨legal, settled, by simp⟩

/-- Every call of the interface. -/
theorem Consistent.perform (sound : gestures.Sound) (consistent : Consistent state native)
    {call : Call Button Gesture Other} {reply : Reply Button Gesture Other}
    (performed : InputSession.perform gestures state call = some (reply, after)) :
    Settled native reply after := by
  cases call with
  | acquire =>
      simp only [InputSession.perform, Option.map_eq_some_iff, Prod.exists, Prod.mk.injEq]
        at performed
      obtain ⟨result, acquired, returned, rfl, rfl⟩ := performed
      exact ⟨trivial, consistent.acquire returned, by simp⟩
  | acceptReliable =>
      cases performed
      exact ⟨trivial, consistent.acceptReliable rfl, by simp⟩
  | acceptOrderedMotion lease deviceId pointerX pointerY scrollX scrollY preciseScroll checkAt
      now =>
      cases performed
      exact ⟨trivial, consistent.acceptOrderedMotion rfl, by simp⟩
  | normalize =>
      cases performed
      exact consistent.normalize sound rfl
  | cancelIdle =>
      cases performed
      exact consistent.cancelIdle rfl
  | release =>
      cases performed
      exact consistent.release rfl

/-! ### Whole runs -/

theorem Consistent.run (sound : gestures.Sound) {replies : List (Reply Button Gesture Other)}
    (run : Run gestures replies state) :
    Consistent state (replayNative Native.allUp (emitted replies)) ∧
      LegalEvents Native.allUp (emitted replies) ∧
      ∀ reply ∈ replies, ∀ message, reply ≠ .normalized (.panicked message) := by
  induction run with
  | start => exact ⟨.new, trivial, by simp⟩
  | step earlier performed ih =>
      obtain ⟨consistent, legal, returned⟩ := ih
      have settled := consistent.perform sound performed
      refine ⟨?_, legalEvents_append.mpr ⟨legal, settled.legal⟩, ?_⟩
      · rw [emitted, replayNative_append]
        exact settled.consistent
      · intro reply member
        rcases List.mem_cons.mp member with rfl | earlier
        · exact settled.returned
        · exact returned reply earlier

/-- Something is counted exactly when it has a holder, by the number of its holders. -/
theorem lookup_iff_total {T : Type} [DecidableEq T] {counts : HashMap T Nat} {native : Finset T}
    (tracks : Tracks counts native) {item : T} {holders : Nat}
    (counted : HashMap.count counts item = holders) (count : Nat) :
    counts.lookup item = some count ↔ 0 < count ∧ count = holders := by
  constructor
  · intro found
    have read : HashMap.count counts item = count := by simp [HashMap.count, found]
    exact ⟨tracks.positive item count found, read.symm.trans counted⟩
  · rintro ⟨positive, rfl⟩
    cases found : counts.lookup item with
    | none =>
        have read : HashMap.count counts item = 0 := by simp [HashMap.count, found]
        omega
    | some value =>
        have read : HashMap.count counts item = value := by simp [HashMap.count, found]
        rw [← read, counted]

theorem Consistent.key_down_iff (consistent : Consistent state native) (key : UInt16) :
    key ∈ native.keys ↔
      ∃ lease session, state.active.lookup lease = some session ∧ key ∈ session.pressedKeys := by
  rw [consistent.keys.down, consistent.keyCounts]
  constructor
  · intro positive
    obtain ⟨lease, session, present, holds⟩ := HashMap.exists_of_total_pos positive
    exact ⟨lease, session, present, by_contra fun free => by simp [holdsKey, free] at holds⟩
  · rintro ⟨lease, session, present, held⟩
    have := HashMap.weight_le_total (holdsKey key) present
    simp only [holdsKey, held, if_true] at this
    exact this

theorem Consistent.button_down_iff (consistent : Consistent state native) (button : Button) :
    button ∈ native.buttons ↔
      ∃ lease session, state.active.lookup lease = some session ∧
        button ∈ session.pressedButtons := by
  rw [consistent.buttons.down, consistent.buttonCounts]
  constructor
  · intro positive
    obtain ⟨lease, session, present, holds⟩ := HashMap.exists_of_total_pos positive
    exact ⟨lease, session, present, by_contra fun free => by simp [holdsButton, free] at holds⟩
  · rintro ⟨lease, session, present, held⟩
    have := HashMap.weight_le_total (holdsButton button) present
    simp only [holdsButton, held, if_true] at this
    exact this

/-- The down-sets are the unions of what the active sessions hold, and the counts are the
numbers of holders. -/
structure HoldsShown (state : InputSessionState Button Sequence) (native : Native Button) :
    Prop where
  keys : ∀ key, key ∈ native.keys ↔
    ∃ lease session, state.active.lookup lease = some session ∧ key ∈ session.pressedKeys
  buttons : ∀ button, button ∈ native.buttons ↔
    ∃ lease session, state.active.lookup lease = some session ∧ button ∈ session.pressedButtons
  keyCounts : ∀ key count, state.pressedKeyCounts.lookup key = some count ↔
    0 < count ∧ count = HashMap.total state.active (holdsKey key)
  buttonCounts : ∀ button count, state.pressedButtonCounts.lookup button = some count ↔
    0 < count ∧ count = HashMap.total state.active (holdsButton button)

theorem Consistent.holdsShown (consistent : Consistent state native) : HoldsShown state native where
  keys := consistent.key_down_iff
  buttons := consistent.button_down_iff
  keyCounts := fun key => lookup_iff_total consistent.keys (consistent.keyCounts key)
  buttonCounts := fun button =>
    lookup_iff_total consistent.buttons (consistent.buttonCounts button)

/-- A call the manager has to turn down. -/
def Refused (gestures : Gestures Gesture Sequence) (state : InputSessionState Button Sequence)
    (lease : InputLease) (deviceId : String)
    (batch : List (InputEvent Button Gesture Other)) : Prop :=
  state.active.lookup lease = none ∨
    (∃ session, state.active.lookup lease = some session ∧ session.deviceId ≠ deviceId) ∨
    ∃ gesture, .systemGesture gesture ∈ batch ∧ gestures.validate gesture ≠ none

theorem Consistent.normalize_refused (consistent : Consistent state native)
    (refused : Refused gestures state lease deviceId batch) :
    ∃ message, normalizeReliableEvents gestures contexts state lease deviceId batch =
      (.returned (.error message), state) := by
  cases valid : invalidGesture gestures batch with
  | some message => exact ⟨message, by simp only [normalizeReliableEvents, valid]⟩
  | none =>
      rcases refused with absent | ⟨session, present, stranger⟩ | ⟨gesture, member, rejected⟩
      · exact ⟨notActive, by simp only [normalizeReliableEvents, valid, absent]⟩
      · refine ⟨identityMismatch, ?_⟩
        have mismatch : ownerMatches session lease deviceId = false := by
          simp [ownerMatches, stranger]
        simp only [normalizeReliableEvents, valid, present, mismatch, Bool.not_false, if_true,
          consistent.setSession_erase present]
      · obtain ⟨message, found⟩ := invalidGesture_isSome member rejected
        rw [valid] at found
        exact absurd found (by simp)

/-- The events the manager returns, replayed from an idle machine, show exactly what its
sessions hold at every point of every run. -/
theorem emitted_events_track_held_state {gestures : Gestures Gesture Sequence}
    (sound : gestures.Sound) {replies : List (Reply Button Gesture Other)}
    {state : InputSessionState Button Sequence} (run : Run gestures replies state) :
    let native := replayNative Native.allUp (emitted replies)
    HoldsShown state native ∧
      LegalEvents Native.allUp (emitted replies) ∧
      (∀ reply ∈ replies, ∀ message, reply ≠ .normalized (.panicked message)) ∧
      (∀ order lease (events : List (InputEvent Button Gesture Other)) after,
        release gestures order state lease = (events, after) →
          HoldsShown after (replayNative native events) ∧
          (∀ other, after.active.lookup other =
            if other = lease then none else state.active.lookup other) ∧
          ∀ session, state.active.lookup lease = some session →
            (∀ key ∈ session.pressedKeys,
              (∀ other holder, other ≠ lease → state.active.lookup other = some holder →
                key ∉ holder.pressedKeys) →
              key ∉ (replayNative native events).keys) ∧
            (∀ button ∈ session.pressedButtons,
              (∀ other holder, other ≠ lease → state.active.lookup other = some holder →
                button ∉ holder.pressedButtons) →
              button ∉ (replayNative native events).buttons)) ∧
      (∀ contexts lease deviceId (batch : List (InputEvent Button Gesture Other)),
        Refused gestures state lease deviceId batch →
          ∃ message, normalizeReliableEvents gestures contexts state lease deviceId batch =
            (.returned (.error message), state)) ∧
      (∀ lease deviceId now, Refused gestures state lease deviceId
          ([] : List (InputEvent Button Gesture Other)) →
        cancelIdleSystemGesture gestures state lease deviceId now =
          (([] : List (InputEvent Button Gesture Other)), state)) ∧
      ∀ order lease, state.active.lookup lease = none →
        release gestures order state lease =
          (([] : List (InputEvent Button Gesture Other)), state) := by
  obtain ⟨consistent, legal, returned⟩ := Consistent.run sound run
  refine ⟨consistent.holdsShown, legal, returned, ?_, ?_, ?_, ?_⟩
  · intro order lease events after released
    have settled := (consistent.release released).consistent.holdsShown
    have removed : ∀ other, after.active.lookup other =
        if other = lease then none else state.active.lookup other := by
      intro other
      cases present : state.active.lookup lease with
      | none =>
          simp only [release, present, Prod.mk.injEq] at released
          rw [← released.2]
          split_ifs with same
          · rw [same, present]
          · rfl
      | some =>
          rw [(consistent.release_active present released).2.2]
          split_ifs with same
          · rw [same, AList.lookup_erase]
          · exact AList.lookup_erase_ne same
    refine ⟨settled, removed, fun session present => ⟨?_, ?_⟩⟩
    · intro key _ onlyHere down
      obtain ⟨other, holder, found, held⟩ := (settled.keys key).mp down
      rw [removed] at found
      split_ifs at found with same
      exact onlyHere other holder same found held
    · intro button _ onlyHere down
      obtain ⟨other, holder, found, held⟩ := (settled.buttons button).mp down
      rw [removed] at found
      split_ifs at found with same
      exact onlyHere other holder same found held
  · intro contexts lease deviceId batch refused
    exact consistent.normalize_refused refused
  · rintro lease deviceId now (absent | ⟨session, present, stranger⟩ | ⟨gesture, member, -⟩)
    · simp only [cancelIdleSystemGesture, absent]
    · simp [cancelIdleSystemGesture, present, ownerMatches, stranger]
    · exact absurd member List.not_mem_nil
  · intro order lease absent
    simp only [release, absent]

/-- A domain that accepts every gesture and keeps no gesture active. -/
def plainGestures : Gestures Unit Unit where
  initial := ()
  validate := fun _ => none
  apply := fun sequence gesture => some ([gesture], sequence)
  isActive := fun _ => false
  cancel := fun sequence => (none, sequence)

/-- Drain in the order the sets are stored. -/
def storedOrder : DrainOrder Button where
  keys := fun held => held.keys
  buttons := fun held => held.keys
  keys_perm := fun _ => .refl _
  buttons_perm := fun _ => .refl _

/-- One controller presses a key, repeats it, presses a button, and is released. -/
def pressAndRelease : List (Call Bool Unit Unit) :=
  [.release storedOrder ⟨7, 3⟩,
    .normalize (fun _ => ⟨storedOrder, 2⟩) ⟨7, 3⟩ "tablet"
      [.key 4 true false, .key 4 true true, .pointerButton true true 1],
    .acquire "tablet" false [(7, 3)] 1]

theorem emitted_events_track_held_state_pressAndRelease :
    ∃ replies state, replay plainGestures pressAndRelease = some (replies, state) ∧
      (emitted replies).length = 5 ∧
      HoldsShown state (replayNative Native.allUp (emitted replies)) := by
  have run : ∃ replies state, replay plainGestures pressAndRelease = some (replies, state) ∧
      (emitted replies).length = 5 := ⟨_, _, rfl, rfl⟩
  obtain ⟨replies, state, played, length⟩ := run
  have sound : plainGestures.Sound := fun _ _ _ => rfl
  exact ⟨replies, state, played, length,
    (emitted_events_track_held_state sound (Run.of_replay played)).1⟩

end ArcRelay.InputSession
