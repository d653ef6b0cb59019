/-
Module: ArcRelay.Proofs.InputSessionLeases
Purpose: Who holds the manager's lease before and after each call.
Trusted boundary: as for the manager
-/
import ArcRelay.Proofs.InputSessionHolds

namespace ArcRelay.InputSession

variable {Button Gesture Other Sequence : Type} [DecidableEq Button]

/-!
Of an active session only its lease, its device and its routing matter to the connections.
Every call but `acquire` and `release` leaves them alone.
-/

/-- An active lease, its device, and whether its events go to the workspace router. -/
structure Holder where
  lease : InputLease
  deviceId : String
  workspaceRouted : Bool
deriving Repr, DecidableEq

/-- The holders of the active leases. -/
def holders (state : InputSessionState Button Sequence) : List Holder :=
  state.active.entries.map fun entry => ⟨entry.1, entry.2.deviceId, entry.2.workspaceRouted⟩

variable {state : InputSessionState Button Sequence} {native : Native Button} {lease : InputLease}

/-- The one holder there can be. -/
theorem Consistent.holders_of_lookup (consistent : Consistent state native)
    {session : ActiveInputSession Button Sequence}
    (present : state.active.lookup lease = some session) :
    holders state = [⟨lease, session.deviceId, session.workspaceRouted⟩] := by
  simp [holders, (consistent.erase_empty present).2]

omit [DecidableEq Button] in
/-- An active session by its holder. -/
theorem lookup_of_holders {holder : Holder} (held : holders state = [holder]) :
    ∃ session, state.active.lookup holder.lease = some session ∧
      session.deviceId = holder.deviceId ∧ session.workspaceRouted = holder.workspaceRouted := by
  unfold holders at held
  rcases entries : state.active.entries with - | ⟨⟨lease, session⟩, rest⟩
  · simp [entries] at held
  · rw [entries] at held
    simp only [List.map_cons, List.cons.injEq, List.map_eq_nil_iff] at held
    obtain ⟨rfl, rfl⟩ := held
    have member : ⟨lease, session⟩ ∈ state.active.entries := by simp [entries]
    exact ⟨session, AList.mem_lookup_iff.mpr member, rfl, rfl⟩

omit [DecidableEq Button] in
/-- A session stored into a map without other sessions. -/
theorem holders_setSession_of_empty (lease : InputLease)
    (session : ActiveInputSession Button Sequence) (empty : state.active.erase lease = ∅) :
    holders (state.setSession lease session) =
      [⟨lease, session.deviceId, session.workspaceRouted⟩] := by
  have entries : (state.active.insert lease session).entries =
      ⟨lease, session⟩ :: (state.active.erase lease).entries := AList.entries_insert
  simp only [holders, InputSessionState.setSession, entries, empty]
  rfl

/-- Putting a session back under its own identity. -/
theorem Consistent.holders_setSession (consistent : Consistent state native)
    {session : ActiveInputSession Button Sequence}
    (present : state.active.lookup lease = some session)
    (next : ActiveInputSession Button Sequence) (identity : next.identity = session.identity) :
    holders (state.setSession lease next) = holders state := by
  simp only [ActiveInputSession.identity, Prod.mk.injEq] at identity
  rw [holders_setSession_of_empty lease next (consistent.erase_empty present).1,
    consistent.holders_of_lookup present, identity.2.1, identity.2.2]

/-! ### Calls that leave the lease alone -/

theorem Consistent.holders_acceptReliable (consistent : Consistent state native)
    (lease : InputLease) (deviceId : String) (sequence elapsedUs : UInt64) (checkAt now : Instant) :
    holders (InputSession.acceptReliable state lease deviceId sequence elapsedUs checkAt now).2 =
      holders state := by
  unfold InputSession.acceptReliable
  cases present : state.active.lookup lease with
  | none => rfl
  | some =>
      simp only
      split_ifs <;>
        first
        | rfl
        | exact consistent.holders_setSession present _ rfl

theorem Consistent.holders_acceptOrderedMotion (consistent : Consistent state native)
    (lease : InputLease) (deviceId : String) (pointerX pointerY scrollX scrollY : Int)
    (preciseScroll : Bool) (checkAt now : Instant) :
    holders (InputSession.acceptOrderedMotion state lease deviceId pointerX pointerY scrollX
      scrollY preciseScroll checkAt now).2 = holders state := by
  unfold InputSession.acceptOrderedMotion
  cases present : state.active.lookup lease with
  | none => rfl
  | some session =>
      simp only
      split_ifs
      · rfl
      · rfl
      · cases motionDeltas session pointerX pointerY scrollX scrollY with
        | error => rfl
        | ok => exact consistent.holders_setSession present _ rfl

variable {gestures : Gestures Gesture Sequence}

theorem Consistent.holders_cancelIdle (consistent : Consistent state native) (lease : InputLease)
    (deviceId : String) (now : Instant) :
    holders (@cancelIdleSystemGesture Button Gesture Other Sequence gestures state lease
      deviceId now).2 = holders state := by
  unfold cancelIdleSystemGesture
  cases present : state.active.lookup lease with
  | none => rfl
  | some =>
      simp only
      split
      · rfl
      · exact consistent.holders_setSession present _ rfl

/-- A batch, accepted or not.  An accepted one comes from the holder's own device. -/
theorem Consistent.holders_normalize (sound : gestures.Sound)
    (consistent : Consistent state native) (contexts : Nat → EventContext Button)
    (lease : InputLease) (deviceId : String) (batch : List (InputEvent Button Gesture Other)) :
    holders (normalizeReliableEvents gestures contexts state lease deviceId batch).2 =
        holders state ∧
      ∀ events, (normalizeReliableEvents gestures contexts state lease deviceId batch).1 =
          .returned (.ok events) →
        ∃ workspaceRouted, holders state = [⟨lease, deviceId, workspaceRouted⟩] := by
  unfold normalizeReliableEvents
  cases valid : invalidGesture gestures batch with
  | some => exact ⟨rfl, by simp⟩
  | none =>
      cases present : state.active.lookup lease with
      | none => exact ⟨rfl, by simp⟩
      | some session =>
          simp only
          split_ifs with mismatch
          · rw [consistent.setSession_erase present]
            exact ⟨rfl, by simp⟩
          · obtain ⟨events, looped, next, result⟩ := normalizeEvents_isSome sound contexts
              { state with active := state.active.erase lease } session valid
            have normalized := normalizeEvents_normalized (consistent.takeOut present) result
            have empty : looped.active.erase lease = ∅ := by
              rw [normalized.active, (consistent.erase_empty present).1]
              rfl
            have identity := normalized.identity
            simp only [ActiveInputSession.identity, Prod.mk.injEq] at identity
            have owner : session.deviceId = deviceId := by
              simp only [Bool.not_eq_true', Bool.not_eq_false, ownerMatches, Bool.and_eq_true,
                decide_eq_true_eq] at mismatch
              exact mismatch.2
            rw [result]
            simp only
            rw [holders_setSession_of_empty lease next empty,
              consistent.holders_of_lookup present, identity.2.1, identity.2.2]
            exact ⟨rfl, fun _ _ => ⟨session.workspaceRouted, by rw [owner]⟩⟩

/-! ### Acquiring and releasing -/

variable {deviceId : String} {workspaceRouted : Bool}

omit [DecidableEq Button] in
/-- A lease is granted only when there is none, and then there is this one. -/
theorem holders_acquire {after : InputSessionState Button Sequence}
    {draws : List (UInt64 × UInt32)} {now : Instant}
    (returned : acquireWithRouting gestures state deviceId workspaceRouted draws now =
      some (.ok lease, after)) :
    holders state = [] ∧ holders after = [⟨lease, deviceId, workspaceRouted⟩] := by
  unfold acquireWithRouting at returned
  rcases entries : state.active.entries with - | ⟨entry, rest⟩
  · simp only [entries, Option.bind_eq_bind, Option.bind_eq_some_iff, Option.pure_def,
      Option.some.injEq, Prod.mk.injEq, Except.ok.injEq] at returned
    obtain ⟨drawn, -, rfl, rfl⟩ := returned
    have empty : state.active = ∅ := AList.ext entries
    refine ⟨by simp [holders, entries], ?_⟩
    rw [holders_setSession_of_empty drawn _ (by rw [empty]; rfl)]
    rfl
  · simp [entries] at returned

omit [DecidableEq Button] in
/-- A refused lease changes nothing. -/
theorem acquire_refused {after : InputSessionState Button Sequence}
    {draws : List (UInt64 × UInt32)} {now : Instant} {message : String}
    (returned : acquireWithRouting gestures state deviceId workspaceRouted draws now =
      some (.error message, after)) : after = state := by
  unfold acquireWithRouting at returned
  rcases entries : state.active.entries with - | ⟨entry, rest⟩
  · simp [entries, Option.bind_eq_some_iff] at returned
  · simp only [entries, Option.some.injEq, Prod.mk.injEq] at returned
    exact returned.2.symm

theorem Consistent.holders_release {order : DrainOrder Button}
    (consistent : Consistent state native) {holder : Holder} (held : holders state = [holder]) :
    holders (@InputSession.release Button Gesture Other Sequence _ gestures order state
      holder.lease).2 = [] := by
  obtain ⟨session, present, -, -⟩ := lookup_of_holders held
  cases returned : @InputSession.release Button Gesture Other Sequence _ gestures order state
    holder.lease with
  | mk =>
      have removed := (consistent.release_active present returned).2.2
      rw [holders, removed, (consistent.erase_empty present).1]
      rfl

omit [DecidableEq Button] in
/-- The routing question, answered for a holder. -/
theorem isWorkspaceRouted_of_holders (held : holders state = [⟨lease, deviceId, workspaceRouted⟩]) :
    isWorkspaceRouted state lease deviceId = workspaceRouted := by
  obtain ⟨session, present, device, routed⟩ := lookup_of_holders held
  simp only at present device routed
  simp [isWorkspaceRouted, present, device, routed]

/-- Only a routed holder answers yes. -/
theorem Consistent.routed_of_isWorkspaceRouted (consistent : Consistent state native)
    (routed : isWorkspaceRouted state lease deviceId = true) :
    holders state = [⟨lease, deviceId, true⟩] := by
  unfold isWorkspaceRouted at routed
  cases present : state.active.lookup lease with
  | none => simp [present] at routed
  | some =>
      simp only [present, Bool.and_eq_true, decide_eq_true_eq] at routed
      rw [consistent.holders_of_lookup present, routed.1, routed.2]

end ArcRelay.InputSession
