/-
Module: ArcRelay.Proofs.InputControlOwnership
Purpose: Every lease has exactly one live owner, and the device is natively released before it
  changes hands.
Trusted boundary: the domain's gesture sequence accepts every gesture it validates; a dropped
  native call has no later effect
-/
import ArcRelay.Proofs.InputControlHandlers

namespace ArcRelay.InputControl

open InputSession Program

variable {Button Gesture Other Sequence Wire : Type} [DecidableEq Button]
variable {host : Host Button Gesture Other Sequence Wire} {router : Bool}

theorem Invariant.new :
    Invariant (SharedState.new : SharedState Button Gesture Other Sequence) where
  consistent := ⟨_, Consistent.new⟩
  held := rfl
  slots := fun _ => rfl
  live := by simp [SharedState.new, currentOwner]
  orderly := trivial

theorem running_of_reachable (sound : host.gestures.Sound)
    {config : Config Task (SharedState Button Gesture Other Sequence)
      (Op Button Gesture Other) Op.Answer Flow}
    (reachable : Reachable (machine host router) SharedState.new config) :
    Running (machine host router) discipline config :=
  (machine_verified sound).reachable Invariant.new reachable

/-! ### One owner -/

/-- The connection that acquired `lease` most recently. -/
def lastAcquirer (lease : InputLease) : List (Record Button Gesture Other) → Option ConnectionId
  | [] => none
  | record :: earlier =>
      match record.event with
      | .acquired connection acquired _ =>
          if acquired = lease then some connection else lastAcquirer lease earlier
      | _ => lastAcquirer lease earlier

omit [DecidableEq Button] in
theorem lastAcquirer_of_owner {log : List (Record Button Gesture Other)} {owner : Ownership}
    (found : currentOwner log = some owner) :
    lastAcquirer owner.lease log = some owner.connection := by
  induction log with
  | nil => simp [currentOwner] at found
  | cons record _ ih =>
      cases event : record.event with
      | acquired =>
          simp only [currentOwner, event, Option.some.injEq] at found
          subst found
          simp [lastAcquirer, event]
      | dropped => simp [currentOwner, event] at found
      | started =>
          simp only [currentOwner, event] at found
          simp only [lastAcquirer, event]
          exact ih found
      | returned =>
          simp only [currentOwner, event] at found
          simp only [lastAcquirer, event]
          exact ih found

variable {lease : InputLease}

/-- An active lease is the owner's. -/
theorem Invariant.owner_of_mem {state : SharedState Button Gesture Other Sequence}
    (invariant : Invariant state) (active : lease ∈ state.manager.active) :
    ∃ owner, currentOwner state.log = some owner ∧ owner.lease = lease := by
  have member : lease ∈ state.manager.active.keys := active
  rw [keys_eq_holders, invariant.held] at member
  cases found : currentOwner state.log with
  | none => simp [found] at member
  | some owner =>
      rw [found] at member
      exact ⟨owner, rfl, by simpa [Ownership.holder, eq_comm] using member⟩

theorem slotOf_eq_some {owner : Option Ownership} {connection : ConnectionId} :
    slotOf owner connection = some lease ↔
      ∃ workspaceRouted, owner = some ⟨connection, lease, workspaceRouted⟩ := by
  cases owner with
  | none => simp [slotOf]
  | some owner =>
      obtain ⟨own, held, workspaceRouted⟩ := owner
      simp [slotOf, eq_comm]

/-- In every reachable state the manager holds at most one lease; it sits in the slot of
exactly one connection, whose cleanup has not run; every filled slot names an active lease; and
a connection whose cleanup has run owns no active lease. -/
theorem lease_owned_by_one_connection (sound : host.gestures.Sound)
    {config : Config Task (SharedState Button Gesture Other Sequence)
      (Op Button Gesture Other) Op.Answer Flow}
    (reachable : Reachable (machine host router) SharedState.new config) :
    let state := config.state
    HashMap.size state.manager.active ≤ 1 ∧
      (∀ lease ∈ state.manager.active, ∃ connection,
        (state.connections connection).slot = some lease ∧
          (state.connections connection).phase ≠ .unused ∧
          (state.connections connection).phase ≠ .cleaned ∧
          ∀ other, (state.connections other).slot = some lease → other = connection) ∧
      (∀ connection lease, (state.connections connection).slot = some lease →
        lease ∈ state.manager.active) ∧
      ∀ connection, (state.connections connection).phase = .cleaned →
        ∀ lease ∈ state.manager.active, lastAcquirer lease state.log ≠ some connection := by
  intro state
  have invariant : Invariant state := (running_of_reachable sound reachable).invariant
  obtain ⟨native, consistent⟩ := invariant.consistent
  refine ⟨consistent.single, ?_, ?_, ?_⟩
  · intro lease active
    obtain ⟨owner, found, rfl⟩ := invariant.owner_of_mem active
    obtain ⟨used, live⟩ := invariant.live owner found
    refine ⟨owner.connection, ?_, used, live, fun other stored => ?_⟩
    · rw [invariant.slots, found]
      simp [slotOf]
    · rw [invariant.slots, slotOf_eq_some] at stored
      obtain ⟨workspaceRouted, same⟩ := stored
      rw [found] at same
      rw [Option.some.inj same]
  · intro connection lease stored
    rw [invariant.slots, slotOf_eq_some] at stored
    obtain ⟨workspaceRouted, found⟩ := stored
    have member : lease ∈ state.manager.active.keys := by
      simp [keys_eq_holders, invariant.holders_of_owner found, Ownership.holder]
    exact member
  · intro connection cleaned lease active acquired
    obtain ⟨owner, found, rfl⟩ := invariant.owner_of_mem active
    rw [lastAcquirer_of_owner found] at acquired
    exact (invariant.live owner found).2 (Option.some.inj acquired ▸ cleaned)

/-! ### A run -/

/-- A domain without gestures whose wire events are its own events. -/
def plainHost : Host Bool Unit Unit Unit (InputEvent Bool Unit Unit) where
  gestures := plainGestures
  convertReliableEvents := .ok
  validateEvents := fun _ => none
  pointerMove := fun _ _ => ()
  scroll := fun _ _ _ => ()

theorem plainHost_sound : plainHost.gestures.Sound := fun _ _ _ => rfl

/-- Every call succeeds, and the one lease ever drawn is `⟨7, 3⟩`. -/
def plainOracle : Oracle Button where
  checkAt := 1
  now := 1
  draws := [(7, 3)]
  contexts := fun _ => ⟨storedOrder, 1⟩
  order := storedOrder
  result := .ok ()
  route := .error ⟨.unavailable, "no router"⟩
  sent := .ok ()

abbrev PlainAction := Action Task (Oracle Bool) (Arrival (InputEvent Bool Unit Unit))

/-- The next `count` operations of a task. -/
def runs (task : Task) (count : Nat) : List PlainAction :=
  List.replicate count (.run task plainOracle)

def plainReadings : Readings where
  permission := .granted
  routerAvailable := false
  supportsSystemGestures := false
  errorId := ""

/-- A tablet connects, acquires the lease, presses a key through its stream, and asks for the
end of its session; its control loop is dropped while the native release is under way. -/
def droppedDuringRelease : List PlainAction :=
  [.arrive (.connect 0 "tablet" "Tablet"),
    .arrive (.control 0
      (.beginInputSession ⟨true, false, true⟩ plainReadings false ⟨1, false⟩))] ++
    runs (.control 0) 7 ++
    [.finish (.control 0), .arrive (.openStream 0),
      .arrive (.frame 0 ⟨7, 3, 1, 0, [.key 4 true false], none⟩)] ++
    runs (.stream 0) 8 ++
    [.finish (.stream 0), .arrive (.control 0 (.endInputSession plainReadings false 2 ⟨7, 3⟩))] ++
    runs (.control 0) 5 ++ [.cancel (.control 0)]

/-- The cleanup then releases the device again, to the end, and drops the lease. -/
def cleanedUp : List PlainAction :=
  droppedDuringRelease ++ [.arrive (.cleanup 0)] ++ runs (.cleanup 0) 11 ++
    [.finish (.cleanup 0)]

theorem lease_owned_by_one_connection_droppedDuringRelease :
    ∃ config, (machine plainHost false).replay (.start .new) droppedDuringRelease =
        some config ∧
      config.state.manager.active.keys = [⟨7, 3⟩] ∧
      ∃ connection, (config.state.connections connection).slot = some ⟨7, 3⟩ ∧
        (config.state.connections connection).phase ≠ .cleaned := by
  have played : ∃ config,
      (machine plainHost false).replay (.start .new) droppedDuringRelease = some config ∧
        config.state.manager.active.keys = [⟨7, 3⟩] := ⟨_, rfl, rfl⟩
  obtain ⟨config, replayed, active⟩ := played
  have member : (⟨7, 3⟩ : InputLease) ∈ config.state.manager.active.keys := by simp [active]
  obtain ⟨connection, stored, -, live, -⟩ := (lease_owned_by_one_connection plainHost_sound
    (Reachable.start.replay replayed)).2.1 ⟨7, 3⟩ member
  exact ⟨config, replayed, active, connection, stored, live⟩

/-! ### Native release before the hand-over -/

/-- A native batch of `lease` begins or has been applied. -/
def NativeBatch (lease : InputLease) (event : LogEvent Button Gesture Other) : Prop :=
  ∃ events, event = .started (.applyEvents lease events) ∨
    event = .returned (.applyEvents lease events)

/-- Events reach the machine for `lease`, natively or through the router. -/
def AppliedFor (lease : InputLease) (event : LogEvent Button Gesture Other) : Prop :=
  ∃ events, event = .started (.applyEvents lease events) ∨
    event = .returned (.applyEvents lease events) ∨
    event = .started (.routerApply lease events) ∨ event = .returned (.routerApply lease events)

variable {earlier : List (Record Button Gesture Other)} {record : Record Button Gesture Other}

section Log

omit [DecidableEq Button]

theorem Orderly.split {log later : List (Record Button Gesture Other)} (orderly : Orderly log)
    (split : log = later ++ record :: earlier) :
    Orderly earlier ∧ Follows record earlier ∧ Orderly (record :: earlier) := by
  induction later generalizing log with
  | nil =>
      subst split
      exact ⟨orderly.1, orderly.2, orderly⟩
  | cons _ _ ih =>
      subst split
      exact ih orderly.1 rfl

theorem Follows.nativeBatch (follows : Follows record earlier)
    (batch : NativeBatch lease record.event) :
    Applies lease false record earlier := by
  obtain ⟨events, started | returned⟩ := batch
  · rw [Follows, started] at follows
    exact follows
  · rw [Follows, returned] at follows
    exact follows

theorem Follows.appliedFor (follows : Follows record earlier)
    (applied : AppliedFor lease record.event) :
    ∃ workspaceRouted, Applies lease workspaceRouted record earlier := by
  obtain ⟨events, event | event | event | event⟩ := applied <;>
    rw [Follows, event] at follows <;> exact ⟨_, follows⟩

/-- Applying events does not change the owner. -/
theorem currentOwner_of_nativeBatch (batch : NativeBatch lease record.event) :
    currentOwner (record :: earlier) = currentOwner earlier := by
  obtain ⟨events, event | event⟩ := batch <;> simp [currentOwner, event]

/-- After a native batch its owner stays until a native release for it has returned. -/
theorem owner_until_released {middle : List (Record Button Gesture Other)}
    {batch : Record Button Gesture Other} (orderly : Orderly (middle ++ batch :: earlier))
    (native : NativeBatch lease batch.event) :
    (∃ connection, currentOwner (middle ++ batch :: earlier) =
        some ⟨connection, lease, false⟩) ∨
      ∃ record ∈ middle, record.event = .returned (.releaseAll lease) := by
  induction middle with
  | nil =>
      obtain ⟨connection, owner⟩ := (orderly.2.nativeBatch native).1
      exact .inl ⟨connection, (currentOwner_of_nativeBatch native).trans owner⟩
  | cons newest middle ih =>
      rcases ih orderly.1 with ⟨connection, owner⟩ | ⟨record, member, released⟩
      · have follows : Follows newest (middle ++ batch :: earlier) := orderly.2
        cases event : newest.event with
        | started => exact .inl ⟨connection, by simpa [currentOwner, event] using owner⟩
        | returned => exact .inl ⟨connection, by simpa [currentOwner, event] using owner⟩
        | acquired =>
            rw [Follows, event] at follows
            simp only at follows
            rw [follows] at owner
            exact absurd owner (by simp)
        | dropped other dropped =>
            rw [Follows, event] at follows
            obtain ⟨workspaceRouted, current, released⟩ := follows
            rw [current] at owner
            obtain ⟨rfl, rfl, rfl⟩ : other = connection ∧ dropped = lease ∧
                workspaceRouted = false := by simpa using owner
            obtain ⟨second, first, rest, log, returned, -⟩ := released rfl
            cases middle with
            | nil =>
                -- The batch itself cannot be the native release.
                obtain ⟨rfl, -⟩ := List.cons.inj log
                obtain ⟨events, event | event⟩ := native <;> simp [returned] at event
            | cons newer =>
                obtain ⟨rfl, -⟩ := List.cons.inj log
                exact .inr ⟨newer, by simp, returned⟩
      · exact .inr ⟨record, List.mem_cons_of_mem newest member, released⟩

end Log

/-- For every run: a native batch of a lease runs under the gate of its task while that lease
is the only active one; the manager drops a lease that is not workspace-routed right after a
native release for it was called and has returned; and between a batch of a lease and any
later acquisition, or any later application for another lease, a native release for it has
returned. -/
theorem native_release_precedes_hand_over (sound : host.gestures.Sound)
    {config : Config Task (SharedState Button Gesture Other Sequence)
      (Op Button Gesture Other) Op.Answer Flow}
    (reachable : Reachable (machine host router) SharedState.new config) :
    let state := config.state
    (state.manager.active.keys = (currentOwner state.log).toList.map (·.lease)) ∧
      (∀ task lease events next,
        config.tasks task = some (.call (.finish (.applyEvents lease events)) next) →
          state.gate = some task ∧ state.manager.active.keys = [lease]) ∧
      (∀ later record earlier, state.log = later ++ record :: earlier →
        ∀ lease, NativeBatch lease record.event →
          record.gate = some record.actor ∧ record.active = [lease]) ∧
      (∀ later record earlier, state.log = later ++ record :: earlier →
        ∀ connection lease, record.event = .dropped connection lease →
          ∃ workspaceRouted, currentOwner earlier = some ⟨connection, lease, workspaceRouted⟩ ∧
            (workspaceRouted = false → NativelyReleased lease earlier)) ∧
      ∀ later record middle batch earlier,
        state.log = later ++ record :: (middle ++ batch :: earlier) →
        ∀ lease, NativeBatch lease batch.event →
          ((∃ connection other workspaceRouted,
              record.event = .acquired connection other workspaceRouted) ∨
            ∃ other, other ≠ lease ∧ AppliedFor other record.event) →
          ∃ release ∈ middle, release.event = .returned (.releaseAll lease) := by
  intro state
  have running := running_of_reachable sound reachable
  have invariant : Invariant state := running.invariant
  refine ⟨?_, ?_, ?_, ?_, ?_⟩
  · rw [keys_eq_holders, invariant.held]
    cases currentOwner state.log <;> rfl
  · intro task lease events next found
    -- The call may return at once, and the log would then show it as things stand.
    have returns := ((running.tasks task _ found state .refl invariant).2 plainOracle
      plainOracle.result (state.record task (.returned (.applyEvents lease events))) rfl).1
    exact (Follows.nativeBatch returns.1.orderly.2 ⟨events, .inr rfl⟩).2
  · intro later record earlier split lease batch
    exact ((invariant.orderly.split split).2.1.nativeBatch batch).2
  · intro later record earlier split connection lease dropped
    have follows := (invariant.orderly.split split).2.1
    rw [Follows, dropped] at follows
    exact follows
  · intro later record middle batch earlier split lease native handedOver
    obtain ⟨orderly, follows, -⟩ := invariant.orderly.split split
    rcases owner_until_released orderly native with ⟨connection, owner⟩ | released
    · exfalso
      rcases handedOver with ⟨other, acquired, workspaceRouted, event⟩ | ⟨other, different, applied⟩
      · rw [Follows, event] at follows
        simp only at follows
        rw [follows] at owner
        exact absurd owner (by simp)
      · obtain ⟨workspaceRouted, ⟨holder, current⟩, -⟩ := follows.appliedFor applied
        rw [current] at owner
        exact different (by simpa using congrArg (Option.map Ownership.lease) owner)
    · exact released

theorem native_release_precedes_hand_over_cleanedUp :
    ∃ config, (machine plainHost false).replay (.start .new) cleanedUp = some config ∧
      ∃ record earlier, config.state.log = record :: earlier ∧
        record.event = .dropped 0 ⟨7, 3⟩ ∧ NativelyReleased ⟨7, 3⟩ earlier := by
  have played : ∃ config,
      (machine plainHost false).replay (.start .new) cleanedUp = some config ∧
        ∃ record earlier, config.state.log = record :: earlier ∧
          record.event = .dropped 0 ⟨7, 3⟩ ∧ currentOwner earlier = some ⟨0, ⟨7, 3⟩, false⟩ :=
    ⟨_, rfl, _, _, rfl, rfl, rfl⟩
  obtain ⟨config, replayed, record, earlier, log, dropped, owner⟩ := played
  obtain ⟨workspaceRouted, current, released⟩ := (native_release_precedes_hand_over
    plainHost_sound (Reachable.start.replay replayed)).2.2.2.1 [] record earlier log 0 ⟨7, 3⟩
    dropped
  rw [owner] at current
  have native : workspaceRouted = false := by simpa using current.symm
  exact ⟨config, replayed, record, earlier, log, dropped, released native⟩

end ArcRelay.InputControl
