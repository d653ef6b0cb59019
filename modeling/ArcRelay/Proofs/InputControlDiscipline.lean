/-
Module: ArcRelay.Proofs.InputControlDiscipline
Purpose: The rules the input tasks of all connections live by: who owns the device, what a step
  may change, and when an operation respects both.
Trusted boundary: as for the manager and the operations
-/
import ArcRelay.Library.Interference
import ArcRelay.Proofs.InputSessionLeases
import ArcRelay.Server.InputHandlers

namespace ArcRelay.InputControl

open InputSession Program

variable {Button Gesture Other Sequence Wire : Type} [DecidableEq Button]

/-!
### The device and its owner

The log alone says who owns the device: the connection whose acquisition has not been dropped
since.  Everything else follows it: the manager holds that lease and no other, and that
connection's slot is the only one that is filled.
-/

/-- A connection's hold on the device. -/
structure Ownership where
  connection : ConnectionId
  lease : InputLease
  workspaceRouted : Bool
deriving Repr, DecidableEq

def currentOwner : List (Record Button Gesture Other) → Option Ownership
  | [] => none
  | record :: earlier =>
      match record.event with
      | .acquired connection lease workspaceRouted => some ⟨connection, lease, workspaceRouted⟩
      | .dropped _ _ => none
      | .started _ => currentOwner earlier
      | .returned _ => currentOwner earlier

/-- What the slot of `connection` has to hold. -/
def slotOf (owner : Option Ownership) (connection : ConnectionId) : Option InputLease :=
  owner.bind fun owner => if owner.connection = connection then some owner.lease else none

/-- The last thing that happened is a native release for `lease`, called and returned. -/
def NativelyReleased (lease : InputLease) (log : List (Record Button Gesture Other)) : Prop :=
  ∃ second first earlier, log = second :: first :: earlier ∧
    second.event = .returned (.releaseAll lease) ∧ first.event = .started (.releaseAll lease)

/-- Events of `lease` reach the machine while it is the active lease, under the gate. -/
def Applies (lease : InputLease) (workspaceRouted : Bool) (record : Record Button Gesture Other)
    (earlier : List (Record Button Gesture Other)) : Prop :=
  (∃ connection, currentOwner earlier = some ⟨connection, lease, workspaceRouted⟩) ∧
    record.gate = some record.actor ∧ record.active = [lease]

/-- What the log has to look like for the next event. -/
def Follows (record : Record Button Gesture Other)
    (earlier : List (Record Button Gesture Other)) : Prop :=
  match record.event with
  | .acquired _ _ _ => currentOwner earlier = none
  | .started (.applyEvents lease _) => Applies lease false record earlier
  | .returned (.applyEvents lease _) => Applies lease false record earlier
  | .started (.routerApply lease _) => Applies lease true record earlier
  | .returned (.routerApply lease _) => Applies lease true record earlier
  | .dropped connection lease =>
      ∃ workspaceRouted, currentOwner earlier = some ⟨connection, lease, workspaceRouted⟩ ∧
        (workspaceRouted = false → NativelyReleased lease earlier)
  | _ => True

def Orderly : List (Record Button Gesture Other) → Prop
  | [] => True
  | record :: earlier => Orderly earlier ∧ Follows record earlier

/-- The holder the manager has to name. -/
def Ownership.holder (owner : Ownership) (connections : ConnectionId → Connection) : Holder where
  lease := owner.lease
  deviceId := (connections owner.connection).deviceId
  workspaceRouted := owner.workspaceRouted

/-- The manager, the slots and the phases agree with the log. -/
structure Invariant (state : SharedState Button Gesture Other Sequence) : Prop where
  consistent : ∃ native, Consistent state.manager native
  held : holders state.manager =
    (currentOwner state.log).toList.map (·.holder state.connections)
  slots : ∀ connection, (state.connections connection).slot =
    slotOf (currentOwner state.log) connection
  live : ∀ owner, currentOwner state.log = some owner →
    (state.connections owner.connection).phase ≠ .unused ∧
      (state.connections owner.connection).phase ≠ .cleaned
  orderly : Orderly state.log

/-! ### What a step may change -/

/-- A step of `actor`, or of no task.  Whoever holds the gate sees the manager, the log and the
slots stand still; a phase belongs to the task that lives in it; and only the control loop of a
serving connection makes that connection the owner. -/
structure Permitted (actor : Option Task)
    (before after : SharedState Button Gesture Other Sequence) : Prop where
  device : ∀ connection, (before.connections connection).phase ≠ .unused →
    (after.connections connection).deviceId = (before.connections connection).deviceId ∧
      (after.connections connection).phase ≠ .unused
  gate : ∀ other, before.gate = some other → actor ≠ some other →
    after.gate = some other ∧ after.manager = before.manager ∧ after.log = before.log
  serving : ∀ connection, (before.connections connection).phase = .serving →
    actor ≠ some (.control connection) → (after.connections connection).phase = .serving
  cleaning : ∀ connection, (before.connections connection).phase = .cleaning →
    actor ≠ some (.cleanup connection) → (after.connections connection).phase = .cleaning
  owner : ∀ owner, currentOwner after.log = some owner → currentOwner before.log = some owner ∨
    actor = some (.control owner.connection) ∧
      (before.connections owner.connection).phase = .serving

/-- Every task relies on the others' steps being permitted. -/
def discipline : Discipline Task (SharedState Button Gesture Other Sequence) where
  invariant := Invariant
  rely := fun task before after => ∃ actor, actor ≠ some task ∧ Permitted actor before after

variable {task : Task} {before after : SharedState Button Gesture Other Sequence}

theorem Permitted.allowed (permitted : Permitted (some task) before after)
    (invariant : Invariant after) :
    discipline.Allowed task before after :=
  ⟨invariant, fun _ different => ⟨some task, by simpa using different.symm, permitted⟩⟩

/-! ### Steps that concern nobody else -/

/-- Only the actor's own guards, and streams, change. -/
structure Quiet (actor : Option Task)
    (before after : SharedState Button Gesture Other Sequence) : Prop where
  manager : after.manager = before.manager
  log : after.log = before.log
  gate : ∀ other, before.gate = some other → actor ≠ some other → after.gate = some other
  connections : ∀ connection,
    (after.connections connection).slot = (before.connections connection).slot ∧
      (after.connections connection).phase = (before.connections connection).phase ∧
      (after.connections connection).deviceId = (before.connections connection).deviceId

variable {actor : Option Task} {state : SharedState Button Gesture Other Sequence}

section Steps

omit [DecidableEq Button]

theorem Quiet.refl (actor : Option Task) (state : SharedState Button Gesture Other Sequence) :
    Quiet actor state state :=
  ⟨rfl, rfl, fun _ held _ => held, fun _ => ⟨rfl, rfl, rfl⟩⟩

theorem Quiet.trans {first second third : SharedState Button Gesture Other Sequence}
    (left : Quiet actor first second) (right : Quiet actor second third) :
    Quiet actor first third where
  manager := right.manager.trans left.manager
  log := right.log.trans left.log
  gate := fun other held foreign => right.gate other (left.gate other held foreign) foreign
  connections := fun connection =>
    ⟨(right.connections connection).1.trans (left.connections connection).1,
      (right.connections connection).2.1.trans (left.connections connection).2.1,
      (right.connections connection).2.2.trans (left.connections connection).2.2⟩

/-- A permitted step after a quiet one is permitted. -/
theorem Quiet.then {first second third : SharedState Button Gesture Other Sequence}
    (quiet : Quiet actor first second) (permitted : Permitted actor second third) :
    Permitted actor first third where
  device := fun connection used => by
    obtain ⟨-, phase, deviceId⟩ := quiet.connections connection
    obtain ⟨device, stillUsed⟩ := permitted.device connection (phase ▸ used)
    exact ⟨device.trans deviceId, stillUsed⟩
  gate := fun other held foreign => by
    obtain ⟨gate, manager, log⟩ := permitted.gate other (quiet.gate other held foreign) foreign
    exact ⟨gate, manager.trans quiet.manager, log.trans quiet.log⟩
  serving := fun connection serving =>
    permitted.serving connection ((quiet.connections connection).2.1.trans serving)
  cleaning := fun connection cleaning =>
    permitted.cleaning connection ((quiet.connections connection).2.1.trans cleaning)
  owner := fun owner found => by
    rcases permitted.owner owner found with same | ⟨mine, serving⟩
    · exact .inl (quiet.log ▸ same)
    · exact .inr ⟨mine, (quiet.connections owner.connection).2.1.symm.trans serving⟩

theorem Permitted.refl (actor : Option Task) (state : SharedState Button Gesture Other Sequence) :
    Permitted actor state state where
  device := fun _ used => ⟨rfl, used⟩
  gate := fun _ held _ => ⟨held, rfl, rfl⟩
  serving := fun _ serving _ => serving
  cleaning := fun _ cleaning _ => cleaning
  owner := fun _ found => .inl found

/-- A connection rewritten in its guard or its stream flag only. -/
theorem quiet_setConnection {index : ConnectionId} {value : Connection}
    (slot : value.slot = (state.connections index).slot)
    (phase : value.phase = (state.connections index).phase)
    (deviceId : value.deviceId = (state.connections index).deviceId) :
    Quiet actor state (state.setConnection index value) := by
  refine ⟨rfl, rfl, fun _ held _ => held, fun connection => ?_⟩
  by_cases same : connection = index
  · subst same
    simp [SharedState.setConnection, slot, phase, deviceId]
  · simp [SharedState.setConnection, Function.update_of_ne same]

theorem quiet_dropGate (task : Task) (state : SharedState Button Gesture Other Sequence) :
    Quiet (some task) state (state.dropGate task) := by
  unfold SharedState.dropGate
  split_ifs with mine
  · refine ⟨rfl, rfl, fun other held foreign => ?_, fun _ => ⟨rfl, rfl, rfl⟩⟩
    rw [mine] at held
    exact absurd held foreign
  · exact Quiet.refl (some task) state

theorem quiet_dropSlot (task : Task) (state : SharedState Button Gesture Other Sequence) :
    Quiet (some task) state (state.dropSlot task) := by
  unfold SharedState.dropSlot
  dsimp only
  split_ifs
  · exact quiet_setConnection rfl rfl rfl
  · exact Quiet.refl (some task) state

end Steps

/-- The invariant does not see guards and streams. -/
theorem Invariant.congr (invariant : Invariant before) (manager : after.manager = before.manager)
    (log : after.log = before.log)
    (slots : ∀ connection,
      (after.connections connection).slot = (before.connections connection).slot)
    (devices : ∀ owner, currentOwner before.log = some owner →
      (after.connections owner.connection).deviceId =
        (before.connections owner.connection).deviceId)
    (live : ∀ owner, currentOwner before.log = some owner →
      (after.connections owner.connection).phase ≠ .unused ∧
        (after.connections owner.connection).phase ≠ .cleaned) : Invariant after where
  consistent := manager ▸ invariant.consistent
  held := by
    rw [manager, log, invariant.held]
    cases found : currentOwner before.log with
    | none => rfl
    | some owner => simp [Ownership.holder, devices owner found]
  slots := fun connection => by rw [slots, invariant.slots, log]
  live := fun owner found => live owner (log ▸ found)
  orderly := log ▸ invariant.orderly

theorem Quiet.invariant (quiet : Quiet actor before after) (invariant : Invariant before) :
    Invariant after :=
  invariant.congr quiet.manager quiet.log (fun connection => (quiet.connections connection).1)
    (fun owner _ => (quiet.connections owner.connection).2.2)
    (fun owner found => (quiet.connections owner.connection).2.1 ▸ invariant.live owner found)

theorem Quiet.allowed (quiet : Quiet (some task) before after) (invariant : Invariant before) :
    discipline.Allowed task before after :=
  (quiet.then (.refl _ after)).allowed (quiet.invariant invariant)

/-! ### Where a task stands -/

/-- The task belongs to its connection: it knows its device, and its phase is the one the task
lives in. -/
structure Ready (task : Task) (context : InputSessionContext)
    (state : SharedState Button Gesture Other Sequence) : Prop where
  deviceId : (state.connections task.connection).deviceId = context.deviceId
  used : (state.connections task.connection).phase ≠ .unused
  serving : ∀ connection, task = .control connection →
    (state.connections connection).phase = .serving
  cleaning : ∀ connection, task = .cleanup connection →
    (state.connections connection).phase = .cleaning

/-- Inside the gate, with a fact about the manager and the log. -/
structure Within (task : Task) (context : InputSessionContext)
    (fact : InputSessionState Button Sequence → List (Record Button Gesture Other) → Prop)
    (state : SharedState Button Gesture Other Sequence) : Prop where
  ready : Ready task context state
  gate : state.gate = some task
  fact : fact state.manager state.log

theorem Ready.stable (task : Task) (context : InputSessionContext) :
    discipline.Stable task (Ready task context :
      SharedState Button Gesture Other Sequence → Prop) := by
  rintro before after - - ⟨actor, foreign, permitted⟩ ready
  obtain ⟨device, used⟩ := permitted.device task.connection ready.used
  refine ⟨device.trans ready.deviceId, used, fun connection mine => ?_, fun connection mine => ?_⟩
  · exact permitted.serving connection (ready.serving connection mine) (mine ▸ foreign)
  · exact permitted.cleaning connection (ready.cleaning connection mine) (mine ▸ foreign)

theorem Within.stable (task : Task) (context : InputSessionContext)
    (fact : InputSessionState Button Sequence → List (Record Button Gesture Other) → Prop) :
    discipline.Stable task (Within task context fact) := by
  intro before after invariant invariant' rely within
  have ready := Ready.stable task context before after invariant invariant' rely within.ready
  obtain ⟨actor, foreign, permitted⟩ := rely
  obtain ⟨gate, manager, log⟩ := permitted.gate task within.gate foreign
  exact ⟨ready, gate, by rw [manager, log]; exact within.fact⟩

variable {context : InputSessionContext}

omit [DecidableEq Button] in
/-- A task only sees the devices and the phases. -/
theorem Ready.congr (ready : Ready task context before)
    (same : ∀ connection,
      (after.connections connection).phase = (before.connections connection).phase ∧
        (after.connections connection).deviceId = (before.connections connection).deviceId) :
    Ready task context after where
  deviceId := (same _).2.trans ready.deviceId
  used := by
    rw [(same _).1]
    exact ready.used
  serving := fun connection mine => (same connection).1.trans (ready.serving connection mine)
  cleaning := fun connection mine => (same connection).1.trans (ready.cleaning connection mine)

omit [DecidableEq Button] in
theorem Quiet.ready (quiet : Quiet actor before after) (ready : Ready task context before) :
    Ready task context after :=
  ready.congr fun connection => (quiet.connections connection).2

/-! ### Ends of tasks -/

/-- A connection whose phase moves on, by the task that lives in it. -/
theorem permitted_phase (invariant : Invariant state) (task : Task) (index : ConnectionId)
    (phase : Phase) (used : phase ≠ .unused)
    (owner : phase = .cleaned → ∀ owner, currentOwner state.log = some owner →
      owner.connection ≠ index)
    (serving : (state.connections index).phase = .serving → task = .control index)
    (cleaning : (state.connections index).phase = .cleaning → task = .cleanup index) :
    let after := state.setConnection index { state.connections index with phase := phase }
    Permitted (some task) state after ∧ Invariant after := by
  intro after
  have here : after.connections index = { state.connections index with phase := phase } := by
    simp [after, SharedState.setConnection]
  have elsewhere : ∀ connection, connection ≠ index →
      after.connections connection = state.connections connection := by
    intro connection different
    simp [after, SharedState.setConnection, Function.update_of_ne different]
  have kept : ∀ connection,
      (after.connections connection).slot = (state.connections connection).slot ∧
        (after.connections connection).deviceId = (state.connections connection).deviceId := by
    intro connection
    by_cases same : connection = index
    · subst same
      rw [here]
      exact ⟨rfl, rfl⟩
    · rw [elsewhere connection same]
      exact ⟨rfl, rfl⟩
  refine ⟨⟨?_, fun other held _ => ⟨held, rfl, rfl⟩, ?_, ?_, fun owner found => .inl found⟩, ?_⟩
  · intro connection inUse
    refine ⟨(kept connection).2, ?_⟩
    by_cases same : connection = index
    · subst same
      rw [here]
      exact used
    · rw [elsewhere connection same]
      exact inUse
  · intro connection isServing foreign
    by_cases same : connection = index
    · subst same
      exact absurd (congrArg some (serving isServing)) foreign
    · rw [elsewhere connection same]
      exact isServing
  · intro connection isCleaning foreign
    by_cases same : connection = index
    · subst same
      exact absurd (congrArg some (cleaning isCleaning)) foreign
    · rw [elsewhere connection same]
      exact isCleaning
  · refine invariant.congr rfl rfl (fun connection => (kept connection).1)
      (fun owner _ => (kept owner.connection).2) ?_
    intro holder found
    by_cases same : holder.connection = index
    · rw [same, here]
      exact ⟨used, fun cleaned => owner cleaned holder found same⟩
    · rw [elsewhere _ same]
      exact invariant.live holder found

/-- No lease is held for `connection`. -/
def Free (connection : ConnectionId) (log : List (Record Button Gesture Other)) : Prop :=
  ∀ owner, currentOwner log = some owner → owner.connection ≠ connection

/-- A task may end where it stands; a cleanup only once its connection owns nothing. -/
theorem allowed_finish (flow : Flow) (invariant : Invariant state)
    (ready : Ready task context state)
    (free : ∀ connection, task = .cleanup connection → Free connection state.log) :
    discipline.Allowed task state (finish task flow state) := by
  have quiet := (quiet_dropGate task state).trans (quiet_dropSlot task (state.dropGate task))
  have kept := quiet.invariant invariant
  have readyKept := quiet.ready ready
  cases task with
  | control index =>
      have serving := readyKept.serving index rfl
      cases flow with
      | next => exact quiet.allowed invariant
      | leave =>
          obtain ⟨permitted, settled⟩ := permitted_phase kept (.control index) index .ended
            (by simp) (by simp) (fun _ => rfl) (fun cleaning => by simp [serving] at cleaning)
          exact (quiet.then permitted).allowed settled
  | stream index =>
      cases flow with
      | next => exact quiet.allowed invariant
      | leave =>
          have closed : Quiet (some (.stream index)) _ (finish (.stream index) .leave state) :=
            quiet_setConnection rfl rfl rfl
          exact (quiet.trans closed).allowed invariant
  | cleanup index =>
      have cleaning := readyKept.cleaning index rfl
      obtain ⟨permitted, settled⟩ := permitted_phase kept (.cleanup index) index .cleaned
        (by simp) (fun _ owner found => free index rfl owner (quiet.log ▸ found))
        (fun serving => by simp [serving] at cleaning) (fun _ => rfl)
      cases flow <;> exact (quiet.then permitted).allowed settled

theorem allowed_cancel (invariant : Invariant state) (ready : Ready task context state)
    (cancelled : cancel task state = some after) :
    discipline.Allowed task state after := by
  cases task with
  | cleanup => simp [cancel] at cancelled
  | control =>
      simp only [cancel, Option.some.injEq] at cancelled
      exact cancelled ▸ allowed_finish .leave invariant ready (by simp)
  | stream =>
      simp only [cancel, Option.some.injEq] at cancelled
      exact cancelled ▸ allowed_finish .leave invariant ready (by simp)

end ArcRelay.InputControl
