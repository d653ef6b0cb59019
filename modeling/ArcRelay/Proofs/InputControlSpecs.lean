/-
Module: ArcRelay.Proofs.InputControlSpecs
Purpose: One specification for each operation and each handler of the input side, against
  whatever the other connections do meanwhile.
Trusted boundary: as for the manager and the operations
-/
import ArcRelay.Proofs.InputControlDiscipline

namespace ArcRelay.InputControl

open InputSession Program

variable {Button Gesture Other Sequence Wire : Type} [DecidableEq Button]
variable {host : Host Button Gesture Other Sequence Wire} {router : Bool}
variable {task : Task} {context : InputSessionContext}
variable {fact : InputSessionState Button Sequence → List (Record Button Gesture Other) → Prop}

/-- A fact about the manager and the log. -/
abbrev Fact (Button Gesture Other Sequence : Type) :=
  InputSessionState Button Sequence → List (Record Button Gesture Other) → Prop

/-! ### The owner and the manager -/

variable {state : SharedState Button Gesture Other Sequence}

/-- The owner, as the manager knows it. -/
theorem Invariant.holders_of_owner (invariant : Invariant state) {owner : Ownership}
    (found : currentOwner state.log = some owner) :
    holders state.manager = [owner.holder state.connections] := by
  rw [invariant.held, found]
  rfl

/-- A holder the manager knows is the owner. -/
theorem Invariant.owner_of_holders (invariant : Invariant state) {holder : Holder}
    (held : holders state.manager = [holder]) :
    ∃ connection, currentOwner state.log =
      some ⟨connection, holder.lease, holder.workspaceRouted⟩ := by
  rw [invariant.held] at held
  cases found : currentOwner state.log with
  | none => simp [found] at held
  | some owner =>
      simp only [found, Option.toList_some, List.map_cons, List.map_nil, List.cons.injEq,
        and_true] at held
      subst held
      exact ⟨owner.connection, rfl⟩

omit [DecidableEq Button] in
theorem keys_eq_holders (manager : InputSessionState Button Sequence) :
    manager.active.keys = (holders manager).map (·.lease) := by
  simp [holders, AList.keys, List.keys, Function.comp_def]

/-- What a program does when `task` runs it, whatever the other tasks do meanwhile. -/
abbrev Spec (host : Host Button Gesture Other Sequence Wire) (router : Bool) (task : Task)
    {First : Type} (pre : SharedState Button Gesture Other Sequence → Prop)
    (program : InputProgram Button Gesture Other First)
    (post : First → SharedState Button Gesture Other Sequence → Prop) : Prop :=
  Triple (machine host router) discipline task pre program post

/-! ### Rules for one operation inside the gate -/

variable {op : Op Button Gesture Other}

/-- An operation: what it does, and what is known afterwards. -/
theorem spec_ask {post : op.Answer → SharedState Button Gesture Other Sequence → Prop}
    (stepped : ∀ state oracle answer after, Invariant state → Within task context fact state →
      exec host task oracle state op = some (answer, after) →
      discipline.Allowed task state after ∧ post answer after) :
    Spec host router task (Within task context fact) (ask op) post :=
  Triple.call post (Within.stable task context fact)
    (fun _ _ invariant within cancelled => allowed_cancel invariant within.ready cancelled)
    stepped (fun _ => Triple.done fun _ _ holds => holds)

/-- An operation that only reads, or takes and drops the slot's guard. -/
theorem spec_read {known : op.Answer → Fact Button Gesture Other Sequence}
    (reads : ∀ state oracle answer after, Invariant state → Ready task context state →
      exec host task oracle state op = some (answer, after) →
      Quiet (some task) state after ∧ after.gate = state.gate ∧
        known answer state.manager state.log) :
    Spec host router task (Within task context fact) (ask op)
      (fun answer => Within task context fun manager log =>
        fact manager log ∧ known answer manager log) := by
  apply spec_ask
  intro state oracle answer after invariant within executed
  obtain ⟨quiet, gate, learned⟩ := reads state oracle answer after invariant within.ready executed
  refine ⟨quiet.allowed invariant, quiet.ready within.ready, gate.trans within.gate, ?_⟩
  rw [quiet.manager, quiet.log]
  exact ⟨within.fact, learned⟩

/-- An operation that changes nothing and tells nothing. -/
theorem spec_still (still : ∀ state oracle answer after,
      exec host task oracle state op = some (answer, after) → after = state) :
    Spec host router task (Within task context fact) (ask op)
      (fun _ => Within task context fact) := by
  apply spec_ask
  intro state oracle answer after invariant within executed
  have same := still state oracle answer after executed
  subst same
  exact ⟨(Quiet.refl (some task) after).allowed invariant, within⟩

/-- An operation of the manager that leaves the lease alone. -/
theorem spec_manage {known : op.Answer → Fact Button Gesture Other Sequence}
    (manages : ∀ state oracle answer after, Invariant state → Within task context fact state →
      exec host task oracle state op = some (answer, after) →
      after = { state with manager := after.manager } ∧
        (∃ native, Consistent after.manager native) ∧
        holders after.manager = holders state.manager ∧ known answer after.manager state.log) :
    Spec host router task (Within task context fact) (ask op)
      (fun answer => Within task context (known answer)) := by
  apply spec_ask
  intro state oracle answer after invariant within executed
  obtain ⟨shape, consistent, held, learned⟩ :=
    manages state oracle answer after invariant within executed
  have permitted : Permitted (some task) state after := by
    rw [shape]
    exact
      { device := fun _ used => ⟨rfl, used⟩
        gate := fun other locked foreign =>
          absurd (within.gate.symm.trans locked) foreign
        serving := fun _ serving _ => serving
        cleaning := fun _ cleaning _ => cleaning
        owner := fun _ found => .inl found }
  have kept : Invariant after :=
    { consistent := consistent
      held := by
        rw [held, invariant.held, shape]
      slots := by
        rw [shape]
        exact invariant.slots
      live := by
        rw [shape]
        exact invariant.live
      orderly := by
        rw [shape]
        exact invariant.orderly }
  refine ⟨permitted.allowed kept, ?_⟩
  have ready : Ready task context after := by
    rw [shape]
    exact within.ready.congr fun _ => ⟨rfl, rfl⟩
  refine ⟨ready, by rw [shape]; exact within.gate, ?_⟩
  have log : after.log = state.log := by rw [shape]
  rw [log]
  exact learned

/-- An entry of the log that makes nobody owner and drops nobody. -/
theorem spec_record {event : LogEvent Button Gesture Other} (invariant : Invariant state)
    (within : Within task context fact state)
    (owner : ∀ earlier, currentOwner (⟨event, task, state.gate, state.manager.active.keys⟩ :: earlier) =
      currentOwner earlier)
    (follows : Follows ⟨event, task, state.gate, state.manager.active.keys⟩ state.log) :
    discipline.Allowed task state (state.record task event) ∧
      Within task context (fun manager log => ∃ record earlier, log = record :: earlier ∧
        record.event = event ∧ fact manager earlier) (state.record task event) := by
  have same : currentOwner (state.record task event).log = currentOwner state.log := owner state.log
  have permitted : Permitted (some task) state (state.record task event) :=
    { device := fun _ used => ⟨rfl, used⟩
      gate := fun other locked foreign => absurd (within.gate.symm.trans locked) foreign
      serving := fun _ serving _ => serving
      cleaning := fun _ cleaning _ => cleaning
      owner := fun owner found => .inl (same ▸ found) }
  have kept : Invariant (state.record task event) :=
    { consistent := invariant.consistent
      held := by
        rw [same]
        exact invariant.held
      slots := by
        rw [same]
        exact invariant.slots
      live := by
        rw [same]
        exact invariant.live
      orderly := ⟨invariant.orderly, follows⟩ }
  exact ⟨permitted.allowed kept, within.ready.congr fun _ => ⟨rfl, rfl⟩, within.gate, _, _, rfl,
    rfl, within.fact⟩

/-! ### Outside the gate -/

/-- A claim about the hold of the task's own connection, if it has one. -/
def Regarding (task : Task) (claim : Ownership → Prop)
    (log : List (Record Button Gesture Other)) : Prop :=
  ∀ owner, currentOwner log = some owner → owner.connection = task.connection → claim owner

structure Outside (task : Task) (context : InputSessionContext) (claim : Ownership → Prop)
    (state : SharedState Button Gesture Other Sequence) : Prop where
  ready : Ready task context state
  claim : Regarding task claim state.log

/-- Who may make a claim outside the gate: the control loop and the cleanup, since nobody else
lets their connection acquire; a stream only if it claims nothing. -/
def Claims (task : Task) (claim : Ownership → Prop) : Prop :=
  ∀ connection, task = .stream connection → ∀ owner, claim owner

variable {claim : Ownership → Prop}

theorem Outside.stable (claims : Claims task claim) :
    discipline.Stable task (Outside task context claim :
      SharedState Button Gesture Other Sequence → Prop) := by
  intro before after invariant invariant' rely outside
  refine ⟨Ready.stable task context before after invariant invariant' rely outside.ready, ?_⟩
  obtain ⟨actor, foreign, permitted⟩ := rely
  intro owner found own
  rcases permitted.owner owner found with same | ⟨control, serving⟩
  · exact outside.claim owner same own
  · -- Only the connection's own control loop acquires for it, and only while it serves.
    cases task with
    | stream connection => exact claims connection rfl owner
    | control =>
        rw [own] at control
        exact absurd control foreign
    | cleanup connection =>
        have cleaning := outside.ready.cleaning connection rfl
        rw [own] at serving
        exact absurd (serving.symm.trans cleaning) (by simp)

theorem spec_ask_outside (claims : Claims task claim)
    {post : op.Answer → SharedState Button Gesture Other Sequence → Prop}
    (stepped : ∀ state oracle answer after, Invariant state →
      Outside task context claim state → exec host task oracle state op = some (answer, after) →
      discipline.Allowed task state after ∧ post answer after) :
    Spec host router task (Outside task context claim) (ask op) post :=
  Triple.call post (Outside.stable claims)
    (fun _ _ invariant outside cancelled => allowed_cancel invariant outside.ready cancelled)
    stepped (fun _ => Triple.done fun _ _ holds => holds)

/-- An operation that only reads. -/
theorem spec_read_outside (claims : Claims task claim)
    (reads : ∀ state oracle answer after,
      exec host task oracle state op = some (answer, after) → after = state) :
    Spec host router task (Outside task context claim) (ask op)
      (fun _ => Outside task context claim) := by
  apply spec_ask_outside claims
  intro state oracle answer after invariant outside executed
  have same := reads state oracle answer after executed
  subst same
  exact ⟨(Quiet.refl (some task) after).allowed invariant, outside⟩

theorem lockGate_spec (claims : Claims task claim) :
    Spec host router task (Outside task context claim) (lockGate Button Gesture Other)
      (fun _ => Within task context fun _ log => Regarding task claim log) := by
  apply spec_ask_outside claims
  intro state oracle answer after invariant outside executed
  simp only [exec, Option.ite_none_right_eq_some, Option.some.injEq] at executed
  obtain ⟨free, -, rfl⟩ := executed
  have quiet : Quiet (some task) state { state with gate := some task } :=
    ⟨rfl, rfl, fun other held _ => by simp [free] at held, fun _ => ⟨rfl, rfl, rfl⟩⟩
  exact ⟨quiet.allowed invariant, quiet.ready outside.ready, rfl, outside.claim⟩

theorem unlockGate_spec (leaves : ∀ manager log, fact manager log → Regarding task claim log) :
    Spec host router task (Within task context fact)
      (unlockGate Button Gesture Other) (fun _ => Outside task context claim) := by
  apply spec_ask
  intro state oracle answer after invariant within executed
  simp only [exec, Option.some.injEq] at executed
  obtain ⟨-, rfl⟩ := executed
  have quiet := quiet_dropGate task state
  refine ⟨quiet.allowed invariant, quiet.ready within.ready, ?_⟩
  rw [quiet.log]
  exact leaves _ _ within.fact

/-! ### The slot -/

theorem readSlot_spec :
    Spec host router task (Within task context fact) (readSlot Button Gesture Other)
      (fun slot => Within task context fun manager log =>
        fact manager log ∧ slot = slotOf (currentOwner log) task.connection) := by
  apply spec_read
  intro state oracle answer after invariant ready executed
  simp only [exec, Option.ite_none_right_eq_some, Option.some.injEq] at executed
  obtain ⟨-, rfl, rfl⟩ := executed
  exact ⟨Quiet.refl _ _, rfl, invariant.slots task.connection⟩

theorem lockSlot_spec :
    Spec host router task (Within task context fact) (lockSlot Button Gesture Other)
      (fun slot => Within task context fun manager log =>
        fact manager log ∧ slot = slotOf (currentOwner log) task.connection) := by
  apply spec_read
  intro state oracle answer after invariant ready executed
  simp only [exec, Option.ite_none_right_eq_some, Option.some.injEq] at executed
  obtain ⟨-, rfl, rfl⟩ := executed
  exact ⟨quiet_setConnection rfl rfl rfl, rfl, invariant.slots task.connection⟩

/-- Forget what an answer told. -/
theorem within_weaken {First : Type} {program : InputProgram Button Gesture Other First}
    {pre : SharedState Button Gesture Other Sequence → Prop}
    {strong weak : First → Fact Button Gesture Other Sequence}
    (triple : Spec host router task pre program (fun value => Within task context (strong value)))
    (weaken : ∀ value manager log, strong value manager log → weak value manager log) :
    Spec host router task pre program (fun value => Within task context (weak value)) :=
  triple.weaken (fun _ _ holds => holds)
    (fun value _ _ within => ⟨within.ready, within.gate, weaken value _ _ within.fact⟩)

theorem unlockSlot_spec :
    Spec host router task (Within task context fact)
      (unlockSlot Button Gesture Other) (fun _ => Within task context fact) := by
  apply spec_ask
  intro state oracle answer after invariant within executed
  simp only [exec, Option.some.injEq] at executed
  obtain ⟨-, rfl⟩ := executed
  have quiet := quiet_dropSlot task state
  refine ⟨quiet.allowed invariant, quiet.ready within.ready, ?_, ?_⟩
  · have sameGate : (state.dropSlot task).gate = state.gate := by
      unfold SharedState.dropSlot
      dsimp only
      split_ifs <;> rfl
    exact sameGate.trans within.gate
  · rw [quiet.manager, quiet.log]
    exact within.fact

/-! ### Messages and questions -/

omit [DecidableEq Button] in
theorem still_of_some {Answer State : Type} {state after : State} {given answer : Answer}
    (executed : some (given, state) = some (answer, after)) : after = state :=
  (congrArg Prod.snd (Option.some.inj executed)).symm

theorem sendEvent_spec (event : ServerEvent) :
    Spec host router task (Within task context fact) (sendEvent event)
      (fun _ => Within task context fact) :=
  spec_still fun _ _ _ _ executed => still_of_some executed

theorem sendCritical_spec (frame : ControlFrame) :
    Spec host router task (Within task context fact) (sendCritical frame)
      (fun _ => Within task context fact) :=
  spec_still fun _ _ _ _ executed => still_of_some executed

theorem checkExpired_spec (lease : InputLease) (deviceId : String) :
    Spec host router task (Within task context fact) (checkExpired lease deviceId)
      (fun _ => Within task context fact) :=
  spec_still fun _ _ _ _ executed => still_of_some executed

theorem checkRouted_spec (lease : InputLease) (deviceId : String) :
    Spec host router task (Within task context fact) (checkRouted lease deviceId)
      (fun workspaceRouted => Within task context fun manager log => fact manager log ∧
        workspaceRouted = InputSession.isWorkspaceRouted manager lease deviceId) := by
  apply spec_read
  intro state oracle answer after invariant ready executed
  simp only [exec, Option.some.injEq] at executed
  obtain ⟨rfl, rfl⟩ := executed
  exact ⟨Quiet.refl _ _, rfl, rfl⟩

/-! ### Calls to the host and the router -/

/-- What a call needs: events are only applied for the holder, on its own way. -/
def Callable (manager : InputSessionState Button Sequence) : HostCall Button Gesture Other → Prop
  | .applyEvents lease _ => ∃ deviceId, holders manager = [⟨lease, deviceId, false⟩]
  | .routerApply lease _ => ∃ deviceId, holders manager = [⟨lease, deviceId, true⟩]
  | _ => True

theorem Invariant.applies (invariant : Invariant state) (gate : state.gate = some task)
    {lease : InputLease} {deviceId : String} {workspaceRouted : Bool}
    (held : holders state.manager = [⟨lease, deviceId, workspaceRouted⟩])
    (event : LogEvent Button Gesture Other) :
    Applies lease workspaceRouted ⟨event, task, state.gate, state.manager.active.keys⟩ state.log := by
  refine ⟨invariant.owner_of_holders held, gate, ?_⟩
  simp [keys_eq_holders, held]

theorem Invariant.follows_started (invariant : Invariant state) (gate : state.gate = some task)
    {call : HostCall Button Gesture Other} (callable : Callable state.manager call) :
    Follows ⟨.started call, task, state.gate, state.manager.active.keys⟩ state.log := by
  cases call with
  | applyEvents =>
      obtain ⟨deviceId, held⟩ := callable
      exact invariant.applies gate held _
  | routerApply =>
      obtain ⟨deviceId, held⟩ := callable
      exact invariant.applies gate held _
  | releaseAll => trivial
  | routerBegin => trivial
  | routerEnd => trivial

theorem Invariant.follows_returned (invariant : Invariant state) (gate : state.gate = some task)
    {call : HostCall Button Gesture Other} (callable : Callable state.manager call) :
    Follows ⟨.returned call, task, state.gate, state.manager.active.keys⟩ state.log := by
  cases call with
  | applyEvents =>
      obtain ⟨deviceId, held⟩ := callable
      exact invariant.applies gate held _
  | routerApply =>
      obtain ⟨deviceId, held⟩ := callable
      exact invariant.applies gate held _
  | releaseAll => trivial
  | routerBegin => trivial
  | routerEnd => trivial

/-- A call and its return are the last two entries of the log: nobody else writes to it while
the gate is held. -/
theorem invoke_spec (call : HostCall Button Gesture Other)
    (callable : ∀ manager log, fact manager log → Callable manager call) :
    Spec host router task (Within task context fact) (invoke call)
      (fun _ => Within task context fun manager log => ∃ second first earlier,
        log = second :: first :: earlier ∧ second.event = .returned call ∧
          first.event = .started call ∧ fact manager earlier) := by
  refine Triple.bind (fun _ => Within task context fun manager log => ∃ record earlier,
    log = record :: earlier ∧ record.event = .started call ∧ fact manager earlier) ?_ ?_
  · apply spec_ask
    intro state oracle answer after invariant within executed
    simp only [exec, Option.some.injEq] at executed
    obtain ⟨-, rfl⟩ := executed
    exact spec_record invariant within (fun _ => rfl)
      (invariant.follows_started within.gate (callable _ _ within.fact))
  · intro _
    apply spec_ask
    intro state oracle answer after invariant within executed
    simp only [exec, Option.some.injEq] at executed
    obtain ⟨-, rfl⟩ := executed
    obtain ⟨first, earlier, -, started, known⟩ := within.fact
    obtain ⟨allowed, recorded⟩ := spec_record invariant within (fun _ => rfl)
      (invariant.follows_returned within.gate (callable _ _ known))
    refine ⟨allowed, recorded.ready, recorded.gate, ?_⟩
    obtain ⟨second, rest, log', returned, first', earlier', rest', started', known'⟩ :=
      recorded.fact
    exact ⟨second, first', earlier', by rw [log', rest'], returned, started', known'⟩

/-! ### The manager's calls -/

/-- The one holder there is, if any. -/
def HeldBy (held : List Holder) : Fact Button Gesture Other Sequence :=
  fun manager _ => holders manager = held

theorem cancelIdle_spec (held : List Holder) (lease : InputLease)
    (deviceId : String) :
    Spec host router task (Within task context (HeldBy held)) (cancelIdle lease deviceId)
      (fun _ => Within task context (HeldBy held : Fact Button Gesture Other Sequence)) := by
  apply spec_manage
  intro state oracle answer after invariant within executed
  obtain ⟨native, consistent⟩ := invariant.consistent
  cases executed
  have same := @Consistent.holders_cancelIdle _ _ Other _ _ _ _ host.gestures consistent lease
    deviceId oracle.now
  exact ⟨rfl, ⟨_, (consistent.cancelIdle rfl).consistent⟩, same, same.trans within.fact⟩

theorem acceptSequence_spec (held : List Holder) (lease : InputLease) (deviceId : String)
    (sequence elapsedUs : UInt64) :
    Spec host router task (Within task context (HeldBy held))
      (acceptSequence lease deviceId sequence elapsedUs)
      (fun _ => Within task context (HeldBy held : Fact Button Gesture Other Sequence)) := by
  apply spec_manage
  intro state oracle answer after invariant within executed
  obtain ⟨native, consistent⟩ := invariant.consistent
  cases executed
  have same := consistent.holders_acceptReliable lease deviceId sequence elapsedUs
    oracle.checkAt oracle.now
  exact ⟨rfl, ⟨_, consistent.acceptReliable rfl⟩, same, same.trans within.fact⟩

theorem acceptTotals_spec (held : List Holder) (lease : InputLease) (deviceId : String)
    (motion : Motion) :
    Spec host router task (Within task context (HeldBy held)) (acceptTotals lease deviceId motion)
      (fun _ => Within task context (HeldBy held : Fact Button Gesture Other Sequence)) := by
  apply spec_manage
  intro state oracle answer after invariant within executed
  obtain ⟨native, consistent⟩ := invariant.consistent
  cases executed
  have same := consistent.holders_acceptOrderedMotion lease deviceId motion.pointerTotalX256
    motion.pointerTotalY256 motion.scrollTotalX256 motion.scrollTotalY256 motion.preciseScroll
    oracle.checkAt oracle.now
  exact ⟨rfl, ⟨_, consistent.acceptOrderedMotion rfl⟩, same, same.trans within.fact⟩

/-- A normalized batch comes from the holder's own device. -/
theorem normalizeBatch_spec (sound : host.gestures.Sound) (held : List Holder)
    (lease : InputLease) (deviceId : String)
    (events : List (InputEvent Button Gesture Other)) :
    Spec host router task (Within task context (HeldBy held)) (normalizeBatch lease deviceId events)
      (fun outcome => Within task context (fun manager log =>
        HeldBy held manager log ∧ ∀ normalized, outcome = .returned (.ok normalized) →
          ∃ workspaceRouted, held = [⟨lease, deviceId, workspaceRouted⟩])) := by
  apply spec_manage
  intro state oracle answer after invariant within executed
  obtain ⟨native, consistent⟩ := invariant.consistent
  cases executed
  obtain ⟨same, own⟩ := consistent.holders_normalize sound oracle.contexts lease deviceId events
  refine ⟨rfl, ⟨_, (consistent.normalize sound rfl).consistent⟩, same,
    same.trans within.fact, fun normalized accepted => ?_⟩
  rw [← (within.fact : holders state.manager = held)]
  exact own normalized accepted

/-! ### Acquiring and releasing -/

omit [DecidableEq Button] in
/-- A slot filled or cleared leaves the connection's device and phase alone. -/
theorem connection_of_setSlot (state : SharedState Button Gesture Other Sequence)
    (index connection : ConnectionId) (slot : Option InputLease) (slotGuard : Option Task) :
    let after := state.setConnection index
      { state.connections index with slot := slot, slotGuard := slotGuard }
    (after.connections connection).slot =
        (if connection = index then slot else (state.connections connection).slot) ∧
      (after.connections connection).phase = (state.connections connection).phase ∧
      (after.connections connection).deviceId = (state.connections connection).deviceId := by
  by_cases same : connection = index
  · subst same
    simp [SharedState.setConnection]
  · simp [SharedState.setConnection, same]

/-- A change of owner under the gate, with the manager and one slot following it. -/
theorem allowed_owner {before after : SharedState Button Gesture Other Sequence}
    (gate : before.gate = some task) (consistent : ∃ native, Consistent after.manager native)
    (orderly : Orderly after.log) (slot : Option InputLease)
    (connections : ∀ connection,
      (after.connections connection).slot =
          (if connection = task.connection then slot else (before.connections connection).slot) ∧
        (after.connections connection).phase = (before.connections connection).phase ∧
        (after.connections connection).deviceId = (before.connections connection).deviceId)
    (held : holders after.manager =
      (currentOwner after.log).toList.map (·.holder before.connections))
    (slots : ∀ connection,
      (if connection = task.connection then slot else (before.connections connection).slot) =
        slotOf (currentOwner after.log) connection)
    (owner : ∀ owner, currentOwner after.log = some owner →
      task = .control owner.connection ∧
        (before.connections owner.connection).phase = .serving) :
    discipline.Allowed task before after := by
  refine Permitted.allowed
    { device := fun connection used =>
        ⟨(connections connection).2.2, (connections connection).2.1 ▸ used⟩
      gate := fun other locked foreign => absurd (gate.symm.trans locked) foreign
      serving := fun connection serving _ => (connections connection).2.1.trans serving
      cleaning := fun connection cleaning _ => (connections connection).2.1.trans cleaning
      owner := fun _ found => .inr ⟨congrArg some (owner _ found).1, (owner _ found).2⟩ }
    { consistent := consistent
      held := ?_
      slots := fun connection => (connections connection).1.trans (slots connection)
      live := ?_
      orderly := orderly }
  · rw [held]
    cases currentOwner after.log with
    | none => rfl
    | some owner => simp [Ownership.holder, (connections owner.connection).2.2]
  · intro holder found
    have serving := (owner holder found).2
    rw [(connections holder.connection).2.1, serving]
    simp

/-- The control loop of a serving connection asks for the lease. -/
theorem acquireIntoSlot_spec {connection : ConnectionId} (workspaceRouted : Bool) :
    Spec host router (.control connection) (Within (.control connection) context fact)
      (acquireIntoSlot context.deviceId workspaceRouted)
      (fun _ => Within (.control connection) context fun _ _ => True) := by
  apply spec_ask
  intro state oracle answer after invariant within executed
  obtain ⟨native, consistent⟩ := invariant.consistent
  simp only [exec] at executed
  rcases returned : acquireWithRouting host.gestures state.manager context.deviceId
      workspaceRouted oracle.draws oracle.now with - | ⟨message | lease, manager⟩
  · simp [returned] at executed
  · simp only [returned, Option.some.injEq] at executed
    obtain ⟨-, rfl⟩ := executed
    have same := acquire_refused returned
    subst same
    exact ⟨(Quiet.refl _ _).allowed invariant, within.ready, within.gate, trivial⟩
  · simp only [returned, Option.some.injEq] at executed
    obtain ⟨-, rfl⟩ := executed
    obtain ⟨nobody, granted⟩ := holders_acquire returned
    have vacant : currentOwner state.log = none := by
      have held := invariant.held
      rw [nobody] at held
      cases found : currentOwner state.log with
      | none => rfl
      | some => simp [found] at held
    have serving := within.ready.serving connection rfl
    have connections := fun other => connection_of_setSlot { state with manager := manager }
      connection other (some lease) none
    refine ⟨allowed_owner within.gate ⟨native, consistent.acquire returned⟩
      ⟨invariant.orderly, vacant⟩ (some lease) connections ?_ ?_ ?_, ?_⟩
    · exact granted.trans (by
        simp [SharedState.record, currentOwner, Ownership.holder, Task.connection,
          within.ready.deviceId.symm])
    · intro other
      rw [invariant.slots, vacant]
      simp [SharedState.record, SharedState.setConnection, currentOwner, slotOf,
        Task.connection, eq_comm]
    · rintro owner found
      simp only [SharedState.record, currentOwner, Option.some.injEq] at found
      subst found
      exact ⟨rfl, serving⟩
    · exact ⟨within.ready.congr fun other => (connections other).2, within.gate, trivial⟩

/-- A lease whose device has been handed back is dropped, with its slot. -/
theorem releaseFromSlot_spec (lease : InputLease) :
    Spec host router task (Within task context fun _ log => ∃ workspaceRouted,
        currentOwner log = some ⟨task.connection, lease, workspaceRouted⟩ ∧
          (workspaceRouted = false → NativelyReleased lease log)) (releaseFromSlot lease)
      (fun _ => Within task context fun _ log => currentOwner log = none) := by
  apply spec_ask
  intro state oracle answer after invariant within executed
  obtain ⟨native, consistent⟩ := invariant.consistent
  obtain ⟨workspaceRouted, found, released⟩ := within.fact
  cases executed
  have connections := fun other => connection_of_setSlot
    { (state.record task (.dropped task.connection lease)) with
      manager := (@InputSession.release Button Gesture Other Sequence _ host.gestures oracle.order
        state.manager lease).2 } task.connection other none none
  have held := @Consistent.holders_release _ _ Other _ _ _ _ host.gestures oracle.order consistent _
    (invariant.holders_of_owner found)
  refine ⟨allowed_owner within.gate ⟨_, (consistent.release rfl).consistent⟩
    ⟨invariant.orderly, workspaceRouted, found, released⟩ none connections ?_ ?_ ?_, ?_⟩
  · exact held
  · intro other
    rw [invariant.slots, found]
    by_cases same : other = task.connection
    · simp [same, SharedState.setConnection, SharedState.record, currentOwner, slotOf]
    · simp [same, SharedState.setConnection, SharedState.record, currentOwner, slotOf,
        Ne.symm same]
  · intro owner impossible
    simp [SharedState.setConnection, SharedState.record, currentOwner] at impossible
  · exact ⟨within.ready.congr fun other => (connections other).2, within.gate, rfl⟩

end ArcRelay.InputControl
