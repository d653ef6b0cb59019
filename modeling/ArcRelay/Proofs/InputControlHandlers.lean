/-
Module: ArcRelay.Proofs.InputControlHandlers
Purpose: Every input handler of every connection keeps the rules, whatever runs beside it and
  wherever it is dropped.
Trusted boundary: as for the manager and the operations
-/
import ArcRelay.Proofs.InputControlSpecs

namespace ArcRelay.InputControl

open InputSession Program

variable {Button Gesture Other Sequence Wire : Type} [DecidableEq Button]
variable {host : Host Button Gesture Other Sequence Wire} {router : Bool}
variable {task : Task} {context : InputSessionContext}
variable {fact : Fact Button Gesture Other Sequence}

/-! ### Ending a lease -/

/-- The task's connection owns the device, and the manager says so. -/
def Owns (task : Task) (context : InputSessionContext) (lease : InputLease)
    (workspaceRouted : Bool) : Fact Button Gesture Other Sequence :=
  fun manager log => currentOwner log = some ⟨task.connection, lease, workspaceRouted⟩ ∧
    holders manager = [⟨lease, context.deviceId, workspaceRouted⟩]

/-- What has to hold for a lease to be dropped. -/
def HandedBack (task : Task) (lease : InputLease) : Fact Button Gesture Other Sequence :=
  fun _ log => ∃ workspaceRouted,
    currentOwner log = some ⟨task.connection, lease, workspaceRouted⟩ ∧
      (workspaceRouted = false → NativelyReleased lease log)

variable {state : SharedState Button Gesture Other Sequence}

theorem Within.owns (invariant : Invariant state) (within : Within task context fact state)
    {lease : InputLease} (stored : slotOf (currentOwner state.log) task.connection = some lease) :
    ∃ workspaceRouted, Owns task context lease workspaceRouted state.manager state.log := by
  cases found : currentOwner state.log with
  | none => simp [found, slotOf] at stored
  | some owner =>
      simp only [found, slotOf, Option.bind_some, Option.ite_none_right_eq_some,
        Option.some.injEq] at stored
      obtain ⟨own, rfl⟩ := stored
      refine ⟨owner.workspaceRouted, by rw [found, ← own], ?_⟩
      rw [invariant.holders_of_owner found, Ownership.holder, own, within.ready.deviceId]

omit [DecidableEq Button] in
/-- A call that has returned does not change the owner. -/
theorem currentOwner_of_call {call : HostCall Button Gesture Other}
    {second first : Record Button Gesture Other} {earlier : List (Record Button Gesture Other)}
    (returned : second.event = .returned call) (started : first.event = .started call) :
    currentOwner (second :: first :: earlier) = currentOwner earlier := by
  simp [currentOwner, returned, started]

variable (lease : InputLease)

theorem releaseDevice_spec (workspaceRouted : Bool) :
    Spec host router task (Within task context (Owns task context lease workspaceRouted))
      (releaseDevice context lease workspaceRouted)
      (fun _ => Within task context (HandedBack task lease)) := by
  cases workspaceRouted with
  | true =>
      unfold releaseDevice
      cases context.router with
      | false =>
          apply Triple.done
          intro state invariant within
          exact ⟨within.ready, within.gate, true, within.fact.1, by simp⟩
      | true =>
          refine Triple.bind _ (invoke_spec (.routerEnd lease) fun _ _ _ => trivial) fun _ => ?_
          apply Triple.done
          intro state invariant within
          obtain ⟨second, first, earlier, log, returned, started, owns, -⟩ := within.fact
          refine ⟨within.ready, within.gate, true, ?_, by simp⟩
          rw [log, currentOwner_of_call returned started, owns]
  | false =>
      refine Triple.bind _ (invoke_spec (.releaseAll lease) fun _ _ _ => trivial) fun _ => ?_
      apply Triple.done
      intro state invariant within
      obtain ⟨second, first, earlier, log, returned, started, owns, -⟩ := within.fact
      refine ⟨within.ready, within.gate, false, ?_, fun _ => ?_⟩
      · rw [log, currentOwner_of_call returned started, owns]
      · exact ⟨second, first, earlier, log, returned, started⟩

/-- The matching arm of `end_input_lease_locked`. -/
theorem endOwned_spec (workspaceRouted : Bool) :
    Spec host router task
      (Within task context (Owns task context lease workspaceRouted))
      (do
        let workspaceRouted ← checkRouted lease context.deviceId
        releaseDevice context lease workspaceRouted
        releaseFromSlot lease
        emitInputEnded context lease)
      (fun _ => Within task context fun _ log =>
        currentOwner log = none) := by
  refine Triple.bind _ (checkRouted_spec lease context.deviceId) fun answer => ?_
  refine Triple.bind (fun _ => Within task context (HandedBack task lease)) ?_ fun _ => ?_
  · intro state invariant within
    obtain ⟨owns, answered⟩ := within.fact
    rw [isWorkspaceRouted_of_holders owns.2] at answered
    subst answered
    exact releaseDevice_spec lease answer state invariant ⟨within.ready, within.gate, owns⟩
  · refine Triple.bind _ (releaseFromSlot_spec lease) fun _ => ?_
    exact sendEvent_spec _

theorem endInputLeaseLocked_spec (owner : Option Ownership) :
    Spec host router task (Within task context fun _ log => currentOwner log = owner)
      (endInputLeaseLocked context lease)
      (fun _ => Within task context fun _ log =>
        currentOwner log = none ∨
          currentOwner log = owner ∧ slotOf owner task.connection ≠ some lease) := by
  refine Triple.bind _ lockSlot_spec fun active => ?_
  by_cases stored : active = some lease
  · rw [if_pos stored]
    intro state invariant within
    obtain ⟨same, slot⟩ := within.fact
    obtain ⟨workspaceRouted, owns⟩ := within.owns invariant (slot.symm.trans stored)
    exact within_weaken (endOwned_spec lease workspaceRouted) (fun _ _ _ dropped => .inl dropped)
      state invariant ⟨within.ready, within.gate, owns⟩
  · rw [if_neg stored]
    refine within_weaken unlockSlot_spec fun _ _ log known => .inr ⟨known.1, ?_⟩
    rw [← known.1, ← known.2]
    exact stored

/-- Ending whatever lease the slot was found to hold: nothing is left to the connection. -/
theorem endStoredLease_spec (stored : Option InputLease) :
    Spec host router task
      (Within task context fun manager log =>
        fact manager log ∧ stored = slotOf (currentOwner log) task.connection)
      (endStoredLease context stored)
      (fun _ => Within task context fun _ log =>
        Regarding task (fun _ => False) log) := by
  have unowned : ∀ owner log, currentOwner log = owner → slotOf owner task.connection = none →
      Regarding task (fun _ => False) (log : List (Record Button Gesture Other)) := by
    intro owner log same empty found current own
    rw [← same, current] at empty
    simp [slotOf, own] at empty
  cases stored with
  | none =>
      apply Triple.done
      intro state invariant within
      exact ⟨within.ready, within.gate, unowned _ _ rfl within.fact.2.symm⟩
  | some lease =>
      apply Triple.observe fun state => currentOwner state.log
      rintro owner state invariant ⟨within, same⟩
      refine within_weaken (endInputLeaseLocked_spec lease owner) ?_ state invariant
        ⟨within.ready, within.gate, same⟩
      rintro - manager log (dropped | ⟨kept, other⟩)
      · exact unowned _ _ dropped rfl
      · exact absurd (same ▸ within.fact.2.symm) other

/-- Ending a lease the slot may or may not hold. -/
theorem endLease_spec :
    Spec host router task (Within task context fact) (endInputLeaseLocked context lease)
      (fun _ => Within task context fun _ _ => True) := by
  apply Triple.observe fun state => currentOwner state.log
  rintro owner state invariant ⟨within, same⟩
  exact within_weaken (endInputLeaseLocked_spec lease owner) (fun _ _ _ _ => trivial) state
    invariant ⟨within.ready, within.gate, same⟩

/-! ### Outside the gate -/

theorem sendCritical_spec_outside {claim : Ownership → Prop} (claims : Claims task claim)
    (frame : ControlFrame) :
    Spec host router task (Outside task context claim) (sendCritical frame)
      (fun _ => Outside task context claim) :=
  spec_read_outside claims fun _ _ _ _ executed => still_of_some executed

theorem sendEvent_spec_outside {claim : Ownership → Prop} (claims : Claims task claim)
    (event : ServerEvent) :
    Spec host router task (Outside task context claim) (sendEvent event)
      (fun _ => Outside task context claim) :=
  spec_read_outside claims fun _ _ _ _ executed => still_of_some executed

/-- Nothing is claimed. -/
def Idle (task : Task) (context : InputSessionContext) :
    SharedState Button Gesture Other Sequence → Prop :=
  Outside task context fun _ => True

theorem claims_nothing : Claims task fun _ => True := fun _ _ _ => trivial

omit [DecidableEq Button] in
theorem Ready.idle (ready : Ready task context state) : Idle task context state :=
  ⟨ready, fun _ _ _ => trivial⟩

/-- Where a round of a loop ends: the task still belongs to its connection. -/
def Rests (task : Task) (context : InputSessionContext) (_ : Flow) :
    SharedState Button Gesture Other Sequence → Prop :=
  Ready task context

theorem sendOrLeave_spec (frame : ControlFrame) :
    Spec host router task (Idle task context) (sendOrLeave frame) (Rests task context) := by
  refine Triple.bind _ (sendCritical_spec_outside claims_nothing frame) fun answer => ?_
  cases answer with
  | ok => exact Triple.done fun _ _ outside => outside.ready
  | error => exact Triple.done fun _ _ outside => outside.ready

/-- The same with the gate held: it goes when the round ends. -/
theorem sendOrLeave_spec_within (frame : ControlFrame) :
    Spec host router task (Within task context fact) (sendOrLeave frame) (Rests task context) := by
  refine Triple.bind _ (sendCritical_spec frame) fun answer => ?_
  cases answer with
  | ok => exact Triple.done fun _ _ within => within.ready
  | error => exact Triple.done fun _ _ within => within.ready

/-! ### The control loop -/

theorem announceSession_spec (readings : Readings) (request : BeginInputSessionRequest)
    (lease : InputLease) (route : Option WorkspaceInputSnapshot) :
    Spec host router task (Within task context fact)
      (announceSession context readings request lease route)
      (fun _ => Within task context fun _ _ => True) := by
  refine Triple.bind _ (sendEvent_spec _) fun _ => ?_
  exact Triple.done fun _ _ within => ⟨within.ready, within.gate, trivial⟩

theorem startAcquired_spec (readings : Readings) (request : BeginInputSessionRequest)
    (acquired : Except String InputLease) :
    Spec host router task (Within task context fact)
      (startAcquired context readings request acquired)
      (fun _ => Within task context fun _ _ => True) := by
  cases acquired with
  | error =>
      refine Triple.bind _ unlockSlot_spec fun _ => ?_
      exact Triple.done fun _ _ within => ⟨within.ready, within.gate, trivial⟩
  | ok lease =>
      unfold startAcquired
      split_ifs
      · refine Triple.bind _ (invoke_spec (.routerBegin lease) fun _ _ _ => trivial)
          fun answer => ?_
        cases answer with
        | ok route => exact announceSession_spec readings request lease (some route)
        | error =>
            refine Triple.bind _ (endLease_spec lease) fun _ => ?_
            exact Triple.done fun _ _ within => within
      · exact announceSession_spec readings request lease none

variable {connection : ConnectionId}

/-- `begin_input_session`, run by the control loop of a serving connection. -/
theorem beginInputSession_spec (grant : InputGrant) (readings : Readings)
    (request : BeginInputSessionRequest) :
    Spec host router (.control connection) (Idle (.control connection) context)
      (beginInputSession context grant readings request)
      (fun _ => Idle (.control connection) context) := by
  unfold beginInputSession
  split_ifs
  · exact Triple.done fun _ _ outside => outside
  · exact Triple.done fun _ _ outside => outside
  · exact Triple.done fun _ _ outside => outside
  · refine Triple.bind _ (sendEvent_spec_outside claims_nothing _) fun _ => ?_
    exact Triple.done fun _ _ outside => outside
  · refine Triple.bind _ (lockGate_spec claims_nothing) fun _ => ?_
    refine Triple.bind _ readSlot_spec fun previous => ?_
    refine Triple.bind _ (endStoredLease_spec previous) fun _ => ?_
    refine Triple.bind _ lockSlot_spec fun _ => ?_
    refine Triple.bind _ (acquireIntoSlot_spec request.workspaceRouting) fun acquired => ?_
    refine Triple.bind _ (startAcquired_spec readings request acquired) fun _ => ?_
    refine Triple.bind _ (unlockGate_spec fun _ _ _ _ _ _ => trivial) fun _ => ?_
    exact Triple.done fun _ _ outside => outside

theorem handleBeginInputSession_spec (grant : InputGrant) (readings : Readings)
    (outstanding : Bool) (request : BeginInputSessionRequest) :
    Spec host router (.control connection) (Idle (.control connection) context)
      (handleBeginInputSession context grant readings outstanding request)
      (Rests (.control connection) context) := by
  unfold handleBeginInputSession
  split_ifs
  · exact sendOrLeave_spec _
  · exact Triple.done fun _ _ outside => outside.ready
  · exact Triple.bind _ (beginInputSession_spec grant readings request)
      fun frame => sendOrLeave_spec frame

theorem endInputSession_spec (readings : Readings) (outstanding : Bool) (requestId : UInt64)
    (lease : InputLease) :
    Spec host router task (Idle task context)
      (endInputSession context readings outstanding requestId lease) (Rests task context) := by
  unfold endInputSession
  split_ifs
  · exact sendOrLeave_spec _
  · exact Triple.done fun _ _ outside => outside.ready
  · refine Triple.bind _ (lockGate_spec claims_nothing) fun _ => ?_
    refine Triple.bind _ readSlot_spec fun active => ?_
    refine Triple.bind (fun _ => Within task context fun _ _ => True) ?_
      fun _ => sendOrLeave_spec_within _
    by_cases stored : active = some lease
    · rw [if_pos stored]
      exact endLease_spec lease
    · rw [if_neg stored]
      exact Triple.done fun _ _ within => ⟨within.ready, within.gate, trivial⟩

/-- Events are applied for the holder, natively or through the router as its lease says. -/
theorem applyInput_spec (workspaceRouted : Bool) (unavailable : String)
    (events : List (InputEvent Button Gesture Other)) :
    Spec host router task
      (Within task context (HeldBy [⟨lease, context.deviceId, workspaceRouted⟩]))
      (applyInput context lease unavailable events)
      (fun _ => Within task context fun _ _ => True) := by
  refine Triple.bind _ (checkRouted_spec lease context.deviceId) fun answer => ?_
  have routing : ∀ (manager : InputSessionState Button Sequence)
      (log : List (Record Button Gesture Other)),
      HeldBy [⟨lease, context.deviceId, workspaceRouted⟩] manager log ∧
        answer = InputSession.isWorkspaceRouted manager lease context.deviceId →
      holders manager = [⟨lease, context.deviceId, answer⟩] := by
    rintro manager log ⟨held, answered⟩
    rw [answered, isWorkspaceRouted_of_holders held]
    exact held
  cases answer with
  | true =>
      rw [if_pos rfl]
      cases context.router with
      | true =>
          rw [if_pos rfl]
          exact within_weaken (invoke_spec (.routerApply lease events)
            fun manager log known => ⟨_, routing manager log known⟩) fun _ _ _ _ => trivial
      | false => exact Triple.done fun _ _ within => ⟨within.ready, within.gate, trivial⟩
  | false =>
      rw [if_neg (by simp)]
      exact within_weaken (invoke_spec (.applyEvents lease events)
        fun manager log known => ⟨_, routing manager log known⟩) fun _ _ _ _ => trivial

theorem inputLeaseTick_spec :
    Spec host router task (Idle task context) (inputLeaseTick context) (Rests task context) := by
  refine Triple.bind _ (lockGate_spec claims_nothing) fun _ => ?_
  refine Triple.bind _ readSlot_spec fun slot => ?_
  cases slot with
  | none => exact Triple.done fun _ _ within => within.ready
  | some lease =>
      intro state invariant within
      obtain ⟨workspaceRouted, owns⟩ := within.owns invariant within.fact.2.symm
      have held : Within task context
          (HeldBy [⟨lease, context.deviceId, workspaceRouted⟩]) state :=
        ⟨within.ready, within.gate, owns.2⟩
      refine (Triple.bind _ (checkExpired_spec lease context.deviceId) fun expired => ?_)
        state invariant held
      cases expired with
      | true =>
          rw [if_pos rfl]
          refine Triple.bind _ (endLease_spec lease) fun _ => ?_
          exact Triple.done fun _ _ within => within.ready
      | false =>
          rw [if_neg (by simp)]
          refine Triple.bind _ (cancelIdle_spec _ lease context.deviceId) fun cancellations => ?_
          split_ifs
          · exact Triple.done fun _ _ within => within.ready
          · refine Triple.bind _ (applyInput_spec lease workspaceRouted _ cancellations)
              fun _ => ?_
            exact Triple.done fun _ _ within => within.ready

/-! ### Workspace focus -/

/-- If the connection still holds `lease`, then through the router. -/
def RoutedIfHeld (owner : Ownership) : Prop :=
  owner.lease = lease → owner.workspaceRouted = true

theorem claims_of_control (claim : Ownership → Prop) : Claims (.control connection) claim := by
  intro other stream
  simp at stream

/-- The answer of the first look at the routing, taken without the gate, stays good for as
long as the connection holds the lease. -/
theorem ownedWorkspaceLease_spec (focus : WorkspaceInputSnapshot) (lease : Option InputLease) :
    Spec host router (.control connection) (Idle (.control connection) context)
      (ownedWorkspaceLease context focus lease)
      (fun owned => Outside (.control connection) context fun owner =>
        ∀ lease, owned = some lease → RoutedIfHeld lease owner) := by
  have nothing : Spec host router (.control connection)
      (Idle (.control connection) context)
      (pure none)
      (fun owned => Outside (.control connection) context fun owner =>
        ∀ lease, owned = some lease → RoutedIfHeld lease owner) :=
    Triple.done fun _ _ outside => ⟨outside.ready, fun _ _ _ _ impossible => by simp at impossible⟩
  unfold ownedWorkspaceLease
  split_ifs
  · cases lease with
    | none => exact nothing
    | some lease =>
        refine Triple.bind (fun routed => Outside (.control connection) context fun owner =>
          routed = true → RoutedIfHeld lease owner) ?_ fun routed => ?_
        · apply spec_ask_outside claims_nothing
          intro state oracle answer after invariant outside executed
          simp only [exec, Option.some.injEq] at executed
          obtain ⟨rfl, rfl⟩ := executed
          refine ⟨(Quiet.refl _ _).allowed invariant, outside.ready, ?_⟩
          intro owner found _ routed _
          obtain ⟨native, consistent⟩ := invariant.consistent
          have held := consistent.routed_of_isWorkspaceRouted routed
          rw [invariant.holders_of_owner found] at held
          exact congrArg Holder.workspaceRouted (List.cons.inj held).1
        · apply Triple.done
          intro state invariant outside
          refine ⟨outside.ready, fun owner found own other named => ?_⟩
          cases routed with
          | false => simp at named
          | true =>
              obtain rfl : lease = other := by simpa using named
              exact outside.claim owner found own rfl
  · exact nothing

/-- A route that ended took the device with it: only a routed lease is dropped here. -/
theorem releaseRoutedLease_spec (owned : Option InputLease) :
    Spec host router (.control connection)
      (Outside (.control connection) context fun owner =>
        ∀ lease, owned = some lease → RoutedIfHeld lease owner)
      (releaseRoutedLease context owned)
      (fun _ => Idle (.control connection) context) := by
  cases owned with
  | none => exact Triple.done fun _ _ outside => outside.ready.idle
  | some lease =>
      refine Triple.bind _ (lockGate_spec (claims_of_control _)) fun _ => ?_
      refine Triple.bind _ readSlot_spec fun active => ?_
      by_cases stored : active = some lease
      · rw [if_pos stored]
        refine Triple.bind _ lockSlot_spec fun _ => ?_
        refine Triple.bind (fun _ => Within (.control connection) context
          fun _ log => currentOwner log = none) ?_
          fun _ => ?_
        · intro state invariant within
          obtain ⟨⟨routed, slot⟩, -⟩ := within.fact
          obtain ⟨workspaceRouted, owns, -⟩ := within.owns invariant (slot.symm.trans stored)
          have isRouted := routed _ owns rfl lease rfl rfl
          refine releaseFromSlot_spec lease state invariant
            ⟨within.ready, within.gate, workspaceRouted, owns, fun native => ?_⟩
          simp only at isRouted
          simp [isRouted] at native
        · refine Triple.bind _ (sendEvent_spec _) fun _ => ?_
          exact unlockGate_spec fun _ _ _ _ _ _ => trivial
      · rw [if_neg stored]
        exact unlockGate_spec fun _ _ _ _ _ _ => trivial

theorem workspaceInputChange_spec (focus : WorkspaceInputSnapshot) :
    Spec host router (.control connection) (Idle (.control connection) context)
      (workspaceInputChange context focus) (Rests (.control connection) context) := by
  refine Triple.bind (fun _ => Idle (.control connection) context)
    (spec_read_outside claims_nothing ?_) fun lease => ?_
  · intro state oracle answer after executed
    simp only [exec, Option.ite_none_right_eq_some, Option.some.injEq] at executed
    exact (Prod.mk.inj executed.2).2.symm
  · refine Triple.bind _ (ownedWorkspaceLease_spec focus lease) fun owned => ?_
    refine Triple.bind (fun _ => Idle (.control connection) context) ?_
      fun _ => sendOrLeave_spec _
    refine (releaseRoutedLease_spec _).weaken (fun _ _ outside => ⟨outside.ready, ?_⟩)
      fun _ _ _ outside => outside
    intro owner found own lease named
    refine outside.claim owner found own lease ?_
    split_ifs at named
    exact named

/-! ### The reliable stream -/

theorem revokeInputWithFeedback_spec (message : String) :
    Spec host router task (Within task context fact) (revokeInputWithFeedback context lease message)
      (Rests task context) := by
  refine Triple.bind _ (endLease_spec lease) fun _ => ?_
  refine Triple.bind _ (sendCritical_spec _) fun _ => ?_
  exact Triple.done fun _ _ within => within.ready

theorem acknowledgeFrame_spec (frame : ReliableInputFrame Wire) (lease : InputLease)
    (feedback : InputFeedbackSnapshot) :
    Spec host router task (Within task context fact) (acknowledgeFrame frame lease feedback)
      (Rests task context) := by
  refine Triple.bind _ (unlockGate_spec fun _ _ _ _ _ _ => trivial) fun _ => ?_
  split_ifs
  · refine Triple.bind _ (sendCritical_spec_outside claims_nothing _) fun _ => ?_
    exact Triple.done fun _ _ outside => outside.ready
  · exact Triple.done fun _ _ outside => outside.ready

theorem applyFrame_spec (frame : ReliableInputFrame Wire) (lease : InputLease)
    (workspaceRouted : Bool) (events : List (InputEvent Button Gesture Other))
    (feedback : InputFeedbackSnapshot) :
    Spec host router task
      (Within task context (HeldBy [⟨lease, context.deviceId, workspaceRouted⟩]))
      (applyFrame context frame lease events feedback) (Rests task context) := by
  unfold applyFrame
  split_ifs
  · exact acknowledgeFrame_spec frame lease feedback
  · refine Triple.bind _ (applyInput_spec lease workspaceRouted _ events) fun result => ?_
    cases result with
    | error error => exact revokeInputWithFeedback_spec lease error.message
    | ok => exact acknowledgeFrame_spec frame lease feedback

theorem acceptMotion_spec (frame : ReliableInputFrame Wire) (lease : InputLease)
    (workspaceRouted : Bool) (events : List (InputEvent Button Gesture Other))
    (sequences : InputFeedbackSnapshot) :
    Spec host router task
      (Within task context (HeldBy [⟨lease, context.deviceId, workspaceRouted⟩]))
      (acceptMotion host context frame lease events sequences) (Rests task context) := by
  unfold acceptMotion
  cases frame.motion with
  | none => exact applyFrame_spec frame lease workspaceRouted events sequences
  | some motion =>
      refine Triple.bind _ (acceptTotals_spec _ lease context.deviceId motion) fun result => ?_
      cases result with
      | error message => exact revokeInputWithFeedback_spec lease message
      | ok delta => exact applyFrame_spec frame lease workspaceRouted _ delta.feedback

theorem acceptFrame_spec (sound : host.gestures.Sound) (frame : ReliableInputFrame Wire)
    (lease : InputLease) (events : List (InputEvent Button Gesture Other)) :
    Spec host router task (Within task context fact)
      (acceptFrame host context frame lease events) (Rests task context) := by
  apply Triple.observe fun state => holders state.manager
  intro held
  refine Triple.bind _ ((acceptSequence_spec held lease context.deviceId frame.sequence
    frame.elapsedUs).weaken (fun _ _ known => ⟨known.1.ready, known.1.gate, known.2⟩)
    fun _ _ _ within => within) fun accepted => ?_
  cases accepted with
  | error message => exact revokeInputWithFeedback_spec lease message
  | ok sequences =>
      refine Triple.bind _ (normalizeBatch_spec sound held lease context.deviceId events)
        fun outcome => ?_
      rcases outcome with (message | normalized) | message
      · exact revokeInputWithFeedback_spec lease message
      · intro state invariant within
        obtain ⟨workspaceRouted, rfl⟩ := within.fact.2 normalized rfl
        exact acceptMotion_spec frame lease workspaceRouted normalized sequences state invariant
          ⟨within.ready, within.gate, within.fact.1⟩
      · exact Triple.done fun _ _ within => within.ready

theorem handleUniStreamFrame_spec (sound : host.gestures.Sound)
    (frame : ReliableInputFrame Wire) :
    Spec host router task (Idle task context)
      (handleUniStreamFrame host context frame) (Rests task context) := by
  refine Triple.bind _ (lockGate_spec claims_nothing) fun _ => ?_
  cases decodeFrame host frame with
  | error message => exact revokeInputWithFeedback_spec _ message
  | ok events => exact acceptFrame_spec sound frame _ events

theorem reliableStreamEnd_spec :
    Spec host router task (Idle task context) (reliableStreamEnd context) (Rests task context) := by
  refine Triple.bind _ (lockGate_spec claims_nothing) fun _ => ?_
  refine Triple.bind _ readSlot_spec fun lease => ?_
  refine Triple.bind _ (endStoredLease_spec lease) fun _ => ?_
  exact Triple.done fun _ _ within => within.ready

/-! ### The cleanup -/

theorem claims_of_cleanup (claim : Ownership → Prop) : Claims (.cleanup connection) claim := by
  intro other stream
  simp at stream

/-- After the cleanup its connection owns nothing, and never will again. -/
theorem sessionCleanup_spec :
    Spec host router (.cleanup connection) (Idle (.cleanup connection) context)
      (sessionCleanup context) (fun _ => Outside (.cleanup connection) context fun _ => False) := by
  refine Triple.bind (fun _ => Idle (.cleanup connection) context)
    (spec_read_outside claims_nothing fun _ _ _ _ executed => still_of_some executed) fun _ => ?_
  refine Triple.bind _ (lockGate_spec claims_nothing) fun _ => ?_
  refine Triple.bind _ readSlot_spec fun lease => ?_
  refine Triple.bind _ (endStoredLease_spec lease) fun _ => ?_
  refine Triple.bind _ (unlockGate_spec fun _ _ free => free) fun _ => ?_
  refine Triple.bind _ (sendEvent_spec_outside (claims_of_cleanup _) _) fun _ => ?_
  exact Triple.done fun _ _ outside => outside

/-! ### Arrivals -/

/-- A round of a loop, from its start to its end. -/
theorem wp_of_rests {program : InputProgram Button Gesture Other Flow}
    (notCleanup : ∀ connection, task ≠ .cleanup connection)
    (spec : Spec host router task (Idle task context) program
      (Rests task context)) (invariant : Invariant state) (ready : Ready task context state) :
    (machine host router).wp discipline task program
      (Finishes (machine host router) discipline task) state := by
  refine Machine.wp_mono ?_ invariant (spec state invariant ready.idle)
  intro flow after afterInvariant rests
  refine Finishes.of_stable (Ready.stable task context) ?_ afterInvariant rests
  intro last lastInvariant lastReady
  exact allowed_finish flow lastInvariant lastReady fun connection mine =>
    absurd mine (notCleanup connection)

omit [DecidableEq Button] in
theorem ready_of_connection (used : (state.connections task.connection).phase ≠ .unused)
    (serving : ∀ connection, task = .control connection →
      (state.connections connection).phase = .serving)
    (cleaning : ∀ connection, task = .cleanup connection →
      (state.connections connection).phase = .cleaning) :
    Ready task ((state.connections task.connection).context router) state :=
  ⟨rfl, used, serving, cleaning⟩

theorem controlArm_spec (arm : ControlArm) :
    Spec host router (.control connection) (Idle (.control connection) context)
      (arm.program context) (Rests (.control connection) context) := by
  cases arm with
  | beginInputSession grant readings outstanding request =>
      exact handleBeginInputSession_spec grant readings outstanding request
  | endInputSession readings outstanding requestId lease =>
      exact endInputSession_spec readings outstanding requestId lease
  | inputLeaseTick => exact inputLeaseTick_spec
  | workspaceInputChange focus => exact workspaceInputChange_spec focus
  | leave => exact Triple.done fun _ _ outside => outside.ready

/-- A connection opens: it owns nothing yet. -/
theorem permitted_connect (invariant : Invariant state) {index : ConnectionId}
    {deviceId deviceName : String} (unused : (state.connections index).phase = .unused) :
    let after := state.setConnection index
      { Connection.unused with
        deviceId := deviceId, deviceName := deviceName, phase := .serving }
    Invariant after ∧ Permitted none state after := by
  intro after
  have elsewhere : ∀ connection, connection ≠ index →
      after.connections connection = state.connections connection := by
    intro connection different
    simp [after, SharedState.setConnection, Function.update_of_ne different]
  have unowned : ∀ owner, currentOwner state.log = some owner → owner.connection ≠ index := by
    intro owner found same
    exact (invariant.live owner found).1 (same ▸ unused)
  have inUse : ∀ connection, (state.connections connection).phase ≠ .unused →
      after.connections connection = state.connections connection := by
    intro connection used
    exact elsewhere connection fun same => used (same ▸ unused)
  refine ⟨invariant.congr rfl rfl ?_ ?_ ?_, ?_⟩
  · intro connection
    by_cases same : connection = index
    · subst same
      have empty : slotOf (currentOwner state.log) connection = none := by
        cases found : currentOwner state.log with
        | none => rfl
        | some owner => simp [slotOf, unowned owner found]
      rw [invariant.slots connection, empty]
      simp [after, SharedState.setConnection, Connection.unused]
    · rw [elsewhere connection same]
  · intro owner found
    rw [elsewhere _ (unowned owner found)]
  · intro owner found
    rw [elsewhere _ (unowned owner found)]
    exact invariant.live owner found
  · exact
      { device := fun connection used => by
          rw [inUse connection used]
          exact ⟨rfl, used⟩
        gate := fun _ held _ => ⟨held, rfl, rfl⟩
        serving := fun connection serving _ => by
          rw [inUse connection (by simp [serving])]
          exact serving
        cleaning := fun connection cleaning _ => by
          rw [inUse connection (by simp [cleaning])]
          exact cleaning
        owner := fun _ found => .inl found }

/-- A stream opens or is dropped. -/
theorem permitted_stream (invariant : Invariant state) (index : ConnectionId) (streamOpen : Bool) :
    let after := state.setConnection index
      { state.connections index with streamOpen := streamOpen }
    Invariant after ∧ Permitted none state after := by
  intro after
  have quiet : Quiet none state after := quiet_setConnection rfl rfl rfl
  exact ⟨quiet.invariant invariant, quiet.then (.refl none after)⟩

theorem rely_of_permitted {before after : SharedState Button Gesture Other Sequence}
    (permitted : Permitted none before after) (task : Task) :
    discipline.rely task before after :=
  ⟨none, by simp, permitted⟩

/-- All work of all connections keeps the rules. -/
theorem machine_verified (sound : host.gestures.Sound) :
    Verified (machine host router)
      (discipline : Discipline Task (SharedState Button Gesture Other Sequence)) where
  event := by
    intro state arrival after invariant arrived
    cases arrival with
    | connect =>
        simp only [machine, arrive, Option.ite_none_right_eq_some, Option.some.injEq,
          Prod.mk.injEq, and_true] at arrived
        obtain ⟨unused, rfl⟩ := arrived
        obtain ⟨kept, permitted⟩ := permitted_connect invariant unused
        exact ⟨kept, rely_of_permitted permitted⟩
    | openStream index =>
        simp only [machine, arrive, Option.ite_none_right_eq_some, Option.some.injEq,
          Prod.mk.injEq, and_true] at arrived
        obtain ⟨-, rfl⟩ := arrived
        obtain ⟨kept, permitted⟩ := permitted_stream invariant index true
        exact ⟨kept, rely_of_permitted permitted⟩
    | dropStream index =>
        simp only [machine, arrive, Option.some.injEq, Prod.mk.injEq, and_true] at arrived
        subst arrived
        obtain ⟨kept, permitted⟩ := permitted_stream invariant index false
        exact ⟨kept, rely_of_permitted permitted⟩
    | control => simp [machine, arrive] at arrived
    | frame => simp [machine, arrive] at arrived
    | streamEnd => simp [machine, arrive] at arrived
    | cleanup => simp [machine, arrive] at arrived
  work := by
    intro state arrival after task program invariant arrived
    cases arrival with
    | connect => simp [machine, arrive] at arrived
    | openStream => simp [machine, arrive] at arrived
    | dropStream => simp [machine, arrive] at arrived
    | control _ arm =>
        simp only [machine, arrive, Option.ite_none_right_eq_some, Option.some.injEq,
          Prod.mk.injEq] at arrived
        obtain ⟨serving, rfl, rfl, rfl⟩ := arrived
        refine ⟨(Quiet.refl _ _).allowed invariant, ?_⟩
        exact wp_of_rests (by simp) (controlArm_spec arm) invariant
          (ready_of_connection (by simp [Task.connection, serving])
            (by rintro connection ⟨⟩; exact serving) (by simp))
    | frame _ frame =>
        simp only [machine, arrive, Option.ite_none_right_eq_some, Option.some.injEq,
          Prod.mk.injEq] at arrived
        obtain ⟨⟨used, -⟩, rfl, rfl, rfl⟩ := arrived
        refine ⟨(Quiet.refl _ _).allowed invariant, ?_⟩
        exact wp_of_rests (by simp) (handleUniStreamFrame_spec sound frame) invariant
          (ready_of_connection used (by simp) (by simp))
    | streamEnd =>
        simp only [machine, arrive, Option.ite_none_right_eq_some, Option.some.injEq,
          Prod.mk.injEq] at arrived
        obtain ⟨⟨used, -⟩, rfl, rfl, rfl⟩ := arrived
        refine ⟨(Quiet.refl _ _).allowed invariant, ?_⟩
        exact wp_of_rests (by simp) reliableStreamEnd_spec invariant
          (ready_of_connection used (by simp) (by simp))
    | cleanup index =>
        simp only [machine, arrive, Option.ite_none_right_eq_some, Option.some.injEq,
          Prod.mk.injEq] at arrived
        obtain ⟨ended, rfl, rfl, rfl⟩ := arrived
        obtain ⟨permitted, kept⟩ := permitted_phase invariant (.cleanup index) index .cleaning
          (by simp) (by simp) (fun serving => by simp [serving] at ended)
          (fun cleaning => by simp [cleaning] at ended)
        refine ⟨permitted.allowed kept, ?_⟩
        have ready : Ready (.cleanup index) ((state.connections index).context router)
            (state.setConnection index
              { state.connections index with phase := .cleaning }) := by
          refine ⟨by simp [SharedState.setConnection, Task.connection, Connection.context],
            by simp [SharedState.setConnection, Task.connection], by simp, ?_⟩
          rintro connection ⟨⟩
          simp [SharedState.setConnection]
        refine Machine.wp_mono ?_ kept (sessionCleanup_spec _ kept ready.idle)
        intro flow last lastInvariant outside
        refine Finishes.of_stable (Outside.stable (claims_of_cleanup _)) ?_ lastInvariant outside
        intro final finalInvariant finalOutside
        refine allowed_finish flow finalInvariant finalOutside.ready ?_
        rintro connection ⟨⟩ owner found own
        exact finalOutside.claim owner found own

end ArcRelay.InputControl
