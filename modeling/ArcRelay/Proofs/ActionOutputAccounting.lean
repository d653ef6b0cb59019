/-
Module: ArcRelay.Proofs.ActionOutputAccounting
Purpose: Every number an action-output subscription has used, and every output it has lost, is
  accounted for.
Trusted boundary: none
-/
import ArcRelay.Server.EventSubscriptionRuns

namespace ArcRelay.Subscriptions

variable {Content : Type}

/-!
A number is used up by every output with a valid id and by every heartbeat that finds a gap
pending.  Either an event carries it, or it is pending, or a marker spans it: a marker reaches
from the first pending number to the number it carries itself, and it is sent exactly when the
gap is closed.

At `u64::MAX` the numbers stop growing, and two events carry the same one.
-/

/-! ### What a step can do -/

variable (sub : EventSubscription)

/-- The marker that closes a gap from `first` on, for a subscription that has reached its number. -/
def markerData (first : Nat) : EventGap :=
  ⟨first, saturatingAdd sub.sequence 1, true, sub.actionGap.takeResourceIds.1⟩

/-- The subscription takes the next number, and its gap becomes `gap`. -/
def EventSubscription.advance (gap : ActionGap) : EventSubscription :=
  { sub.nextSequence with actionGap := gap }

/-- A subscription that has taken the next number for an output it will not carry. -/
def EventSubscription.absorb (actionId : String) : EventSubscription :=
  sub.advance (sub.actionGap.rememberResource sub.nextSequence.sequence actionId)

inductive OutputMoves (run : OutputRun Content) : OutputEvent → OutputRun Content → Prop where
  /-- an invalid id, or a heartbeat with nothing pending -/
  | idle {event : OutputEvent} : OutputMoves run event run
  | carried {output : OutputLine} {answer : TrySend} {now capturedAt : Int} {lines : List String}
      (settled : run.subscription.actionGap.firstMissingSequence = none) :
      OutputMoves run (.push output answer now)
        { run with
          subscription := run.subscription.nextSequence
          accepted := run.accepted ++
            [⟨run.subscription.id, run.subscription.nextSequence.sequence, capturedAt,
              .actionOutput output.actionId lines⟩] }
  | refused {output : OutputLine} {answer : TrySend} {now : Int}
      (settled : run.subscription.actionGap.firstMissingSequence = none) :
      OutputMoves run (.push output answer now)
        { run with
          subscription := run.subscription.absorb output.actionId
          missed := run.miss output :: run.missed }
  /-- the marker that replaces the output is accepted -/
  | replaced {output : OutputLine} {answer : TrySend} {now capturedAt : Int} {first : Nat}
      (pending : run.subscription.actionGap.firstMissingSequence = some first) :
      OutputMoves run (.push output answer now)
        { subscription := run.subscription.advance .default
          accepted := run.accepted ++
            [⟨run.subscription.id, run.subscription.nextSequence.sequence, capturedAt,
              .gap (markerData (run.subscription.absorb output.actionId) first)⟩]
          missed := run.miss output :: run.missed }
  /-- the marker that replaces the output is refused and goes back into the gap -/
  | returned {output : OutputLine} {answer : TrySend} {now : Int} {first : Nat}
      (pending : run.subscription.actionGap.firstMissingSequence = some first) :
      OutputMoves run (.push output answer now)
        { run with
          subscription := run.subscription.advance
            (ActionGap.default.rememberGap
              (markerData (run.subscription.absorb output.actionId) first))
          missed := run.miss output :: run.missed }
  | lag {lost : List OutputLine} :
      OutputMoves run (.lag lost)
        { run with
          subscription := outputLagged run.subscription
          missed := lost.map run.miss ++ run.missed }
  | marked {now capturedAt : Int} {first : Nat}
      (pending : run.subscription.actionGap.firstMissingSequence = some first) :
      OutputMoves run (.heartbeat now)
        { run with
          subscription := run.subscription.advance .default
          accepted := run.accepted ++
            [⟨run.subscription.id, run.subscription.nextSequence.sequence, capturedAt,
              .gap (markerData run.subscription.nextSequence first)⟩] }

/-- The queue of the writer is not closed. -/
def QueueOpen (_ : OutputRun Content) (event : OutputEvent) : Prop :=
  ∀ output now, event ≠ .push output .closed now

theorem queueEvent_open (encoding : Encoding Content) {answer : TrySend} (frame : Frame Content)
    (gap : ActionGap) (isOpen : answer ≠ .closed) :
    queueEvent encoding answer frame gap = (some frame, gap) ∨
      queueEvent encoding answer frame gap = (none, rememberActionGap frame gap) := by
  unfold queueEvent
  split
  · exact .inr rfl
  · cases answer with
    | sent => exact .inl rfl
    | full => exact .inr rfl
    | closed => exact absurd rfl isOpen

section Push

variable (encoding : Encoding Content) {answer : TrySend} (now : Int) (sub : EventSubscription)
  {output : OutputLine}

/-- With nothing pending the output is queued, or remembered. -/
theorem push_settled (valid : validControlIdentifier output.actionId = true)
    (settled : sub.actionGap.firstMissingSequence = none) (isOpen : answer ≠ .closed) :
    pushActionOutputEvent encoding answer now sub output =
        (some (eventFrame sub.id sub.nextSequence.sequence now now (.actionOutput output.actionId
          [truncateUtf8 output.text maxActionOutputLineBytes])), sub.nextSequence) ∨
      pushActionOutputEvent encoding answer now sub output = (none, sub.absorb output.actionId) := by
  have pushed : pushActionOutputEvent encoding answer now sub output =
      sub.nextSequence.queue encoding answer now (.actionOutput output.actionId
        [truncateUtf8 output.text maxActionOutputLineBytes]) := by
    simp only [pushActionOutputEvent, valid, Bool.not_true, Bool.false_eq_true, if_false,
      EventSubscription.nextSequence, settled]
  rw [pushed, EventSubscription.queue]
  rcases queueEvent_open encoding (eventFrame sub.nextSequence.id sub.nextSequence.sequence now
    now (.actionOutput output.actionId [truncateUtf8 output.text maxActionOutputLineBytes]))
    sub.nextSequence.actionGap isOpen with taken | turned
  · rw [taken]
    exact .inl rfl
  · rw [turned]
    exact .inr rfl

/-- With a gap pending a marker is queued, or remembered. -/
theorem push_pending {first : Nat} (valid : validControlIdentifier output.actionId = true)
    (pending : sub.actionGap.firstMissingSequence = some first) (isOpen : answer ≠ .closed) :
    pushActionOutputEvent encoding answer now sub output =
        (some (eventFrame sub.id sub.nextSequence.sequence now now
          (.gap (markerData (sub.absorb output.actionId) first))), sub.advance .default) ∨
      pushActionOutputEvent encoding answer now sub output =
        (none, sub.advance (ActionGap.default.rememberGap
          (markerData (sub.absorb output.actionId) first))) := by
  have pushed : pushActionOutputEvent encoding answer now sub output =
      (sub.advance .default).queue encoding answer now
        (.gap (markerData (sub.absorb output.actionId) first)) := by
    simp only [pushActionOutputEvent, valid, Bool.not_true, Bool.false_eq_true, if_false,
      EventSubscription.nextSequence, pending]
    rfl
  rw [pushed, EventSubscription.queue]
  rcases queueEvent_open encoding (eventFrame (sub.advance .default).id
    (sub.advance .default).sequence now now
    (.gap (markerData (sub.absorb output.actionId) first)))
    (sub.advance .default).actionGap isOpen with taken | turned
  · rw [taken]
    exact .inl rfl
  · rw [turned]
    exact .inr rfl

end Push

theorem outputMoves_of_push (encoding : Encoding Content) (run : OutputRun Content)
    (output : OutputLine) {answer : TrySend} (now : Int) (isOpen : answer ≠ .closed) :
    OutputMoves run (.push output answer now) (run.step encoding (.push output answer now)) := by
  by_cases valid : validControlIdentifier output.actionId = true
  · cases pending : run.subscription.actionGap.firstMissingSequence with
    | none =>
        rcases push_settled encoding now run.subscription valid pending isOpen with queued | turned
        · simp only [OutputRun.step, queued, valid]
          exact .carried pending
        · simp only [OutputRun.step, turned, valid, Option.toList_none, List.filterMap_nil,
            List.append_nil]
          exact .refused pending
    | some =>
        rcases push_pending encoding now run.subscription valid pending isOpen with queued | turned
        · simp only [OutputRun.step, queued, valid]
          exact .replaced pending
        · simp only [OutputRun.step, turned, valid, Option.toList_none, List.filterMap_nil,
            List.append_nil]
          exact .returned pending
  · have unchanged : run.step encoding (.push output answer now) = run := by
      simp [OutputRun.step, pushActionOutputEvent, valid]
    rw [unchanged]
    exact .idle

variable {event : OutputEvent}

theorem outputMoves_of_step (encoding : Encoding Content) (run : OutputRun Content)
    (isOpen : QueueOpen run event) :
    OutputMoves run event (run.step encoding event) := by
  cases event with
  | push output _ now =>
      apply outputMoves_of_push
      rintro rfl
      exact isOpen output now rfl
  | lag => exact .lag
  | heartbeat now =>
      cases pending : run.subscription.actionGap.firstMissingSequence with
      | none =>
          have unchanged : run.step encoding (.heartbeat now) = run := by
            simp only [OutputRun.step, heartbeatGap, pending, Option.map_none]
          rw [unchanged]
          exact .idle
      | some =>
          simp only [OutputRun.step, heartbeatGap, pending, Option.map_some]
          exact .marked pending

/-! ### The pending gap -/

namespace ActionGap

/-- The ids are within both limits, and the byte count is exact. -/
structure Sound (gap : ActionGap) : Prop where
  distinct : gap.resourceIds.Nodup
  bytes : gap.resourceBytes = (gap.resourceIds.map String.utf8ByteSize).sum
  idLimit : gap.resourceIds.length ≤ maxActionGapResourceIds
  byteLimit : gap.resourceBytes ≤ maxActionGapResourceBytes

/-- The marker of this gap will ask for a refresh of the action. -/
def Lists (gap : ActionGap) (actionId : String) : Prop :=
  gap.resyncAll = true ∨ actionId ∈ gap.resourceIds

theorem sound_default : Sound default where
  distinct := List.nodup_nil
  bytes := rfl
  idLimit := Nat.zero_le _
  byteLimit := Nat.zero_le _

theorem Sound.giveUpIds (gap : ActionGap) : Sound gap.giveUpIds where
  distinct := List.nodup_nil
  bytes := rfl
  idLimit := Nat.zero_le _
  byteLimit := Nat.zero_le _

/-- An id is there already, or too much, or new. -/
theorem rememberResource_cases (gap : ActionGap) (sequence : Nat) (resourceId : String) :
    (gap.Lists resourceId ∧
        gap.rememberResource sequence resourceId = gap.rememberSequence sequence) ∨
      gap.rememberResource sequence resourceId = (gap.rememberSequence sequence).giveUpIds ∨
      (resourceId ∉ gap.resourceIds ∧ gap.resourceIds.length < maxActionGapResourceIds ∧
        saturatingAdd gap.resourceBytes resourceId.utf8ByteSize ≤ maxActionGapResourceBytes ∧
        gap.rememberResource sequence resourceId =
          { gap.rememberSequence sequence with
            resourceBytes := saturatingAdd gap.resourceBytes resourceId.utf8ByteSize
            resourceIds := resourceId :: gap.resourceIds }) := by
  by_cases listed : (gap.resyncAll || gap.resourceIds.contains resourceId) = true
  · apply Or.inl
    constructor
    · simpa [Lists] using listed
    · exact if_pos listed
  · apply Or.inr
    by_cases tooMuch : (resourceId.isEmpty ||
        decide (maxActionGapResourceIds ≤ gap.resourceIds.length) ||
        decide (maxActionGapResourceBytes <
          saturatingAdd gap.resourceBytes resourceId.utf8ByteSize)) = true
    · exact .inl ((if_neg listed).trans (if_pos tooMuch))
    · apply Or.inr
      have remembered : gap.rememberResource sequence resourceId =
          { gap.rememberSequence sequence with
            resourceBytes := saturatingAdd gap.resourceBytes resourceId.utf8ByteSize
            resourceIds := resourceId :: gap.resourceIds } :=
        (if_neg listed).trans (if_neg tooMuch)
      simp only [Bool.or_eq_true, List.contains_iff_mem, not_or, Bool.not_eq_true,
        decide_eq_true_eq, not_le, not_lt] at listed tooMuch
      exact ⟨listed.2, tooMuch.1.2, tooMuch.2, remembered⟩

theorem firstMissing_rememberResource (gap : ActionGap) (sequence : Nat) (resourceId : String) :
    (gap.rememberResource sequence resourceId).firstMissingSequence =
      some (gap.firstMissingSequence.getD sequence) := by
  rcases gap.rememberResource_cases sequence resourceId with ⟨_, same⟩ | given | ⟨_, _, _, new⟩
  · rw [same]
    rfl
  · rw [given]
    rfl
  · rw [new]
    rfl

variable {gap : ActionGap}

theorem Sound.rememberSequence (sound : gap.Sound) (sequence : Nat) :
    (gap.rememberSequence sequence).Sound :=
  ⟨sound.distinct, sound.bytes, sound.idLimit, sound.byteLimit⟩

theorem Sound.rememberResource (sound : gap.Sound) (sequence : Nat) (resourceId : String) :
    (gap.rememberResource sequence resourceId).Sound := by
  rcases gap.rememberResource_cases sequence resourceId with
    ⟨_, same⟩ | given | ⟨unlisted, room, small, new⟩
  · rw [same]
    exact sound.rememberSequence sequence
  · rw [given]
    exact Sound.giveUpIds _
  · rw [new]
    refine ⟨List.nodup_cons.mpr ⟨unlisted, sound.distinct⟩, ?_, room, small⟩
    -- below the limit the sum does not saturate
    have exact_sum : saturatingAdd gap.resourceBytes resourceId.utf8ByteSize =
        gap.resourceBytes + resourceId.utf8ByteSize := by
      simp only [saturatingAdd, usizeMax, maxActionGapResourceBytes] at small ⊢
      omega
    change saturatingAdd _ _ = ((resourceId :: gap.resourceIds).map _).sum
    rw [exact_sum, List.map_cons, List.sum_cons, sound.bytes, Nat.add_comm]

theorem lists_rememberResource (gap : ActionGap) (sequence : Nat) (resourceId : String) :
    (gap.rememberResource sequence resourceId).Lists resourceId := by
  rcases gap.rememberResource_cases sequence resourceId with
    ⟨listed, same⟩ | given | ⟨_, _, _, new⟩
  · rw [same]
    exact listed
  · rw [given]
    exact .inl rfl
  · rw [new]
    exact .inr List.mem_cons_self

theorem Lists.rememberResource {actionId : String} (lists : gap.Lists actionId) (sequence : Nat)
    (resourceId : String) :
    (gap.rememberResource sequence resourceId).Lists actionId := by
  rcases gap.rememberResource_cases sequence resourceId with ⟨_, same⟩ | given | ⟨_, _, _, new⟩
  · rw [same]
    exact lists
  · rw [given]
    exact .inl rfl
  · rw [new]
    rcases lists with all | member
    · exact .inl all
    · exact .inr (List.mem_cons_of_mem _ member)

/-- What is remembered of every id survives the ids after it. -/
theorem rememberAll_spec (sequence : Nat) (resourceIds : List String) (gap : ActionGap)
    (sound : gap.Sound) :
    let remembered := resourceIds.foldl
      (fun gap resourceId => gap.rememberResource sequence resourceId) gap
    remembered.Sound ∧ (∀ actionId, gap.Lists actionId → remembered.Lists actionId) ∧
      (∀ actionId ∈ resourceIds, remembered.Lists actionId) ∧
      ∀ first, gap.firstMissingSequence = some first →
        remembered.firstMissingSequence = some first := by
  induction resourceIds generalizing gap with
  | nil =>
      exact ⟨sound, fun _ lists => lists, fun _ member => absurd member (List.not_mem_nil),
        fun _ pending => pending⟩
  | cons resourceId _ ih =>
      rcases ih (gap.rememberResource sequence resourceId)
        (sound.rememberResource sequence resourceId) with ⟨later, kept, listed, pending⟩
      refine ⟨later, ?_, ?_, ?_⟩
      · intro actionId lists
        exact kept actionId (lists.rememberResource sequence resourceId)
      · intro actionId member
        rcases List.mem_cons.mp member with rfl | member
        · exact kept actionId (gap.lists_rememberResource sequence actionId)
        · exact listed actionId member
      · intro first before
        apply pending
        rw [firstMissing_rememberResource, before]
        rfl

/-- A marker that goes back leaves the gap as the marker describes it. -/
theorem rememberGap_spec (sound : gap.Sound) (dropped : EventGap) :
    (gap.rememberGap dropped).Sound ∧
      (gap.rememberGap dropped).firstMissingSequence =
        some (gap.firstMissingSequence.getD dropped.firstMissingSequence) ∧
      ∀ actionId, dropped.resourceIds = [] ∨ actionId ∈ dropped.resourceIds →
        (gap.rememberGap dropped).Lists actionId := by
  unfold rememberGap
  split
  · exact ⟨Sound.giveUpIds _, rfl, fun _ _ => .inl rfl⟩
  next some_ids =>
    rcases rememberAll_spec dropped.firstMissingSequence dropped.resourceIds
      (gap.rememberSequence dropped.firstMissingSequence) (sound.rememberSequence _) with
      ⟨later, _, listed, pending⟩
    refine ⟨later, pending _ rfl, ?_⟩
    intro actionId covered
    rcases covered with empty | member
    · exact absurd (List.isEmpty_iff.mpr empty) some_ids
    · exact listed actionId member

/-- What the gap lists is in the ids it hands out, or these are none. -/
theorem Lists.takeResourceIds {actionId : String} (lists : gap.Lists actionId) :
    gap.takeResourceIds.1 = [] ∨ actionId ∈ gap.takeResourceIds.1 := by
  by_cases all : gap.resyncAll = true
  · exact .inl (if_pos all)
  · have handedOut : gap.takeResourceIds.1 = gap.resourceIds.insertionSort (· ≤ ·) := if_neg all
    rw [handedOut]
    exact .inr ((List.mem_insertionSort _).mpr (lists.resolve_left all))

end ActionGap

/-! ### Lost outputs -/

def Event.gap? (event : Event Content) : Option EventGap :=
  match event.data with
  | .gap gap => some gap
  | _ => none

/-- The marker asks for a refresh of the action, or of everything. -/
def EventGap.Covers (gap : EventGap) (actionId : String) : Prop :=
  gap.resourceIds = [] ∨ actionId ∈ gap.resourceIds

/-- The pending gap, if there is one, would be sent as a marker that covers the action. -/
def ActionGap.Covers (gap : ActionGap) (actionId : String) : Prop :=
  ∃ first, gap.firstMissingSequence = some first ∧
    (gap.takeResourceIds.1 = [] ∨ actionId ∈ gap.takeResourceIds.1)

/-- A marker accepted since covers the output. -/
def OutputRun.MarkedSince (run : OutputRun Content) (missed : Missed) : Prop :=
  ∃ event ∈ run.accepted.drop missed.acceptedBefore, ∃ gap, event.gap? = some gap ∧
    gap.Covers missed.actionId

/-- Every lost output is made up for, or will be. -/
def OutputRun.Covered (run : OutputRun Content) : Prop :=
  ∀ missed ∈ run.missed, run.MarkedSince missed ∨
    run.subscription.actionGap.Covers missed.actionId

/-- What carries `Covered` through a run: the gap keeps listing the outputs no marker covers. -/
structure Covering (run : OutputRun Content) : Prop where
  sound : run.subscription.actionGap.Sound
  earlier : ∀ missed ∈ run.missed, missed.acceptedBefore ≤ run.accepted.length
  covered : ∀ missed ∈ run.missed, run.MarkedSince missed ∨
    run.subscription.actionGap.firstMissingSequence ≠ none ∧
      run.subscription.actionGap.Lists missed.actionId

variable {run : OutputRun Content}

theorem OutputRun.MarkedSince.append {missed : Missed} (marked : run.MarkedSince missed)
    (later : List (Event Content)) :
    ∃ event ∈ (run.accepted ++ later).drop missed.acceptedBefore, ∃ gap,
      event.gap? = some gap ∧ gap.Covers missed.actionId := by
  rcases marked with ⟨event, member, gap, isGap, covers⟩
  refine ⟨event, ?_, gap, isGap, covers⟩
  rw [List.drop_append]
  exact List.mem_append_left _ member

variable {next : OutputRun Content}

/-- A step that only makes the gap list more. -/
theorem Covering.extend (covering : Covering run) (sound : next.subscription.actionGap.Sound)
    (accepted : next.accepted = run.accepted)
    (missed : ∀ missed ∈ next.missed, missed ∈ run.missed ∨
      missed.acceptedBefore = run.accepted.length ∧
        next.subscription.actionGap.Lists missed.actionId)
    (lists : ∀ actionId, run.subscription.actionGap.Lists actionId →
      next.subscription.actionGap.Lists actionId)
    (pending : next.subscription.actionGap.firstMissingSequence ≠ none) : Covering next where
  sound := sound
  earlier := by
    intro lost member
    rw [accepted]
    rcases missed lost member with before | ⟨now, _⟩
    · exact covering.earlier lost before
    · exact now.le
  covered := by
    intro lost member
    rcases missed lost member with before | ⟨_, listed⟩
    · rcases covering.covered lost before with marked | ⟨_, listed⟩
      · apply Or.inl
        rw [OutputRun.MarkedSince, accepted]
        exact marked
      · exact .inr ⟨pending, lists _ listed⟩
    · exact .inr ⟨pending, listed⟩

/-- A step whose marker is accepted: it covers what the gap listed, and the outputs lost just
now. -/
theorem Covering.mark (covering : Covering run) {event : Event Content} {gap : EventGap}
    (isGap : event.gap? = some gap) (closed : next.subscription.actionGap = .default)
    (accepted : next.accepted = run.accepted ++ [event])
    (missed : ∀ missed ∈ next.missed, missed ∈ run.missed ∨
      missed.acceptedBefore = run.accepted.length ∧ gap.Covers missed.actionId)
    (covers : ∀ actionId, run.subscription.actionGap.Lists actionId → gap.Covers actionId) :
    Covering next := by
  -- the marker stands after everything that was accepted before the loss
  have marks : ∀ lost : Missed, lost.acceptedBefore ≤ run.accepted.length →
      gap.Covers lost.actionId → next.MarkedSince lost := by
    intro lost before covered
    refine ⟨event, ?_, gap, isGap, covered⟩
    rw [accepted, List.drop_append_of_le_length before]
    exact List.mem_append_right _ (List.mem_singleton_self event)
  constructor
  · rw [closed]
    exact ActionGap.sound_default
  · intro lost member
    rw [accepted, List.length_append]
    rcases missed lost member with before | ⟨now, _⟩
    · exact (covering.earlier lost before).trans (Nat.le_add_right _ _)
    · exact now.le.trans (Nat.le_add_right _ _)
  · intro lost member
    apply Or.inl
    rcases missed lost member with before | ⟨now, covered⟩
    · rcases covering.covered lost before with marked | ⟨_, listed⟩
      · rw [OutputRun.MarkedSince, accepted]
        exact marked.append [event]
      · exact marks lost (covering.earlier lost before) (covers _ listed)
    · exact marks lost now.le covered

theorem Covering.move (covering : Covering run) (move : OutputMoves run event next) :
    Covering next := by
  cases move with
  | idle => exact covering
  | carried settled =>
      refine ⟨covering.sound, ?_, ?_⟩
      · intro lost member
        rw [List.length_append]
        exact (covering.earlier lost member).trans (Nat.le_add_right _ _)
      · intro lost member
        rcases covering.covered lost member with marked | ⟨pending, _⟩
        · exact .inl (marked.append _)
        · exact absurd settled pending
  | @refused =>
      refine covering.extend (covering.sound.rememberResource _ _) rfl ?_ ?_ ?_
      · intro lost member
        rcases List.mem_cons.mp member with rfl | before
        · exact .inr ⟨rfl, ActionGap.lists_rememberResource _ _ _⟩
        · exact .inl before
      · intro actionId lists
        exact lists.rememberResource _ _
      · change (ActionGap.rememberResource _ _ _).firstMissingSequence ≠ none
        rw [ActionGap.firstMissing_rememberResource]
        exact Option.some_ne_none _
  | @replaced =>
      refine covering.mark rfl rfl rfl ?_ ?_
      · intro lost member
        rcases List.mem_cons.mp member with rfl | before
        · exact .inr ⟨rfl, (ActionGap.lists_rememberResource _ _ _).takeResourceIds⟩
        · exact .inl before
      · intro actionId lists
        exact (lists.rememberResource _ _).takeResourceIds
  | @returned output _ _ first =>
      have spec := ActionGap.rememberGap_spec ActionGap.sound_default
        (markerData (run.subscription.absorb output.actionId) first)
      refine covering.extend spec.1 rfl ?_ ?_ ?_
      · intro lost member
        rcases List.mem_cons.mp member with rfl | before
        · exact .inr ⟨rfl, spec.2.2 _ (ActionGap.lists_rememberResource _ _ _).takeResourceIds⟩
        · exact .inl before
      · intro actionId lists
        exact spec.2.2 actionId (lists.rememberResource _ _).takeResourceIds
      · change (ActionGap.rememberGap _ _).firstMissingSequence ≠ none
        rw [spec.2.1]
        exact Option.some_ne_none _
  | @lag =>
      refine covering.extend ?_ rfl ?_ ?_ (Option.some_ne_none _)
      · exact ⟨covering.sound.distinct, covering.sound.bytes, covering.sound.idLimit,
          covering.sound.byteLimit⟩
      · intro missed member
        rcases List.mem_append.mp member with now | before
        · rcases List.mem_map.mp now with ⟨output, _, rfl⟩
          exact .inr ⟨rfl, .inl rfl⟩
        · exact .inl before
      · intro _ _
        exact .inl rfl
  | marked =>
      refine covering.mark rfl rfl rfl (fun _ member => .inl member) ?_
      intro actionId lists
      exact lists.takeResourceIds

theorem covering_start (id : UInt64) : Covering (⟨.new id, [], []⟩ : OutputRun Content) where
  sound := ActionGap.sound_default
  earlier := by
    intro lost member
    cases member
  covered := by
    intro lost member
    cases member

theorem Covering.allCovered (covering : Covering run) : run.Covered := by
  intro lost member
  rcases covering.covered lost member with marked | ⟨pending, lists⟩
  · exact .inl marked
  · rcases Option.ne_none_iff_exists'.mp pending with ⟨first, isPending⟩
    exact .inr ⟨first, isPending, lists.takeResourceIds⟩

/-! ### Used numbers -/

/-- The event carries this number's output, or is a marker that spans the number. -/
def Event.accountsFor (number : Nat) (event : Event Content) : Bool :=
  match event.data with
  | .actionOutput _ _ => decide (event.sequence = number)
  | .gap gap =>
      decide (gap.firstMissingSequence ≤ number ∧ number < gap.nextAvailableSequence)
  | _ => false

/-- The number lies in the pending gap. -/
def ActionGap.pendingFrom (gap : ActionGap) (number : Nat) : Nat :=
  match gap.firstMissingSequence with
  | some first => if first ≤ number then 1 else 0
  | none => 0

/-- Every number used is accounted for exactly once: by one accepted event, or by the pending
gap; and accepted events account for no others. -/
structure Accounted (run : OutputRun Content) : Prop where
  once : ∀ number, 1 ≤ number → number ≤ run.subscription.sequence →
    run.accepted.countP (Event.accountsFor number) +
      run.subscription.actionGap.pendingFrom number = 1
  used : ∀ event ∈ run.accepted, ∀ number, event.accountsFor number = true →
    1 ≤ number ∧ number ≤ run.subscription.sequence
  pending : ∀ first, run.subscription.actionGap.firstMissingSequence = some first →
    1 ≤ first ∧ first ≤ run.subscription.sequence + 1

theorem accounted_start (id : UInt64) : Accounted (⟨.new id, [], []⟩ : OutputRun Content) where
  once := by
    intro number positive used
    exact absurd (positive.trans used) (Nat.not_succ_le_zero 0)
  used := by
    intro event member
    cases member
  pending := by
    intro first isPending
    cases isPending

/-- A number that is not used yet is accounted for by no accepted event. -/
theorem Accounted.fresh (accounted : Accounted run) {number : Nat}
    (fresh : run.subscription.sequence < number) :
    run.accepted.countP (Event.accountsFor number) = 0 := by
  rw [List.countP_eq_zero]
  intro event member accounts
  exact absurd (accounted.used event member number accounts).2 (not_le.mpr fresh)

theorem nextSequence_eq (below : sub.nextSequence.sequence < u64Max) :
    sub.nextSequence.sequence = sub.sequence + 1 := by
  simp only [EventSubscription.nextSequence, saturatingAdd, u64Max, usizeMax] at below ⊢
  omega

/-- The next number is used, and goes into the pending gap. -/
theorem Accounted.postpone (accounted : Accounted run) {first : Nat}
    (sequence : next.subscription.sequence = run.subscription.sequence + 1)
    (accepted : next.accepted = run.accepted)
    (before : run.subscription.actionGap.firstMissingSequence.getD
      (run.subscription.sequence + 1) = first)
    (after : next.subscription.actionGap.firstMissingSequence = some first) :
    Accounted next := by
  have bounds : 1 ≤ first ∧ first ≤ run.subscription.sequence + 1 := by
    cases pending : run.subscription.actionGap.firstMissingSequence with
    | none =>
        rw [pending, Option.getD_none] at before
        omega
    | some earlier =>
        rw [pending, Option.getD_some] at before
        rw [← before]
        exact accounted.pending earlier pending
  constructor
  · intro number positive used
    rw [accepted, ActionGap.pendingFrom, after]
    rw [sequence] at used
    rcases Nat.lt_or_ge run.subscription.sequence number with fresh | old
    · have reached : first ≤ number := bounds.2.trans fresh
      simp only [accounted.fresh fresh, if_pos reached]
    · have balance := accounted.once number positive old
      rw [ActionGap.pendingFrom] at balance
      cases pending : run.subscription.actionGap.firstMissingSequence with
      | none =>
          rw [pending, Option.getD_none] at before
          rw [pending] at balance
          have beyond : ¬ first ≤ number := by omega
          simpa only [if_neg beyond] using balance
      | some =>
          rw [pending, Option.getD_some] at before
          rw [pending, before] at balance
          exact balance
  · rw [accepted, sequence]
    intro event member number accounts
    have old := accounted.used event member number accounts
    exact ⟨old.1, old.2.trans (Nat.le_succ _)⟩
  · intro pending isPending
    rw [after] at isPending
    cases isPending
    rw [sequence]
    exact ⟨bounds.1, bounds.2.trans (Nat.le_succ _)⟩

/-- The next number is used, and accepted with everything that was pending. -/
theorem Accounted.accept (accounted : Accounted run) {event : Event Content}
    (sequence : next.subscription.sequence = run.subscription.sequence + 1)
    (accepted : next.accepted = run.accepted ++ [event])
    (settled : next.subscription.actionGap.firstMissingSequence = none)
    (spans : ∀ number, event.accountsFor number = true ↔
      run.subscription.actionGap.firstMissingSequence.getD (run.subscription.sequence + 1) ≤ number ∧
        number ≤ run.subscription.sequence + 1) :
    Accounted next := by
  have nothing : ∀ number, next.subscription.actionGap.pendingFrom number = 0 := by
    intro number
    rw [ActionGap.pendingFrom, settled]
  have positiveFirst : 1 ≤ run.subscription.actionGap.firstMissingSequence.getD
      (run.subscription.sequence + 1) := by
    cases pending : run.subscription.actionGap.firstMissingSequence with
    | none => exact Nat.le_add_left _ _
    | some first => exact (accounted.pending first pending).1
  constructor
  · intro number positive used
    rw [nothing, accepted, List.countP_append, List.countP_singleton]
    rw [sequence] at used
    rcases Nat.lt_or_ge run.subscription.sequence number with fresh | old
    · have here : event.accountsFor number = true := by
        rw [spans]
        refine ⟨?_, used⟩
        cases pending : run.subscription.actionGap.firstMissingSequence with
        | none => exact fresh
        | some first => exact (accounted.pending first pending).2.trans fresh
      rw [accounted.fresh fresh, if_pos here]
    · have balance := accounted.once number positive old
      rw [ActionGap.pendingFrom] at balance
      cases pending : run.subscription.actionGap.firstMissingSequence with
      | none =>
          have elsewhere : ¬ event.accountsFor number = true := by
            rw [spans, pending, Option.getD_none]
            omega
          rw [pending] at balance
          rw [if_neg elsewhere]
          exact balance
      | some first =>
          have same : (event.accountsFor number = true) = (first ≤ number) := by
            rw [spans, pending, Option.getD_some, eq_iff_iff]
            omega
          rw [pending] at balance
          simp only [same]
          exact balance
  · rw [accepted, sequence]
    intro other member number accounts
    rcases List.mem_append.mp member with earlier | last
    · have old := accounted.used other earlier number accounts
      exact ⟨old.1, old.2.trans (Nat.le_succ _)⟩
    · rw [List.mem_singleton.mp last, spans] at accounts
      exact ⟨positiveFirst.trans accounts.1, accounts.2⟩
  · intro first pending
    rw [settled] at pending
    cases pending

theorem sequence_le_nextSequence {sub : EventSubscription} (below : sub.sequence ≤ u64Max) :
    sub.sequence ≤ sub.nextSequence.sequence :=
  Nat.le_min.mpr ⟨Nat.le_succ _, below⟩

theorem nextSequence_le : sub.nextSequence.sequence ≤ u64Max :=
  Nat.min_le_right _ _

theorem OutputMoves.sequence (move : OutputMoves run event next) :
    next.subscription.sequence = run.subscription.sequence ∨
      next.subscription.sequence = run.subscription.nextSequence.sequence := by
  cases move with
  | idle => exact .inl rfl
  | lag => exact .inl rfl
  | _ => exact .inr rfl

/-- The number a marker names as the next one, below the largest number. -/
theorem markerData_next {sub : EventSubscription} (first : Nat)
    (below : sub.sequence < u64Max) :
    (markerData sub first).nextAvailableSequence = sub.sequence + 1 := by
  simp only [markerData, saturatingAdd, u64Max, usizeMax] at below ⊢
  omega

/-- A marker accounts for the numbers from the first pending one to its own. -/
theorem accountsFor_marker {first : Nat} {id : UInt64} {reached : Nat}
    {capturedAt : Int} (below : sub.sequence < u64Max) (number : Nat) :
    Event.accountsFor number
        (⟨id, reached, capturedAt, .gap (markerData sub first)⟩ : Event Content) = true ↔
      first ≤ number ∧ number ≤ sub.sequence := by
  have next := markerData_next first below
  simp only [Event.accountsFor, next, decide_eq_true_eq, Nat.lt_succ_iff]
  rfl

/-- The outputs lost to a lag have no numbers; the gap starts at the next one. -/
theorem Accounted.lag (accounted : Accounted run) (below : run.subscription.sequence < u64Max)
    {missed : List Missed} :
    Accounted { run with subscription := outputLagged run.subscription, missed := missed } := by
  have next : saturatingAdd run.subscription.sequence 1 = run.subscription.sequence + 1 :=
    Nat.min_eq_left below
  have remembered : (outputLagged run.subscription).actionGap.firstMissingSequence =
      some (run.subscription.actionGap.firstMissingSequence.getD
        (run.subscription.sequence + 1)) := by
    rw [← next]
    rfl
  constructor
  · intro number positive used
    have balance := accounted.once number positive used
    rw [ActionGap.pendingFrom] at balance ⊢
    rw [remembered]
    cases pending : run.subscription.actionGap.firstMissingSequence with
    | none =>
        rw [pending] at balance
        have beyond : ¬ run.subscription.sequence + 1 ≤ number := by
          have old : number ≤ run.subscription.sequence := used
          omega
        simpa only [Option.getD_none, if_neg beyond] using balance
    | some =>
        rw [pending] at balance
        exact balance
  · exact accounted.used
  · intro first pending
    rw [remembered] at pending
    cases earlier : run.subscription.actionGap.firstMissingSequence with
    | none =>
        rw [earlier] at pending
        cases pending
        exact ⟨Nat.le_add_left _ _, le_rfl⟩
    | some =>
        rw [earlier] at pending
        cases pending
        exact accounted.pending _ earlier

theorem Accounted.move (accounted : Accounted run) (below : next.subscription.sequence < u64Max)
    (move : OutputMoves run event next) : Accounted next := by
  cases move with
  | idle => exact accounted
  | @carried _ _ _ _ _ settled =>
      have sequence := nextSequence_eq run.subscription below
      refine accounted.accept sequence rfl settled ?_
      intro number
      rw [settled, Option.getD_none]
      simp only [Event.accountsFor, sequence, decide_eq_true_eq]
      omega
  | @refused =>
      have sequence := nextSequence_eq run.subscription below
      refine accounted.postpone sequence rfl rfl ?_
      change (ActionGap.rememberResource _ _ _).firstMissingSequence = _
      rw [ActionGap.firstMissing_rememberResource, sequence]
  | @replaced output _ _ _ _ pending =>
      have sequence := nextSequence_eq run.subscription below
      refine accounted.accept sequence rfl rfl ?_
      intro number
      rw [pending, Option.getD_some, ← sequence]
      exact accountsFor_marker (run.subscription.absorb output.actionId) below number
  | @returned output _ _ first pending =>
      have sequence := nextSequence_eq run.subscription below
      refine accounted.postpone sequence rfl rfl ?_
      have spec := ActionGap.rememberGap_spec ActionGap.sound_default
        (markerData (run.subscription.absorb output.actionId) first)
      change (ActionGap.rememberGap _ _).firstMissingSequence = _
      rw [spec.2.1, pending]
      rfl
  | lag => exact accounted.lag below
  | @marked _ _ _ pending =>
      have sequence := nextSequence_eq run.subscription below
      refine accounted.accept sequence rfl rfl ?_
      intro number
      rw [pending, Option.getD_some, ← sequence]
      exact accountsFor_marker run.subscription.nextSequence below number

/-! ### Every run -/

/-- What holds after every run in which the queue is not closed. -/
structure Keeping (run : OutputRun Content) : Prop where
  bounded : run.subscription.sequence ≤ u64Max
  accounted : run.subscription.sequence < u64Max → Accounted run
  covering : Covering run

theorem Keeping.move (keeping : Keeping run) (move : OutputMoves run event next) :
    Keeping next := by
  have grows : run.subscription.sequence ≤ next.subscription.sequence ∧
      next.subscription.sequence ≤ u64Max := by
    rcases move.sequence with same | advanced
    · rw [same]
      exact ⟨le_rfl, keeping.bounded⟩
    · rw [advanced]
      exact ⟨sequence_le_nextSequence keeping.bounded, nextSequence_le _⟩
  exact ⟨grows.2, fun below => (keeping.accounted (grows.1.trans_lt below)).move below move,
    keeping.covering.move move⟩

theorem keeping_of_runs {encoding : Encoding Content} {id : UInt64} {events : List OutputEvent}
    (runs : RunsWhere (outputSubscription encoding id) QueueOpen events run) : Keeping run := by
  apply runs.invariant
  · exact ⟨Nat.zero_le _, fun _ => accounted_start id, covering_start id⟩
  · intro state event next keeping isOpen stepped
    cases stepped
    exact keeping.move (outputMoves_of_step encoding state isOpen)

/-- While the queue is not closed, every lost output is covered, and the pending gap keeps its
limits; below the largest number every number used is accounted for exactly once. -/
theorem action_output_accounted {encoding : Encoding Content} {id : UInt64}
    {events : List OutputEvent} {run : OutputRun Content}
    (runs : RunsWhere (outputSubscription encoding id) QueueOpen events run) :
    (run.subscription.sequence < u64Max → Accounted run) ∧ run.Covered ∧
      run.subscription.actionGap.Sound := by
  have keeping := keeping_of_runs runs
  exact ⟨keeping.accounted, keeping.covering.allCovered, keeping.covering.sound⟩

/-- Frames without a size, for concrete runs. -/
def weightless : Encoding Content := ⟨fun _ => 0, 0⟩

/-- An output is refused, a marker replaces the next one, more are lost to a lag, and a refused
marker goes back into the gap. -/
def troubledOutput : List OutputEvent :=
  [.push ⟨"build", "started"⟩ .full 1, .push ⟨"test", "started"⟩ .sent 2,
    .lag [⟨"build", "done"⟩, ⟨"test", "done"⟩], .push ⟨"build", "started"⟩ .full 3]

theorem action_output_accounted_troubledOutput :
    ∃ run, RunsWhere (outputSubscription (weightless : Encoding Unit) 5) QueueOpen troubledOutput
        run ∧
      run.subscription.sequence = 3 ∧ run.missed.length = 5 ∧ Accounted run ∧ run.Covered ∧
      run.subscription.actionGap.Sound := by
  have sound : ∀ (run : OutputRun Unit) event, (match event with
      | .push _ answer _ => answer != .closed
      | _ => true) = true → QueueOpen run event := by
    rintro _ _ checked output now rfl
    cases checked
  obtain ⟨run, runs, sequence, missed⟩ : ∃ run,
      RunsWhere (outputSubscription (weightless : Encoding Unit) 5) QueueOpen troubledOutput run ∧
        run.subscription.sequence = 3 ∧ run.missed.length = 5 :=
    RunsWhere.exists_of_replay sound (by decide +kernel)
  rcases action_output_accounted runs with ⟨accounted, covered, sound⟩
  have below : run.subscription.sequence < u64Max := by
    rw [sequence]
    decide
  exact ⟨run, runs, sequence, missed, accounted below, covered, sound⟩

/-! ### The largest number -/

/-- An output the queue takes. -/
def plainOutput : OutputEvent := .push ⟨"build", ""⟩ .sent 1

theorem step_plainOutput {run : OutputRun Unit}
    (settled : run.subscription.actionGap.firstMissingSequence = none) :
    ∃ event, (∀ number, event.accountsFor number =
        decide (run.subscription.nextSequence.sequence = number)) ∧
      run.step weightless plainOutput =
        { run with
          subscription := run.subscription.nextSequence
          accepted := run.accepted ++ [event] } := by
  refine ⟨⟨run.subscription.id, run.subscription.nextSequence.sequence, 1,
    .actionOutput "build" [""]⟩, fun _ => rfl, ?_⟩
  have valid : validControlIdentifier "build" = true := by decide +kernel
  have short : truncateUtf8 "" maxActionOutputLineBytes = "" := by decide +kernel
  simp only [OutputRun.step, plainOutput, pushActionOutputEvent, valid, Bool.not_true,
    Bool.false_eq_true, if_false, EventSubscription.nextSequence, settled, short]
  rfl

/-- Accepted outputs take one number after the other until there are no more; from then on each
carries the largest one. -/
theorem runs_plainOutputs (count : Nat) :
    ∃ run, Runs (outputSubscription (weightless : Encoding Unit) 5)
        (List.replicate count plainOutput) run ∧
      run.subscription.sequence = min count u64Max ∧
      run.subscription.actionGap.firstMissingSequence = none ∧
      run.accepted.countP (Event.accountsFor u64Max) = count + 1 - u64Max := by
  induction count with
  | zero => exact ⟨_, .start, rfl, rfl, rfl⟩
  | succ count ih =>
      rcases ih with ⟨run, runs, sequence, settled, carried⟩
      rcases step_plainOutput settled with ⟨event, accounts, stepped⟩
      have advanced : run.subscription.nextSequence.sequence = min (count + 1) u64Max := by
        change min (run.subscription.sequence + 1) usizeMax = _
        rw [sequence, u64Max]
        omega
      rw [List.replicate_succ']
      refine ⟨_, .step runs trivial (congrArg some stepped), advanced, settled, ?_⟩
      rw [List.countP_append, List.countP_singleton, carried, accounts, advanced]
      simp only [decide_eq_true_eq]
      split
      · omega
      · omega

/-- The output after the one that takes the largest number carries it again. -/
theorem last_number_carried_twice :
    ∃ events run, Runs (outputSubscription (weightless : Encoding Unit) 5) events run ∧
      (∀ event ∈ events, event = plainOutput) ∧
      1 ≤ u64Max ∧ u64Max ≤ run.subscription.sequence ∧
      run.accepted.countP (Event.accountsFor u64Max) = 2 := by
  rcases runs_plainOutputs (u64Max + 1) with ⟨run, runs, sequence, _, carried⟩
  refine ⟨_, run, runs, fun event member => List.eq_of_mem_replicate member, by decide, ?_, ?_⟩
  · rw [sequence]
    exact Nat.le_min.mpr ⟨Nat.le_succ _, le_rfl⟩
  · rw [carried]
    omega

end ArcRelay.Subscriptions
