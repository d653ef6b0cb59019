/-
Module: ArcRelay.Proofs.ControlLoopWiring
Purpose: How the numbers of client frames, the request tasks and the map of outstanding requests
  hang together in every state of a connection.
Trusted boundary: none
-/
import ArcRelay.Proofs.ControlLoopMoves

namespace ArcRelay.ControlLoop

variable {Body Other : Type}

/-- The frame the loop is working on before it has acted on it. -/
def LoopPoint.inbound : LoopPoint Body Other → List Inbound
  | .pruning frame _ | .dispatching frame => [frame]
  | _ => []

variable (session : Session Body Other)

/-- The frames the loop has not acted on, in the order it will. -/
def Session.pending : List Inbound :=
  session.point.inbound ++ session.inbound

/-- The frame with this number was acted on. -/
structure Session.Past (session : Session Body Other) (number : Nat) : Prop where
  sent : number < session.sent
  acted : ∀ frame ∈ session.pending, number < frame.number

/-- The task has a record for this id, and `abort` was not called on it. -/
def Holds (requestId : UInt64) (task : Nat) : Prop :=
  ∃ record, session.tasks.lookup task = some record ∧ record.requestId = requestId ∧
    record.aborted = false

/-- The task whose handle the loop has in hand, outside the map. -/
def LoopPoint.handle : LoopPoint Body Other → Option (UInt64 × Nat)
  | .registering requestId task | .aborting requestId task => some (requestId, task)
  | _ => none

/-- What holds in every state of a connection, whatever its client does. -/
structure Wired (session : Session Body Other) : Prop where
  pendingSent : ∀ frame ∈ session.pending, frame.number < session.sent
  pendingOrdered : session.pending.Pairwise fun first second => first.number < second.number
  tasksPast : ∀ task record, session.tasks.lookup task = some record → session.Past task
  nonzero : ∀ task record, session.tasks.lookup task = some record → record.requestId ≠ 0
  mapped : ∀ requestId task, session.requestTasks.lookup requestId = some task →
    Holds session requestId task
  inHand : ∀ requestId task, session.point.handle = some (requestId, task) →
    session.requestTasks.lookup requestId = none ∧ Holds session requestId task

theorem wired_start : Wired (Session.start : Session Body Other) where
  pendingSent := by
    intro frame member
    cases member
  pendingOrdered := List.Pairwise.nil
  tasksPast := by
    intro task record found
    cases found
  nonzero := by
    intro task record found
    cases found
  mapped := by
    intro requestId task found
    cases found
  inHand := by
    intro requestId task held
    cases held

/-! ### The frames in line -/

/-- A round of `retain` changes the map and nothing else. -/
theorem pruneOne_eq (checked : UInt64) : session.pruneOne checked =
    { session with requestTasks := (session.pruneOne checked).requestTasks } := by
  unfold Session.pruneOne
  split
  · rfl
  · rfl

theorem pruneOne_tasks (checked : UInt64) : (session.pruneOne checked).tasks = session.tasks ∧
      (session.pruneOne checked).sent = session.sent ∧
      (session.pruneOne checked).inbound = session.inbound := by
  rw [pruneOne_eq]
  exact ⟨rfl, rfl, rfl⟩

variable {session : Session Body Other}

theorem pending_dispatching {inbound : Inbound} (here : session.point = .dispatching inbound) :
    session.pending = inbound :: session.inbound := by
  rw [Session.pending, here]
  rfl

variable {next : Session Body Other} {event : Event Body Other}

/-- The client alone adds frames; whatever else happens, frames only leave the line. -/
theorem Moves.pending (move : Moves session event next) :
    (∃ frame, event = .client frame ∧ next = session.clientStep frame) ∨
      next.sent = session.sent ∧ next.pending.Sublist session.pending := by
  cases move with
  | client frame => exact .inl ⟨frame, rfl, rfl⟩
  | receive here queued =>
      refine .inr ⟨rfl, ?_⟩
      rw [Session.pending, Session.pending, here, queued]
      exact List.Sublist.refl _
  | @prune frame requestId _ here =>
      rcases pruneOne_tasks session requestId with ⟨_, sent, inbound⟩
      refine .inr ⟨sent, ?_⟩
      rw [Session.pending, Session.pending, here]
      change (frame :: (session.pruneOne requestId).inbound).Sublist (frame :: session.inbound)
      rw [inbound]
  | pruned here =>
      refine .inr ⟨rfl, ?_⟩
      rw [Session.pending, Session.pending, here]
      exact List.Sublist.refl _
  | complete => exact .inr ⟨rfl, List.Sublist.refl _⟩
  | task _ move =>
      rw [move.result]
      exact .inr ⟨rfl, List.Sublist.refl _⟩
  | write => exact .inr ⟨rfl, List.Sublist.refl _⟩
  | deliver => exact .inr ⟨rfl, List.Sublist.refl _⟩
  | _ => exact .inr ⟨rfl, List.sublist_append_right _ _⟩

theorem pending_clientStep (session : Session Body Other) (frame : ClientFrame) :
    (session.clientStep frame).pending = session.pending ++ [⟨session.sent, frame⟩] := by
  simp only [Session.pending, Session.clientStep, List.append_assoc]

/-- What is past stays past. -/
theorem Session.Past.move {number : Nat} (past : session.Past number)
    (move : Moves session event next) :
    next.Past number := by
  rcases move.pending with ⟨frame, rfl, rfl⟩ | ⟨sent, pending⟩
  · refine ⟨Nat.lt_succ_of_lt past.sent, ?_⟩
    intro inbound member
    rw [pending_clientStep] at member
    rcases List.mem_append.mp member with earlier | last
    · exact past.acted inbound earlier
    · rw [List.mem_singleton.mp last]
      exact past.sent
  · exact ⟨sent ▸ past.sent, fun inbound member => past.acted inbound (pending.subset member)⟩

/-! ### What keeps the parts -/

variable {requestId : UInt64} {record moved : RequestTask Body Other}

/-- A record that keeps its id and its mark leaves what is held as it was. -/
theorem Holds.insert {task other : Nat} (holds : Holds session requestId task)
    (found : session.tasks.lookup other = some record)
    (tasks : next.tasks = session.tasks.insert other moved)
    (sameId : moved.requestId = record.requestId) (sameMark : moved.aborted = record.aborted) :
    Holds next requestId task := by
  rcases holds with ⟨held, present, ofId, unmarked⟩
  by_cases same : task = other
  · subst same
    rw [found] at present
    cases present
    exact ⟨moved, by rw [tasks, AList.lookup_insert], sameId.trans ofId, sameMark.trans unmarked⟩
  · exact ⟨held, by rw [tasks, AList.lookup_insert_ne same, present], ofId, unmarked⟩

/-- A record put in place of another one keeps everything about tasks that depends on its id. -/
theorem forall_insert {tasks : HashMap Nat (RequestTask Body Other)} {task : Nat}
    {property : Nat → RequestTask Body Other → Prop} (own : property task moved)
    (others : ∀ other record, other ≠ task → tasks.lookup other = some record →
      property other record) :
    ∀ other record, (tasks.insert task moved).lookup other = some record →
      property other record := by
  intro other record found
  by_cases same : other = task
  · subst same
    rw [AList.lookup_insert] at found
    cases found
    exact own
  · rw [AList.lookup_insert_ne same] at found
    exact others other record same found

theorem lookup_erase_some {map : HashMap UInt64 Nat} {erased : UInt64} {task : Nat}
    (found : (map.erase erased).lookup requestId = some task) :
    requestId ≠ erased ∧ map.lookup requestId = some task := by
  have different : requestId ≠ erased := by
    rintro rfl
    rw [AList.lookup_erase] at found
    cases found
  rw [AList.lookup_erase_ne different] at found
  exact ⟨different, found⟩

/-- A step that adds no frame and no task: each record was there before, under the same id. -/
theorem Wired.update (wired : Wired session) (sent : next.sent = session.sent)
    (pending : next.pending.Sublist session.pending)
    (tasks : ∀ task record, next.tasks.lookup task = some record →
      ∃ earlier, session.tasks.lookup task = some earlier ∧ record.requestId = earlier.requestId)
    (mapped : ∀ requestId task, next.requestTasks.lookup requestId = some task →
      Holds next requestId task)
    (inHand : ∀ requestId task, next.point.handle = some (requestId, task) →
      next.requestTasks.lookup requestId = none ∧ Holds next requestId task) :
    Wired next := by
  refine ⟨?_, wired.pendingOrdered.sublist pending, ?_, ?_, mapped, inHand⟩
  · intro frame member
    rw [sent]
    exact wired.pendingSent frame (pending.subset member)
  · intro task record found
    rcases tasks task record found with ⟨earlier, present, _⟩
    have past := wired.tasksPast task earlier present
    exact ⟨sent ▸ past.sent, fun frame member => past.acted frame (pending.subset member)⟩
  · intro task record found
    rcases tasks task record found with ⟨earlier, present, same⟩
    rw [same]
    exact wired.nonzero task earlier present

/-- The loop went on to another point: the tasks are as they were, and no handle was added. -/
theorem Wired.moveOn (wired : Wired session) (sent : next.sent = session.sent)
    (tasks : next.tasks = session.tasks) (pending : next.pending.Sublist session.pending)
    (fewer : ∀ requestId task, next.requestTasks.lookup requestId = some task →
      session.requestTasks.lookup requestId = some task)
    (inHand : ∀ requestId task, next.point.handle = some (requestId, task) →
      next.requestTasks.lookup requestId = none ∧ Holds session requestId task) :
    Wired next := by
  have holds : ∀ requestId task, Holds session requestId task → Holds next requestId task := by
    rintro requestId task ⟨record, found, ofId, unmarked⟩
    exact ⟨record, tasks ▸ found, ofId, unmarked⟩
  apply wired.update sent pending
  · intro task record found
    exact ⟨record, tasks ▸ found, rfl⟩
  · intro requestId task found
    exact holds requestId task (wired.mapped requestId task (fewer requestId task found))
  · intro requestId task held
    rcases inHand requestId task held with ⟨unmapped, kept⟩
    exact ⟨unmapped, holds requestId task kept⟩

/-- A record replaced under its own id. -/
theorem lookup_insert_earlier {tasks : HashMap Nat (RequestTask Body Other)} {task : Nat}
    (found : tasks.lookup task = some record) (sameId : moved.requestId = record.requestId) :
    ∀ other content, (tasks.insert task moved).lookup other = some content →
      ∃ earlier, tasks.lookup other = some earlier ∧ content.requestId = earlier.requestId :=
  forall_insert ⟨record, found, sameId⟩ fun _ content _ present => ⟨content, present, rfl⟩

theorem pruneOne_lookup {checked : UInt64} {task : Nat}
    (found : (session.pruneOne checked).requestTasks.lookup requestId = some task) :
    session.requestTasks.lookup requestId = some task := by
  unfold Session.pruneOne at found
  split at found
  · exact (lookup_erase_some found).2
  · exact found

/-- A client frame is the last in line. -/
theorem Wired.client (wired : Wired session) (frame : ClientFrame) :
    Wired (session.clientStep frame) := by
  have pending := pending_clientStep session frame
  have split : ∀ inbound ∈ (session.clientStep frame).pending,
      inbound ∈ session.pending ∨ inbound = ⟨session.sent, frame⟩ := by
    intro inbound member
    rw [pending] at member
    rcases List.mem_append.mp member with earlier | last
    · exact .inl earlier
    · exact .inr (List.mem_singleton.mp last)
  constructor
  · intro inbound member
    rcases split inbound member with earlier | rfl
    · exact Nat.lt_succ_of_lt (wired.pendingSent inbound earlier)
    · exact Nat.lt_succ_self _
  · rw [pending]
    apply List.pairwise_append.mpr
    refine ⟨wired.pendingOrdered, List.pairwise_singleton _ _, ?_⟩
    intro earlier member last isLast
    rw [List.mem_singleton.mp isLast]
    exact wired.pendingSent earlier member
  · intro task record found
    have past := wired.tasksPast task record found
    refine ⟨Nat.lt_succ_of_lt past.sent, ?_⟩
    intro inbound member
    rcases split inbound member with earlier | rfl
    · exact past.acted inbound earlier
    · exact past.sent
  · exact wired.nonzero
  · exact wired.mapped
  · exact wired.inHand

/-- A frame in line is not past, and has no task. -/
theorem not_past_of_pending {frame : Inbound} (member : frame ∈ session.pending) :
    ¬ session.Past frame.number :=
  fun past => Nat.lt_irrefl _ (past.acted frame member)

theorem Wired.untasked (wired : Wired session) {frame : Inbound}
    (member : frame ∈ session.pending) : session.tasks.lookup frame.number = none := by
  cases found : session.tasks.lookup frame.number with
  | none => rfl
  | some record =>
      exact absurd (wired.tasksPast frame.number record found) (not_past_of_pending member)

theorem mem_pending_dispatching {inbound : Inbound} (here : session.point = .dispatching inbound) :
    inbound ∈ session.pending := by
  rw [pending_dispatching here]
  exact List.mem_cons_self

/-- The frame the loop acts on is past from then on. -/
theorem Wired.past_of_dispatching (wired : Wired session) {inbound : Inbound}
    (here : session.point = .dispatching inbound) (sent : next.sent = session.sent)
    (pending : next.pending = session.inbound) :
    next.Past inbound.number := by
  have all := pending_dispatching here
  have ordered := wired.pendingOrdered
  rw [all] at ordered
  constructor
  · rw [sent]
    apply wired.pendingSent
    rw [all]
    exact List.mem_cons_self
  · intro frame member
    rw [pending] at member
    exact List.rel_of_pairwise_cons ordered member

theorem Wired.accept (wired : Wired session) {number : Nat} {command : Bool}
    (here : session.point = .dispatching ⟨number, .request requestId command⟩)
    (nonzero : requestId ≠ 0) (unused : session.requestTasks.lookup requestId = none) :
    Wired { session.setTask number ⟨requestId, command, .operating, false, false⟩ with
      point := .registering requestId number } := by
  have all := pending_dispatching here
  have ordered := wired.pendingOrdered
  rw [all] at ordered
  have fresh : ∀ task record, session.tasks.lookup task = some record → task ≠ number := by
    rintro task record found rfl
    rw [wired.untasked (mem_pending_dispatching here)] at found
    cases found
  constructor
  · intro frame member
    exact wired.pendingSent frame (by rw [all]; exact List.mem_cons_of_mem _ member)
  · exact ordered.of_cons
  · apply forall_insert
    · exact wired.past_of_dispatching here rfl rfl
    · intro task record _ found
      have past := wired.tasksPast task record found
      exact ⟨past.sent, fun frame member =>
        past.acted frame (by rw [all]; exact List.mem_cons_of_mem _ member)⟩
  · apply forall_insert
    · exact nonzero
    · intro task record _ found
      exact wired.nonzero task record found
  · intro other task found
    rcases wired.mapped other task found with ⟨record, present, ofId, unmarked⟩
    refine ⟨record, ?_, ofId, unmarked⟩
    exact (AList.lookup_insert_ne (fresh task record present)).trans present
  · intro other task held
    cases held
    exact ⟨unused, _, AList.lookup_insert _, rfl, rfl⟩

theorem Wired.register (wired : Wired session) {task : Nat}
    (here : session.point = .registering requestId task) :
    Wired { session with
      point := .select
      requestTasks := session.requestTasks.insert requestId task
      accepted := task :: session.accepted } := by
  have handle : session.point.handle = some (requestId, task) := by
    rw [here]
    rfl
  refine wired.update rfl (List.sublist_append_right _ _)
    (fun _ record found => ⟨record, found, rfl⟩) ?_ ?_
  · intro other mapped found
    by_cases same : other = requestId
    · subst same
      rw [AList.lookup_insert] at found
      cases found
      exact (wired.inHand other task handle).2
    · rw [AList.lookup_insert_ne same] at found
      exact wired.mapped other mapped found
  · intro other mapped held
    cases held

theorem Wired.abort (wired : Wired session) {task : Nat} {frames : List (Outgoing Body Other)}
    (here : session.point = .aborting requestId task)
    (found : session.tasks.lookup task = some record) :
    Wired ((session.setTask task { record with aborted := true }).send frames) := by
  have handle : session.point.handle = some (requestId, task) := by
    rw [here]
    rfl
  rcases wired.inHand requestId task handle with ⟨unmapped, held, present, ofId, _⟩
  rw [found] at present
  cases present
  refine wired.update rfl (List.sublist_append_right _ _) (lookup_insert_earlier found rfl) ?_ ?_
  · -- the aborted task is not in the map, so the mapped ones keep their records
    intro other mapped present
    rcases wired.mapped other mapped present with ⟨content, kept, named, unmarked⟩
    have different : mapped ≠ task := by
      rintro rfl
      rw [found] at kept
      cases kept
      have same : other = requestId := named.symm.trans ofId
      change session.requestTasks.lookup other = _ at present
      rw [same, unmapped] at present
      cases present
    exact ⟨content, (AList.lookup_insert_ne different).trans kept, named, unmarked⟩
  · intro other mapped inHand
    cases inHand

theorem Wired.task (wired : Wired session) {task : Nat} {responses : List (Outgoing Body Other)}
    {notices : List UInt64} (found : session.tasks.lookup task = some record)
    (move : TaskMove session next task record moved responses notices) : Wired next := by
  have holds : ∀ requestId other, Holds session requestId other → Holds next requestId other :=
    fun requestId other held =>
      held.insert found (by rw [move.result]) move.requestId move.aborted
  rw [move.result] at holds ⊢
  refine wired.update rfl (List.Sublist.refl _) (lookup_insert_earlier found move.requestId) ?_ ?_
  · intro requestId other present
    exact holds requestId other (wired.mapped requestId other present)
  · intro requestId other held
    rcases wired.inHand requestId other held with ⟨unmapped, kept⟩
    exact ⟨unmapped, holds requestId other kept⟩

/-! ### Every step -/

theorem Wired.move (wired : Wired session) (move : Moves session event next) : Wired next := by
  rcases move.pending with ⟨frame, rfl, rfl⟩ | ⟨sent, pending⟩
  · exact wired.client frame
  · cases move with
    | client frame => exact wired.client frame
    | @prune _ requestId =>
        exact wired.moveOn sent (pruneOne_tasks session requestId).1 pending
          (fun _ _ found => pruneOne_lookup found) (by rintro _ _ ⟨⟩)
    | accept here nonzero unused => exact wired.accept here nonzero unused
    | forget _ found =>
        exact wired.moveOn rfl rfl pending (fun _ _ found => (lookup_erase_some found).2)
          (by rintro _ _ ⟨⟩)
    | @cancel _ requestId task _ _ found =>
        refine wired.moveOn rfl rfl pending (fun _ _ found => (lookup_erase_some found).2) ?_
        rintro _ _ ⟨⟩
        exact ⟨AList.lookup_erase _ _, wired.mapped requestId task found⟩
    | register here => exact wired.register here
    | abort here found => exact wired.abort here found
    | complete here =>
        refine wired.moveOn rfl rfl pending (fun _ _ found => (lookup_erase_some found).2) ?_
        intro requestId task held
        change session.point.handle = _ at held
        rw [here] at held
        cases held
    | task found move => exact wired.task found move
    | write => exact wired.moveOn rfl rfl pending (fun _ _ found => found) wired.inHand
    | deliver => exact wired.moveOn rfl rfl pending (fun _ _ found => found) wired.inHand
    | _ => exact wired.moveOn rfl rfl pending (fun _ _ found => found) (by rintro _ _ ⟨⟩)

theorem Moves.cancelled_mono {task : Nat} (move : Moves session event next)
    (cancelled : task ∈ session.cancelled) :
    task ∈ next.cancelled := by
  cases move with
  | prune =>
      rw [pruneOne_eq]
      exact cancelled
  | cancel => exact List.mem_cons_of_mem _ cancelled
  | task _ move =>
      rw [move.result]
      exact cancelled
  | _ => exact cancelled

/-! ### The frames on their way out -/

/-- The frames the loop is about to queue. -/
def LoopPoint.frames : LoopPoint Body Other → List (Outgoing Body Other)
  | .sending frames => frames
  | _ => []

/-- Every frame queued on the critical channel so far, in order. -/
def Session.queued (session : Session Body Other) : List (Outgoing Body Other) :=
  session.received ++ session.wire ++ session.critical

/-- The queued frames and those the loop is about to queue. -/
def Session.outgoing (session : Session Body Other) : List (Outgoing Body Other) :=
  session.queued ++ session.point.frames

theorem pruneOne_queued (session : Session Body Other) (checked : UInt64) :
    (session.pruneOne checked).queued = session.queued := by
  rw [pruneOne_eq]
  rfl

/-- A frame is answered when the loop acts on it, or by a task. -/
theorem Moves.outgoing (move : Moves session event next) {outgoing : Outgoing Body Other}
    (member : outgoing ∈ next.outgoing) :
    outgoing ∈ session.outgoing ∨ outgoing.answers = none ∨
      (∃ inbound, session.point = .dispatching inbound ∧
        outgoing.answers = some inbound.number ∧ next.sent = session.sent ∧
        next.pending = session.inbound) ∨
      ∃ task record, session.tasks.lookup task = some record ∧
        outgoing.answers = some task := by
  cases move with
  | client => exact .inl member
  | complete => exact .inl member
  | @prune _ requestId =>
      rw [Session.outgoing] at member
      change outgoing ∈ (session.pruneOne requestId).queued ++ [] at member
      rw [pruneOne_queued, List.append_nil] at member
      exact .inl (List.mem_append_left _ member)
  | turnAway here =>
      rcases List.mem_append.mp member with earlier | new
      · exact .inl (List.mem_append_left _ earlier)
      · rw [List.mem_singleton.mp new]
        exact .inr (.inr (.inl ⟨_, here, rfl, rfl, rfl⟩))
  | reply =>
      rcases List.mem_append.mp member with earlier | new
      · exact .inl (List.mem_append_left _ earlier)
      · rcases List.mem_map.mp new with ⟨body, _, rfl⟩
        exact .inr (.inl rfl)
  | abort _ found =>
      rcases List.mem_append.mp member with earlier | new
      · exact .inl (List.mem_append_left _ earlier)
      · rw [List.mem_singleton.mp new]
        exact .inr (.inr (.inr ⟨_, _, found, rfl⟩))
  | queue here =>
      rw [Session.outgoing, Session.queued, here]
      simp only [Session.outgoing, Session.queued, LoopPoint.frames, List.mem_append,
        List.mem_cons, List.not_mem_nil, or_false] at member ⊢
      tauto
  | write queued =>
      rw [Session.outgoing, Session.queued, queued]
      simp only [Session.outgoing, Session.queued, List.mem_append, List.mem_cons,
        List.not_mem_nil, or_false] at member ⊢
      tauto
  | deliver sent =>
      rw [Session.outgoing, Session.queued, sent]
      simp only [Session.outgoing, Session.queued, List.mem_append, List.mem_cons,
        List.not_mem_nil, or_false] at member ⊢
      tauto
  | @task task _ _ record _ responses _ found move =>
      rw [move.result] at member
      simp only [Session.outgoing, Session.queued, List.mem_append] at member ⊢
      have responded : outgoing ∈ responses → outgoing.answers = some task := by
        intro new
        rcases move.responds with none | ⟨_, _, frame, one⟩
        · rw [none] at new
          cases new
        · rw [one] at new
          rw [List.mem_singleton.mp new]
          rfl
      rcases member with ((received | wire) | critical | new) | frames
      · exact .inl (.inl (.inl (.inl received)))
      · exact .inl (.inl (.inl (.inr wire)))
      · exact .inl (.inl (.inr critical))
      · exact .inr (.inr (.inr ⟨task, record, found, responded new⟩))
      · exact .inl (.inr frames)
  | _ =>
      change outgoing ∈ session.queued ++ [] at member
      rw [List.append_nil] at member
      exact .inl (List.mem_append_left _ member)

/-- Only frames the loop has acted on are answered. -/
def Numbered (session : Session Body Other) : Prop :=
  ∀ outgoing ∈ session.outgoing, ∀ number, outgoing.answers = some number → session.Past number

theorem Numbered.move (numbered : Numbered session) (wired : Wired session)
    (move : Moves session event next) :
    Numbered next := by
  intro outgoing member number answers
  rcases move.outgoing member with earlier | unnumbered | ⟨inbound, here, named, sent, pending⟩ |
    ⟨task, record, found, named⟩
  · exact (numbered outgoing earlier number answers).move move
  · rw [answers] at unnumbered
    cases unnumbered
  · rw [answers] at named
    cases named
    exact wired.past_of_dispatching here sent pending
  · rw [answers] at named
    cases named
    exact (wired.tasksPast number record found).move move

theorem numbered_start : Numbered (Session.start : Session Body Other) := by
  intro outgoing member
  cases member

/-! ### Stretches of concrete runs -/

/-- The loop takes up the frame at the front and acts on it, with this many handles to visit. -/
def takeUp (handles : Nat) : List (Event Unit Unit) :=
  .loop .receive :: List.replicate (handles + 1) (.loop .prune) ++ [.loop (.dispatch [])]

/-- A task answers, and the client has its response. -/
def answer (task : Nat) (requestId : UInt64) : List (Event Unit Unit) :=
  [.task task .poll, .task task (.operate (.answered ⟨requestId, some okStatus, none⟩)),
    .task task .respond, .write, .deliver]

/-- A task sends its notice and finishes. -/
def leave (task : Nat) : List (Event Unit Unit) :=
  [.task task .notify, .task task .release, .task task .finish]

/-! ### Every run -/

theorem wired_of_runs {condition : Session Body Other → Event Body Other → Prop}
    {events : List (Event Body Other)}
    (run : RunsWhere (controlLoop Body Other) condition events session) : Wired session :=
  run.invariant wired_start fun _ _ _ wired _ stepped => wired.move (moves_of_step stepped)

end ArcRelay.ControlLoop
