/-
Module: ArcRelay.Proofs.RequestReuse
Purpose: When a client that waits for its responses can reuse their ids, and the run in which it
  is disconnected for it.
Trusted boundary: none
-/
import ArcRelay.Proofs.ControlLoopWiring

namespace ArcRelay.ControlLoop

variable {Body Other : Type}

/-!
The loop prunes finished handles when a frame arrives, so that a client which has its response may
reuse the id at once.  But a task queues its response before it is finished.  The writer can send
the response, and the client can act on it, while the task has still to send its notice; the
handle is then neither finished nor removed, and the loop takes the new frame for a reuse of an
outstanding id.

If no response reaches the client before its task is finished, the handle of every request the
client knows to be answered is gone when its id comes back.
-/

/-- The client sends a frame under an id only when it has the response to every earlier request
under that id. -/
def Compliant (session : Session Body Other) (event : Event Body Other) : Prop :=
  ∀ frame requestId, event = .client frame → frame.checkedId = some requestId →
    requestId ≠ 0 ∧ ∀ number, (number, requestId) ∈ session.asked →
      ∃ outgoing ∈ session.received, outgoing.answers = some number

/-- The client receives the response of a task only once the task is finished, unless the request
was cancelled. -/
def ReceivesAfterFinish (session : Session Body Other) (event : Event Body Other) : Prop :=
  ∀ outgoing rest number, event = .deliver → session.wire = outgoing :: rest →
    outgoing.answers = some number →
    session.isFinished number = true ∨ number ∈ session.cancelled

/-! ### What a step leaves alone -/

variable {session next : Session Body Other} {event : Event Body Other}
variable {outgoing : Outgoing Body Other} {task : Nat} {requestId : UInt64}

namespace Moves

variable (move : Moves session event next)

include move

theorem asked {pair : Nat × UInt64} (asked : pair ∈ session.asked) : pair ∈ next.asked := by
  cases move with
  | client frame =>
      cases frame with
      | request => exact List.mem_append_left _ asked
      | _ => exact asked
  | prune =>
      rw [pruneOne_eq]
      exact asked
  | task _ move =>
      rw [move.result]
      exact asked
  | _ => exact asked

theorem received (received : outgoing ∈ session.received) : outgoing ∈ next.received := by
  cases move with
  | prune =>
      rw [pruneOne_eq]
      exact received
  | task _ move =>
      rw [move.result]
      exact received
  | deliver => exact List.mem_append_left _ received
  | _ => exact received

/-- A task was there before, under its id, or its request has just been dispatched. -/
theorem tasks {record : RequestTask Body Other} (found : next.tasks.lookup task = some record) :
    (∃ earlier, session.tasks.lookup task = some earlier ∧
        record.requestId = earlier.requestId) ∨
      ∃ command, session.point = .dispatching ⟨task, .request record.requestId command⟩ := by
  cases move with
  | prune =>
      change (session.pruneOne _).tasks.lookup task = some record at found
      rw [(pruneOne_tasks session _).1] at found
      exact .inl ⟨record, found, rfl⟩
  | @accept number _ command _ here =>
      change (session.tasks.insert number _).lookup task = some record at found
      by_cases same : task = number
      · subst same
        rw [AList.lookup_insert] at found
        cases found
        exact .inr ⟨command, here⟩
      · rw [AList.lookup_insert_ne same] at found
        exact .inl ⟨record, found, rfl⟩
  | @abort requestId aborted content _ _ present =>
      have sameId : RequestTask.requestId { content with aborted := true } = content.requestId :=
        rfl
      exact .inl (lookup_insert_earlier present sameId task record found)
  | task present move =>
      rw [move.result] at found
      exact .inl (lookup_insert_earlier present move.requestId task record found)
  | _ => exact .inl ⟨record, found, rfl⟩

/-- A handle was in the map before, or was in hand to be registered. -/
theorem map (found : next.requestTasks.lookup requestId = some task) :
    session.requestTasks.lookup requestId = some task ∨
      session.point = .registering requestId task := by
  cases move with
  | prune => exact .inl (pruneOne_lookup found)
  | forget => exact .inl (lookup_erase_some found).2
  | cancel => exact .inl (lookup_erase_some found).2
  | complete => exact .inl (lookup_erase_some found).2
  | @register registered _ here =>
      by_cases same : requestId = registered
      · subst same
        rw [AList.lookup_insert] at found
        cases found
        exact .inr here
      · rw [AList.lookup_insert_ne same] at found
        exact .inl found
  | task _ move =>
      rw [move.result] at found
      exact .inl found
  | _ => exact .inl found

/-- A task is cancelled when its handle leaves the map. -/
theorem cancelled (cancelled : task ∈ next.cancelled) : task ∈ session.cancelled ∨
      ∃ requestId, session.requestTasks.lookup requestId = some task ∧
        next.requestTasks = session.requestTasks.erase requestId := by
  cases move with
  | prune =>
      rw [pruneOne_eq] at cancelled
      exact .inl cancelled
  | cancel _ found =>
      rcases List.mem_cons.mp cancelled with rfl | earlier
      · exact .inr ⟨_, found, rfl⟩
      · exact .inl earlier
  | task _ move =>
      rw [move.result] at cancelled
      exact .inl cancelled
  | _ => exact .inl cancelled

end Moves

/-- The records of past requests that are finished, or have none, do not change. -/
theorem isFinished_of_move (move : Moves session event next) {number : Nat}
    (past : session.Past number) (finished : session.isFinished number = true) :
    next.isFinished number = true := by
  have unchanged : next.tasks.lookup number = session.tasks.lookup number ∨
      ∃ record, session.tasks.lookup number = some record ∧
        next.tasks.lookup number = some { record with aborted := true } := by
    cases move with
    | prune => exact .inl (by rw [(pruneOne_tasks session _).1])
    | accept here =>
        apply Or.inl
        apply AList.lookup_insert_ne
        rintro rfl
        exact not_past_of_pending (mem_pending_dispatching here) past
    | @abort _ task record _ _ found =>
        by_cases same : number = task
        · subst same
          exact .inr ⟨record, found, AList.lookup_insert _⟩
        · exact .inl (AList.lookup_insert_ne same)
    | @task _ _ _ _ _ _ _ found move =>
        apply Or.inl
        rw [move.result]
        apply AList.lookup_insert_ne
        rintro rfl
        rw [Session.isFinished, found, Option.all_some, move.unfinished] at finished
        cases finished
    | _ => exact .inl rfl
  rw [Session.isFinished] at finished ⊢
  rcases unchanged with same | ⟨record, before, after⟩
  · rw [same]
    exact finished
  · rw [before] at finished
    rw [after]
    exact finished

/-! ### The invariant -/

/-- The requests the client has asked, and what it knows of them. -/
structure Asked (session : Session Body Other) : Prop where
  tasks : ∀ task record, session.tasks.lookup task = some record →
    (task, record.requestId) ∈ session.asked
  pending : ∀ frame ∈ session.pending, ∀ requestId command,
    frame.frame = .request requestId command → (frame.number, requestId) ∈ session.asked
  cleared : ∀ frame ∈ session.pending, ∀ requestId, frame.frame.checkedId = some requestId →
    requestId ≠ 0 ∧ ∀ number, (number, requestId) ∈ session.asked → number < frame.number →
      ∃ outgoing ∈ session.received, outgoing.answers = some number

theorem asked_start : Asked (Session.start : Session Body Other) where
  tasks := by
    intro task record found
    cases found
  pending := by
    intro frame member
    cases member
  cleared := by
    intro frame member
    cases member

theorem mem_asked_clientStep {frame : ClientFrame} {pair : Nat × UInt64}
    (asked : pair ∈ (session.clientStep frame).asked) :
    pair ∈ session.asked ∨ pair.1 = session.sent := by
  cases frame with
  | request =>
      rcases List.mem_append.mp asked with earlier | last
      · exact .inl earlier
      · rw [List.mem_singleton.mp last]
        exact .inr rfl
  | _ => exact .inl asked

theorem Asked.client (asked : Asked session) (wired : Wired session) {frame : ClientFrame}
    (compliant : Compliant session (.client frame)) : Asked (session.clientStep frame) := by
  have move : Moves session (.client frame) (session.clientStep frame) := .client frame
  constructor
  · intro task record found
    exact move.asked (asked.tasks task record found)
  · intro inbound member requestId command isRequest
    rw [pending_clientStep] at member
    rcases List.mem_append.mp member with earlier | last
    · exact move.asked (asked.pending inbound earlier requestId command isRequest)
    · rw [List.mem_singleton.mp last] at isRequest ⊢
      change frame = .request requestId command at isRequest
      rw [isRequest]
      exact List.mem_append_right _ (List.mem_singleton_self _)
  · intro inbound member requestId checked
    rw [pending_clientStep] at member
    rcases List.mem_append.mp member with earlier | last
    · rcases asked.cleared inbound earlier requestId checked with ⟨nonzero, answered⟩
      refine ⟨nonzero, ?_⟩
      intro number pair before
      rcases mem_asked_clientStep pair with old | new
      · exact answered number old before
      · -- the new request comes after every frame in line
        have later := wired.pendingSent inbound earlier
        have same : number = session.sent := new
        omega
    · rw [List.mem_singleton.mp last] at checked ⊢
      rcases compliant frame requestId rfl checked with ⟨nonzero, answered⟩
      refine ⟨nonzero, ?_⟩
      intro number pair before
      rcases mem_asked_clientStep pair with old | new
      · exact answered number old
      · have same : number = session.sent := new
        have earlier : number < session.sent := before
        omega

/-- Apart from the client, nobody asks anything. -/
theorem Moves.asked_eq (move : Moves session event next)
    (notClient : ∀ frame, event ≠ .client frame) :
    next.asked = session.asked := by
  cases move with
  | client frame => exact absurd rfl (notClient frame)
  | prune =>
      rw [pruneOne_eq]
  | task _ move => rw [move.result]
  | _ => rfl

theorem Asked.move (asked : Asked session) (wired : Wired session)
    (compliant : Compliant session event) (move : Moves session event next) : Asked next := by
  by_cases client : ∃ frame, event = .client frame
  · rcases client with ⟨frame, rfl⟩
    cases move
    exact asked.client wired compliant
  · have notClient : ∀ frame, event ≠ .client frame := fun frame same => client ⟨frame, same⟩
    have same := move.asked_eq notClient
    rcases move.pending with ⟨frame, isClient, _⟩ | ⟨_, kept⟩
    · exact absurd isClient (notClient frame)
    constructor
    · intro task record found
      rcases move.tasks found with ⟨earlier, before, sameId⟩ | ⟨command, here⟩
      · rw [same, sameId]
        exact asked.tasks task earlier before
      · rw [same]
        exact asked.pending _ (mem_pending_dispatching here) _ command rfl
    · intro inbound member requestId command isRequest
      rw [same]
      exact asked.pending inbound (kept.subset member) requestId command isRequest
    · intro inbound member requestId checked
      rcases asked.cleared inbound (kept.subset member) requestId checked with
        ⟨nonzero, answered⟩
      refine ⟨nonzero, ?_⟩
      intro number pair before
      rw [same] at pair
      rcases answered number pair before with ⟨outgoing, received, answers⟩
      exact ⟨outgoing, move.received received, answers⟩

/-- Cancelled tasks have left the map for good. -/
structure Dropped (session : Session Body Other) : Prop where
  recorded : ∀ task ∈ session.cancelled, ∃ record, session.tasks.lookup task = some record
  unmapped : ∀ task ∈ session.cancelled, ∀ requestId,
    session.requestTasks.lookup requestId ≠ some task
  registering : ∀ requestId task, session.point = .registering requestId task →
    task ∉ session.cancelled

theorem dropped_start : Dropped (Session.start : Session Body Other) where
  recorded := by
    intro task member
    cases member
  unmapped := by
    intro task member
    cases member
  registering := by
    intro requestId task here
    cases here

theorem Moves.tasks_mono (move : Moves session event next) {record : RequestTask Body Other}
    (found : session.tasks.lookup task = some record) :
    ∃ later, next.tasks.lookup task = some later := by
  have inserted (tasks : HashMap Nat (RequestTask Body Other)) (other : Nat)
      (content : RequestTask Body Other) (present : tasks.lookup task = some record) :
      ∃ later, (tasks.insert other content).lookup task = some later := by
    by_cases same : task = other
    · subst same
      exact ⟨content, AList.lookup_insert _⟩
    · exact ⟨record, (AList.lookup_insert_ne same).trans present⟩
  cases move with
  | prune => exact ⟨record, (congrArg _ (pruneOne_tasks session _).1).trans found⟩
  | accept => exact inserted _ _ _ found
  | abort => exact inserted _ _ _ found
  | task _ move =>
      rw [move.result]
      exact inserted _ _ _ found
  | _ => exact ⟨record, found⟩

/-- A task about to be registered was just spawned, or was so before. -/
theorem Moves.registering (move : Moves session event next)
    (here : next.point = .registering requestId task) :
    next.cancelled = session.cancelled ∧ (session.point = .registering requestId task ∨
      ∃ command, session.point = .dispatching ⟨task, .request requestId command⟩) := by
  cases move with
  | client => exact ⟨rfl, .inl here⟩
  | @accept _ _ command _ before =>
      cases here
      exact ⟨rfl, .inr ⟨command, before⟩⟩
  | complete => exact ⟨rfl, .inl here⟩
  | write => exact ⟨rfl, .inl here⟩
  | deliver => exact ⟨rfl, .inl here⟩
  | task _ move =>
      rw [move.result] at here ⊢
      exact ⟨rfl, .inl here⟩
  | _ => cases here

theorem Dropped.move (dropped : Dropped session) (wired : Wired session)
    (move : Moves session event next) :
    Dropped next := by
  constructor
  · intro task member
    have present : ∃ record, session.tasks.lookup task = some record := by
      rcases move.cancelled member with earlier | ⟨requestId, found, _⟩
      · exact dropped.recorded task earlier
      · rcases wired.mapped requestId task found with ⟨record, present, _⟩
        exact ⟨record, present⟩
    rcases present with ⟨record, found⟩
    exact move.tasks_mono found
  · intro task member requestId found
    rcases move.cancelled member with earlier | ⟨erased, held, without⟩
    · rcases move.map found with before | here
      · exact dropped.unmapped task earlier requestId before
      · exact dropped.registering requestId task here earlier
    · -- the id of a task is that of its record, so the handle stood under no other
      rw [without] at found
      rcases lookup_erase_some found with ⟨different, before⟩
      rcases wired.mapped erased task held with ⟨record, present, ofErased, _⟩
      rcases wired.mapped requestId task before with ⟨same, again, ofId, _⟩
      rw [present] at again
      cases again
      exact different (ofId.symm.trans ofErased)
  · intro requestId task here member
    rcases move.registering here with ⟨same, before | ⟨command, before⟩⟩
    · rw [same] at member
      exact dropped.registering requestId task before member
    · rw [same] at member
      rcases dropped.recorded task member with ⟨record, found⟩
      rw [wired.untasked (mem_pending_dispatching before)] at found
      cases found

/-- The task of every response the client has is finished or cancelled. -/
def Spent (session : Session Body Other) : Prop :=
  ∀ outgoing ∈ session.received, ∀ number, outgoing.answers = some number →
    session.isFinished number = true ∨ number ∈ session.cancelled

/-- The client had the frame before, or has just received it. -/
theorem Moves.delivered (move : Moves session event next) (received : outgoing ∈ next.received) :
    outgoing ∈ session.received ∨ event = .deliver ∧ ∃ rest, session.wire = outgoing :: rest := by
  cases move with
  | prune =>
      rw [pruneOne_eq] at received
      exact .inl received
  | task _ move =>
      rw [move.result] at received
      exact .inl received
  | @deliver _ rest front =>
      rcases List.mem_append.mp received with earlier | last
      · exact .inl earlier
      · rw [List.mem_singleton.mp last]
        exact .inr ⟨rfl, rest, front⟩
  | _ => exact .inl received

theorem mem_outgoing_of_received (received : outgoing ∈ session.received) :
    outgoing ∈ session.outgoing := by
  simp [Session.outgoing, Session.queued, received]

theorem mem_outgoing_of_wire {rest : List (Outgoing Body Other)}
    (sent : session.wire = outgoing :: rest) :
    outgoing ∈ session.outgoing := by
  simp [Session.outgoing, Session.queued, sent]

theorem Spent.move (spent : Spent session) (numbered : Numbered session)
    (receives : ReceivesAfterFinish session event) (move : Moves session event next) :
    Spent next := by
  intro outgoing received number answers
  have before : session.Past number ∧
      (session.isFinished number = true ∨ number ∈ session.cancelled) := by
    rcases move.delivered received with earlier | ⟨delivered, rest, sent⟩
    · exact ⟨numbered outgoing (mem_outgoing_of_received earlier) number answers,
        spent outgoing earlier number answers⟩
    · exact ⟨numbered outgoing (mem_outgoing_of_wire sent) number answers,
        receives outgoing rest number delivered sent answers⟩
  rcases before with ⟨past, finished | cancelled⟩
  · exact .inl (isFinished_of_move move past finished)
  · exact .inr (move.cancelled_mono cancelled)

/-! ### The handle of an answered request -/

/-- When the id of a frame is in the map, the task behind it is finished: the client has its
response. -/
theorem finished_of_mapped (wired : Wired session) (asked : Asked session)
    (dropped : Dropped session) (spent : Spent session) {frame : Inbound}
    (waiting : frame ∈ session.pending) (checked : frame.frame.checkedId = some requestId)
    (mapped : session.requestTasks.lookup requestId = some task) :
    session.isFinished task = true := by
  rcases wired.mapped requestId task mapped with ⟨record, found, ofId, _⟩
  have pair : (task, requestId) ∈ session.asked := by
    rw [← ofId]
    exact asked.tasks task record found
  have earlier : task < frame.number := (wired.tasksPast task record found).acted frame waiting
  rcases (asked.cleared frame waiting requestId checked).2 task pair earlier with
    ⟨outgoing, received, answers⟩
  rcases spent outgoing received task answers with finished | cancelled
  · exact finished
  · exact absurd mapped (dropped.unmapped task cancelled requestId)

/-- The pruning pass gets to the id of the frame, if it is there, before the frame is acted on. -/
structure Pruned (session : Session Body Other) : Prop where
  pruning : ∀ frame unchecked, session.point = .pruning frame unchecked →
    ∀ requestId, frame.frame.checkedId = some requestId → requestId ∈ session.requestTasks →
      requestId ∈ unchecked
  dispatching : ∀ frame, session.point = .dispatching frame →
    ∀ requestId, frame.frame.checkedId = some requestId → requestId ∉ session.requestTasks
  unclosed : ∀ ending, session.point = .ended ending → ending ∉ reuseReasons

theorem pruned_start : Pruned (Session.start : Session Body Other) where
  pruning := by
    intro frame unchecked here
    cases here
  dispatching := by
    intro frame here
    cases here
  unclosed := by
    intro ending here
    cases here

/-- A step that leaves the point of the loop and the map as they are. -/
theorem Pruned.still (pruned : Pruned session) (point : next.point = session.point)
    (map : next.requestTasks = session.requestTasks) :
    Pruned next := by
  constructor
  · rw [point, map]
    exact pruned.pruning
  · rw [point, map]
    exact pruned.dispatching
  · rw [point]
    exact pruned.unclosed

/-- A step that takes the loop to a point where no frame is in hand. -/
theorem Pruned.away (away : next.point.inbound = [])
    (unclosed : ∀ ending, next.point = .ended ending → ending ∉ reuseReasons) : Pruned next where
  pruning := by
    intro frame unchecked here
    rw [here] at away
    cases away
  dispatching := by
    intro frame here
    rw [here] at away
    cases away
  unclosed := unclosed

theorem not_mem_pruneOne (found : session.requestTasks.lookup requestId = some task)
    (finished : session.isFinished task = true) :
    requestId ∉ (session.pruneOne requestId).requestTasks := by
  have removes : (session.pruneOne requestId).requestTasks =
      session.requestTasks.erase requestId := by
    simp [Session.pruneOne, found, finished]
  rw [removes, AList.mem_erase]
  exact fun kept => kept.1 rfl

theorem Pruned.prune (pruned : Pruned session) {frame : Inbound} {visited : UInt64}
    {unchecked : List UInt64} (here : session.point = .pruning frame (visited :: unchecked))
    (finished : ∀ requestId task, frame.frame.checkedId = some requestId →
      session.requestTasks.lookup requestId = some task → session.isFinished task = true) :
    Pruned { session.pruneOne visited with point := .pruning frame unchecked } := by
  constructor
  · rintro _ _ ⟨⟩ requestId checked kept
    change requestId ∈ (session.pruneOne visited).requestTasks at kept
    rcases Option.isSome_iff_exists.mp (AList.lookup_isSome.mpr kept) with ⟨task, found⟩
    have before := pruneOne_lookup found
    have present : requestId ∈ session.requestTasks := by
      rw [← AList.lookup_isSome, before]
      rfl
    rcases List.mem_cons.mp (pruned.pruning frame _ here requestId checked present) with
      rfl | later
    · exact absurd kept (not_mem_pruneOne before (finished requestId task checked before))
    · exact later
  · intro other dispatched
    cases dispatched
  · intro ending ended
    cases ended

theorem Pruned.move (pruned : Pruned session) (wired : Wired session) (asked : Asked session)
    (dropped : Dropped session) (spent : Spent session) (move : Moves session event next) :
    Pruned next := by
  cases move with
  | client => exact pruned.still rfl rfl
  | receive =>
      constructor
      · rintro _ _ ⟨⟩ requestId checked present
        exact AList.mem_keys.mp present
      · intro frame dispatched
        cases dispatched
      · intro ending ended
        cases ended
  | @prune frame _ _ here =>
      have waiting : frame ∈ session.pending := by
        rw [Session.pending, here]
        exact List.mem_cons_self
      exact pruned.prune here fun requestId task checked mapped =>
        finished_of_mapped wired asked dropped spent waiting checked mapped
  | pruned here =>
      constructor
      · intro frame unchecked pruning
        cases pruning
      · rintro _ ⟨⟩ requestId checked present
        exact absurd (pruned.pruning _ _ here requestId checked present) (List.not_mem_nil)
      · intro ending ended
        cases ended
  | @close inbound _ _ here reused =>
      apply Pruned.away rfl
      rintro _ ⟨⟩ closed
      rcases reused closed with ⟨requestId, checked, zero | mapped⟩
      · exact (asked.cleared inbound (mem_pending_dispatching here) requestId checked).1 zero
      · exact pruned.dispatching inbound here requestId checked mapped
  | leave usual =>
      apply Pruned.away rfl
      rintro _ ⟨⟩
      exact usual
  | complete here =>
      refine Pruned.away ?_ ?_
      · change session.point.inbound = []
        rw [here]
        rfl
      · exact pruned.unclosed
  | task _ move =>
      rw [move.result]
      exact pruned.still rfl rfl
  | write => exact pruned.still rfl rfl
  | deliver => exact pruned.still rfl rfl
  | _ =>
      apply Pruned.away rfl
      intro ending ended
      cases ended

/-! ### Every run -/

/-- What holds as long as the client waits for its responses and these for their tasks. -/
structure Reusing (session : Session Body Other) : Prop where
  wired : Wired session
  numbered : Numbered session
  asked : Asked session
  dropped : Dropped session
  spent : Spent session
  pruned : Pruned session

theorem reusing_start : Reusing (Session.start : Session Body Other) where
  wired := wired_start
  numbered := numbered_start
  asked := asked_start
  dropped := dropped_start
  spent := by
    intro outgoing received
    cases received
  pruned := pruned_start

theorem Reusing.move (reusing : Reusing session) (compliant : Compliant session event)
    (receives : ReceivesAfterFinish session event) (move : Moves session event next) :
    Reusing next where
  wired := reusing.wired.move move
  numbered := reusing.numbered.move reusing.wired move
  asked := reusing.asked.move reusing.wired compliant move
  dropped := reusing.dropped.move reusing.wired move
  spent := reusing.spent.move reusing.numbered receives move
  pruned := reusing.pruned.move reusing.wired reusing.asked reusing.dropped reusing.spent move

/-- A compliant client is not disconnected for reusing an id, as long as it receives the responses
of finished tasks only. -/
theorem compliant_client_not_disconnected {events : List (Event Body Other)}
    {session : Session Body Other}
    (run : RunsWhere (controlLoop Body Other)
      (fun before event => Compliant before event ∧ ReceivesAfterFinish before event)
      events session) :
    ∀ ending, session.point = .ended ending → ending ∉ reuseReasons := by
  have reusing : Reusing session :=
    run.invariant reusing_start fun _ _ _ reusing condition stepped =>
      reusing.move condition.1 condition.2 (moves_of_step stepped)
  exact reusing.pruned.unclosed

def LoopPoint.isEnded : LoopPoint Body Other → Bool
  | .ended _ => true
  | _ => false

/-- Whether the loop ended by closing the connection with this code and reason. -/
def LoopPoint.closedWith (code : Nat) (reason : String) : LoopPoint Body Other → Bool
  | .ended ending => ending = .close code reason
  | _ => false

theorem ended_of_closedWith {point : LoopPoint Body Other} {code : Nat} {reason : String}
    (closed : point.closedWith code reason = true) : point = .ended (.close code reason) := by
  cases point with
  | ended => rw [of_decide_eq_true closed]
  | _ => cases closed

/-- Whether the client has the responses it must wait for. -/
def compliantCheck (session : Session Body Other) : Event Body Other → Bool
  | .client frame =>
      frame.checkedId.all fun requestId => requestId != 0 &&
        session.asked.all fun pair => pair.2 != requestId ||
          session.received.any fun outgoing => outgoing.answers == some pair.1
  | _ => true

theorem compliant_of_check (session : Session Body Other) (event : Event Body Other)
    (checked : compliantCheck session event = true) : Compliant session event := by
  rintro frame requestId rfl named
  simp only [compliantCheck, named, Option.all_some, Bool.and_eq_true, bne_iff_ne,
    List.all_eq_true] at checked
  refine ⟨checked.1, ?_⟩
  intro number pair
  have verdict := checked.2 (number, requestId) pair
  simpa using verdict

/-- Whether the response that is delivered is that of a finished or cancelled task. -/
def finishedCheck (session : Session Body Other) : Event Body Other → Bool
  | .deliver =>
      session.wire.head?.all fun outgoing => outgoing.answers.all fun number =>
        session.isFinished number || session.cancelled.contains number
  | _ => true

theorem receivesAfterFinish_of_check (session : Session Body Other) (event : Event Body Other)
    (checked : finishedCheck session event = true) : ReceivesAfterFinish session event := by
  rintro outgoing rest number rfl sent answers
  simpa [finishedCheck, sent, answers] using checked

/-- The client reuses id 7 as soon as it has its response, which the writer sent before the task
had finished and which arrived after; the notice of the task is still queued.  Then the connection
is lost. -/
def patientReuse : List (Event Unit Unit) :=
  List.flatten [[.client (.request 7 false)], takeUp 0,
    [.loop .register, .task 0 .poll,
      .task 0 (.operate (.answered ⟨7, some okStatus, none⟩)), .task 0 .respond],
    [.write], leave 0, [.deliver, .client (.request 7 false)], takeUp 1,
    [.loop .register, .loop .leave]]

theorem compliant_client_not_disconnected_patientReuse :
    ∃ session, RunsWhere (controlLoop Unit Unit)
        (fun before event => Compliant before event ∧ ReceivesAfterFinish before event)
        patientReuse session ∧
      session.accepted = [1, 0] ∧ session.point.isEnded = true ∧
      ∀ ending, session.point = .ended ending → ending ∉ reuseReasons := by
  have sound : ∀ (before : Session Unit Unit) event,
      (compliantCheck before event && finishedCheck before event) = true →
        Compliant before event ∧ ReceivesAfterFinish before event := by
    intro before event checked
    rcases Bool.and_eq_true_iff.mp checked with ⟨compliant, finished⟩
    exact ⟨compliant_of_check before event compliant,
      receivesAfterFinish_of_check before event finished⟩
  obtain ⟨session, run, accepted, ended⟩ : ∃ session,
      RunsWhere (controlLoop Unit Unit) _ patientReuse session ∧
        session.accepted = [1, 0] ∧ session.point.isEnded = true :=
    RunsWhere.exists_of_replay sound (by decide +kernel)
  exact ⟨session, run, accepted, ended, compliant_client_not_disconnected run⟩

/-- The client has its response and reuses id 7, but the task that queued the response has not
yet sent its notice. -/
def promptReuse : List (Event Unit Unit) :=
  List.flatten [[.client (.request 7 false)], takeUp 0, [.loop .register], answer 0 7,
    [.client (.request 7 false)], takeUp 1]

/-- The client waited for its response and is disconnected for the reuse. -/
theorem compliant_client_disconnected :
    ∃ session, RunsWhere (controlLoop Unit Unit) Compliant promptReuse session ∧
      session.point = .ended (.close 6 "request id reused while outstanding") := by
  obtain ⟨session, run, closed⟩ : ∃ session,
      RunsWhere (controlLoop Unit Unit) _ promptReuse session ∧
        session.point.closedWith 6 "request id reused while outstanding" = true :=
    RunsWhere.exists_of_replay compliant_of_check (by decide +kernel)
  exact ⟨session, run, ended_of_closedWith closed⟩

end ArcRelay.ControlLoop
