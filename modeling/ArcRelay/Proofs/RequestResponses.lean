/-
Module: ArcRelay.Proofs.RequestResponses
Purpose: How many responses a request can get, and the run in which it gets two.
Trusted boundary: none
-/
import ArcRelay.Proofs.ControlLoopWiring

namespace ArcRelay.ControlLoop

variable {Body Other : Type}

/-!
A cancellation asks whether the task is finished, but a task queues its response well before it
is.  In between, a cancellation finds an unfinished task, aborts it and queues a `Cancelled`
response of its own.  The same happens when a worker is just polling the task: `abort` does not
stop it before its next suspension.

When `abort` reaches a task that has not queued its response and is not being polled, the task
is dropped without another step, and the `Cancelled` response is its only one.
-/

def Outgoing.answersTo (number : Nat) (outgoing : Outgoing Body Other) : Bool :=
  outgoing.answers == some number

variable (session : Session Body Other)

/-- How many responses to this `Request` frame were queued. -/
def Session.responses (number : Nat) : Nat :=
  session.queued.countP (Outgoing.answersTo number)

/-- The queued responses and those the loop is about to queue. -/
def Session.due (number : Nat) : Nat :=
  session.outgoing.countP (Outgoing.answersTo number)

/-- `abort` finds a task that has not queued its response, suspended. -/
def AbortsParkedTasks (event : Event Body Other) : Prop :=
  ∀ requestId task record, event = .loop .abort → session.point = .aborting requestId task →
    session.tasks.lookup task = some record →
    record.phase.outstanding = true ∧ record.polling = false

structure Answering (session : Session Body Other) : Prop where
  once : ∀ number, session.due number ≤ 1
  unanswered : ∀ task record, session.tasks.lookup task = some record →
    record.phase.outstanding = true → record.aborted = false → session.due task = 0
  parked : ∀ task record, session.tasks.lookup task = some record →
    record.phase.outstanding = true → record.aborted = true → record.polling = false

theorem answering_start : Answering (Session.start : Session Body Other) where
  once := fun _ => Nat.zero_le _
  unanswered := by
    intro task record found
    cases found
  parked := by
    intro task record found
    cases found

theorem answersTo_response (number other : Nat) (frame : ServerControlFrame Body Other) :
    (Outgoing.response other frame).answersTo number = decide (number = other) := by
  by_cases same : number = other
  · simp [Outgoing.answersTo, Outgoing.response, same]
  · have different : other ≠ number := fun equal => same equal.symm
    simp [Outgoing.answersTo, Outgoing.response, same, different]

theorem countP_response (number other : Nat) (frame : ServerControlFrame Body Other) :
    [Outgoing.response other frame].countP (Outgoing.answersTo number) =
      if number = other then 1 else 0 := by
  rw [List.countP_singleton, answersTo_response]
  by_cases same : number = other
  · simp [same]
  · simp [same]

theorem countP_replies (number : Nat) (replies : List Other) :
    (replies.map .reply : List (Outgoing Body Other)).countP (Outgoing.answersTo number) = 0 := by
  apply List.countP_eq_zero.mpr
  intro outgoing member
  rcases List.mem_map.mp member with ⟨body, _, rfl⟩
  simp [Outgoing.answersTo, Outgoing.reply]

variable {session : Session Body Other}

/-- A frame in line has no response. -/
theorem Numbered.due_eq_zero (numbered : Numbered session) {frame : Inbound}
    (member : frame ∈ session.pending) : session.due frame.number = 0 := by
  apply List.countP_eq_zero.mpr
  intro outgoing queued answers
  apply not_past_of_pending member
  exact numbered outgoing queued frame.number (by simpa [Outgoing.answersTo] using answers)

variable {next : Session Body Other}

/-- A step that queues nothing new and leaves the tasks as they were. -/
theorem Answering.keep (answering : Answering session) (tasks : next.tasks = session.tasks)
    (due : ∀ number, next.due number ≤ session.due number) : Answering next where
  once := fun number => (due number).trans (answering.once number)
  unanswered := by
    intro task record found outstanding unmarked
    rw [tasks] at found
    exact Nat.le_zero.mp ((due task).trans_eq
      (answering.unanswered task record found outstanding unmarked))
  parked := by
    intro task record found
    rw [tasks] at found
    exact answering.parked task record found

variable {number : Nat}

/-- One response is added for a request that had none and has no running task. -/
theorem Answering.answer (answering : Answering session) (none : session.due number = 0)
    (due : ∀ other, next.due other = session.due other + if other = number then 1 else 0)
    (unanswered : ∀ task record, next.tasks.lookup task = some record →
      record.phase.outstanding = true → record.aborted = false →
      task ≠ number ∧ session.due task = 0)
    (parked : ∀ task record, next.tasks.lookup task = some record →
      record.phase.outstanding = true → record.aborted = true → record.polling = false) :
    Answering next where
  once := by
    intro other
    rw [due]
    by_cases same : other = number
    · rw [same, none, if_pos rfl]
    · rw [if_neg same]
      exact answering.once other
  unanswered := by
    intro task record found outstanding unmarked
    rcases unanswered task record found outstanding unmarked with ⟨different, zero⟩
    rw [due, if_neg different, zero]
  parked := parked

/-- The loop goes on to send one response. -/
theorem due_send {frame : ServerControlFrame Body Other} (silent : session.point.frames = [])
    (queued : next.queued = session.queued) (sends : next.point.frames = [.response number frame])
    (other : Nat) :
    next.due other = session.due other + if other = number then 1 else 0 := by
  rw [Session.due, Session.due, Session.outgoing, Session.outgoing, silent, queued, sends,
    List.countP_append, countP_response, List.append_nil]

variable {requestId : UInt64}

theorem Answering.turnAway (answering : Answering session) (wired : Wired session)
    (numbered : Numbered session) {command : Bool} (frame : ServerControlFrame Body Other)
    (here : session.point = .dispatching ⟨number, .request requestId command⟩) :
    Answering (session.send [.response number frame]) := by
  have member := mem_pending_dispatching here
  apply answering.answer (numbered.due_eq_zero member)
  · exact due_send (by rw [here]; rfl) rfl rfl
  · intro task record found outstanding unmarked
    refine ⟨?_, answering.unanswered task record found outstanding unmarked⟩
    rintro rfl
    change session.tasks.lookup task = some record at found
    rw [wired.untasked member] at found
    cases found
  · exact answering.parked

theorem Answering.accept (answering : Answering session) {command : Bool}
    (here : session.point = .dispatching ⟨number, .request requestId command⟩)
    (numbered : Numbered session) :
    Answering { session.setTask number ⟨requestId, command, .operating, false, false⟩ with
      point := .registering requestId number } := by
  have due : ∀ other, Session.due
      { session.setTask number ⟨requestId, command, .operating, false, false⟩ with
        point := .registering requestId number } other = session.due other := by
    intro other
    rw [Session.due, Session.due, Session.outgoing, Session.outgoing, here]
    rfl
  constructor
  · intro other
    rw [due]
    exact answering.once other
  · apply forall_insert
    · intro _ _
      rw [due]
      exact numbered.due_eq_zero (mem_pending_dispatching here)
    · intro task record _ found outstanding unmarked
      rw [due]
      exact answering.unanswered task record found outstanding unmarked
  · apply forall_insert
    · exact fun _ _ => rfl
    · exact fun task record _ found => answering.parked task record found

theorem Answering.abort (answering : Answering session) (wired : Wired session) {task : Nat}
    {record : RequestTask Body Other} (frame : ServerControlFrame Body Other)
    (here : session.point = .aborting requestId task)
    (found : session.tasks.lookup task = some record)
    (outstanding : record.phase.outstanding = true) (suspended : record.polling = false) :
    Answering ((session.setTask task { record with aborted := true }).send
      [.response task frame]) := by
  have handle : session.point.handle = some (requestId, task) := by
    rw [here]
    rfl
  rcases (wired.inHand requestId task handle).2 with ⟨held, present, _, unmarked⟩
  rw [found] at present
  cases present
  apply answering.answer (answering.unanswered task record found outstanding unmarked)
  · exact due_send (by rw [here]; rfl) rfl rfl
  · apply forall_insert
    · intro _ marked
      cases marked
    · exact fun other content different known running unmarked =>
        ⟨different, answering.unanswered other content known running unmarked⟩
  · apply forall_insert
    · exact fun _ _ => suspended
    · exact fun other content _ known => answering.parked other content known

/-- A task that responds is being polled, so it was not aborted, and had no response. -/
theorem Answering.task (answering : Answering session) {task : Nat}
    {record moved : RequestTask Body Other} {responses : List (Outgoing Body Other)}
    {notices : List UInt64} (found : session.tasks.lookup task = some record)
    (taskMove : TaskMove session next task record moved responses notices) :
    Answering next := by
  have due : ∀ number, next.due number =
      session.due number + responses.countP (Outgoing.answersTo number) := by
    intro number
    rw [taskMove.result]
    simp only [Session.due, Session.outgoing, Session.queued, List.countP_append]
    omega
  have tasks : next.tasks = session.tasks.insert task moved := by rw [taskMove.result]
  have parked : ∀ other content, next.tasks.lookup other = some content →
      content.phase.outstanding = true → content.aborted = true → content.polling = false := by
    rw [tasks]
    apply forall_insert
    · intro outstanding marked
      rw [taskMove.aborted] at marked
      have before := answering.parked task record found
        (taskMove.outstanding outstanding).1 marked
      cases polling : moved.polling with
      | false => rfl
      | true =>
          rcases taskMove.polling outstanding polling with polled | unmarked
          · rw [before] at polled
            cases polled
          · rw [marked] at unmarked
            cases unmarked
    · exact fun other content _ known => answering.parked other content known
  rcases taskMove.responds with silent | ⟨outstanding, polled, frame, response⟩
  · have same : ∀ number, next.due number = session.due number := by
      intro number
      rw [due, silent]
      rfl
    constructor
    · intro number
      rw [same]
      exact answering.once number
    · rw [tasks]
      apply forall_insert
      · intro outstanding unmarked
        rw [same]
        rw [taskMove.aborted] at unmarked
        exact answering.unanswered task record found (taskMove.outstanding outstanding).1 unmarked
      · intro other content _ known outstanding unmarked
        rw [same]
        exact answering.unanswered other content known outstanding unmarked
    · exact parked
  · have unmarked : record.aborted = false := by
      cases marked : record.aborted with
      | false => rfl
      | true =>
          rw [answering.parked task record found outstanding marked] at polled
          cases polled
    apply answering.answer (answering.unanswered task record found outstanding unmarked)
    · intro number
      rw [due, response, countP_response]
    · rw [tasks]
      apply forall_insert
      · intro stillOutstanding
        rw [response] at taskMove
        exact absurd (taskMove.outstanding stillOutstanding).2 (List.cons_ne_nil _ _)
      · exact fun other content different known running unmarked =>
          ⟨different, answering.unanswered other content known running unmarked⟩
    · exact parked

/-- The loop has nothing to send at its new point, and nothing was queued. -/
theorem due_le_of_silent (queued : next.queued = session.queued) (silent : next.point.frames = [])
    (number : Nat) :
    next.due number ≤ session.due number := by
  rw [Session.due, Session.due, Session.outgoing, Session.outgoing, queued, silent,
    List.append_nil]
  exact (List.sublist_append_left _ _).countP_le

theorem Answering.move {event : Event Body Other} (answering : Answering session)
    (wired : Wired session) (numbered : Numbered session)
    (parks : AbortsParkedTasks session event) (move : Moves session event next) :
    Answering next := by
  cases move with
  | client => exact answering.keep rfl fun _ => le_rfl
  | prune =>
      exact answering.keep (pruneOne_tasks session _).1
        (due_le_of_silent (pruneOne_queued session _) rfl)
  | turnAway here => exact answering.turnAway wired numbered _ here
  | accept here => exact answering.accept here numbered
  | reply =>
      refine answering.keep rfl ?_
      intro number
      rw [Session.due, Session.outgoing, List.countP_append]
      change _ + (List.map Outgoing.reply _).countP _ ≤ _
      rw [countP_replies]
      exact (List.sublist_append_left _ _).countP_le
  | abort here found =>
      rcases parks _ _ _ rfl here found with ⟨outstanding, suspended⟩
      exact answering.abort wired _ here found outstanding suspended
  | queue here =>
      -- the frame goes from the loop to the channel
      refine answering.keep rfl ?_
      intro number
      rw [Session.due, Session.due, Session.outgoing, Session.outgoing, here]
      simp only [Session.queued, LoopPoint.frames, List.append_assoc, List.singleton_append,
        le_refl]
  | complete => exact answering.keep rfl fun _ => le_rfl
  | task found move => exact answering.task found move
  | write queued =>
      refine answering.keep rfl ?_
      intro number
      simp only [Session.due, Session.outgoing, Session.queued, queued, List.append_assoc,
        List.cons_append, List.nil_append, le_refl]
  | deliver sent =>
      refine answering.keep rfl ?_
      intro number
      simp only [Session.due, Session.outgoing, Session.queued, sent, List.append_assoc,
        List.cons_append, List.nil_append, le_refl]
  | _ => exact answering.keep rfl (due_le_of_silent rfl rfl)

theorem answering_of_runs {events : List (Event Body Other)}
    (run : RunsWhere (controlLoop Body Other) AbortsParkedTasks events session) :
    Answering session := by
  have all : Wired session ∧ Numbered session ∧ Answering session := by
    apply run.invariant ⟨wired_start, numbered_start, answering_start⟩
    rintro state event next ⟨wired, numbered, answering⟩ meets stepped
    have move := moves_of_step stepped
    exact ⟨wired.move move, numbered.move wired move, answering.move wired numbered meets move⟩
  exact all.2.2

/-- As long as `abort` only ever reaches suspended tasks that have not queued their response,
every request gets at most one response. -/
theorem requests_answered_once {events : List (Event Body Other)} {session : Session Body Other}
    (run : RunsWhere (controlLoop Body Other) AbortsParkedTasks events session) (number : Nat) :
    session.responses number ≤ 1 :=
  (List.sublist_append_left _ _).countP_le.trans ((answering_of_runs run).once number)

/-- Whether the task in hand is suspended and has not queued its response. -/
def parkedCheck (session : Session Body Other) (event : Event Body Other) : Bool :=
  match event, session.point with
  | .loop .abort, .aborting _ task =>
      (session.tasks.lookup task).all fun record => record.phase.outstanding && !record.polling
  | _, _ => true

theorem abortsParkedTasks_of_check (session : Session Body Other) (event : Event Body Other)
    (checked : parkedCheck session event = true) : AbortsParkedTasks session event := by
  rintro requestId task record rfl here found
  simpa [parkedCheck, here, found] using checked

/-- A request is cancelled while its operation is running. -/
def cancelledInTime : List (Event Unit Unit) :=
  List.flatten [[.client (.request 7 false)], takeUp 0,
    [.loop .register, .task 0 .poll, .task 0 .suspend, .client (.cancelRequest 7)], takeUp 1,
    [.loop .abort, .loop .queue, .loop .queue, .task 0 .drop, .task 0 .finish]]

theorem requests_answered_once_cancelledInTime :
    ∃ session, RunsWhere (controlLoop Unit Unit) AbortsParkedTasks cancelledInTime session ∧
      session.responses 0 = 1 ∧ ∀ number, session.responses number ≤ 1 := by
  obtain ⟨session, run, one⟩ : ∃ session,
      RunsWhere (controlLoop Unit Unit) _ cancelledInTime session ∧ session.responses 0 = 1 :=
    RunsWhere.exists_of_replay abortsParkedTasks_of_check (by decide +kernel)
  exact ⟨session, run, one, requests_answered_once run⟩

/-- A request is cancelled when its task has queued its response and not yet sent its notice. -/
def cancelledTooLate : List (Event Unit Unit) :=
  List.flatten [[.client (.request 7 false)], takeUp 0,
    [.loop .register, .task 0 .poll,
      .task 0 (.operate (.answered ⟨7, some okStatus, none⟩)), .task 0 .respond,
      .client (.cancelRequest 7)],
    takeUp 1, [.loop .abort, .loop .queue, .loop .queue]]

/-- The request gets its own response and a `Cancelled` one, and the connection stays open. -/
theorem cancelled_after_response :
    ∃ session, Runs (controlLoop Unit Unit) cancelledTooLate session ∧
      0 ∈ session.accepted ∧ session.point.frames = [] ∧ session.responses 0 = 2 ∧
      session.queued.map (fun outgoing => outgoing.frame) =
        [responseFrameForRequest ⟨7, some okStatus, none⟩ 7,
          responseError 7 .cancelled "request cancelled" ""] :=
  Runs.exists_of_replay (by decide +kernel)

end ArcRelay.ControlLoop
