/-
Module: ArcRelay.Proofs.RequestTracking
Purpose: When the control loop knows the task of every outstanding request, and the run in which
  it loses one.
Trusted boundary: none
-/
import ArcRelay.Proofs.ControlLoopWiring

namespace ArcRelay.ControlLoop

variable {Body Other : Type}

/-!
A completion notice carries the id of a request and nothing else.  The loop also drops finished
handles when a frame arrives, so a client that has its response can reuse the id before the
notice is processed; the notice then takes the handle of the new task out of the map.

This is the only way to lose a handle: as long as an id is accepted again only when no notice for
it is queued or still to come, every outstanding task stays in the map.
-/

/-- Every accepted request that has not queued its response and was not cancelled has its task's
handle in `request_tasks`. -/
def Tracked (session : Session Body Other) : Prop :=
  ∀ task record, task ∈ session.accepted → session.tasks.lookup task = some record →
    record.phase.outstanding = true → task ∉ session.cancelled →
    session.requestTasks.lookup record.requestId = some task

/-- No notice for the id is queued, and no task that could send one is left. -/
structure Settled (session : Session Body Other) (requestId : UInt64) : Prop where
  processed : requestId ∉ session.notices
  ended : ∀ task record, session.tasks.lookup task = some record →
    record.requestId = requestId → record.canNotify = false

/-- A request is accepted only under a settled id. -/
def ReusesSettledIds (session : Session Body Other) (event : Event Body Other) : Prop :=
  ∀ number requestId command replies, event = .loop (.dispatch replies) →
    session.point = .dispatching ⟨number, .request requestId command⟩ →
    session.requestTasks.lookup requestId = none → session.permitsHeld < maxConcurrentRequests →
    Settled session requestId

theorem awaits_of_outstanding {phase : TaskPhase Body Other}
    (outstanding : phase.outstanding = true) : phase.awaits = true := by
  cases phase with
  | operating => rfl
  | responding => rfl
  | _ => cases outstanding

variable {session next : Session Body Other} {record : RequestTask Body Other}

/-- Of the tasks still to respond, only those that were aborted may never send their notice. -/
theorem canNotify_of_outstanding (outstanding : record.phase.outstanding = true)
    (unmarked : record.aborted = false) : record.canNotify = true := by
  rw [RequestTask.canNotify, awaits_of_outstanding outstanding, unmarked]
  simp

/-! ### Aborted tasks are cancelled -/

/-- A mark was there before, or `abort` has just set it. -/
theorem Moves.aborted {event : Event Body Other} (move : Moves session event next) :
    ∀ task record, next.tasks.lookup task = some record → record.aborted = true →
      (∃ earlier, session.tasks.lookup task = some earlier ∧ earlier.aborted = true) ∨
        ∃ requestId, session.point = .aborting requestId task := by
  have old : ∀ task record, session.tasks.lookup task = some record → record.aborted = true →
      (∃ earlier, session.tasks.lookup task = some earlier ∧ earlier.aborted = true) ∨
        ∃ requestId, session.point = .aborting requestId task :=
    fun task record found marked => .inl ⟨record, found, marked⟩
  cases move with
  | prune =>
      rw [(pruneOne_tasks session _).1]
      exact old
  | accept =>
      apply forall_insert
      · intro marked
        cases marked
      · exact fun task record _ => old task record
  | abort here =>
      apply forall_insert
      · exact fun _ => .inr ⟨_, here⟩
      · exact fun task record _ => old task record
  | task found move =>
      rw [move.result]
      apply forall_insert
      · intro marked
        rw [move.aborted] at marked
        exact .inl ⟨_, found, marked⟩
      · exact fun task record _ => old task record
  | _ => exact old

/-- A task about to be aborted was so before, or has just been cancelled. -/
theorem Moves.aborting {event : Event Body Other} (move : Moves session event next)
    {requestId : UInt64} {task : Nat} (here : next.point = .aborting requestId task) :
    session.point = .aborting requestId task ∨ task ∈ next.cancelled := by
  cases move with
  | cancel =>
      cases here
      exact .inr List.mem_cons_self
  | client => exact .inl here
  | complete => exact .inl here
  | write => exact .inl here
  | deliver => exact .inl here
  | task _ move =>
      rw [move.result] at here
      exact .inl here
  | _ => cases here

/-- The tasks that were aborted, or are about to be, were taken out of the map for it. -/
structure Marked (session : Session Body Other) : Prop where
  aborted : ∀ task record, session.tasks.lookup task = some record → record.aborted = true →
    task ∈ session.cancelled
  aborting : ∀ requestId task, session.point = .aborting requestId task →
    task ∈ session.cancelled

theorem marked_start : Marked (Session.start : Session Body Other) where
  aborted := by
    intro task record found
    cases found
  aborting := by
    intro requestId task here
    cases here

theorem Marked.move {event : Event Body Other} (marked : Marked session)
    (move : Moves session event next) : Marked next := by
  constructor
  · intro task record found mark
    apply move.cancelled_mono
    rcases move.aborted task record found mark with ⟨earlier, present, before⟩ | ⟨_, here⟩
    · exact marked.aborted task earlier present before
    · exact marked.aborting _ task here
  · intro requestId task here
    rcases move.aborting here with before | cancelled
    · exact move.cancelled_mono (marked.aborting requestId task before)
    · exact cancelled

/-! ### At most one task of an id is heard of again -/

/-- At most one task of an id can still send a notice, and then none is queued. -/
def Solitary (session : Session Body Other) : Prop :=
  ∀ task record, session.tasks.lookup task = some record → record.canNotify = true →
    record.requestId ∉ session.notices ∧
    ∀ other content, session.tasks.lookup other = some content →
      content.requestId = record.requestId → content.canNotify = true → other = task

structure Tracking (session : Session Body Other) : Prop where
  solitary : Solitary session
  known : ∀ task ∈ session.accepted, ∃ record, session.tasks.lookup task = some record
  tracked : Tracked session

theorem tracking_start : Tracking (Session.start : Session Body Other) where
  solitary := by
    intro task record found
    cases found
  known := by
    intro task member
    cases member
  tracked := by
    intro task record member
    cases member

/-- A step that touches neither tasks nor notices, and takes no handle of an outstanding task out
of the map. -/
theorem Tracking.keep (tracking : Tracking session) (tasks : next.tasks = session.tasks)
    (notices : ∀ notice ∈ next.notices, notice ∈ session.notices)
    (accepted : next.accepted = session.accepted)
    (cancelled : ∀ task ∈ session.cancelled, task ∈ next.cancelled)
    (handles : ∀ task record, session.tasks.lookup task = some record →
      record.phase.outstanding = true → task ∉ next.cancelled →
      session.requestTasks.lookup record.requestId = some task →
      next.requestTasks.lookup record.requestId = some task) : Tracking next := by
  constructor
  · intro task record found canNotify
    rw [tasks] at found
    rcases tracking.solitary task record found canNotify with ⟨processed, alone⟩
    refine ⟨fun queued => processed (notices _ queued), ?_⟩
    intro other content present
    rw [tasks] at present
    exact alone other content present
  · intro task member
    rw [accepted] at member
    rw [tasks]
    exact tracking.known task member
  · intro task record member found outstanding uncancelled
    rw [accepted] at member
    rw [tasks] at found
    apply handles task record found outstanding uncancelled
    exact tracking.tracked task record member found outstanding
      fun earlier => uncancelled (cancelled task earlier)

/-- A handle that is erased is not that of an outstanding task. -/
theorem lookup_erase_of_tracked {erased : UInt64} {task : Nat}
    (mapped : session.requestTasks.lookup record.requestId = some task)
    (unaffected : session.requestTasks.lookup erased ≠ some task) :
    (session.requestTasks.erase erased).lookup record.requestId = some task := by
  have different : record.requestId ≠ erased := by
    intro same
    rw [same] at mapped
    exact unaffected mapped
  rw [AList.lookup_erase_ne different]
  exact mapped

theorem isFinished_of_outstanding {task : Nat} (found : session.tasks.lookup task = some record)
    (outstanding : record.phase.outstanding = true) : session.isFinished task = false := by
  rw [Session.isFinished, found, Option.all_some]
  exact unfinished_of_awaits (awaits_of_outstanding outstanding)

theorem Tracking.pruneOne (tracking : Tracking session) (checked : UInt64)
    (point : LoopPoint Body Other) :
    Tracking { session.pruneOne checked with point := point } := by
  unfold Session.pruneOne
  split
  next finished =>
    refine tracking.keep rfl (fun _ queued => queued) rfl (fun _ member => member) ?_
    intro task record found outstanding _ mapped
    apply lookup_erase_of_tracked mapped
    intro same
    rw [same, Option.any_some, isFinished_of_outstanding found outstanding] at finished
    cases finished
  · exact tracking.keep rfl (fun _ queued => queued) rfl (fun _ member => member)
      fun _ _ _ _ _ mapped => mapped

variable {requestId : UInt64}

theorem Tracking.accept (tracking : Tracking session) (wired : Wired session) {number : Nat}
    {command : Bool} (here : session.point = .dispatching ⟨number, .request requestId command⟩)
    (settled : Settled session requestId) :
    Tracking { session.setTask number ⟨requestId, command, .operating, false, false⟩ with
      point := .registering requestId number } := by
  have fresh : session.tasks.lookup number = none :=
    wired.untasked (mem_pending_dispatching here)
  have old : ∀ task record, session.tasks.lookup task = some record → task ≠ number := by
    rintro task record found rfl
    rw [fresh] at found
    cases found
  constructor
  · apply forall_insert
    · intro _
      refine ⟨settled.processed, ?_⟩
      apply forall_insert
      · exact fun _ _ => rfl
      · intro other content _ present sameId canNotify
        rw [settled.ended other content present sameId] at canNotify
        cases canNotify
    · intro task record different found canNotify
      rcases tracking.solitary task record found canNotify with ⟨processed, alone⟩
      refine ⟨processed, ?_⟩
      apply forall_insert
      · intro sameId _
        rw [settled.ended task record found sameId.symm] at canNotify
        cases canNotify
      · exact fun other content _ present => alone other content present
  · intro task member
    rcases tracking.known task member with ⟨record, found⟩
    exact ⟨record, (AList.lookup_insert_ne (old task record found)).trans found⟩
  · intro task record member found outstanding uncancelled
    rcases tracking.known task member with ⟨earlier, present⟩
    change (session.tasks.insert number _).lookup task = some record at found
    rw [AList.lookup_insert_ne (old task earlier present)] at found
    exact tracking.tracked task record member found outstanding uncancelled

theorem Tracking.register (tracking : Tracking session) (wired : Wired session) {task : Nat}
    (here : session.point = .registering requestId task) :
    Tracking { session with
      point := .select
      requestTasks := session.requestTasks.insert requestId task
      accepted := task :: session.accepted } := by
  have handle : session.point.handle = some (requestId, task) := by
    rw [here]
    rfl
  rcases wired.inHand requestId task handle with ⟨unmapped, held, present, ofId, _⟩
  refine ⟨tracking.solitary, ?_, ?_⟩
  · intro other member
    rcases List.mem_cons.mp member with rfl | earlier
    · exact ⟨held, present⟩
    · exact tracking.known other earlier
  · intro other record member found outstanding uncancelled
    change session.tasks.lookup other = some record at found
    rcases List.mem_cons.mp member with rfl | earlier
    · rw [present] at found
      cases found
      rw [ofId]
      exact AList.lookup_insert _
    · -- another outstanding task of this id would be in the map, and the id is not
      have mapped := tracking.tracked other record earlier found outstanding uncancelled
      have different : record.requestId ≠ requestId := by
        intro same
        rw [same, unmapped] at mapped
        cases mapped
      exact (AList.lookup_insert_ne different).trans mapped

theorem Tracking.complete (tracking : Tracking session) (marked : Marked session) {rest : List UInt64}
    (queued : session.notices = requestId :: rest) :
    Tracking { session with
      notices := rest
      requestTasks := session.requestTasks.erase requestId } := by
  refine tracking.keep rfl ?_ rfl (fun _ member => member) ?_
  · intro notice member
    rw [queued]
    exact List.mem_cons_of_mem requestId member
  · -- the notice is not that of a task that is still outstanding
    intro task record found outstanding uncancelled mapped
    have unmarked : record.aborted = false :=
      eq_false_of_ne_true fun mark => uncancelled (marked.aborted task record found mark)
    have canNotify := canNotify_of_outstanding outstanding unmarked
    have different : record.requestId ≠ requestId := by
      intro same
      apply (tracking.solitary task record found canNotify).1
      rw [queued, same]
      exact List.mem_cons_self
    exact (AList.lookup_erase_ne different).trans mapped

/-- The record of a task is replaced under its id, and the task may send its notice. -/
theorem Tracking.replace (tracking : Tracking session) {task : Nat}
    {moved : RequestTask Body Other} {notices : List UInt64}
    (found : session.tasks.lookup task = some record)
    (tasks : next.tasks = session.tasks.insert task moved)
    (queued : next.notices = session.notices ++ notices)
    (map : next.requestTasks = session.requestTasks) (accepted : next.accepted = session.accepted)
    (cancelled : next.cancelled = session.cancelled)
    (requestId : moved.requestId = record.requestId)
    (outstanding : moved.phase.outstanding = true → record.phase.outstanding = true)
    (canNotify : moved.canNotify = true → record.canNotify = true ∧ notices = [])
    (notifies : notices = [] ∨ record.canNotify = true ∧ notices = [record.requestId]) :
    Tracking next := by
  -- a notice is that of the moving task, which is alone under its id
  have unnoticed : ∀ other content, session.tasks.lookup other = some content → other ≠ task →
      content.canNotify = true → content.requestId ∉ session.notices ++ notices := by
    intro other content present different able queued
    rcases tracking.solitary other content present able with ⟨processed, alone⟩
    rcases List.mem_append.mp queued with earlier | new
    · exact processed earlier
    · rcases notifies with none | ⟨could, one⟩
      · rw [none] at new
        cases new
      · rw [one, List.mem_singleton] at new
        exact different (alone task record found new.symm could).symm
  constructor
  · rw [Solitary, tasks, queued]
    apply forall_insert
    · intro able
      rcases canNotify able with ⟨could, none⟩
      rcases tracking.solitary task record found could with ⟨processed, alone⟩
      rw [requestId]
      refine ⟨by rw [none, List.append_nil]; exact processed, ?_⟩
      apply forall_insert
      · exact fun _ _ => rfl
      · exact fun other content _ present => alone other content present
    · intro other content different present otherAble
      rcases tracking.solitary other content present otherAble with ⟨_, alone⟩
      refine ⟨unnoticed other content present different otherAble, ?_⟩
      apply forall_insert
      · intro sameId able
        rw [requestId] at sameId
        exact alone task record found sameId (canNotify able).1
      · exact fun another more _ known => alone another more known
  · intro other member
    rw [accepted] at member
    rw [tasks]
    rcases tracking.known other member with ⟨content, present⟩
    by_cases same : other = task
    · subst same
      exact ⟨moved, AList.lookup_insert _⟩
    · exact ⟨content, (AList.lookup_insert_ne same).trans present⟩
  · intro other content member present nowOutstanding uncancelled
    rw [accepted] at member
    rw [tasks] at present
    rw [cancelled] at uncancelled
    rw [map]
    by_cases same : other = task
    · subst same
      rw [AList.lookup_insert] at present
      cases present
      rw [requestId]
      exact tracking.tracked other record member found (outstanding nowOutstanding) uncancelled
    · rw [AList.lookup_insert_ne same] at present
      exact tracking.tracked other content member present nowOutstanding uncancelled

theorem Tracking.task (tracking : Tracking session) {task : Nat} {moved : RequestTask Body Other}
    {responses : List (Outgoing Body Other)} {notices : List UInt64}
    (found : session.tasks.lookup task = some record)
    (move : TaskMove session next task record moved responses notices) : Tracking next := by
  have result := move.result
  exact tracking.replace found (by rw [result]) (by rw [result]) (by rw [result])
    (by rw [result]) (by rw [result]) move.requestId (fun now => (move.outstanding now).1)
    move.canNotify move.notifies

/-- Aborting a task only marks it. -/
theorem Tracking.abort (tracking : Tracking session) {task : Nat}
    {frames : List (Outgoing Body Other)} (found : session.tasks.lookup task = some record) :
    Tracking ((session.setTask task { record with aborted := true }).send frames) := by
  refine tracking.replace found rfl (List.append_nil _).symm rfl rfl rfl rfl id ?_ (.inl rfl)
  intro able
  simp only [RequestTask.canNotify, Bool.not_true, Bool.or_false, Bool.and_eq_true] at able
  exact ⟨by simp [RequestTask.canNotify, able.1, able.2], rfl⟩

theorem Tracking.move {event : Event Body Other} (tracking : Tracking session)
    (wired : Wired session) (marked : Marked session) (settles : ReusesSettledIds session event)
    (move : Moves session event next) :
    Tracking next := by
  cases move with
  | accept here _ unused free =>
      exact tracking.accept wired here (settles _ _ _ _ rfl here unused free)
  | prune => exact tracking.pruneOne _ _
  | forget _ found finished =>
      refine tracking.keep rfl (fun _ queued => queued) rfl (fun _ member => member) ?_
      intro task record present outstanding _ mapped
      apply lookup_erase_of_tracked mapped
      intro same
      rw [found] at same
      cases same
      rw [isFinished_of_outstanding present outstanding] at finished
      cases finished
  | cancel _ found =>
      refine tracking.keep rfl (fun _ queued => queued) rfl
        (fun _ member => List.mem_cons_of_mem _ member) ?_
      intro task record present outstanding uncancelled mapped
      apply lookup_erase_of_tracked mapped
      intro same
      rw [found] at same
      cases same
      exact uncancelled List.mem_cons_self
  | register here => exact tracking.register wired here
  | abort _ found => exact tracking.abort found
  | complete _ queued => exact tracking.complete marked queued
  | task found move => exact tracking.task found move
  | _ =>
      exact tracking.keep rfl (fun _ queued => queued) rfl (fun _ member => member)
        fun _ _ _ _ _ mapped => mapped

theorem tracking_of_runs {events : List (Event Body Other)}
    (run : RunsWhere (controlLoop Body Other) ReusesSettledIds events session) :
    Tracking session := by
  have all : Wired session ∧ Marked session ∧ Tracking session := by
    apply run.invariant ⟨wired_start, marked_start, tracking_start⟩
    rintro state event next ⟨wired, marked, tracking⟩ meets stepped
    have move := moves_of_step stepped
    exact ⟨wired.move move, marked.move move, tracking.move wired marked meets move⟩
  exact all.2.2

/-- A second request under the id of a tracked task closes the connection. -/
theorem dispatch_reused {task number : Nat} {command : Bool} (replies : List Other)
    (nonzero : requestId ≠ 0) (mapped : session.requestTasks.lookup requestId = some task)
    (here : session.point = .dispatching ⟨number, .request requestId command⟩) :
    step session (.loop (.dispatch replies)) =
      some (session.close 6 "request id reused while outstanding") := by
  have member : requestId ∈ session.requestTasks := by
    rw [← AList.lookup_isSome, mapped]
    rfl
  simp only [step, Session.loopStep, here, Session.dispatch, Session.acceptRequest,
    if_neg nonzero, if_pos member]

/-- `abort` marks the task in hand. -/
theorem abort_marks {task : Nat} (here : session.point = .aborting requestId task)
    (found : session.tasks.lookup task = some record) :
    ∃ aborted, step session (.loop .abort) = some aborted ∧
      aborted.tasks.lookup task = some { record with aborted := true } := by
  refine ⟨(session.setTask task { record with aborted := true }).send [.response task
    (responseError requestId .cancelled "request cancelled" "")], ?_,
    AList.lookup_insert _⟩
  simp only [step, Session.loopStep, here, found]

/-- A cancellation under the id of a tracked, unfinished task goes on to abort that task. -/
theorem dispatch_cancel {task number : Nat} (replies : List Other) (nonzero : requestId ≠ 0)
    (mapped : session.requestTasks.lookup requestId = some task)
    (found : session.tasks.lookup task = some record)
    (outstanding : record.phase.outstanding = true)
    (here : session.point = .dispatching ⟨number, .cancelRequest requestId⟩) :
    ∃ cancelling aborted, step session (.loop (.dispatch replies)) = some cancelling ∧
      cancelling.point = .aborting requestId task ∧
      step cancelling (.loop .abort) = some aborted ∧
      aborted.tasks.lookup task = some { record with aborted := true } := by
  have running : ¬ session.isFinished task = true := by
    rw [isFinished_of_outstanding found outstanding]
    exact Bool.false_ne_true
  have cancels : step session (.loop (.dispatch replies)) = some
      { session with
        requestTasks := session.requestTasks.erase requestId
        point := .aborting requestId task
        cancelled := task :: session.cancelled } := by
    have branch : step session (.loop (.dispatch replies)) =
        some (session.cancelRequest requestId) := by
      simp only [step, Session.loopStep, here]
      rfl
    rw [branch, Session.cancelRequest, if_neg nonzero, mapped]
    exact congrArg some (if_neg running)
  have marks : ∃ aborted, step
      { session with
        requestTasks := session.requestTasks.erase requestId
        point := .aborting requestId task
        cancelled := task :: session.cancelled } (.loop .abort) = some aborted ∧
      aborted.tasks.lookup task = some { record with aborted := true } :=
    abort_marks rfl found
  rcases marks with ⟨aborted, aborts, marked⟩
  exact ⟨_, aborted, cancels, rfl, aborts, marked⟩

/-- As long as ids are reused only when they are settled, the task of every outstanding request
is in the map; so a second request under its id closes the connection, and a cancellation aborts
the task. -/
theorem outstanding_requests_tracked {events : List (Event Body Other)}
    {session : Session Body Other}
    (run : RunsWhere (controlLoop Body Other) ReusesSettledIds events session) :
    Tracked session ∧
      ∀ task record, task ∈ session.accepted → session.tasks.lookup task = some record →
        record.phase.outstanding = true → task ∉ session.cancelled →
        (∀ number command replies,
          session.point = .dispatching ⟨number, .request record.requestId command⟩ →
          step session (.loop (.dispatch replies)) =
            some (session.close 6 "request id reused while outstanding")) ∧
        ∀ number replies,
          session.point = .dispatching ⟨number, .cancelRequest record.requestId⟩ →
          ∃ cancelling aborted, step session (.loop (.dispatch replies)) = some cancelling ∧
            cancelling.point = .aborting record.requestId task ∧
            step cancelling (.loop .abort) = some aborted ∧
            aborted.tasks.lookup task = some { record with aborted := true } := by
  have tracked := (tracking_of_runs run).tracked
  refine ⟨tracked, ?_⟩
  intro task record member found outstanding uncancelled
  have mapped := tracked task record member found outstanding uncancelled
  have nonzero := (wired_of_runs run).nonzero task record found
  exact ⟨fun number command replies here => dispatch_reused replies nonzero mapped here,
    fun number replies here =>
      dispatch_cancel replies nonzero mapped found outstanding here⟩

/-- Whether every id a request is dispatched under is settled. -/
def settledCheck (session : Session Body Other) (event : Event Body Other) : Bool :=
  match event, session.point with
  | .loop (.dispatch _), .dispatching ⟨_, .request requestId _⟩ =>
      !session.notices.contains requestId && session.tasks.entries.all fun entry =>
        !(entry.2.requestId == requestId && entry.2.canNotify)
  | _, _ => true

theorem reusesSettledIds_of_check (session : Session Body Other) (event : Event Body Other)
    (checked : settledCheck session event = true) : ReusesSettledIds session event := by
  rintro number requestId command replies rfl here _ _
  simp only [settledCheck, here, Bool.and_eq_true, Bool.not_eq_true', List.all_eq_true] at checked
  constructor
  · simpa using checked.1
  · intro task record found sameId
    have verdict := checked.2 ⟨task, record⟩ (AList.mem_lookup_iff.mp found)
    simpa [sameId] using verdict

/-- The client reuses the id of a task that is gone with its notice, and then that of one that was
cancelled and is not yet dropped. -/
def settledReuse : List (Event Unit Unit) :=
  List.flatten [[.client (.request 7 false)], takeUp 0, [.loop .register], answer 0 7, leave 0,
    [.loop .complete, .client (.request 7 false)], takeUp 0,
    [.loop .register, .client (.cancelRequest 7)], takeUp 1,
    [.loop .abort, .loop .queue, .loop .queue, .client (.request 7 false)], takeUp 0,
    [.loop .register]]

theorem outstanding_requests_tracked_settledReuse :
    ∃ session, RunsWhere (controlLoop Unit Unit) ReusesSettledIds settledReuse session ∧
      session.accepted = [3, 1, 0] ∧
      (session.tasks.lookup 1).any (fun record => record.phase.outstanding && record.aborted) ∧
      session.requestTasks.lookup 7 = some 3 := by
  obtain ⟨session, run, accepted, cancelled, suspended, found⟩ : ∃ session,
      RunsWhere (controlLoop Unit Unit) _ settledReuse session ∧
        session.accepted = [3, 1, 0] ∧ session.cancelled = [1] ∧
        (session.tasks.lookup 1).any (fun record => record.phase.outstanding && record.aborted) ∧
        (session.tasks.lookup 3).any fun record =>
          record.phase.outstanding && record.requestId == 7 :=
    RunsWhere.exists_of_replay reusesSettledIds_of_check (by decide +kernel)
  rcases (Option.any_eq_true _ _).mp found with ⟨record, present, reused⟩
  rcases Bool.and_eq_true_iff.mp reused with ⟨outstanding, sameId⟩
  have mapped := (outstanding_requests_tracked run).1 3 record (by simp [accepted]) present
    outstanding (by simp [cancelled])
  exact ⟨session, run, accepted, suspended, (beq_iff_eq.mp sameId) ▸ mapped⟩

/-- The client reuses id 7 once it has its response.  The first task is finished by then, but its
notice is processed only after the second task is registered. -/
def staleNotice : List (Event Unit Unit) :=
  List.flatten [[.client (.request 7 false)], takeUp 0, [.loop .register], answer 0 7, leave 0,
    [.client (.request 7 false)], takeUp 1, [.loop .register, .loop .complete]]

/-- The notice of the first task takes the handle of the second out of the map. -/
theorem notice_removes_newer_task :
    ∃ session, Runs (controlLoop Unit Unit) staleNotice session ∧ 1 ∈ session.accepted ∧
      1 ∉ session.cancelled ∧ (session.tasks.lookup 1).any (fun record =>
        record.requestId = 7 && record.phase.outstanding) ∧
      session.requestTasks.lookup 7 = none ∧ ¬ Tracked session := by
  have played : ∃ session, (controlLoop Unit Unit).replay (fun _ _ => true) .start staleNotice =
      some session ∧ session.accepted = [1, 0] ∧ session.cancelled = [] ∧
      session.tasks.lookup 1 = some ⟨7, false, .operating, false, false⟩ ∧
      session.requestTasks.lookup 7 = none :=
    ⟨_, rfl, rfl, rfl, rfl, rfl⟩
  rcases played with ⟨session, replayed, accepted, cancelled, found, lost⟩
  have member : 1 ∈ session.accepted := by simp [accepted]
  have uncancelled : 1 ∉ session.cancelled := by simp [cancelled]
  refine ⟨session, RunsWhere.of_replay (fun _ _ _ => trivial) replayed, member, uncancelled, ?_,
    lost, ?_⟩
  · rw [found]
    rfl
  · intro tracked
    have mapped := tracked 1 _ member found rfl uncancelled
    rw [lost] at mapped
    cases mapped

end ArcRelay.ControlLoop
