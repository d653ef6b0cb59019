/-
Module: ArcRelay.Proofs.RecordIsolation
Purpose: What a pass of the reconciling client is made of: one attempt for every record that is
  not covered, whatever becomes of the others, and what the passes make of a failure.
Trusted boundary: as for the client
-/
import ArcRelay.ClipboardReplication.System
import ArcRelay.Library.ProgramWorlds
import ArcRelay.Proofs.ReconcileWalks
import ArcRelay.Proofs.ReplicaTransfer

namespace ArcRelay.ClipboardReplication

open Program

/-!
A pass catches the failure of every record where it arises and goes on.  So the calls of a pass
that comes to its end fall into the calls of the walk and, for each record in turn, the calls of
one attempt; which calls an attempt makes depends on the manifests and on what it is answered,
never on the other records.  Failing attempts are counted, and leaving their calls out leaves the
calls of all others as they are.
-/

/-! ### One record -/

/-- What became of one record: the calls that read its metadata, those of the attempt and how the
attempt ended, if there was one, and the record that entered the manifest of the peer. -/
structure Step where
  read : List ClientExchange
  attempt : List ClientExchange
  outcome : Option (Except String Bool)
  accepted : Option ReplicaRecord

def Step.made (step : Step) : List ClientExchange := step.read ++ step.attempt

def Step.fails (step : Step) : Bool :=
  match step.outcome with
  | some (.error _) => true
  | _ => false

/-- The calls of a step without those of a failing attempt. -/
def Step.kept (step : Step) : List ClientExchange :=
  if step.fails then step.read else step.made

/-- The manifest with the records the steps accepted. -/
def manifestOf (remote : Manifest) (steps : List Step) : Manifest :=
  (steps.filterMap (·.accepted)).foldl
    (fun remote replica => remote.insert replica.record.syncId replica) remote

theorem manifestOf_append (remote : Manifest) (steps more : List Step) :
    manifestOf (manifestOf remote steps) more = manifestOf remote (steps ++ more) := by
  rw [manifestOf, manifestOf, manifestOf, ← List.foldl_append, ← List.filterMap_append]

/-- A covered record is left alone; for any other the attempt is run to its end. -/
inductive Attempts (covered : Bool) (asking : Asking Bool) :
    List ClientExchange → Option (Except String Bool) → Prop where
  | spared (isCovered : covered = true) : Attempts covered asking [] none
  | ran {made : List ClientExchange} {outcome : Except String Bool} (uncovered : covered = false)
      (run : Run asking.run made (.done outcome)) : Attempts covered asking made (some outcome)

/-- What a pass does for a record of the peer's manifest, given the local one. -/
inductive ReceiveStep (platform : Platform) (known : Manifest)
    (header : Proto.ClipboardReplicaRecord) : Step → Prop where
  | refused {made : List ClientExchange} {error : String}
      (read : Run (onHost (readMetadata header)).run made (.done (.error error))) :
      ReceiveStep platform known header ⟨[], made, some (.error error), none⟩
  | accepted {first second : List ClientExchange} {replica : ReplicaRecord}
      {outcome : Option (Except String Bool)}
      (read : Run (onHost (readMetadata header)).run first (.done (.ok replica)))
      (attempts : Attempts ((known.lookup replica.record.syncId).any (covers · replica))
        (applyRemote platform (known.lookup replica.record.syncId) replica) second outcome) :
      ReceiveStep platform known header ⟨first, second, outcome, some replica⟩

/-- What a pass does for a local record, given the peer's manifest. -/
inductive SendStep (platform : Platform) (remote : Manifest) (metadata : ReplicaRecord) :
    Step → Prop where
  | attempted {made : List ClientExchange} {outcome : Option (Except String Bool)}
      (attempts : Attempts ((remote.lookup metadata.record.syncId).any (covers · metadata))
        (sendLocal platform (remote.lookup metadata.record.syncId) metadata) made outcome) :
      SendStep platform remote metadata ⟨[], made, outcome, none⟩

/-! ### What is counted -/

/-- Every failing step was counted, and none has been taken for convergence. -/
structure Tallied (result ended : ReconciliationResult) (steps : List Step) : Prop where
  failed : ended.failed = result.failed + steps.countP Step.fails
  converged : ended.converged = result.converged

theorem Tallied.refl (result : ReconciliationResult) : Tallied result result [] := ⟨rfl, rfl⟩

/-- The counts of consecutive steps add up. -/
theorem Tallied.trans {result later ended : ReconciliationResult} {steps more : List Step}
    (first : Tallied result later steps) (second : Tallied later ended more) :
    Tallied result ended (steps ++ more) where
  failed := by
    rw [second.failed, first.failed, List.countP_append, Nat.add_assoc]
  converged := second.converged.trans first.converged

/-- The shape both phases share: skip what is covered, otherwise try and count. -/
def attempting (covered : Bool) (asking : Asking Bool)
    (counted : ReconciliationResult → ReconciliationResult)
    (failure : String → ReconciliationResult → ReconciliationResult) : Reconciling Unit := do
  if covered then
    return ()
  else
    modify fun result => { result with differences := result.differences + 1 }
    match ← outcomeOf asking with
    | .ok true => modify counted
    | .ok false => return ()
    | .error error => modify (failure error)

/-- An attempt swallows the error it meets, and counts it. -/
theorem attempting_run {covered : Bool} {asking : Asking Bool}
    {counted : ReconciliationResult → ReconciliationResult}
    {failure : String → ReconciliationResult → ReconciliationResult}
    {result ended : ReconciliationResult} {made : List ClientExchange}
    {ending : Except String Unit}
    (run : Run ((attempting covered asking counted failure).run.run result) made
      (.done (ending, ended)))
    (counts : ∀ result, (counted result).failed = result.failed ∧
      (counted result).converged = result.converged)
    (fails : ∀ error result, (failure error result).failed = result.failed + 1 ∧
      (failure error result).converged = result.converged)
    (read : List ClientExchange) (accepted : Option ReplicaRecord) :
    ending = .ok () ∧ ∃ outcome, Attempts covered asking made outcome ∧
      Tallied result ended [⟨read, made, outcome, accepted⟩] := by
  cases covered with
  | true =>
      obtain ⟨rfl, rfl, rfl⟩ := run_pure_inv run
      exact ⟨rfl, none, .spared rfl, rfl, rfl⟩
  | false =>
      -- Counting the difference is no call.
      change Run ((outcomeOf asking >>= _).run.run _) made _ at run
      obtain ⟨outcome, first, second, rfl, ran, tail⟩ := run_outcomeOf_bind_inv run
      cases outcome with
      | error error =>
          obtain ⟨rfl, rfl, rfl⟩ := run_modify_inv tail
          rw [List.append_nil]
          exact ⟨rfl, some (.error error), .ran rfl ran, (fails error _).1, (fails error _).2⟩
      | ok changed =>
          cases changed with
          | true =>
              obtain ⟨rfl, rfl, rfl⟩ := run_modify_inv tail
              rw [List.append_nil]
              exact ⟨rfl, some (.ok true), .ran rfl ran, (counts _).1, (counts _).2⟩
          | false =>
              obtain ⟨rfl, rfl, rfl⟩ := run_pure_inv tail
              rw [List.append_nil]
              exact ⟨rfl, some (.ok false), .ran rfl ran, rfl, rfl⟩

section Pass

variable {platform : Platform}
variable {result ended : ReconciliationResult} {ending : Except String Unit}

theorem receiveUncovered_run {known : Option ReplicaRecord} {replica : ReplicaRecord}
    {made : List ClientExchange}
    (run : Run ((receiveUncovered platform known replica).run.run result) made
      (.done (ending, ended))) (read : List ClientExchange) (accepted : Option ReplicaRecord) :
    ending = .ok () ∧ ∃ outcome,
      Attempts (known.any (covers · replica)) (applyRemote platform known replica) made outcome ∧
        Tallied result ended [⟨read, made, outcome, accepted⟩] := by
  have shape : receiveUncovered platform known replica =
      attempting (known.any (covers · replica)) (applyRemote platform known replica)
        (fun result => { result with received := result.received + 1 })
        (fun error result => result.failure platform replica.record.syncId error) := rfl
  rw [shape] at run
  exact attempting_run run (fun _ => ⟨rfl, rfl⟩) (fun _ _ => ⟨rfl, rfl⟩) read accepted

theorem sendUncovered_run {known : Option ReplicaRecord} {metadata : ReplicaRecord}
    {made : List ClientExchange}
    (run : Run ((sendUncovered platform known metadata).run.run result) made
      (.done (ending, ended))) (read : List ClientExchange) (accepted : Option ReplicaRecord) :
    ending = .ok () ∧ ∃ outcome,
      Attempts (known.any (covers · metadata)) (sendLocal platform known metadata) made outcome ∧
        Tallied result ended [⟨read, made, outcome, accepted⟩] := by
  have shape : sendUncovered platform known metadata =
      attempting (known.any (covers · metadata)) (sendLocal platform known metadata)
        (fun result => { result with sent := result.sent + 1 })
        (fun error result => result.failure platform metadata.record.syncId error) := rfl
  rw [shape] at run
  exact attempting_run run (fun _ => ⟨rfl, rfl⟩) (fun _ _ => ⟨rfl, rfl⟩) read accepted

/-! ### A page of the peer's manifest -/

/-- What a pass does with the records of one page: all of them in turn, unless the manifest
outgrows its limit. -/
inductive ReceivesPage (platform : Platform) (known remote : Manifest)
    (records : List Proto.ClipboardReplicaRecord) (steps : List Step) :
    Except String Manifest → Prop where
  | all (each : List.Forall₂ (ReceiveStep platform known) records steps) :
      ReceivesPage platform known remote records steps (.ok (manifestOf remote steps))
  | overflow {front : List Proto.ClipboardReplicaRecord}
      (each : List.Forall₂ (ReceiveStep platform known) front steps) (beginning : front <+: records)
      (many : maxManifestRecords < (manifestOf remote steps).size) :
      ReceivesPage platform known remote records steps
        (.error "clipboard manifest exceeds safety limit")

variable {known remote : Manifest} {outcome : Except String Manifest}

/-- However a record went, the page goes on, from the manifest the record leaves. -/
theorem ReceivesPage.cons {header : Proto.ClipboardReplicaRecord}
    {records : List Proto.ClipboardReplicaRecord} {step : Step} {steps : List Step}
    (first : ReceiveStep platform known header step)
    (rest : ReceivesPage platform known (manifestOf remote [step]) records steps outcome) :
    ReceivesPage platform known remote (header :: records) (step :: steps) outcome := by
  have grown : manifestOf (manifestOf remote [step]) steps = manifestOf remote (step :: steps) :=
    manifestOf_append remote [step] steps
  cases rest with
  | all each =>
      rw [grown]
      exact .all (.cons first each)
  | overflow each beginning many =>
      rw [grown] at many
      exact .overflow (.cons first each) ((List.prefix_cons_inj header).mpr beginning) many

/-- A failing record ends neither the page nor the pass. -/
theorem receiveRecords_run {records : List Proto.ClipboardReplicaRecord}
    {made : List ClientExchange}
    (run : Run ((receiveRecords platform known remote records).run.run result) made
      (.done (outcome, ended))) :
    ∃ steps, made = steps.flatMap Step.made ∧ Tallied result ended steps ∧
      ReceivesPage platform known remote records steps outcome := by
  induction records generalizing remote result made with
  | nil =>
      obtain ⟨rfl, rfl, rfl⟩ := run_pure_inv run
      exact ⟨[], rfl, .refl ended, .all .nil⟩
  | cons header _ ih =>
      rw [receiveRecords] at run
      obtain ⟨reached, first, second, rfl, read, run⟩ := run_outcomeOf_bind_inv run
      cases reached with
      | error error =>
          obtain ⟨steps, rfl, tallied, receives⟩ := ih run
          refine ⟨⟨[], first, some (.error error), none⟩ :: steps, rfl, ?_,
            .cons (.refused read) receives⟩
          have counted : Tallied result (result.failure platform
              ((header.metadata.map (·.syncId)).getD "") error)
              [⟨[], first, some (.error error), none⟩] := ⟨rfl, rfl⟩
          exact counted.trans tallied
      | ok replica =>
          rcases run_bind_inv run with
            ⟨error, rfl, failed⟩ | ⟨_, later, attempt, rest, rfl, attempted, run⟩
          · cases (receiveUncovered_run failed first (some replica)).1
          · obtain ⟨-, ending, attempts, counted⟩ :=
              receiveUncovered_run attempted first (some replica)
            have step := ReceiveStep.accepted read attempts
            dsimp only at run
            split at run
            next many =>
              obtain ⟨rfl, rfl, rfl⟩ := run_throw_inv run
              refine ⟨[⟨first, attempt, ending, some replica⟩], by simp [Step.made], counted, ?_⟩
              apply ReceivesPage.overflow (.cons step .nil) _ many
              exact (List.prefix_cons_inj header).mpr List.nil_prefix
            next within =>
              obtain ⟨steps, rfl, tallied, receives⟩ := ih run
              refine ⟨⟨first, attempt, ending, some replica⟩ :: steps, ?_, counted.trans tallied,
                .cons step receives⟩
              simp [Step.made]

/-! ### The walk through the peer's manifest -/

/-- A page the client received and what it did with its records. -/
structure ScannedPage where
  cursor : Option ReplicaCursor
  page : RecordPage
  frames : List Bytes
  steps : List Step

def ScannedPage.asked (scanned : ScannedPage) : ClientExchange :=
  ⟨.request (.scan scanned.cursor 100) [], .ok (.page scanned.page, scanned.frames)⟩

def ScannedPage.made (scanned : ScannedPage) : List ClientExchange :=
  scanned.asked :: scanned.steps.flatMap Step.made

def ScannedPage.kept (scanned : ScannedPage) : List ClientExchange :=
  scanned.asked :: scanned.steps.flatMap Step.kept

/-- How the walk goes from a cursor on.  It ends with the page that has no successor, or because
the peer did not answer with a page, a cursor did not fall, or the manifest outgrew its limit. -/
inductive Walks (platform : Platform) (known : Manifest) :
    Option ReplicaCursor → Manifest → List ClientExchange → List ScannedPage →
      Except String Manifest → Prop where
  | unanswered {cursor : Option ReplicaCursor} {remote : Manifest} {error : String} :
      Walks platform known cursor remote [⟨.request (.scan cursor 100) [], .error error⟩] []
        (.error error)
  | misanswered {cursor : Option ReplicaCursor} {remote : Manifest} {response : Response}
      {frames : List Bytes} (other : ∀ page, response ≠ .page page) :
      Walks platform known cursor remote
        [⟨.request (.scan cursor 100) [], .ok (response, frames)⟩] []
        (.error "invalid clipboard manifest response")
  | overflowed {scanned : ScannedPage} {remote : Manifest} {error : String}
      (receives : ReceivesPage platform known remote scanned.page.records scanned.steps
        (.error error)) :
      Walks platform known scanned.cursor remote scanned.made [scanned] (.error error)
  | stuck {scanned : ScannedPage} {remote larger : Manifest} {next : ReplicaCursor}
      (receives : ReceivesPage platform known remote scanned.page.records scanned.steps
        (.ok larger))
      (following : scanned.page.nextCursor = some next)
      (raised : scanned.cursor.any (fun old => old.key ≤ next.key) = true) :
      Walks platform known scanned.cursor remote scanned.made [scanned]
        (.error "invalid clipboard manifest cursor")
  | last {scanned : ScannedPage} {remote larger : Manifest}
      (receives : ReceivesPage platform known remote scanned.page.records scanned.steps
        (.ok larger))
      (final : scanned.page.nextCursor = none) :
      Walks platform known scanned.cursor remote scanned.made [scanned] (.ok larger)
  | next {scanned : ScannedPage} {remote larger : Manifest} {next : ReplicaCursor}
      {made : List ClientExchange} {pages : List ScannedPage} {outcome : Except String Manifest}
      (receives : ReceivesPage platform known remote scanned.page.records scanned.steps
        (.ok larger))
      (following : scanned.page.nextCursor = some next)
      (later : Walks platform known (some next) larger made pages outcome) :
      Walks platform known scanned.cursor remote (scanned.made ++ made) (scanned :: pages) outcome

variable {rounds : Nat}

/-- The run of a scan as pages of steps, in order, with their tally. -/
theorem scanRecords_run {cursor : Option ReplicaCursor} {made : List ClientExchange}
    (run : Run ((scanRecords platform known rounds cursor remote).run.run result) made
      (.done (outcome, ended))) :
    ∃ pages, Walks platform known cursor remote made pages outcome ∧
      Tallied result ended (pages.flatMap (·.steps)) := by
  induction rounds generalizing cursor remote result made with
  | zero =>
      obtain ⟨-, forever⟩ := run_awaiting_inv run
      cases forever with
      | @call _ _ answer => exact answer.elim
  | succ _ ih =>
      rw [scanRecords] at run
      rcases run_awaiting_bind_inv run with
        ⟨error, rfl, rfl, asked⟩ | ⟨⟨response, frames⟩, first, second, rfl, asked, continued⟩
      · obtain rfl := Run.of_ask asked
        exact ⟨[], .unanswered, .refl ended⟩
      clear run
      obtain rfl := Run.of_ask asked
      cases response with
      | page page =>
          rcases run_bind_inv continued with
            ⟨error, rfl, failed⟩ | ⟨larger, later, part, rest, rfl, received, finished⟩
          · obtain ⟨steps, rfl, tallied, receives⟩ := receiveRecords_run failed
            let scanned : ScannedPage := ⟨cursor, page, frames, steps⟩
            have walks : Walks platform known scanned.cursor remote scanned.made [scanned]
                (.error error) := .overflowed receives
            exact ⟨[scanned], walks, by simpa [scanned] using tallied⟩
          · clear continued
            obtain ⟨steps, rfl, tallied, receives⟩ := receiveRecords_run received
            let scanned : ScannedPage := ⟨cursor, page, frames, steps⟩
            have counted : Tallied result later ([scanned].flatMap (·.steps)) := by
              simpa [scanned] using tallied
            cases following : page.nextCursor with
            | none =>
                rw [following] at finished
                obtain ⟨rfl, rfl, rfl⟩ := run_pure_inv finished
                rw [List.append_nil]
                have walks : Walks platform known scanned.cursor remote scanned.made [scanned]
                    (.ok larger) := .last receives following
                exact ⟨[scanned], walks, counted⟩
            | some next =>
                rw [following] at finished
                dsimp only at finished
                split at finished
                next raised =>
                  obtain ⟨rfl, rfl, rfl⟩ := run_throw_inv finished
                  rw [List.append_nil]
                  have walks : Walks platform known scanned.cursor remote scanned.made [scanned]
                      (.error "invalid clipboard manifest cursor") :=
                    .stuck receives following raised
                  exact ⟨[scanned], walks, counted⟩
                next below =>
                  obtain ⟨pages, later, more⟩ := ih finished
                  have walks : Walks platform known scanned.cursor remote (scanned.made ++ rest)
                      (scanned :: pages) outcome := .next receives following later
                  exact ⟨scanned :: pages, walks, tallied.trans more⟩
      | _ =>
          obtain ⟨rfl, rfl, rfl⟩ := run_throw_inv continued
          exact ⟨[], .misanswered nofun, .refl _⟩

/-- A walk that came to its end served every record of every page, and found what they hold. -/
theorem Walks.served {larger : Manifest} {cursor : Option ReplicaCursor}
    {made : List ClientExchange} {pages : List ScannedPage}
    (walks : Walks platform known cursor remote made pages outcome)
    (finished : outcome = .ok larger) :
    made = pages.flatMap ScannedPage.made ∧
      larger = manifestOf remote (pages.flatMap (·.steps)) ∧
      ∀ scanned ∈ pages,
        List.Forall₂ (ReceiveStep platform known) scanned.page.records scanned.steps := by
  induction walks with
  | unanswered => cases finished
  | misanswered => cases finished
  | overflowed => cases finished
  | stuck => cases finished
  | last receives =>
      cases finished
      cases receives with
      | all each => simpa using each
  | next receives _ _ ih =>
      obtain ⟨rfl, rfl, rest⟩ := ih finished
      cases receives with
      | all each =>
          refine ⟨rfl, ?_, List.forall_mem_cons.mpr ⟨each, rest⟩⟩
          rw [manifestOf_append]
          rfl

/-! ### Sending -/

/-- Every record is sent or tried, one step each, whatever the others did. -/
theorem sendRecords_run {records : List ReplicaRecord} {made : List ClientExchange}
    (run : Run ((sendRecords platform remote records).run.run result) made
      (.done (ending, ended))) :
    ending = .ok () ∧ ∃ steps, made = steps.flatMap Step.made ∧ Tallied result ended steps ∧
      List.Forall₂ (SendStep platform remote) records steps := by
  induction records generalizing result made with
  | nil =>
      obtain ⟨rfl, rfl, rfl⟩ := run_pure_inv run
      exact ⟨rfl, [], rfl, .refl ended, .nil⟩
  | cons _ _ ih =>
      rw [sendRecords] at run
      rcases run_bind_inv run with
        ⟨error, rfl, failed⟩ | ⟨_, later, attempt, rest, rfl, attempted, continued⟩
      · cases (sendUncovered_run failed [] none).1
      · obtain ⟨-, outcome, attempts, counted⟩ := sendUncovered_run attempted [] none
        obtain ⟨rfl, steps, rfl, tallied, each⟩ := ih continued
        exact ⟨rfl, ⟨[], attempt, outcome, none⟩ :: steps, rfl, counted.trans tallied,
          .cons (.attempted attempts) each⟩

/-! ### Collections and labels -/

/-- Code that counts no failure and does not speak of convergence. -/
def Untouched {Value : Type} (code : Reconciling Value) : Prop :=
  ∀ result made outcome ended, Run (code.run.run result) made (.done (outcome, ended)) →
    Tallied result ended []

theorem untouched_pure {Value : Type} (value : Value) :
    Untouched (pure value : Reconciling Value) := by
  intro result made outcome ended run
  obtain ⟨-, -, rfl⟩ := run_pure_inv run
  exact .refl ended

theorem untouched_throw {Value : Type} (error : String) :
    Untouched (throw error : Reconciling Value) := by
  intro result made outcome ended run
  obtain ⟨-, -, rfl⟩ := run_throw_inv run
  exact .refl ended

theorem untouched_awaiting {Value : Type} (asking : Asking Value) :
    Untouched (awaiting asking) := by
  intro result made outcome ended run
  obtain ⟨rfl, -⟩ := run_awaiting_inv run
  exact .refl ended

theorem untouched_modify {change : ReconciliationResult → ReconciliationResult}
    (keeps : ∀ result, Tallied result (change result) []) :
    Untouched (modify change : Reconciling PUnit) := by
  intro result made outcome ended run
  obtain ⟨-, -, rfl⟩ := run_modify_inv run
  exact keeps result

/-- Code made of such parts is such code. -/
theorem untouched_bind {First Second : Type} {code : Reconciling First}
    {rest : First → Reconciling Second} (first : Untouched code)
    (second : ∀ value, Untouched (rest value)) : Untouched (code >>= rest) := by
  intro result made outcome ended run
  rcases run_bind_inv run with ⟨error, rfl, failed⟩ | ⟨value, later, _, _, rfl, head, tail⟩
  · exact first _ _ _ _ failed
  · exact (first _ _ _ _ head).trans (second value _ _ _ _ tail)

theorem untouched_receiveCollections (cursor : String) (edits favorites : Bool)
    (remote : HashMap String Collection) (records : List CollectionRecord) :
    Untouched (receiveCollections platform cursor edits favorites remote records) := by
  induction records generalizing remote with
  | nil => exact untouched_pure _
  | cons _ _ ih =>
      rw [receiveCollections]
      refine untouched_bind (untouched_awaiting _) fun value => ?_
      split
      · exact untouched_throw _
      · refine untouched_bind (untouched_awaiting _) fun changed => ?_
        refine untouched_bind (untouched_modify fun _ => ⟨rfl, rfl⟩) fun _ => ?_
        exact ih _

theorem untouched_scanCollections (rounds : Nat) (cursor : String)
    (remote : HashMap String Collection) :
    Untouched (scanCollections platform rounds cursor remote) := by
  induction rounds generalizing cursor remote with
  | zero => exact untouched_awaiting _
  | succ _ ih =>
      rw [scanCollections]
      refine untouched_bind (untouched_awaiting _) fun answer => ?_
      cases answer.1 with
      | collections =>
          refine untouched_bind (untouched_receiveCollections _ _ _ _ _) fun larger => ?_
          split
          · exact untouched_throw _
          split
          · exact untouched_pure _
          split
          · exact untouched_throw _
          · exact ih _ _
      | _ => exact untouched_throw _

theorem untouched_sendCollection (preferences : SyncPreferences) (remote : RemoteCollections)
    (value : Collection) : Untouched (sendCollection platform preferences remote value) := by
  unfold sendCollection
  dsimp only
  split
  · exact untouched_pure _
  split
  · exact untouched_pure _
  refine untouched_bind (untouched_awaiting _) fun outgoing => ?_
  refine untouched_bind (untouched_awaiting _) fun wire => ?_
  refine untouched_bind (untouched_awaiting _) fun answer => ?_
  cases answer.1 with
  | changed => exact untouched_modify fun _ => ⟨rfl, rfl⟩
  | _ => exact untouched_throw _

theorem untouched_sendCollections (preferences : SyncPreferences) (remote : RemoteCollections)
    (values : List Collection) :
    Untouched (sendCollections platform preferences remote values) := by
  induction values with
  | nil => exact untouched_pure _
  | cons value _ ih =>
      exact untouched_bind (untouched_sendCollection preferences remote value)
        fun _ => ih

theorem untouched_sendCollectionPages (preferences : SyncPreferences)
    (remote : RemoteCollections) (rounds : Nat) (cursor : String) :
    Untouched (sendCollectionPages platform preferences remote rounds cursor) := by
  induction rounds generalizing cursor with
  | zero => exact untouched_awaiting _
  | succ _ ih =>
      rw [sendCollectionPages]
      refine untouched_bind (untouched_awaiting _) fun page => ?_
      split
      · exact untouched_pure _
      · exact untouched_bind (untouched_sendCollections preferences remote page)
          fun _ => ih _

/-- The collections are reconciled without counting a record. -/
theorem untouched_reconcileCollections (rounds : Nat) :
    Untouched (reconcileCollections platform rounds) := by
  refine untouched_bind (untouched_scanCollections _ _ _) fun remote => ?_
  refine untouched_bind (untouched_modify fun _ => ⟨rfl, rfl⟩) fun _ => ?_
  refine untouched_bind (untouched_awaiting _) fun preferences => ?_
  exact untouched_sendCollectionPages _ _ _ _

theorem untouched_scanLabels (rounds : Nat) (cursor : String) (remote : HashMap String Label) :
    Untouched (scanLabels rounds cursor remote) := by
  induction rounds generalizing cursor remote with
  | zero => exact untouched_awaiting _
  | succ _ ih =>
      rw [scanLabels]
      refine untouched_bind (untouched_awaiting _) fun answer => ?_
      cases answer.1 with
      | labels =>
          refine untouched_bind (untouched_awaiting _) fun labels => ?_
          refine untouched_bind (untouched_awaiting _) fun changed => ?_
          refine untouched_bind (untouched_modify fun _ => ⟨rfl, rfl⟩) fun _ => ?_
          split
          · exact untouched_pure _
          split
          · exact untouched_throw _
          · exact ih _ _
      | _ => exact untouched_throw _

theorem untouched_sendLabels (labels : List (List Label)) : Untouched (sendLabels labels) := by
  induction labels with
  | nil => exact untouched_pure _
  | cons _ _ ih =>
      rw [sendLabels]
      refine untouched_bind (untouched_awaiting _) fun answer => ?_
      cases answer.1 with
      | changed =>
          exact untouched_bind (untouched_modify fun _ => ⟨rfl, rfl⟩) fun _ => ih
      | _ => exact untouched_throw _

/-- The labels are reconciled without counting a record. -/
theorem untouched_reconcileLabels (rounds : Nat) : Untouched (reconcileLabels rounds) := by
  refine untouched_bind (untouched_scanLabels _ _ _) fun remote => ?_
  refine untouched_bind (untouched_awaiting _) fun labels => ?_
  exact untouched_sendLabels _

/-! ### A pass -/

/-- The calls of code that returned. -/
def Returns {Value : Type} (code : Reconciling Value) (made : List ClientExchange) : Prop :=
  ∃ result value ended, Run (code.run.run result) made (.done (.ok value, ended))

/-- The calls of code that failed. -/
def Throws {Value : Type} (code : Reconciling Value) (made : List ClientExchange)
    (error : String) : Prop :=
  ∃ result ended, Run (code.run.run result) made (.done (.error error, ended))

/-- A pass that came to its end, in the order of its calls. -/
structure CompletedPass (platform : Platform) (rounds : Nat) where
  collections : List ClientExchange
  labels : List ClientExchange
  listing : List ClientExchange
  pages : List ScannedPage
  relisting : List ClientExchange
  sends : List Step
  known : Manifest
  remote : Manifest
  relisted : Manifest
  exchanged : Returns (reconcileCollections platform rounds) collections
  labelled : Returns (reconcileLabels rounds) labels
  listed : Run (localManifest rounds).run listing (.done (.ok known))
  walked : Walks platform known none ∅ (pages.flatMap ScannedPage.made) pages (.ok remote)
  listedAgain : Run (localManifest rounds).run relisting (.done (.ok relisted))
  sent : List.Forall₂ (SendStep platform remote) (manifestOrder relisted) sends

namespace CompletedPass

variable {rounds : Nat} (pass : CompletedPass platform rounds)

/-- What became of the records, the peer's and the local ones. -/
def steps : List Step := pass.pages.flatMap (·.steps) ++ pass.sends

def made : List ClientExchange :=
  pass.collections ++ (pass.labels ++ (pass.listing ++ (pass.pages.flatMap ScannedPage.made ++
    (pass.relisting ++ pass.sends.flatMap Step.made))))

/-- The calls of the pass with the failing records skipped. -/
def kept : List ClientExchange :=
  pass.collections ++ (pass.labels ++ (pass.listing ++ (pass.pages.flatMap ScannedPage.kept ++
    (pass.relisting ++ pass.sends.flatMap Step.kept))))

end CompletedPass

/-- How a pass ends early: none of the ways is the failure of a record. -/
inductive PassFails (platform : Platform) (rounds : Nat) :
    List ClientExchange → List Step → String → Prop where
  | collections {made : List ClientExchange} {error : String}
      (broken : Throws (reconcileCollections platform rounds) made error) :
      PassFails platform rounds made [] error
  | labels {collections made : List ClientExchange} {error : String}
      (exchanged : Returns (reconcileCollections platform rounds) collections)
      (broken : Throws (reconcileLabels rounds) made error) :
      PassFails platform rounds (collections ++ made) [] error
  | listing {collections labels made : List ClientExchange} {error : String}
      (exchanged : Returns (reconcileCollections platform rounds) collections)
      (labelled : Returns (reconcileLabels rounds) labels)
      (broken : Run (localManifest rounds).run made (.done (.error error))) :
      PassFails platform rounds (collections ++ (labels ++ made)) [] error
  | walk {collections labels listing made : List ClientExchange} {known : Manifest}
      {pages : List ScannedPage} {error : String}
      (exchanged : Returns (reconcileCollections platform rounds) collections)
      (labelled : Returns (reconcileLabels rounds) labels)
      (listed : Run (localManifest rounds).run listing (.done (.ok known)))
      (broken : Walks platform known none ∅ made pages (.error error)) :
      PassFails platform rounds (collections ++ (labels ++ (listing ++ made)))
        (pages.flatMap (·.steps)) error
  | relisting {collections labels listing made : List ClientExchange} {known remote : Manifest}
      {pages : List ScannedPage} {error : String}
      (exchanged : Returns (reconcileCollections platform rounds) collections)
      (labelled : Returns (reconcileLabels rounds) labels)
      (listed : Run (localManifest rounds).run listing (.done (.ok known)))
      (walked : Walks platform known none ∅ (pages.flatMap ScannedPage.made) pages (.ok remote))
      (broken : Run (localManifest rounds).run made (.done (.error error))) :
      PassFails platform rounds
        (collections ++ (labels ++ (listing ++ (pages.flatMap ScannedPage.made ++ made))))
        (pages.flatMap (·.steps)) error

/-- A pass comes to its end or ends early, and has counted the failing records either way. -/
inductive PassReport (platform : Platform) (rounds : Nat) (result ended : ReconciliationResult) :
    List ClientExchange → Except String Unit → Prop where
  | completed (pass : CompletedPass platform rounds) (tallied : Tallied result ended pass.steps) :
      PassReport platform rounds result ended pass.made (.ok ())
  | failed {made : List ClientExchange} {steps : List Step} {error : String}
      (fails : PassFails platform rounds made steps error) (tallied : Tallied result ended steps) :
      PassReport platform rounds result ended made (.error error)

/-- A finished pass read off its run: the walk, the sends and what was counted. -/
theorem reconcileOnce_run {made : List ClientExchange} {outcome : Except String Unit}
    (run : Run ((reconcileOnce platform rounds).run.run result) made (.done (outcome, ended))) :
    PassReport platform rounds result ended made outcome := by
  rcases run_bind_inv run with
    ⟨error, rfl, failed⟩ | ⟨_, first, collections, rest, rfl, exchanged, afterwards⟩
  · exact .failed (.collections ⟨_, _, failed⟩) (untouched_reconcileCollections _ _ _ _ _ failed)
  have quiet := untouched_reconcileCollections _ _ _ _ _ exchanged
  replace exchanged : Returns (reconcileCollections platform rounds) collections :=
    ⟨_, _, _, exchanged⟩
  rcases run_bind_inv afterwards with
    ⟨error, rfl, failed⟩ | ⟨_, second, labels, rest, rfl, labelled, records⟩
  · exact .failed (.labels exchanged ⟨_, _, failed⟩)
      (quiet.trans (untouched_reconcileLabels _ _ _ _ _ failed))
  replace quiet := quiet.trans (untouched_reconcileLabels _ _ _ _ _ labelled)
  replace labelled : Returns (reconcileLabels rounds) labels := ⟨_, _, _, labelled⟩
  rcases run_awaiting_bind_inv records with
    ⟨error, rfl, rfl, failed⟩ | ⟨known, listing, rest, rfl, listed, scan⟩
  · exact .failed (.listing exchanged labelled failed) quiet
  rcases run_bind_inv scan with
    ⟨error, rfl, failed⟩ | ⟨remote, third, walking, rest, rfl, walked, relist⟩
  · obtain ⟨pages, walks, counted⟩ := scanRecords_run failed
    exact .failed (.walk exchanged labelled listed walks) (quiet.trans counted)
  obtain ⟨pages, walks, counted⟩ := scanRecords_run walked
  obtain ⟨rfl, -⟩ := walks.served rfl
  rcases run_awaiting_bind_inv relist with
    ⟨error, rfl, rfl, failed⟩ | ⟨relisted, relisting, rest, rfl, listedAgain, total⟩
  · exact .failed (.relisting exchanged labelled listed walks failed) (quiet.trans counted)
  rcases run_bind_inv total with
    ⟨error, rfl, failed⟩ | ⟨_, fourth, nothing, sending, rfl, totalled, send⟩
  · cases (run_modify_inv failed).2.1
  obtain ⟨rfl, -, rfl⟩ := run_modify_inv totalled
  obtain ⟨rfl, sends, rfl, more, sent⟩ := sendRecords_run send
  let pass : CompletedPass platform rounds :=
    { collections, labels, listing, pages, relisting, sends, known, remote, relisted, exchanged,
      labelled, listed, walked := walks, listedAgain, sent }
  have tallied : Tallied result ended pass.steps :=
    (quiet.trans counted).trans ⟨more.failed, more.converged⟩
  exact PassReport.completed pass tallied

/-- Every step of a page of the peer's manifest is the step of one of its records. -/
theorem CompletedPass.received (pass : CompletedPass platform rounds) {scanned : ScannedPage}
    (visited : scanned ∈ pass.pages) {step : Step} (taken : step ∈ scanned.steps) :
    ∃ header, ReceiveStep platform pass.known header step := by
  obtain ⟨header, -, receives⟩ :=
    exists_of_forall₂_right ((pass.walked.served rfl).2.2 scanned visited) taken
  exact ⟨header, receives⟩

/-! ### What a failing attempt does -/

/-- The calls that change no store. -/
def ClientCall.reads : ClientCall → Bool
  | .host (.applyReplicaLabels _) | .host (.applyReplicaRecord _) => false
  | .host (.receiveCollection _ _ _) | .host (.applyCollection _) => false
  | .request (.store _) _ | .request (.storeLabels _) _ | .request (.storeCollection _) _ => false
  | _ => true

/-- An attempt to take over a record: nothing is applied before the storage check has passed, and
if it fails it has read and at most failed to apply the record. -/
structure Careful (made : List ClientExchange) (outcome : Except String Bool) : Prop where
  checked : ∀ replica answer, ⟨.host (.applyReplicaRecord replica), answer⟩ ∈ made →
    ∃ offered, made.head? = some ⟨.host (.checkReplicaStorage offered), .ok ()⟩
  harmless : ∀ error, outcome = .error error → ∀ exchange ∈ made, exchange.op.reads = true ∨
    ∃ replica, exchange = ⟨.host (.applyReplicaRecord replica), .error error⟩

/-- Whatever is answered. -/
def anyAnswer : ClientContract := ⟨fun _ _ => True, fun _ _ => True⟩

section Attempts

variable {made : List ClientExchange} {replica : ReplicaRecord}

/-- Where nothing was applied. -/
theorem Careful.of_reads (reads : ∀ exchange ∈ made, exchange.op.reads = true)
    (outcome : Except String Bool) : Careful made outcome where
  checked := fun _ _ applied => nomatch reads _ applied
  harmless := fun _ _ exchange member => .inl (reads exchange member)

theorem asking_readRecord {header : Proto.ClipboardReplicaRecord} {frames : List Bytes} :
    (onHost (readRecord platform header frames)).run.Meets anyAnswer
      (fun later _ => Extends (·.reads = true) made later) made := by
  refine ⟨trivial, fun now _ => ⟨trivial, fun later _ => ?_⟩⟩
  have read : Extends (·.reads = true) made
      (made ++ [⟨.host .clock, now⟩] ++ [⟨.host .clock, later⟩]) :=
    (Extends.call now rfl : Extends (·.reads = true) made _).trans (.call later rfl)
  have ends (checked : Except String (ReplicaRecord × List Bytes)) :
      (onHost (valid checked >>= fun received => pure received.1)).run.Meets anyAnswer
        (fun later _ => Extends (·.reads = true) made later)
        (made ++ [⟨.host .clock, now⟩] ++ [⟨.host .clock, later⟩]) := by
    cases checked with
    | error => exact read
    | ok => exact read
  exact ends (receiveRecord platform now later header frames)

theorem asking_remoteRecord {known : Option ReplicaRecord} :
    (remoteRecord platform known replica).run.Meets anyAnswer
      (fun later _ => Extends (·.reads = true) made later) made := by
  rw [remoteRecord]
  split
  · refine meets_exceptT_bind (asking_request trivial fun answer _ => ?_)
    have asked : Extends (·.reads = true) made
        (made ++ [⟨.request (.fetch replica.record.syncId) [], answer⟩]) := .call answer rfl
    rcases answer with failure | ⟨response, frames⟩
    · exact asked
    cases response with
    | record header =>
        dsimp only
        split
        · exact asked
        · exact meets_mono asking_readRecord fun _ _ extension => asked.trans extension
    | _ => exact asked
  · exact (Extends.refl _ made : Extends (·.reads = true) made made)

/-- The storage check comes first, and an error is that of a read or of the apply itself. -/
theorem applyRemote_careful {known : Option ReplicaRecord} {outcome : Except String Bool}
    (run : Run (applyRemote platform known replica).run made (.done outcome)) :
    Careful made outcome := by
  have meets : (applyRemote platform known replica).run.Meets anyAnswer Careful [] := by
    refine meets_exceptT_bind ⟨trivial, fun answer _ => ?_⟩
    cases answer with
    | error => exact Careful.of_reads (by simp [ClientCall.reads]) _
    | ok =>
        refine meets_exceptT_bind (meets_mono asking_remoteRecord fun later outcome extension => ?_)
        obtain ⟨extra, rfl, reads⟩ := extension
        have early : ∀ exchange ∈ [] ++ [⟨.host (.checkReplicaStorage replica), .ok ()⟩] ++ extra,
            exchange.op.reads = true := List.forall_mem_cons.mpr ⟨rfl, reads⟩
        cases outcome with
        | error => exact Careful.of_reads early _
        | ok fetched =>
            refine ⟨trivial, fun answer _ => ⟨fun _ _ _ => ⟨replica, rfl⟩, ?_⟩⟩
            rintro error rfl exchange member
            rcases List.mem_append.mp member with before | last
            · exact .inl (early exchange before)
            · exact .inr ⟨fetched, List.mem_singleton.mp last⟩
  have report : Careful ([] ++ made) outcome := run.meets (fun _ _ => trivial) meets
  rwa [List.nil_append] at report

theorem ReceiveStep.careful {header : Proto.ClipboardReplicaRecord} {step : Step}
    (receives : ReceiveStep platform known header step) :
    ∀ outcome ∈ step.outcome, Careful step.attempt outcome := by
  cases receives with
  | refused read =>
      rintro _ ⟨⟩
      have meets : (onHost (readMetadata header)).run.Meets anyAnswer
          (fun made _ => ∀ exchange ∈ made, exchange.op.reads = true) [] :=
        asking_readMetadata (fun _ _ => trivial) fun _ _ _ _ => by simp [ClientCall.reads]
      have reads := read.meets (fun _ _ => trivial) meets
      rw [List.nil_append] at reads
      exact .of_reads reads _
  | accepted _ attempts =>
      cases attempts with
      | spared => exact nofun
      | ran _ run =>
          rintro _ ⟨⟩
          exact applyRemote_careful run

end Attempts

/-! ### The stores -/

section Stores

variable {Stores : Type} {serves : Stores → ClientExchange → Stores → Prop}

/-- The exchange leaves the stores alone. -/
def Still (serves : Stores → ClientExchange → Stores → Prop) (exchange : ClientExchange) : Prop :=
  ∀ first last, serves first exchange last → last = first

/-- Reading changes no store, and neither does an apply that fails. -/
structure Atomic (serves : Stores → ClientExchange → Stores → Prop) : Prop where
  reads : ∀ exchange, exchange.op.reads = true → Still serves exchange
  applies : ∀ replica error, Still serves ⟨.host (.applyReplicaRecord replica), .error error⟩

/-- Nothing the attempt asked to be stored was stored. -/
def Step.Unserved (serves : Stores → ClientExchange → Stores → Prop) (step : Step) : Prop :=
  ∀ exchange ∈ step.attempt, exchange.op.reads = false → Still serves exchange

/-- If it fails, its attempt left the stores as they were. -/
def Step.Neutral (serves : Stores → ClientExchange → Stores → Prop) (step : Step) : Prop :=
  step.fails = true → ∀ first last, Leads serves first step.attempt last → last = first

/-- A failed reception leaves the stores as they were. -/
theorem ReceiveStep.neutral {header : Proto.ClipboardReplicaRecord} {step : Step}
    (atomic : Atomic serves) (receives : ReceiveStep platform known header step) :
    step.Neutral serves := by
  intro fails first last leads
  rw [Step.fails] at fails
  split at fails
  next error failed =>
    refine leads.eq_of_still fun exchange member => ?_
    rcases (receives.careful _ failed).harmless error rfl exchange member with reads | ⟨replica, rfl⟩
    · exact atomic.reads exchange reads
    · exact atomic.applies replica error
  next => cases fails

/-- So does a failed send of which nothing was stored. -/
theorem Step.Unserved.neutral {step : Step} (atomic : Atomic serves)
    (unserved : step.fails = true → step.Unserved serves) : step.Neutral serves := by
  intro fails first last leads
  refine leads.eq_of_still fun exchange member => ?_
  cases reads : exchange.op.reads with
  | true => exact atomic.reads exchange reads
  | false => exact unserved fails exchange member reads

/-- The attempt of a neutral step that fails can be left out. -/
theorem Step.Neutral.replaces {step : Step} (neutral : step.Neutral serves) :
    Replaces serves step.made step.kept := by
  intro first last leads
  rw [Step.kept]
  split
  next fails =>
    obtain ⟨middle, read, attempted⟩ := leads_append_iff.mp leads
    rw [neutral fails middle last attempted]
    exact read
  next => exact leads

/-- Unless the peer stored something of a send that then failed, the pass leads where it would have
led with the failing records skipped. -/
theorem CompletedPass.replaces {rounds : Nat} (pass : CompletedPass platform rounds)
    (atomic : Atomic serves)
    (unserved : ∀ step ∈ pass.sends, step.fails = true → step.Unserved serves) :
    Replaces serves pass.made pass.kept := by
  have pages : ∀ scanned ∈ pass.pages, Replaces serves scanned.made scanned.kept := by
    intro scanned member
    apply Replaces.append (.refl [scanned.asked])
    apply Replaces.flatMap
    intro step taken
    obtain ⟨_, receives⟩ := pass.received member taken
    exact (receives.neutral atomic).replaces
  have sends : ∀ step ∈ pass.sends, Replaces serves step.made step.kept := by
    intro step taken
    exact (Step.Unserved.neutral atomic (unserved step taken)).replaces
  apply (Replaces.refl pass.collections).append
  apply (Replaces.refl pass.labels).append
  apply (Replaces.refl pass.listing).append
  apply (Replaces.flatMap pages).append
  exact (Replaces.refl pass.relisting).append (.flatMap sends)

end Stores

/-! ### The passes -/

/-- The end of a pass that counted a failure makes no call and calls for no other pass; otherwise
whether the pass converged is what the result tells. -/
inductive Settles (result ended : ReconciliationResult) (made : List ClientExchange) :
    Except String Bool → Prop where
  | failing (failures : 0 < result.failed) (silent : made = []) (same : ended = result) :
      Settles result ended made (.ok false)
  | broken {error : String} (same : ended = result) : Settles result ended made (.error error)
  | fenced (clean : ended.failed = 0) : Settles result ended made (.ok ended.converged)

theorem markConverged_failed (differences localBefore localAfter remoteBefore remoteAfter : Nat)
    (result : ReconciliationResult) :
    (markConverged differences localBefore localAfter remoteBefore remoteAfter result).failed =
      result.failed := by
  rw [markConverged]
  split <;> rfl

variable {made : List ClientExchange}

/-- How a pass ends once its records are through. -/
theorem settlePass_run {differences localBefore remoteBefore : Nat}
    {outcome : Except String Bool}
    (run : Run ((settlePass differences localBefore remoteBefore).run.run result) made
      (.done (outcome, ended))) : Settles result ended made outcome := by
  rw [settlePass, run_get_bind] at run
  split at run
  next failures =>
    obtain ⟨rfl, rfl, rfl⟩ := run_pure_inv run
    exact .failing failures rfl rfl
  next clean =>
    rcases run_awaiting_bind_inv run with
      ⟨error, rfl, rfl, failed⟩ | ⟨localAfter, first, rest, rfl, here, afterwards⟩
    · exact .broken rfl
    rcases run_awaiting_bind_inv afterwards with
      ⟨error, rfl, rfl, failed⟩ | ⟨remoteAfter, second, rest, rfl, there, mark⟩
    · exact .broken rfl
    cases mark with
    | here =>
        apply Settles.fenced
        rw [markConverged_failed]
        exact Nat.eq_zero_of_not_pos clean

/-- A pass that came to its end after counting failing records. -/
inductive FailingPass (platform : Platform) (rounds : Nat) (result later : ReconciliationResult) :
    List ClientExchange → Prop where
  | intro {first second third : List ClientExchange} {localBefore remoteBefore : Nat}
      (here : Run (onHost (attempt (await .revision))).run first (.done (.ok localBefore)))
      (there : Run peerRevision.run second (.done (.ok remoteBefore)))
      (once : Run ((reconcileOnce platform rounds).run.run result) third (.done (.ok (), later)))
      (failures : 0 < later.failed) :
      FailingPass platform rounds result later (first ++ (second ++ third))

theorem settlePass_failing {differences localBefore remoteBefore : Nat}
    (failures : 0 < result.failed) :
    Run ((settlePass differences localBefore remoteBefore).run.run result) []
      (.done (.ok false, result)) := by
  rw [settlePass, run_get_bind, if_pos failures]
  exact .here _

variable {later : ReconciliationResult}

/-- It ends without an error, and unconverged. -/
theorem FailingPass.run
    (failing : FailingPass platform rounds result later made) :
    Run ((reconcilePass platform rounds).run.run result) made (.done (.ok false, later)) := by
  cases failing with
  | @intro _ _ third _ _ here there once failures =>
      apply run_bind (run_awaiting here)
      apply run_bind (run_awaiting there)
      rw [run_get_bind, ← List.append_nil third]
      exact run_bind once (settlePass_failing failures)

theorem FailingPass.failures
    (failing : FailingPass platform rounds result later made) :
    0 < later.failed := by
  cases failing with
  | intro _ _ _ failures => exact failures

/-- Nothing follows a failing pass. -/
theorem FailingPass.ends {passes : Nat} {made more : List ClientExchange}
    {last : ClientProgram ReconciliationResult}
    (failing : FailingPass platform rounds result later made)
    (run : Run (reconcilePasses platform rounds (passes + 1) result) (made ++ more) last) :
    more = [] ∧ last = .done later := by
  have ended : Run (reconcilePasses platform rounds (passes + 1) result) (made ++ [])
      (.done later) := by
    rw [reconcilePasses]
    apply failing.run.bind
    dsimp only
    rw [if_pos failing.failures]
    exact .here _
  rw [List.append_nil] at ended
  exact ended.of_done_append run

/-- No step of a pass claims that the sides agree. -/
theorem PassReport.converged {outcome : Except String Unit}
    (report : PassReport platform rounds result ended made outcome) :
    ended.converged = result.converged := by
  cases report with
  | completed _ tallied => exact tallied.converged
  | failed _ tallied => exact tallied.converged

/-- A pass reports convergence only if nothing failed in it. -/
theorem reconcilePass_run {outcome : Except String Bool}
    (run : Run ((reconcilePass platform rounds).run.run result) made (.done (outcome, ended))) :
    (outcome ≠ .ok true ∧ ended.converged = result.converged) ∨
      outcome = .ok ended.converged ∧ ended.failed = 0 := by
  rcases run_awaiting_bind_inv run with
    ⟨error, rfl, rfl, failed⟩ | ⟨localBefore, first, rest, rfl, here, afterwards⟩
  · exact .inl ⟨nofun, rfl⟩
  rcases run_awaiting_bind_inv afterwards with
    ⟨error, rfl, rfl, failed⟩ | ⟨remoteBefore, second, rest, rfl, there, once⟩
  · exact .inl ⟨nofun, rfl⟩
  rw [run_get_bind] at once
  rcases run_bind_inv once with
    ⟨error, rfl, failed⟩ | ⟨_, later, third, rest, rfl, passed, settling⟩
  · exact .inl ⟨nofun, (reconcileOnce_run failed).converged⟩
  have unchanged := (reconcileOnce_run passed).converged
  cases settlePass_run settling with
  | failing _ _ same =>
      subst same
      exact .inl ⟨nofun, unchanged⟩
  | broken same =>
      subst same
      exact .inl ⟨nofun, unchanged⟩
  | fenced clean => exact .inr ⟨rfl, clean⟩

/-- Failures and convergence are never reported together. -/
theorem reconcilePasses_run {passes : Nat} {final : ReconciliationResult}
    (unconverged : result.converged = false)
    (run : Run (reconcilePasses platform rounds passes result) made (.done final)) :
    final.converged = false ∨ final.failed = 0 := by
  induction passes generalizing result made with
  | zero =>
      cases run with
      | here => exact .inl unconverged
  | succ _ ih =>
      rw [reconcilePasses] at run
      obtain ⟨⟨outcome, later⟩, first, second, rfl, passed, rest⟩ := Run.of_bind run
      have report := reconcilePass_run passed
      rw [unconverged] at report
      cases outcome with
      | error =>
          cases rest with
          | here =>
              rcases report with ⟨-, same⟩ | ⟨impossible, -⟩
              · exact .inl same
              · cases impossible
      | ok converged =>
          cases converged with
          | true =>
              cases rest with
              | here =>
                  rcases report with ⟨impossible, -⟩ | ⟨-, clean⟩
                  · exact absurd rfl impossible
                  · exact .inr clean
          | false =>
              have same : later.converged = false := by
                rcases report with ⟨-, same⟩ | ⟨same, -⟩
                · exact same
                · exact (Except.ok.inj same).symm
              dsimp only at rest
              split at rest
              next =>
                cases rest with
                | here => exact .inl same
              next => exact ih same rest

theorem mem_manifestOrder {records : Manifest} {syncId : String} {replica : ReplicaRecord}
    (held : records.lookup syncId = some replica) : replica ∈ manifestOrder records := by
  rw [manifestOrder, List.mem_mergeSort, List.mem_map]
  exact ⟨⟨syncId, replica⟩, AList.mem_lookup_iff.mp held, rfl⟩

/-- What a completed pass did for the records and for the stores: every record of the peer was
taken up that the local manifest did not cover, checked before it was applied; every local one was
sent that the peer's manifest did not cover; and skipping the failing ones leads to the same stores
unless the peer stored something of a send that then failed. -/
structure Isolates {rounds : Nat} (pass : CompletedPass platform rounds) : Prop where
  served : ∀ scanned ∈ pass.pages,
    List.Forall₂ (ReceiveStep platform pass.known) scanned.page.records scanned.steps
  careful : ∀ scanned ∈ pass.pages, ∀ step ∈ scanned.steps, ∀ outcome ∈ step.outcome,
    Careful step.attempt outcome
  found : pass.remote = manifestOf ∅ (pass.pages.flatMap (·.steps))
  offered : ∀ syncId replica, pass.relisted.lookup syncId = some replica →
    ∃ step ∈ pass.sends, SendStep platform pass.remote replica step
  skipped : ∀ (Stores : Type) (serves : Stores → ClientExchange → Stores → Prop), Atomic serves →
    (∀ step ∈ pass.sends, step.fails = true → step.Unserved serves) →
    Replaces serves pass.made pass.kept

/-- Each part of the guarantee, for one pass. -/
theorem CompletedPass.isolates (pass : CompletedPass platform rounds) : Isolates pass where
  served := (pass.walked.served rfl).2.2
  careful := by
    intro scanned member step taken
    obtain ⟨_, receives⟩ := pass.received member taken
    exact receives.careful
  found := (pass.walked.served rfl).2.1
  offered := by
    intro syncId replica held
    exact exists_of_forall₂_right pass.sent.flip (mem_manifestOrder held)
  skipped := fun _ _ atomic unserved => pass.replaces atomic unserved

end Pass

/-- Every pass that comes to its end serves every record whatever becomes of the others, counts
those that fail, and leads to the stores it would have led to without them, but for what the peer
stored of a send that failed afterwards; only the exchange of collections and labels, the listing
of the local records and the walk through the peer's can end a pass early.  A pass that counted a
failure is the last, and what fails has not converged. -/
theorem record_failures_isolated (platform : Platform) (rounds : Nat) :
    (∀ result made outcome ended,
      Run ((reconcileOnce platform rounds).run.run result) made (.done (outcome, ended)) →
      PassReport platform rounds result ended made outcome) ∧
    (∀ pass : CompletedPass platform rounds, Isolates pass) ∧
    (∀ passes result later made more last, result.converged = false →
      FailingPass platform rounds result later made →
      Run (reconcilePasses platform rounds (passes + 1) result) (made ++ more) last →
      more = [] ∧ last = .done later ∧ later.converged = false) ∧
    ∀ made final, Run (reconcile platform rounds) made (.done final) → 0 < final.failed →
      final.converged = false := by
  refine ⟨fun _ _ _ _ run => reconcileOnce_run run, fun pass => pass.isolates, ?_, ?_⟩
  · intro passes result later made more last unconverged failing run
    obtain ⟨silent, ended⟩ := failing.ends run
    refine ⟨silent, ended, ?_⟩
    cases failing with
    | intro _ _ once => rw [(reconcileOnce_run once).converged, unconverged]
  · intro made final run failures
    rcases reconcilePasses_run rfl run with unconverged | clean
    · exact unconverged
    · exact absurd clean failures.ne'

/-- The note after it was deleted. -/
def deletedNote : ReplicaRecord :=
  { jsonNote with
    record := { jsonNote.record with
      text := none, preview := "", deleted := true, changeKind := .delete, revision := 2
      textSyntax := .plain } }

/-- Only the deleted note is to be sent, and its request fails. -/
def failingSend : Nat → (call : ClientCall) → Option call.Answer
  | _, .host .revision => some (.ok 0)
  | _, .host .syncPreferences => some ⟨true, true, true⟩
  | _, .host (.collections _) => some (.ok [])
  | _, .host .replicaLabels => some (.ok [])
  | _, .host (.applyReplicaLabels _) => some (.ok 0)
  | _, .host (.replicaPage _ _) => some (.ok ⟨[deletedNote], none⟩)
  | _, .request .revision _ => some (.ok (.revision 0, []))
  | _, .request (.scanCollections _) _ => some (.ok (.collections ⟨"", [], true, true⟩, []))
  | _, .request (.scanLabels _) _ => some (.ok (.labels ⟨[], none⟩, []))
  | _, .request (.scan _ _) _ => some (.ok (.page ⟨[], none⟩, []))
  | _, .request (.store _) _ => some (.error "connection lost")
  | _, _ => none

/-- The request fails in the first pass, which is the last. -/
theorem record_failures_isolated_failing_send :
    ∃ made final, Run (reconcile plainPlatform 1) made (.done final) ∧ final.failed = 1 ∧
      final.converged = false := by
  have played : (((reconcile plainPlatform 1).play failingSend 0).2.returned?.map (·.failed)) =
      some 1 := by decide +kernel
  obtain ⟨final, returned, counted⟩ := Option.map_eq_some_iff.mp played
  have run := run_play failingSend 0 (reconcile plainPlatform 1)
  rw [eq_done_of_returned? returned] at run
  have failures : 0 < final.failed := by rw [counted]; exact one_pos
  exact ⟨_, final, run, counted, (record_failures_isolated plainPlatform 1).2.2.2 _ _ run failures⟩

/-! ### A receipt that is lost -/

/-- Only the deleted note is to be sent, and the connection breaks before its receipt. -/
def losingReceipt : Nat → (call : SystemCall) → Option call.Answer
  | _, .host _ .syncPreferences => some ⟨true, true, true⟩
  | _, .host _ (.collections _) => some (.ok [])
  | _, .host _ .replicaLabels => some (.ok [])
  | _, .host _ (.applyReplicaLabels _) => some (.ok 0)
  | _, .host .here (.replicaPage _ _) => some (.ok ⟨[deletedNote], none⟩)
  | _, .host .there (.replicaPage _ _) => some (.ok ⟨[], none⟩)
  | _, .host _ .clock => some 20
  | _, .host .there (.applyReplicaRecord _) => some (.ok true)
  | count, .transmit => some (if count < 24 then .ok () else .error "connection lost")
  | _, _ => none

/-- A record the peer took over. -/
def takenOver : Exchange SystemCall SystemCall.Answer → Option ReplicaRecord
  | ⟨.host .there (.applyReplicaRecord replica), .ok true⟩ => some replica
  | _ => none

/-- The calls of a pass as both devices carry them out. -/
def passWithPeer (rounds : Nat) : SystemProgram (Except String Unit × ReconciliationResult) :=
  ((reconcileOnce plainPlatform rounds).run.run {}).interpret (carryOut plainPlatform)

/-- The only record counts as failing, and the peer has it. -/
theorem lost_receipt_keeps_record :
    ∃ made ended, Run (passWithPeer 1) made (.done (.ok (), ended)) ∧ ended.failed = 1 ∧
      made.filterMap takenOver = [deletedNote] := by
  have played : (((passWithPeer 1).play losingReceipt 0).2.returned?.map fun ended =>
      (ended.1.isOk, ended.2.failed)) = some (true, 1) := by decide +kernel
  obtain ⟨⟨outcome, ended⟩, returned, reported⟩ := Option.map_eq_some_iff.mp played
  have run := run_play losingReceipt 0 (passWithPeer 1)
  rw [eq_done_of_returned? returned] at run
  cases outcome with
  | error => cases congrArg Prod.fst reported
  | ok => exact ⟨_, ended, run, congrArg Prod.snd reported, by decide +kernel⟩

end ArcRelay.ClipboardReplication
