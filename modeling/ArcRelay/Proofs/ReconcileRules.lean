/-
Module: ArcRelay.Proofs.ReconcileRules
Purpose: Rules to reason about the reconciling client step by step: what its code does, keeping
  the result it has come to, until it returns or fails.
Trusted boundary: none
-/
import ArcRelay.ClipboardReplication.Reconcile

namespace ArcRelay.ClipboardReplication

open Program

abbrev ClientExchange := Exchange ClientCall ClientCall.Answer

abbrev ClientContract := Contract ClientCall ClientCall.Answer

/-- The calls of the device's own host are permitted. -/
abbrev ClientContract.Hosts (contract : ClientContract) : Prop :=
  ∀ made call, contract.permitted made (.host call)

/-- What the code, started with a result after the exchanges `made`, exchanges, makes of the
result, and returns or fails with. -/
def Does {Value : Type} (contract : ClientContract)
    (post : List ClientExchange → ReconciliationResult → Except String Value → Prop)
    (made : List ClientExchange) (result : ReconciliationResult) (code : Reconciling Value) :
    Prop :=
  (code.run.run result).Meets contract (fun made ended => post made ended.2 ended.1) made

section Rules

variable {First Second : Type} {contract : ClientContract} {made : List ClientExchange}
  {result : ReconciliationResult}
  {post : List ClientExchange → ReconciliationResult → Except String Second → Prop}

theorem does_pure {value : Second} (now : post made result (.ok value)) :
    Does contract post made result (pure value) := now

theorem does_throw {failure : String} (now : post made result (.error failure)) :
    Does contract post made result (throw failure) := now

/-- What the first part leaves the second to do; an error of the first ends the whole. -/
theorem does_bind {code : Reconciling First} {rest : First → Reconciling Second}
    (first : Does contract (fun made result outcome =>
      match outcome with
      | .ok value => Does contract post made result (rest value)
      | .error failure => post made result (.error failure)) made result code) :
    Does contract post made result (code >>= rest) := by
  refine meets_bind (meets_mono first fun made ended went => ?_)
  obtain ⟨outcome, result⟩ := ended
  cases outcome with
  | ok => exact went
  | error => exact went

/-- The rule of consequence. -/
theorem does_mono {code : Reconciling Second}
    {weaker : List ClientExchange → ReconciliationResult → Except String Second → Prop}
    (does : Does contract post made result code)
    (implied : ∀ made result outcome, post made result outcome → weaker made result outcome) :
    Does contract weaker made result code :=
  meets_mono does fun made ended went => implied made ended.2 ended.1 went

theorem does_modify {change : ReconciliationResult → ReconciliationResult}
    {post : List ClientExchange → ReconciliationResult → Except String PUnit → Prop}
    (now : post made (change result) (.ok ())) :
    Does contract post made result (modify change) := now

/-- A question leaves the tally alone. -/
theorem does_awaiting {asking : Asking Second}
    (asks : asking.run.Meets contract (fun made outcome => post made result outcome) made) :
    Does contract post made result (awaiting asking) :=
  meets_bind (meets_mono asks fun _ _ went => went)

/-- An error that is caught is a value to what follows. -/
theorem does_outcomeOf {asking : Asking First}
    {post : List ClientExchange → ReconciliationResult → Except String (Except String First) → Prop}
    (asks : asking.run.Meets contract (fun made outcome => post made result (.ok outcome)) made) :
    Does contract post made result (outcomeOf asking) :=
  meets_bind (meets_bind (meets_mono asks fun _ _ went => went))

/-- A result at hand. -/
theorem does_valid {checked : Except String Second} (now : post made result checked) :
    Does contract post made result (awaiting (onHost (valid checked))) := now

/-- A call of the device's own host. -/
theorem does_host {call : HostCall} {outcome : call.Answer → Except String Second}
    {serving : Serving Second}
    (calls : serving.run = Program.call call fun answer => .done (outcome answer))
    (permitted : contract.permitted made (.host call))
    (answered : ∀ answer, contract.admits (.host call) answer →
      post (made ++ [⟨.host call, answer⟩]) result (outcome answer)) :
    Does contract post made result (awaiting (onHost serving)) := by
  refine does_awaiting ?_
  rw [onHost, ExceptT.run_mk, calls]
  exact ⟨permitted, answered⟩

/-- The contract must permit the request, and the peer may answer as it admits. -/
theorem does_request {body : Request} {frames : List Bytes}
    {post : List ClientExchange → ReconciliationResult →
      Except String (Response × List Bytes) → Prop}
    (permitted : contract.permitted made (.request body frames))
    (answered : ∀ answer, contract.admits (.request body frames) answer →
      post (made ++ [⟨.request body frames, answer⟩]) result answer) :
    Does contract post made result (awaiting (request body frames)) :=
  ⟨permitted, answered⟩

/-- A loop past its bound is never answered; all there is to show is that it may get there. -/
theorem does_forever (permitted : contract.permitted made .forever) :
    Does contract post made result (awaiting forever) :=
  ⟨permitted, fun answer => answer.elim⟩

theorem asking_request {body : Request} {frames : List Bytes}
    {post : List ClientExchange → Except String (Response × List Bytes) → Prop}
    (permitted : contract.permitted made (.request body frames))
    (answered : ∀ answer, contract.admits (.request body frames) answer →
      post (made ++ [⟨.request body frames, answer⟩]) answer) :
    (request body frames).run.Meets contract post made :=
  ⟨permitted, answered⟩

end Rules

/-! ### Runs put together -/

variable {First Second : Type} {rest : First → Reconciling Second} {made : List ClientExchange}
    {result : ReconciliationResult}

/-- Two runs in a row, the second from the tally the first left. -/
theorem run_bind {code : Reconciling First} {more : List ClientExchange}
    {later : ReconciliationResult} {value : First}
    {last : ClientProgram (Except String Second × ReconciliationResult)}
    (first : Run (code.run.run result) made (.done (.ok value, later)))
    (second : Run ((rest value).run.run later) more last) :
    Run ((code >>= rest).run.run result) (made ++ more) last :=
  first.bind second

theorem run_request {body : Request} {frames : List Bytes} (answer : Response × List Bytes) :
    Run ((awaiting (request body frames)).run.run result)
      [⟨.request body frames, .ok answer⟩] (.done (.ok answer, result)) :=
  .call (.here _)

variable {Value : Type}

theorem run_valid {checked : Except String Value} {value : Value} (ok : checked = .ok value) :
    Run ((awaiting (onHost (valid checked))).run.run result) [] (.done (.ok value, result)) :=
  ok ▸ .here _

/-- A single host call, answered. -/
theorem run_host (call : HostCall) (answer : call.Answer)
    {outcome : call.Answer → Except String Value} {serving : Serving Value} {value : Value}
    (ok : outcome answer = .ok value)
    (calls : serving.run = Program.call call fun answer => .done (outcome answer)) :
    Run ((awaiting (onHost serving)).run.run result) [⟨.host call, answer⟩]
      (.done (.ok value, result)) := by
  have asked : Run (onHost serving).run [⟨.host call, answer⟩] (.done (.ok value)) := by
    rw [onHost, ExceptT.run_mk, calls, ← ok]
    exact .call (.here _)
  exact asked.bind (.here _)

theorem run_modify {change : ReconciliationResult → ReconciliationResult} :
    Run ((modify change : Reconciling PUnit).run.run result) [] (.done (.ok (), change result)) :=
  .here _

variable {outcome : Except String Value}

theorem run_awaiting {asking : Asking Value} (run : Run asking.run made (.done outcome)) :
    Run ((awaiting asking).run.run result) made (.done (outcome, result)) := by
  have whole : Run (asking.run >>= fun outcome => pure (outcome, result)) (made ++ [])
      (.done (outcome, result)) := run.bind (.here _)
  rw [List.append_nil] at whole
  exact whole

theorem run_get_bind {rest : ReconciliationResult → Reconciling Value} :
    (get >>= rest : Reconciling Value).run.run result = (rest result).run.run result := rfl

/-! ### Runs taken apart -/

variable {ended : ReconciliationResult}

/-- A finished run failed in the first part, or splits where the first part ended. -/
theorem run_bind_inv {code : Reconciling First} {outcome : Except String Second}
    (run : Run ((code >>= rest).run.run result) made (.done (outcome, ended))) :
    (∃ error, outcome = .error error ∧
      Run (code.run.run result) made (.done (.error error, ended))) ∨
    ∃ value later first second, made = first ++ second ∧
      Run (code.run.run result) first (.done (.ok value, later)) ∧
      Run ((rest value).run.run later) second (.done (outcome, ended)) := by
  obtain ⟨⟨reached, later⟩, first, second, rfl, head, tail⟩ := Run.of_bind run
  cases reached with
  | error error =>
      cases tail with
      | here => exact .inl ⟨error, rfl, by rw [List.append_nil]; exact head⟩
  | ok value => exact .inr ⟨value, later, first, second, rfl, head, tail⟩

theorem run_pure_inv {value : Value}
    (run : Run ((pure value : Reconciling Value).run.run result) made (.done (outcome, ended))) :
    made = [] ∧ outcome = .ok value ∧ ended = result := by
  cases run with
  | here => exact ⟨rfl, rfl, rfl⟩

theorem run_throw_inv {error : String}
    (run : Run ((throw error : Reconciling Value).run.run result) made (.done (outcome, ended))) :
    made = [] ∧ outcome = .error error ∧ ended = result := by
  cases run with
  | here => exact ⟨rfl, rfl, rfl⟩

theorem run_modify_inv {change : ReconciliationResult → ReconciliationResult}
    {outcome : Except String PUnit}
    (run : Run ((modify change : Reconciling PUnit).run.run result) made
      (.done (outcome, ended))) :
    made = [] ∧ outcome = .ok () ∧ ended = change result := by
  cases run with
  | here => exact ⟨rfl, rfl, rfl⟩

theorem run_awaiting_inv {asking : Asking Value}
    (run : Run ((awaiting asking).run.run result) made (.done (outcome, ended))) :
    ended = result ∧ Run asking.run made (.done outcome) := by
  obtain ⟨value, first, second, rfl, head, tail⟩ := Run.of_bind run
  cases tail with
  | here => exact ⟨rfl, by simpa using head⟩

/-- As `run_bind_inv`; a question leaves the tally alone. -/
theorem run_awaiting_bind_inv {asking : Asking First} {outcome : Except String Second}
    (run : Run ((awaiting asking >>= rest).run.run result) made (.done (outcome, ended))) :
    (∃ error, outcome = .error error ∧ ended = result ∧
      Run asking.run made (.done (.error error))) ∨
    ∃ value first second, made = first ++ second ∧ Run asking.run first (.done (.ok value)) ∧
      Run ((rest value).run.run result) second (.done (outcome, ended)) := by
  rcases run_bind_inv run with ⟨error, rfl, failed⟩ | ⟨value, later, first, second, rfl, head, tail⟩
  · exact .inl ⟨error, rfl, run_awaiting_inv failed⟩
  · obtain ⟨rfl, asked⟩ := run_awaiting_inv head
    exact .inr ⟨value, first, second, rfl, asked, tail⟩

/-- A failure that is looked at does not end the run. -/
theorem run_outcomeOf_bind_inv {asking : Asking First}
    {rest : Except String First → Reconciling Second} {outcome : Except String Second}
    (run : Run ((outcomeOf asking >>= rest).run.run result) made (.done (outcome, ended))) :
    ∃ reached first second, made = first ++ second ∧ Run asking.run first (.done reached) ∧
      Run ((rest reached).run.run result) second (.done (outcome, ended)) := by
  obtain ⟨⟨reached, later⟩, first, second, rfl, head, tail⟩ := Run.of_bind run
  obtain ⟨⟨value, _⟩, part, nothing, rfl, asked, lifted⟩ := Run.of_bind head
  cases lifted with
  | here =>
      obtain ⟨value, front, back, rfl, run, kept⟩ := Run.of_bind asked
      cases kept with
      | here => exact ⟨value, front, second, by simp, run, tail⟩

/-! ### Exchanges of one kind -/

/-- The exchanges went on with calls of one kind only. -/
def Extends (kind : ClientCall → Prop) (made later : List ClientExchange) : Prop :=
  ∃ extra, later = made ++ extra ∧ ∀ exchange ∈ extra, kind exchange.op

namespace Extends

variable {kind wider : ClientCall → Prop} {made later last : List ClientExchange}

theorem refl (kind : ClientCall → Prop) (made : List ClientExchange) : Extends kind made made :=
  ⟨[], by simp, fun _ member => nomatch member⟩

theorem trans (first : Extends kind made later) (second : Extends kind later last) :
    Extends kind made last := by
  obtain ⟨extra, rfl, kinds⟩ := first
  obtain ⟨more, rfl, others⟩ := second
  refine ⟨extra ++ more, by simp, fun exchange member => ?_⟩
  rcases List.mem_append.mp member with early | late
  · exact kinds exchange early
  · exact others exchange late

theorem call {op : ClientCall} (answer : op.Answer) (asked : kind op) :
    Extends kind made (made ++ [⟨op, answer⟩]) := by
  refine ⟨[⟨op, answer⟩], rfl, fun exchange member => ?_⟩
  rw [List.mem_singleton.mp member]
  exact asked

theorem mono (extension : Extends kind made later) (implied : ∀ op, kind op → wider op) :
    Extends wider made later := by
  obtain ⟨extra, same, kinds⟩ := extension
  exact ⟨extra, same, fun exchange member => implied _ (kinds exchange member)⟩

theorem mem (extension : Extends kind made later) {exchange : ClientExchange}
    (member : exchange ∈ made) : exchange ∈ later := by
  obtain ⟨extra, rfl, -⟩ := extension
  exact List.mem_append_left _ member

/-- A reading of the exchanges that ignores calls of this kind is unchanged. -/
theorem filterMap_eq {Reading : Type} {read : ClientExchange → Option Reading}
    (extension : Extends kind made later)
    (ignored : ∀ exchange, kind exchange.op → read exchange = none) :
    later.filterMap read = made.filterMap read := by
  obtain ⟨extra, rfl, kinds⟩ := extension
  rw [List.filterMap_append,
    List.filterMap_eq_nil_iff.mpr fun exchange member => ignored exchange (kinds exchange member),
    List.append_nil]

/-- What is counted does not grow by calls that do not count. -/
theorem countP_eq {count : ClientExchange → Bool} (extension : Extends kind made later)
    (ignored : ∀ exchange, kind exchange.op → count exchange = false) :
    later.countP count = made.countP count := by
  obtain ⟨extra, rfl, kinds⟩ := extension
  have none : extra.countP count = 0 :=
    List.countP_eq_zero.mpr fun exchange member => by simp [ignored exchange (kinds exchange member)]
  rw [List.countP_append, none, Nat.add_zero]

end Extends

/-- Whatever it does there, code on the host makes calls of the host. -/
def OnHost (call : ClientCall) : Prop := ∃ hostCall, call = .host hostCall

/-- Serving from the host asks the host only. -/
theorem asking_onHost {contract : ClientContract}
    (hosts : contract.Hosts) (serving : Serving Value) :
    (onHost serving).run.Meets contract (fun later _ => Extends OnHost made later) made := by
  rw [onHost, ExceptT.run_mk]
  generalize serving.run = program
  induction program generalizing made with
  | done => exact .refl _ _
  | call op _ ih =>
      refine ⟨hosts made op, fun answer _ => ?_⟩
      refine meets_mono (ih answer) fun later _ extension => ?_
      exact (Extends.call answer ⟨op, rfl⟩).trans extension

end ArcRelay.ClipboardReplication
