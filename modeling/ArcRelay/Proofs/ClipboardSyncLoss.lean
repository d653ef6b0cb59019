/-
Module: ArcRelay.Proofs.ClipboardSyncLoss
Purpose: Which losses of clipboard records a client can see in the numbers of its events.
Trusted boundary: none
-/
import ArcRelay.Proofs.ActionOutputAccounting

namespace ArcRelay.Subscriptions

variable {Content : Type}

/-!
A clipboard record that meets a frame limit or a full queue has taken a number, so its loss shows
as a hole in the numbers the client receives.  A record the broadcast channel drops never reaches
the subscription: no number is taken and, unlike for action output, no gap is remembered.
-/

/-- When the client has the events 1 to `count` and no gap marker, no admissible record from
before the one that event `count` carries was lost to a lag, a full queue or a frame limit.  The
client receives accepted events in their order. -/
def SyncRun.NoSilentLoss (run : SyncRun Content) : Prop :=
  ∀ received count, received <+: run.accepted →
    (∀ event ∈ received, event.gap? = none) →
    received.map Event.sequence = List.range' 1 count →
    ∀ before after, run.fates = before ++ .carried count :: after →
      .lagged ∉ before ∧ ∀ sequence, .refused sequence ∉ before

/-- A lag drops only records that would not have been admitted. -/
def LagSparesAdmitted (_ : SyncRun Content) (event : SyncEvent Content) : Prop :=
  ∀ lost, event = .lag lost → true ∉ lost

/-! ### What a step can do -/

/-- The number a record has taken. -/
def Fate.number? : Fate → Option Nat
  | .carried sequence | .refused sequence => some sequence
  | _ => none

def Fate.carried? : Fate → Option Nat
  | .carried sequence => some sequence
  | _ => none

inductive SyncMoves (run : SyncRun Content) : SyncEvent Content → SyncRun Content → Prop where
  /-- records that take no number -/
  | unnumbered {event : SyncEvent Content} {fates : List Fate}
      (numberless : ∀ fate ∈ fates, fate.number? = none)
      (lag : .lagged ∈ fates → ∃ lost, event = .lag lost ∧ true ∈ lost) :
      SyncMoves run event { run with fates := run.fates ++ fates }
  | carried {event : SyncEvent Content} {accepted : Event Content}
      (numbered : accepted.sequence = run.subscription.nextSequence.sequence) :
      SyncMoves run event
        { subscription := run.subscription.nextSequence
          accepted := run.accepted ++ [accepted]
          fates := run.fates ++ [.carried run.subscription.nextSequence.sequence] }
  | refused {event : SyncEvent Content} {gap : ActionGap} :
      SyncMoves run event
        { run with
          subscription := run.subscription.advance gap
          fates := run.fates ++ [.refused run.subscription.nextSequence.sequence] }

/-- A record that was converted takes the next number, whether the queue takes its event or not. -/
theorem pushClipboardSyncEvent_some (encoding : Encoding Content) (answer : TrySend) (now : Int)
    (sub : EventSubscription) (record : Content) :
    pushClipboardSyncEvent encoding answer now sub (some record) =
        (some (eventFrame sub.id sub.nextSequence.sequence now now (.clipboardSync record)),
          sub.nextSequence) ∨
      ∃ gap, pushClipboardSyncEvent encoding answer now sub (some record) =
        (none, sub.advance gap) := by
  simp only [pushClipboardSyncEvent, EventSubscription.queue, queueEvent]
  split
  · exact .inr ⟨_, rfl⟩
  · cases answer with
    | sent => exact .inl rfl
    | full => exact .inr ⟨_, rfl⟩
    | closed => exact .inr ⟨_, rfl⟩

theorem syncMoves_of_step (encoding : Encoding Content) (run : SyncRun Content)
    (event : SyncEvent Content) : SyncMoves run event (run.step encoding event) := by
  cases event with
  | broadcast admitted converted answer now =>
      cases admitted with
      | false => exact .unnumbered (by simp [Fate.number?]) (by simp)
      | true =>
          cases converted with
          | none =>
              have skipped : run.step encoding (.broadcast true none answer now) =
                  { run with fates := run.fates ++ [.notConverted] } := by
                simp [SyncRun.step, pushClipboardSyncEvent]
              rw [skipped]
              exact .unnumbered (by simp [Fate.number?]) (by simp)
          | some record =>
              rcases pushClipboardSyncEvent_some encoding answer now run.subscription record with
                queued | ⟨gap, turned⟩
              · simp only [SyncRun.step, queued]
                exact .carried rfl
              · simp only [SyncRun.step, turned, Option.toList_none, List.filterMap_nil,
                  List.append_nil]
                exact .refused
  | lag lost =>
      refine .unnumbered ?_ ?_
      · intro fate member
        rcases List.mem_map.mp member with ⟨admitted, _, rfl⟩
        cases admitted with
        | false => rfl
        | true => rfl
      · intro member
        rcases List.mem_map.mp member with ⟨admitted, dropped, isLagged⟩
        cases admitted with
        | false => cases isLagged
        | true => exact ⟨lost, rfl, dropped⟩

/-! ### The numbers taken -/

/-- The records that took numbers took them in order, and the accepted events carry those of the
records they carry. -/
structure Numbering (run : SyncRun Content) : Prop where
  taken : ∀ number ∈ run.fates.filterMap Fate.number?,
    1 ≤ number ∧ number ≤ run.subscription.sequence
  ordered : (run.fates.filterMap Fate.number?).Pairwise (· < ·)
  carried : run.accepted.map Event.sequence = run.fates.filterMap Fate.carried?

theorem numbering_start (id : UInt64) : Numbering (⟨.new id, [], []⟩ : SyncRun Content) where
  taken := by
    intro number member
    cases member
  ordered := List.Pairwise.nil
  carried := rfl

variable {run next : SyncRun Content}

/-- The next record takes the next number. -/
theorem Numbering.take (numbering : Numbering run) {fate : Fate} {events : List (Event Content)}
    (sequence : next.subscription.sequence = run.subscription.sequence + 1)
    (fates : next.fates = run.fates ++ [fate])
    (number : fate.number? = some next.subscription.sequence)
    (accepted : next.accepted = run.accepted ++ events)
    (carries : events.map Event.sequence = [fate].filterMap Fate.carried?) : Numbering next := by
  have numbers : next.fates.filterMap Fate.number? =
      run.fates.filterMap Fate.number? ++ [next.subscription.sequence] := by
    rw [fates, List.filterMap_append, List.filterMap_cons_some number, List.filterMap_nil]
  constructor
  · rw [numbers]
    intro other member
    rcases List.mem_append.mp member with earlier | last
    · have bounds := numbering.taken other earlier
      omega
    · rw [List.mem_singleton.mp last]
      omega
  · rw [numbers, List.pairwise_append]
    refine ⟨numbering.ordered, List.pairwise_singleton _ _, ?_⟩
    intro earlier member last isLast
    have bounds := numbering.taken earlier member
    rw [List.mem_singleton.mp isLast]
    omega
  · rw [accepted, fates, List.map_append, List.filterMap_append, numbering.carried, carries]

variable {event : SyncEvent Content}

theorem Numbering.move (numbering : Numbering run) (below : next.subscription.sequence < u64Max)
    (move : SyncMoves run event next) : Numbering next := by
  cases move with
  | @unnumbered fates numberless =>
      have noNumbers : fates.filterMap Fate.number? = [] :=
        List.filterMap_eq_nil_iff.mpr numberless
      have noneCarried : fates.filterMap Fate.carried? = [] := by
        rw [List.filterMap_eq_nil_iff]
        intro fate member
        have without := numberless fate member
        cases fate with
        | carried => cases without
        | _ => rfl
      constructor
      · rw [List.filterMap_append, noNumbers, List.append_nil]
        exact numbering.taken
      · rw [List.filterMap_append, noNumbers, List.append_nil]
        exact numbering.ordered
      · rw [List.filterMap_append, noneCarried, List.append_nil]
        exact numbering.carried
  | carried numbered =>
      exact numbering.take (nextSequence_eq run.subscription below) rfl rfl rfl
        (by rw [List.map_singleton, numbered]; rfl)
  | refused =>
      exact numbering.take (nextSequence_eq run.subscription below) rfl rfl
        (List.append_nil _).symm rfl

/-- A number belongs to one record, so it is not both carried and refused. -/
theorem Numbering.not_both (numbering : Numbering run) {number : Nat}
    (carried : .carried number ∈ run.fates) : .refused number ∉ run.fates := by
  intro refused
  have distinct : run.fates.Pairwise fun first second =>
      ∀ number, first.number? = some number → second.number? ≠ some number := by
    refine (List.pairwise_filterMap.mp numbering.ordered).imp ?_
    intro first second increasing number ofFirst ofSecond
    exact lt_irrefl number (increasing number ofFirst number ofSecond)
  have symmetric : Std.Symm fun first second : Fate =>
      ∀ number, first.number? = some number → second.number? ≠ some number :=
    ⟨fun first second apart number ofSecond ofFirst => apart number ofFirst ofSecond⟩
  have apart : Fate.carried number ≠ .refused number := by
    intro same
    cases same
  exact distinct.forall carried refused apart number rfl rfl

/-! ### Every run -/

/-- What holds when no admissible record is lost to a lag. -/
structure Unlagged (run : SyncRun Content) : Prop where
  bounded : run.subscription.sequence ≤ u64Max
  numbering : run.subscription.sequence < u64Max → Numbering run
  unlagged : .lagged ∉ run.fates

theorem SyncMoves.sequence (move : SyncMoves run event next) :
    next.subscription.sequence = run.subscription.sequence ∨
      next.subscription.sequence = run.subscription.nextSequence.sequence := by
  cases move with
  | unnumbered => exact .inl rfl
  | carried => exact .inr rfl
  | refused => exact .inr rfl

theorem Unlagged.move (unlagged : Unlagged run) (spares : LagSparesAdmitted run event)
    (move : SyncMoves run event next) : Unlagged next := by
  have grows : run.subscription.sequence ≤ next.subscription.sequence ∧
      next.subscription.sequence ≤ u64Max := by
    rcases move.sequence with same | advanced
    · rw [same]
      exact ⟨le_rfl, unlagged.bounded⟩
    · rw [advanced]
      exact ⟨sequence_le_nextSequence unlagged.bounded, nextSequence_le _⟩
  refine ⟨grows.2, fun below => (unlagged.numbering (grows.1.trans_lt below)).move below move, ?_⟩
  cases move with
  | unnumbered _ lag =>
      intro member
      rcases List.mem_append.mp member with earlier | now
      · exact unlagged.unlagged earlier
      · rcases lag now with ⟨lost, isLag, admitted⟩
        exact spares lost isLag admitted
  | carried => simpa using unlagged.unlagged
  | refused => simpa using unlagged.unlagged

/-- When no lag drops an admissible record, every loss shows in the numbers of the events, as
long as these grow. -/
theorem clipboard_loss_visible {encoding : Encoding Content} {id : UInt64}
    {events : List (SyncEvent Content)} {run : SyncRun Content}
    (runs : RunsWhere (clipboardSyncSubscription encoding id) LagSparesAdmitted events run)
    (below : run.subscription.sequence < u64Max) : run.NoSilentLoss := by
  have unlagged : Unlagged run := by
    apply runs.invariant
    · exact ⟨Nat.zero_le _, fun _ => numbering_start id, List.not_mem_nil⟩
    · intro state event next unlagged spares stepped
      cases stepped
      exact unlagged.move spares (syncMoves_of_step encoding state event)
  have numbering := unlagged.numbering below
  intro received count isPrefix unmarked consecutive before after split
  constructor
  · intro lagged
    apply unlagged.unlagged
    rw [split]
    exact List.mem_append_left _ lagged
  · intro sequence refused
    have inFates : .refused sequence ∈ run.fates := by
      rw [split]
      exact List.mem_append_left _ refused
    -- its number is smaller than `count`, so the client has an event with it
    have bounds := numbering.taken sequence (List.mem_filterMap.mpr ⟨_, inFates, rfl⟩)
    have smaller : sequence < count := by
      have ordered := numbering.ordered
      rw [split, List.filterMap_append, List.pairwise_append] at ordered
      exact ordered.2.2 sequence (List.mem_filterMap.mpr ⟨_, refused, rfl⟩) count
        (List.mem_filterMap.mpr ⟨_, List.mem_cons_self, rfl⟩)
    have seen : sequence ∈ run.fates.filterMap Fate.carried? := by
      rw [← numbering.carried]
      apply (isPrefix.map Event.sequence).subset
      rw [consecutive, List.mem_range'_1]
      omega
    rcases List.mem_filterMap.mp seen with ⟨fate, member, carries⟩
    cases fate with
    | carried =>
        cases carries
        exact numbering.not_both member inFates
    | _ => cases carries

/-- Two records are carried; the one between them is not admissible, and is dropped by a lag. -/
def sparingLag : List (SyncEvent Unit) :=
  [.broadcast true (some ()) .sent 1, .lag [false], .broadcast true (some ()) .sent 2]

theorem clipboard_loss_visible_sparingLag :
    ∃ run, RunsWhere (clipboardSyncSubscription (weightless : Encoding Unit) 5) LagSparesAdmitted
        sparingLag run ∧
      run.fates = [.carried 1, .notAdmitted, .carried 2] ∧
      run.subscription.sequence < u64Max ∧ run.NoSilentLoss := by
  have sound : ∀ (run : SyncRun Unit) event, (match event with
      | .lag lost => !lost.contains true
      | _ => true) = true → LagSparesAdmitted run event := by
    rintro _ _ checked lost rfl
    simpa using checked
  obtain ⟨run, runs, fates, below⟩ : ∃ run,
      RunsWhere (clipboardSyncSubscription (weightless : Encoding Unit) 5) LagSparesAdmitted
        sparingLag run ∧ run.fates = [.carried 1, .notAdmitted, .carried 2] ∧
        run.subscription.sequence < u64Max :=
    RunsWhere.exists_of_replay sound (by decide +kernel)
  exact ⟨run, runs, fates, below, clipboard_loss_visible runs below⟩

/-- Two records are carried; the one between them is admissible, and is dropped by a lag. -/
def droppingLag : List (SyncEvent Unit) :=
  [.broadcast true (some ()) .sent 1, .lag [true], .broadcast true (some ()) .sent 2]

/-- The client receives the events 1 and 2 and no gap marker, and cannot know of the record
between them. -/
theorem lag_hidden_from_client :
    ∃ run, Runs (clipboardSyncSubscription (weightless : Encoding Unit) 5) droppingLag run ∧
      run.accepted.map Event.sequence = [1, 2] ∧
      run.fates = [.carried 1, .lagged, .carried 2] ∧ ¬ run.NoSilentLoss := by
  obtain ⟨run, runs, numbers, fates, unmarked⟩ : ∃ run,
      Runs (clipboardSyncSubscription (weightless : Encoding Unit) 5) droppingLag run ∧
        run.accepted.map Event.sequence = [1, 2] ∧
        run.fates = [.carried 1, .lagged, .carried 2] ∧
        ∀ event ∈ run.accepted, event.gap? = none :=
    Runs.exists_of_replay (by decide +kernel)
  refine ⟨run, runs, numbers, fates, fun visible => ?_⟩
  have hidden := visible run.accepted 2 (List.prefix_refl _) unmarked numbers
    [.carried 1, .lagged] [] fates
  exact hidden.1 (by simp)

end ArcRelay.Subscriptions
