/-
Module: ArcRelay.Proofs.BlobStoreTickets
Purpose: A blob ticket is good exactly until it is redeemed or expires, and it buys its owner
  exactly what that owner stored.
Trusted boundary: SHA-256 is collision free on the contents of the run
-/
import ArcRelay.Proofs.BlobStoreInvariant

namespace ArcRelay.BlobStore

open BlobStoreInner

variable {sized : Prop}

/-! ### Outstanding tickets and the history -/

variable {history : List Event} {ticket : Bytes}

theorem outstanding_cons {event : Event} {entry : TicketEntry} :
    Outstanding (event :: history) ticket entry ↔
      Issues event ticket entry ∨
        (¬ Redeems event ticket ∧ Outstanding history ticket entry) := by
  constructor
  · rintro ⟨since, issue, earlier, split, issues, kept⟩
    cases since with
    | nil =>
        cases split
        exact Or.inl issues
    | cons _ since =>
        cases split
        exact Or.inr ⟨kept event (by simp), since, issue, earlier, rfl, issues,
          fun later member => kept later (by simp [member])⟩
  · rintro (issues | ⟨kept, since, issue, earlier, rfl, issues, others⟩)
    · exact ⟨[], event, history, rfl, issues, by simp⟩
    · refine ⟨event :: since, issue, earlier, rfl, issues, ?_⟩
      intro later member
      rcases List.mem_cons.mp member with rfl | older
      · exact kept
      · exact others later older

/-- The ticket map agrees with the history: it holds only outstanding tickets, and all of
those that have not expired. -/
structure Ledger (history : List Event) (clock : Instant) (inner : BlobStoreInner) : Prop where
  recorded : ∀ ticket entry, inner.tickets.lookup ticket = some entry →
    Outstanding history ticket entry
  complete : ∀ ticket entry, Outstanding history ticket entry → clock < entry.expiresAt →
    inner.tickets.lookup ticket = some entry

theorem Ledger.new (clock : Instant) : Ledger [] clock BlobStoreInner.new where
  recorded := by simp [BlobStoreInner.new]
  complete := by
    rintro ticket entry ⟨since, event, earlier, split, _⟩
    simp at split

variable {clock : Instant} {before after : BlobStoreInner}

theorem Ledger.prune {now : Instant} (ledger : Ledger history clock before)
    (pruned : Pruned now before after) (later : clock ≤ now) : Ledger history now after where
  recorded := fun ticket entry found =>
    ledger.recorded ticket entry ((pruned.tickets ticket entry).mp found).1
  complete := fun ticket entry outstanding future => (pruned.tickets ticket entry).mpr
    ⟨ledger.complete ticket entry outstanding (later.trans_lt future), future⟩

variable {inner : BlobStoreInner}

theorem Ledger.advance {later : Instant} (ledger : Ledger history clock inner)
    (ordered : clock ≤ later) :
    Ledger history later inner where
  recorded := ledger.recorded
  complete := fun ticket entry outstanding future =>
    ledger.complete ticket entry outstanding (ordered.trans_lt future)

/-- A call that neither issues nor redeems and keeps the ticket map. -/
theorem Ledger.idle {later : Instant} {event : Event} (ledger : Ledger history clock before)
    (ordered : clock ≤ later) (tickets : after.tickets = before.tickets)
    (noIssue : ∀ ticket entry, ¬ Issues event ticket entry)
    (noRedeem : ∀ ticket, ¬ Redeems event ticket) :
    Ledger (event :: history) later after where
  recorded := by
    intro ticket entry found
    rw [tickets] at found
    exact outstanding_cons.mpr (Or.inr ⟨noRedeem ticket, ledger.recorded ticket entry found⟩)
  complete := by
    intro ticket entry outstanding future
    rw [tickets]
    rcases outstanding_cons.mp outstanding with issues | ⟨_, older⟩
    · exact absurd issues (noIssue ticket entry)
    · exact ledger.complete ticket entry older (ordered.trans_lt future)

variable {externals : Externals} {owner : Bytes}

theorem InsertStep.tickets {bytes : Bytes} {mediaType : String} {now : Instant}
    {reply : Option BlobRef} (sound : Sound sized inner inner.insertionOrder)
    (step : InsertStep externals inner owner bytes mediaType now reply after) :
    after.tickets = inner.tickets := by
  have reclaimed := (sound.reclaimDeliveredForOwner owner bytes.length 1).2.tickets
  cases step with
  | touched => rfl
  | refused => exact reclaimed
  | joined reclaim =>
      subst reclaim
      exact reclaimed
  | stored reclaim =>
      subst reclaim
      exact reclaimed

variable {pruneAt accessAt : Instant}

/-- A successful `issue_ticket` issues one ticket, with the data it returns. -/
theorem issues_issueTicket_iff {blobId : Bytes} {issueAt : Instant} {draws : TicketDraws}
    {issued : BlobTicket} {entry : TicketEntry} :
    Issues ⟨.issueTicket owner blobId pruneAt accessAt issueAt draws, .issued (.ok issued)⟩
        ticket entry ↔
      ticket = issued.ticket ∧
        entry = { transferId := issued.transferId, blobId := blobId, owner := owner,
                  expiresAt := issueAt + ticketTtl } := by
  constructor
  · rintro ⟨_, _, _, _, _, shape, sameId, rfl, expiry⟩
    simp only [Event.mk.injEq, Call.issueTicket.injEq, Reply.issued.injEq,
      Except.ok.injEq] at shape
    obtain ⟨⟨sameOwner, sameBlob, _, _, rfl, _⟩, rfl⟩ := shape
    refine ⟨rfl, ?_⟩
    rw [sameId, sameOwner, sameBlob, ← expiry]
  · rintro ⟨rfl, rfl⟩
    exact ⟨_, _, _, _, _, rfl, rfl, rfl, rfl⟩

/-- A successful `redeem` redeems the ticket it was called with. -/
theorem redeems_redeem_iff {other : Bytes} {transferId : UInt64} {checkAt : Instant}
    {blob : RedeemedBlob} :
    Redeems ⟨.redeem owner transferId ticket pruneAt checkAt accessAt, .redeemed (.ok blob)⟩
      other ↔ other = ticket := by
  constructor
  · rintro ⟨_, _, _, _, _, _, shape⟩
    simp only [Event.mk.injEq, Call.redeem.injEq] at shape
    exact shape.1.2.2.1.symm
  · rintro rfl
    exact ⟨_, _, _, _, _, _, rfl⟩

/-- Issuing adds one outstanding ticket under a key that no unexpired ticket has. -/
theorem Ledger.issueStep {blobId : Bytes} {issueAt : Instant} {draws : TicketDraws}
    {result : Except IssueTicketError BlobTicket} (ledger : Ledger history accessAt inner)
    (ordered : accessAt ≤ issueAt)
    (step : IssueStep inner owner blobId accessAt issueAt result after) :
    Ledger (⟨.issueTicket owner blobId pruneAt accessAt issueAt draws, .issued result⟩ :: history)
      issueAt after := by
  have noRedeem : ∀ ticket, ¬ Redeems
      ⟨.issueTicket owner blobId pruneAt accessAt issueAt draws, .issued result⟩ ticket := by
    rintro ticket ⟨_, _, _, _, _, _, impossible⟩
    simp at impossible
  cases step with
  | notFound =>
      exact ledger.idle ordered rfl (by simp [Issues]) noRedeem
  | exhausted =>
      exact ledger.idle ordered rfl (by simp [Issues]) noRedeem
  | @issued _ _ _ _ freshTicket =>
      constructor
      · refine forall_recordTicket ?_ ?_
        · exact outstanding_cons.mpr (Or.inl (issues_issueTicket_iff.mpr ⟨rfl, rfl⟩))
        · intro ticket other found
          exact outstanding_cons.mpr (Or.inr ⟨noRedeem ticket, ledger.recorded ticket other found⟩)
      · intro ticket other outstanding future
        rcases outstanding_cons.mp outstanding with issues | ⟨_, older⟩
        · obtain ⟨rfl, rfl⟩ := issues_issueTicket_iff.mp issues
          exact AList.lookup_insert _
        · have found := ledger.complete ticket other older (ordered.trans_lt future)
          refine (AList.lookup_insert_ne ?_).trans found
          rintro rfl
          rw [freshTicket] at found
          cases found

/-- Redeeming removes exactly the redeemed ticket. -/
theorem Ledger.redeemStep {transferId : UInt64} {checkAt : Instant}
    {result : Except String RedeemedBlob} (ledger : Ledger history checkAt inner)
    (ordered : checkAt ≤ accessAt)
    (step : RedeemStep inner owner transferId ticket checkAt accessAt result after) :
    Ledger (⟨.redeem owner transferId ticket pruneAt checkAt accessAt, .redeemed result⟩ ::
      history) accessAt after := by
  have noIssue : ∀ other entry, ¬ Issues ⟨.redeem owner transferId ticket pruneAt checkAt
      accessAt, .redeemed result⟩ other entry := by
    rintro other entry ⟨_, _, _, _, _, impossible, _⟩
    simp at impossible
  cases step with
  | refused => exact ledger.idle ordered rfl noIssue (by simp [Redeems])
  | @redeemed =>
      have lookup := lookup_removeTicket inner ticket
      constructor
      · intro other kept found
        have remaining : (inner.removeTicket ticket).tickets.lookup other = some kept := found
        rw [lookup] at remaining
        by_cases same : other = ticket
        · simp [same] at remaining
        · rw [if_neg same] at remaining
          exact outstanding_cons.mpr (Or.inr ⟨fun redeems => same (redeems_redeem_iff.mp redeems),
            ledger.recorded other kept remaining⟩)
      · intro other kept stillOut later
        rcases outstanding_cons.mp stillOut with issues | ⟨unredeemed, older⟩
        · exact absurd issues (noIssue other kept)
        · have different : other ≠ ticket := fun same => unredeemed (redeems_redeem_iff.mpr same)
          refine ((lookup other).trans (if_neg different)).trans ?_
          exact ledger.complete other kept older (ordered.trans_lt later)

theorem Ledger.callStep {call : Call} {reply : Reply} (good : Good externals history clock before)
    (ledger : Ledger history clock before) (later : clock ≤ call.pruneAt) (ordered : call.Ordered)
    (step : CallStep externals before call reply after) :
    Ledger (⟨call, reply⟩ :: history) call.lastReading after := by
  have pruned := fun now (timely : clock ≤ now) => ledger.prune (good.prune now).2 timely
  cases step with
  | rejected =>
      exact ledger.idle (later.trans ordered) rfl (by simp [Issues]) (by simp [Redeems])
  | insert _ step =>
      exact (pruned _ later).idle ordered (step.tickets (good.prune _).1.sound)
        (by simp [Issues]) (by simp [Redeems])
  | issueTicket step =>
      exact Ledger.issueStep ((pruned _ later).advance ordered.1) ordered.2 step
  | redeem step =>
      exact Ledger.redeemStep ((pruned _ later).advance ordered.1) ordered.2 step

theorem Ledger.run (run : Run externals history clock inner) : Ledger history clock inner := by
  induction run with
  | start clock => exact Ledger.new clock
  | step earlier later ordered performed ledger =>
      have good := Good.run earlier
      exact Ledger.callStep good ledger later ordered (perform_step good performed)

/-! ### Redemption -/

/-- On a store that agrees with its history, a ticket entitles its holder exactly while it
is outstanding and unexpired. -/
theorem Ledger.entitles_iff {now : Instant} (ledger : Ledger history clock inner)
    (later : clock ≤ now) (owner : Bytes) (transferId : UInt64) (ticket : Bytes) :
    Entitles inner owner transferId ticket now ↔
      ∃ entry, Outstanding history ticket entry ∧ entry.owner = owner ∧
        entry.transferId = transferId ∧ now < entry.expiresAt := by
  constructor
  · rintro ⟨entry, found, sameId, sameOwner, future⟩
    exact ⟨entry, ledger.recorded ticket entry found, sameOwner, sameId, future⟩
  · rintro ⟨entry, outstanding, sameOwner, sameId, future⟩
    exact ⟨entry, ledger.complete ticket entry outstanding (later.trans_lt future), sameId,
      sameOwner, future⟩

/-- Blob tickets.  After every run, `redeem` succeeds exactly if the ticket was issued to
this owner with this transfer id, was not redeemed since, and has not expired.  It then
returns bytes that the owner itself inserted and whose digest is the blob the ticket names.
It never finds the blob evicted, and a failing redemption only removes what has expired. -/
theorem redeem_ok_iff_outstanding {externals : Externals} {history : List Event}
    {clock : Instant} {inner : BlobStoreInner} (run : Run externals history clock inner)
    (free : CollisionFree externals history) (owner : Bytes) (transferId : UInt64)
    (ticket : Bytes) {pruneAt checkAt accessAt : Instant} (later : clock ≤ pruneAt)
    (ordered : pruneAt ≤ checkAt ∧ checkAt ≤ accessAt) :
    ((∃ blob, (redeem inner owner transferId ticket pruneAt checkAt accessAt).1 = .ok blob) ↔
      ∃ entry, Outstanding history ticket entry ∧ entry.owner = owner ∧
        entry.transferId = transferId ∧ checkAt < entry.expiresAt) ∧
    (∀ blob, (redeem inner owner transferId ticket pruneAt checkAt accessAt).1 = .ok blob →
      InsertedBy history owner blob.bytes ∧
      ∃ entry, Outstanding history ticket entry ∧ entry.owner = owner ∧
        entry.transferId = transferId ∧ externals.sha256 blob.bytes = entry.blobId) ∧
    (redeem inner owner transferId ticket pruneAt checkAt accessAt).1 ≠
      .error "blob was evicted" ∧
    (∀ message,
      (redeem inner owner transferId ticket pruneAt checkAt accessAt).1 = .error message →
      Pruned pruneAt inner (redeem inner owner transferId ticket pruneAt checkAt accessAt).2) := by
  have good := Good.run run
  obtain ⟨goodPruned, pruned⟩ := good.prune pruneAt
  have ledger := ((Ledger.run run).prune pruned later).advance ordered.1
  have entitled := ledger.entitles_iff le_rfl owner transferId ticket
  obtain ⟨result, after, returned⟩ : ∃ result after,
      redeem inner owner transferId ticket pruneAt checkAt accessAt = (result, after) :=
    ⟨_, _, rfl⟩
  have step := redeemBody_step goodPruned.sound.books returned
  rw [returned, ← entitled]
  cases step with
  | refused denied notEvicted =>
      refine ⟨⟨by simp, fun entitles => absurd entitles denied⟩, by simp, ?_, ?_⟩
      · simpa using notEvicted
      · exact fun _ _ => pruned
  | @redeemed ticketEntry entry outstanding sameId sameOwner future present owns =>
      have known := goodPruned.addressed free _ entry present
      refine ⟨⟨fun _ => ⟨ticketEntry, outstanding, sameId, sameOwner, future⟩,
        fun _ => ⟨_, rfl⟩⟩, ?_, by simp, by simp⟩
      intro blob same
      cases same
      exact ⟨known.2 owner owns, ticketEntry, ledger.recorded ticket ticketEntry outstanding,
        sameOwner, sameId, known.1⟩

/-- One device stores a blob and draws a ticket for it.  Newest call first. -/
def issuedTicketCalls : List Call :=
  [ .issueTicket [1] [7, 8] 20 21 22
      { transferIds := [0, 5], tickets := [Vector.replicate 32 9], nowMs := 1000 },
    .insert [1] [7, 8] "text/plain" 10 11 ]

/-- Redeeming the drawn ticket: all four results at one concrete call. -/
theorem redeem_ok_iff_outstanding_drawn :
    ∃ history inner,
      replay transparentDigest issuedTicketCalls = some (history, 22, inner) ∧
      ((∃ blob, (redeem inner [1] 5 (List.replicate 32 9) 30 31 32).1 = .ok blob) ↔
        ∃ entry, Outstanding history (List.replicate 32 9) entry ∧ entry.owner = [1] ∧
          entry.transferId = 5 ∧ 31 < entry.expiresAt) ∧
      (∀ blob, (redeem inner [1] 5 (List.replicate 32 9) 30 31 32).1 = .ok blob →
        InsertedBy history [1] blob.bytes ∧
        ∃ entry, Outstanding history (List.replicate 32 9) entry ∧ entry.owner = [1] ∧
          entry.transferId = 5 ∧ transparentDigest.sha256 blob.bytes = entry.blobId) ∧
      (redeem inner [1] 5 (List.replicate 32 9) 30 31 32).1 ≠ .error "blob was evicted" ∧
      (∀ message, (redeem inner [1] 5 (List.replicate 32 9) 30 31 32).1 = .error message →
        Pruned 30 inner (redeem inner [1] 5 (List.replicate 32 9) 30 31 32).2) := by
  have played : (replay transparentDigest issuedTicketCalls).map (fun result => result.2.1) =
      some 22 := by decide
  obtain ⟨⟨history, clock, inner⟩, found, rfl⟩ := Option.map_eq_some_iff.mp played
  exact ⟨history, inner, found, redeem_ok_iff_outstanding (Run.of_replay found)
    (CollisionFree.of_injective Function.injective_id history) [1] 5 (List.replicate 32 9)
    (by decide) (by decide)⟩

end ArcRelay.BlobStore
