import Mathlib
import Signoff.Proofs.Desk.Trail

/-!
What entries say is so. An entry is made out of the proposal as its call knows it, and the row of the
proposal is changed by other statements than the entry; yet the two agree when both are written, in
what was proposed, in who decided, and in how it ended, and from then on neither is touched.
-/

namespace Signoff

open Store

/-- An entry says of a proposal what its row says. -/
structure Attests (start : List Call) (p : Proposal) (e : Audit.Entry) : Prop where
  proposalId : e.proposalId = some p.id
  actionType : e.actionType = p.actionType
  policyId : e.policyId = p.policyId
  confidence : e.confidence = p.confidence
  rationale : e.rationale = p.rationale
  evidence : e.evidence = some p.recordId
  outcome : e.outcome = p.status
  actor : e.actor = .ofReviewer p.decidedBy
  final : p.status.isFinal = true
  carriedOut : p.status = .executed ∨ p.status = .failed → ∃ response, e.payload =
    .obj [("error", .ofText? p.error), ("params", p.params), ("response", response),
      ("success", .bool (p.status = .executed))]
  rejected : p.status = .rejected → ∃ reviewer reason,
    .review (.reject p.id reviewer reason) ∈ start ∧ p.decidedBy = reviewer ∧
      e.payload = .obj [("reason", .ofText? reason)]

/-- The reviewer whom an approval under way names is the one in the row that it has claimed; a retry
names none. -/
def Call.Named (s : Store) : Call → Prop
  | .review (.tellApproved p reviewer) | .review (.carryOut p reviewer)
  | .review (.settle p reviewer _) => ∃ r ∈ s.proposals, r.isOf p.id = true ∧
    r.status ≠ .text Status.pending.name ∧ r.decidedBy = .ofText? reviewer
  | .review (.renew p) => p.decidedBy = none
  | _ => True

/-- Nobody has decided on what is pending. -/
def Store.Undecided (s : Store) : Prop :=
  ∀ r ∈ s.proposals, r.status = .text Status.pending.name → r.decidedBy = .null

variable {start : List Call} {past : List Turn} {t : Traffic} {x : Turn} {d : Desk} {m : Moment}
  {c : Call} {p q : Proposal} {e : Audit.Entry}

/-! ### Who decided -/

theorem undecided_step (su : Setup) (hr : d.store.Ready) (hnamed : c.Named d.store)
    (h : d.store.Undecided) : (c.step su m d).2.store.Undecided := by
  intro r' hmem hpending
  obtain ⟨i, hi⟩ := List.mem_iff_getElem?.mp hmem
  rcases row_origin su hr c hi with ⟨r, hi, hbecomes⟩ | ⟨p, ha, -, -, rfl⟩
  · have hsame := hbecomes.waiting hpending
    subst hsame
    exact h r' (List.mem_of_getElem? hi) hpending
  · -- a new proposal has no decision yet
    have hnone : p.decidedBy = none := by
      cases Call.adds_of_eq ha with
      | renewed p => exact hnamed
      | matched hx xs now r => rfl
    rw [ProposalRow.ofProposal, hnone]
    rfl

/-- Who decided stays on record, whatever other calls do. -/
theorem Call.Named.step {u : Call} (h : u.Named d.store) (su : Setup) (hr : d.store.Ready)
    (c : Call) : u.Named (c.step su m d).2.store := by
  -- once a proposal has left the queue, whoever decided stays on its row
  have hkept {id : Uuid} {reviewer : Option String} (h : ∃ r ∈ d.store.proposals, r.isOf id = true ∧
      r.status ≠ .text Status.pending.name ∧ r.decidedBy = .ofText? reviewer) :
      ∃ r ∈ (c.step su m d).2.store.proposals, r.isOf id = true ∧
        r.status ≠ .text Status.pending.name ∧ r.decidedBy = .ofText? reviewer := by
    obtain ⟨r, hmem, hid, hstatus, hreviewer⟩ := h
    obtain ⟨i, hi⟩ := List.mem_iff_getElem?.mp hmem
    obtain ⟨r', hi', hbecomes⟩ := row_kept (m := m) su hr c hi
    refine ⟨r', List.mem_of_getElem? hi', ?_, ?_, ?_⟩
    · rw [hbecomes.isOf, hid]
    · intro hpending
      have hsame := hbecomes.waiting hpending
      rw [hsame] at hpending
      exact hstatus hpending
    · rw [hbecomes.decided hstatus, hreviewer]
  rcases u with r | i | a | o | o
  · cases r with
    | tellApproved p reviewer => exact hkept h
    | carryOut p reviewer => exact hkept h
    | settle p reviewer o => exact hkept h
    | renew p => exact h
    | _ => trivial
  all_goals trivial

/-- A call that claims a proposal names the reviewer whom it has put into the row. -/
theorem named_of_claimed {id : Uuid} {reviewer : Option String} {s : Store} (hr : d.store.Ready)
    (hu : d.store.Undecided)
    (h : d.store.transition (Review.claim id reviewer m.now) = (.ok (some p), s)) :
    ∃ r ∈ s.proposals, r.isOf p.id = true ∧ r.status ≠ .text Status.pending.name ∧
      r.decidedBy = .ofText? reviewer := by
  obtain ⟨-, -, ⟨r, hrow, hstatus, hread⟩, rfl⟩ := transition_some hr.toKeyed h
  obtain ⟨hmem, hisOf⟩ := row_changed hrow hstatus
  have hnobody : r.decidedBy = .null := hu r (mem_of_rowOf hrow).1 hstatus
  refine ⟨r.apply (Review.claim id reviewer m.now), hmem, ?_, ?_, ?_⟩
  · rw [(read_ok.mp hread).id_eq hisOf]
    exact hisOf
  · intro hpending
    have hname : Status.approved = .pending := eq_of_name hpending
    cases hname
  · cases reviewer with
    | none => exact hnobody
    | some name => rfl

theorem named_step (su : Setup) (hr : d.store.Ready) (hu : d.store.Undecided) (h : c.Named d.store) :
    (c.step su m d).1.Named (c.step su m d).2.store := by
  rcases c with r | i | a | o | o
  · have hleads := leads_step (m := m) su.registry hr r
    -- the claim puts the reviewer into the row, and the next two steps pass the name on
    cases r with
    | approve id reviewer =>
      simp only [Call.step, Review.step]
      split
      · trivial
      · trivial
      · next p d' ht =>
        exact named_of_claimed hr hu (Desk.of_on ht)
    | tellApproved p reviewer => exact h
    | carryOut p reviewer => exact h
    | _ =>
      -- the others lead to a retry, which names nobody, or to a call that need not know
      simp only [Call.step]
      generalize (Review.step su.registry m d _).1 = r' at *
      cases hleads <;> trivial
  all_goals trivial

/-! ### What is written -/

/-- An entry made out of what a call knows of a proposal attests what is read from its row. -/
theorem attests_ofProposal {r : ProposalRow} {id : Uuid} {payload : Json} {now : Instant}
    (hp : r.Describes p) (hq : r.Describes q) (hfinal : q.status.isFinal = true)
    (hcarried : q.status = .executed ∨ q.status = .failed → ∃ response, payload =
      .obj [("error", .ofText? q.error), ("params", p.params), ("response", response),
        ("success", .bool (q.status = .executed))])
    (hrejected : q.status = .rejected → ∃ reviewer reason,
      .review (.reject p.id reviewer reason) ∈ start ∧ q.decidedBy = reviewer ∧
        payload = .obj [("reason", .ofText? reason)]) :
    Attests start q (.ofProposal id p (.ofReviewer q.decidedBy) q.status payload now) := by
  have heq := hq.eq hp
  rw [heq] at hcarried hrejected ⊢
  exact ⟨rfl, rfl, rfl, rfl, rfl, rfl, rfl, rfl, hfinal, hcarried, hrejected⟩

/-- What a call knows of a proposal is said by the row that the call changes, as identifiers are
unique. -/
theorem describes_changed {r : ProposalRow} {t : Transition} (hr : d.store.Ready)
    (hrow : d.store.rowOf p.id = some r) (h : d.store.Describes p) : (r.apply t).Describes p := by
  obtain ⟨u, hu, hdescribes⟩ := h
  rw [hr.toKeyed.rowOf_eq hu hdescribes.id, Option.some.injEq] at hrow
  subst hrow
  exact ⟨hdescribes.id, hdescribes.recordId, hdescribes.summary, hdescribes.actionType,
    hdescribes.params, hdescribes.policyId, hdescribes.confidence, hdescribes.rationale⟩

/-- The end of an execution names no reviewer, so the row still has the one of the claim. -/
theorem attests_ending {r : ProposalRow} {reviewer : Option String} {o : Outcome}
    (hr : d.store.Ready) (hrow : d.store.rowOf p.id = some r) (hisOf : r.isOf p.id = true)
    (hreads : (r.apply (Review.ending p.id o)).Reads q) (hp : d.store.Describes p)
    (hnamed : Call.Named d.store (.review (.settle p reviewer o))) :
    Attests start q (.ofExecution m.fresh p (.ofReviewer reviewer) o m.now) := by
  -- the reviewer is the one of the claim, which the row has kept
  have hreviewer : q.decidedBy = reviewer := by
    obtain ⟨u, hu, hid, -, hdecided⟩ := hnamed
    rw [hr.toKeyed.rowOf_eq hu hid, Option.some.injEq] at hrow
    have hkept : (r.apply (Review.ending p.id o)).decidedBy = r.decidedBy := rfl
    rw [hreads.decidedBy, hkept, ← hrow, hdecided, text?_ofText?]
  have hstatus : q.status = Review.statusOf o := hreads.status_eq rfl
  have hended : q.status = .executed ∨ q.status = .failed := by
    rw [hstatus]
    exact statusOf_final o
  have houtcome : (if o.success then Status.executed else .failed) = q.status := hstatus.symm
  rw [Audit.Entry.ofExecution, houtcome, ← hreviewer]
  apply attests_ofProposal (describes_changed hr hrow hp) (hreads.describes hisOf)
  · rcases hended with h | h <;> rw [h] <;> rfl
  · intro _
    have hsuccess : o.success = (q.status = .executed : Bool) := by
      rw [← houtcome]
      cases o.success <;> rfl
    have herror : q.error = o.error := hreads.error.trans (text?_ofText? o.error)
    refine ⟨o.response.getD .null, ?_⟩
    rw [herror, ← hsuccess]
    exact @Audit.Entry.payload_ofExecution m.fresh p (.ofReviewer q.decidedBy) o m.now
  · intro h
    rw [h] at hended
    rcases hended with h | h <;> cases h

/-- A rejection is the decision itself, on a proposal that nobody has decided on. -/
theorem attests_rejection {r : ProposalRow} {reviewer reason : Option String}
    (hr : d.store.Ready) (hrow : d.store.rowOf p.id = some r) (hisOf : r.isOf p.id = true)
    (hnobody : r.decidedBy = .null)
    (hreads : (r.apply (Review.rejection p.id reviewer m.now)).Reads q)
    (hp : d.store.Describes p) (hasked : .review (.reject p.id reviewer reason) ∈ start) :
    Attests start q (.ofRejection m.fresh p (.ofReviewer reviewer) reason m.now) := by
  -- a rejection without a name keeps what the row says, and that is nobody
  have hreviewer : q.decidedBy = reviewer := by
    rw [hreads.decidedBy]
    cases reviewer with
    | none =>
      have hkept : (r.apply (Review.rejection p.id none m.now)).decidedBy = r.decidedBy := rfl
      rw [hkept, hnobody]
      rfl
    | some name => rfl
  have hrejected : Status.rejected = q.status := (hreads.status_eq rfl).symm
  rw [Audit.Entry.ofRejection, hrejected, ← hreviewer]
  apply attests_ofProposal (describes_changed hr hrow hp) (hreads.describes hisOf)
  · rw [← hrejected]
    rfl
  · rw [← hrejected]
    rintro (h | h) <;> cases h
  · intro _
    exact ⟨reviewer, reason, hasked, hreviewer, rfl⟩

/-- The entry and the row that are written by one step agree. -/
theorem attests_written {t : Transition} (hr : d.store.Ready) (hu : d.store.Undecided)
    (hnamed : c.Named d.store) (hknows : c.Knows start past d.store) (ht : c.tries? m = some t)
    (he : c.entry? m = some e) (hrecordable : d.store.Recordable t e) :
    ∃ r ∈ (d.store.changedWith t e).proposals, ∃ p, r.Reads p ∧ Attests start p e := by
  obtain ⟨r, q, hrow, hstatus, hread⟩ := hrecordable.row
  obtain ⟨hmem, hisOf⟩ := row_changed hrow hstatus
  refine ⟨r.apply t, hmem, q, read_ok.mp hread, ?_⟩
  cases Call.tries_of_eq ht with
  | claim id reviewer => cases he
  | ending p reviewer o =>
    cases he
    exact attests_ending hr hrow hisOf (read_ok.mp hread) hknows.2.1 hnamed
  | rejection p reviewer reason =>
    cases he
    have hnobody : r.decidedBy = .null := hu r (mem_of_rowOf hrow).1 hstatus
    exact attests_rejection hr hrow hisOf hnobody (read_ok.mp hread) hknows.2 hknows.1

/-! ### A whole run -/

/-- What every step keeps: approvals under way name the reviewers of the rows that they have claimed,
and each entry attests a proposal that came to its end. -/
structure Truthful (start : List Call) (past : List Turn) (t : Traffic) : Prop where
  chronicle : Chronicle start past t
  undecided : t.desk.store.Undecided
  named : ∀ c ∈ t.calls, c.Named t.desk.store
  ledger : ∃ entries : List Audit.Entry, t.desk.store.ledger = entries.map .ofEntry ∧
    ∀ e ∈ entries, ∃ r ∈ t.desk.store.proposals, ∃ p, r.Reads p ∧ Attests start p e

theorem truthful_step (h : Truthful start past t) (x : Turn) :
    Truthful start (past ++ [x]) (t.step x) := by
  have hchronicle := chronicle_step h.chronicle x
  cases hc : t.calls[x.who]? with
  | none =>
    rw [step_of_none hc] at hchronicle ⊢
    exact ⟨hchronicle, h.undecided, h.named, h.ledger⟩
  | some c =>
    have hr := h.chronicle.ready
    have hmem := List.mem_of_getElem? hc
    have hnamed := h.named c hmem
    rw [step_of_get hc] at hchronicle ⊢
    refine ⟨hchronicle, undecided_step x.setup hr hnamed h.undecided, ?_, ?_⟩
    · intro u hu
      rcases List.mem_or_eq_of_mem_set hu with hu | rfl
      · exact (h.named u hu).step x.setup hr c
      · exact named_step x.setup hr h.undecided hnamed
    · obtain ⟨entries, hledger, hentries⟩ := h.ledger
      -- a proposal that an entry attests is at its end, so its row is not touched any more
      have hkept : ∀ e ∈ entries, ∃ r ∈ (c.step x.setup x.moment t.desk).2.store.proposals,
          ∃ p, r.Reads p ∧ Attests start p e := by
        intro e he
        obtain ⟨r, hrow, p, hreads, hattests⟩ := hentries e he
        obtain ⟨i, hi⟩ := List.mem_iff_getElem?.mp hrow
        have hi' := row_ended x.setup hr c hattests.final hreads.status hi (m := x.moment)
        exact ⟨r, List.mem_of_getElem? hi', p, hreads, hattests⟩
      rcases ledger_cases x.setup hr c with hsame | ⟨t', e, ht, he, hrecordable, hstore⟩
      · exact ⟨entries, hsame.trans hledger, hkept⟩
      · refine ⟨entries ++ [e], ?_, ?_⟩
        · rw [hstore, List.map_append, ← hledger]
          rfl
        · intro f hf
          rcases List.mem_append.mp hf with hf | hf
          · exact hkept f hf
          · rw [List.mem_singleton.mp hf, hstore]
            exact attests_written hr h.undecided hnamed (h.chronicle.knows c hmem) ht he hrecordable

theorem truthful_start (hstart : ∀ c ∈ start, c.isStart = true) :
    Truthful start [] ⟨.empty, start⟩ := by
  refine ⟨chronicle_start hstart, fun r hr => (List.not_mem_nil hr).elim, ?_, [], rfl, ?_⟩
  · intro c hc
    have hbegins := hstart c hc
    rcases c with r | i | a | o | o
    · cases r <;> trivial
    all_goals trivial
  · intro e he
    cases he

theorem truthful_run (h : Truthful start past t) (turns : List Turn) :
    Truthful start (past ++ turns) (t.run turns) := by
  induction turns generalizing past t with
  | nil => rwa [List.append_nil]
  | cons x turns ih =>
    have hrest := ih (truthful_step h x)
    rwa [List.append_assoc] at hrest

/-- Whatever calls go on at once on a desk that was empty, in any order of their steps and with any
handlers: each entry that was written is about a stored proposal at its end, and says of it what is
read from its row. -/
theorem entries_tell_the_truth {calls : List Call} {turns : List Turn}
    (hstart : ∀ c ∈ calls, c.isStart = true) :
    ∀ t, t = (⟨.empty, calls⟩ : Traffic).run turns →
      ∃ entries : List Audit.Entry, t.desk.store.ledger = entries.map .ofEntry ∧
        ∀ e ∈ entries, ∃ r ∈ t.desk.store.proposals, ∃ p, r.read = .ok p ∧
          Attests calls p e := by
  rintro t rfl
  obtain ⟨entries, hledger, hentries⟩ := (truthful_run (truthful_start hstart) turns).ledger
  refine ⟨entries, hledger, ?_⟩
  intro e he
  obtain ⟨r, hr, p, hreads, hattests⟩ := hentries e he
  exact ⟨r, hr, p, read_ok.mpr hreads, hattests⟩

theorem entries_tell_the_truth_sample :
    (∀ c ∈ sampleApproval, c.isStart = true) ∧
      ∃ e, sampleEvening.desk.store.ledger = [.ofEntry e] ∧
        ∃ r ∈ sampleEvening.desk.store.proposals, ∃ p, r.read = .ok p ∧
          Attests sampleApproval p e := by
  have hstart : ∀ c ∈ sampleApproval, c.isStart = true := by decide
  have hone : sampleEvening.desk.store.ledger.length = 1 := by decide +kernel
  obtain ⟨entries, hledger, hentries⟩ := entries_tell_the_truth hstart sampleEvening rfl
  rw [hledger, List.length_map, List.length_eq_one_iff] at hone
  obtain ⟨e, rfl⟩ := hone
  exact ⟨hstart, e, hledger, hentries e (List.mem_singleton_self e)⟩

end Signoff
