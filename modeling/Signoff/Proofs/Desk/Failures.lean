import Mathlib
import Signoff.Proofs.Desk.Rows
import Signoff.Proofs.Desk.Trail
import Signoff.Proofs.Execution.Webhook

/-!
What a proposal says of how it ended. Its status, its error and the time of the decision are written
by different changes, and every change writes the error anew; yet at each step a proposal has an
error just when it has failed, and a time of decision just when it is no longer pending.
-/

namespace Signoff

open Store

/-- What a row says of its proposal: where it stands, why it failed, and when it was decided on. -/
structure Store.ProposalRow.Says (r : ProposalRow) (status : Status)
    (error decidedAt : Option String) : Prop where
  status : r.status = .text status.name
  error : r.error = .ofText? error
  decidedAt : r.decidedAt = .ofText? decidedAt

/-- A row with an error just when its proposal has failed, and with a time of decision just when it
is no longer pending. -/
def Store.ProposalRow.Coherent (r : ProposalRow) : Prop :=
  ∃ status error decidedAt, r.Says status error decidedAt ∧
    (error.isSome = true ↔ status = .failed) ∧ (decidedAt.isSome = true ↔ status ≠ .pending)

/-- A change that brings an error just when the proposal fails by it, and a time of decision when
the proposal was pending. -/
structure Store.Transition.Coherent (t : Transition) : Prop where
  error : t.error.isSome = true ↔ t.target = .failed
  decidedAt : t.source = .pending → t.decidedAt.isSome = true
  onward : t.target ≠ .pending

/-- What a call under way will write down is coherent: outcomes, and proposals that are new. -/
def Call.Coherent : Call → Prop
  | .review (.settle _ _ o) => o.Coherent
  | .review (.renew p) => p.status = .pending ∧ p.error = none ∧ p.decidedAt = none
  | _ => True

variable {d : Desk} {m : Moment} {c : Call} {r : ProposalRow} {t : Transition}

/-! ### One row -/

theorem coherent_ofProposal {p : Proposal}
    (h : p.status = .pending ∧ p.error = none ∧ p.decidedAt = none) :
    (ProposalRow.ofProposal p).Coherent := by
  obtain ⟨hstatus, herror, hdecided⟩ := h
  refine ⟨.pending, none, none, ⟨?_, ?_, ?_⟩, by simp, by simp⟩
  · rw [ProposalRow.ofProposal, hstatus]
  · rw [ProposalRow.ofProposal, herror]
  · rw [ProposalRow.ofProposal, hdecided]
    rfl

/-- A change puts its own error in the place of the old one, and keeps a time of decision for which
it has none itself. -/
theorem Store.ProposalRow.Says.apply {status : Status} {error decidedAt : Option String}
    (h : r.Says status error decidedAt) (t : Transition) : (r.apply t).Says t.target t.error
      ((t.decidedAt.map (·.sortableText)).or decidedAt) := by
  refine ⟨rfl, rfl, ?_⟩
  rw [ProposalRow.apply, h.decidedAt]
  cases t.decidedAt <;> rfl

theorem Store.ProposalRow.Coherent.after (h : r.Coherent) (ht : t.Coherent) :
    (r.after t).Coherent := by
  unfold ProposalRow.after
  split
  · next happlies =>
    obtain ⟨status, error, decidedAt, htells, -, hdecided⟩ := h
    have hsource : t.source = status :=
      eq_of_name ((appliesTo_iff.mp happlies).2.symm.trans htells.status)
    refine ⟨_, _, _, htells.apply t, ht.error, ?_⟩
    have hsome : ((t.decidedAt.map (·.sortableText)).or decidedAt).isSome = true := by
      rw [Option.isSome_or, Option.isSome_map, Bool.or_eq_true]
      by_cases hpending : t.source = .pending
      · exact .inl (ht.decidedAt hpending)
      · exact .inr (hdecided.mpr (hsource ▸ hpending))
    exact iff_of_true hsome ht.onward
  · exact h

/-- An optional column that can be read has a value when it has a text. -/
theorem isSome_of_readOptional {α : Type} {read : String → Except Store.Error α} {s : Option String}
    {a : Option α} (h : readOptional read (.ofText? s) = .ok a) : a.isSome = s.isSome := by
  rw [readOptional, text?_ofText?] at h
  cases s with
  | none =>
    cases h
    rfl
  | some s =>
    dsimp only at h
    cases hread : read s with
    | error e =>
      rw [hread] at h
      cases h
    | ok b =>
      rw [hread] at h
      cases h
      rfl

/-- What is read from a coherent row is coherent. -/
theorem Store.ProposalRow.Coherent.of_reads (h : r.Coherent) {p : Proposal} (hp : r.Reads p) :
    (p.error.isSome = true ↔ p.status = .failed) ∧
      (p.decidedAt.isSome = true ↔ p.status ≠ .pending) := by
  obtain ⟨status, error, decidedAt, htells, herror, hdecided⟩ := h
  have hstatus : p.status = status := eq_of_name (hp.status.symm.trans htells.status)
  refine ⟨?_, ?_⟩
  · rw [hp.error, htells.error, text?_ofText?, hstatus]
    exact herror
  · rw [hstatus, ← hdecided, isSome_of_readOptional (htells.decidedAt ▸ hp.decidedAt)]

/-! ### One step -/

theorem coherent_of_tries? (h : c.Coherent) (ht : c.tries? m = some t) : t.Coherent := by
  cases Call.tries_of_eq ht with
  | claim id reviewer => exact ⟨by simp [Review.claim], fun _ => rfl, by simp [Review.claim]⟩
  | ending p reviewer o =>
    have ho : o.success = true ↔ o.error = none := h
    refine ⟨?_, fun hsource => (nomatch hsource), ?_⟩
    · simp only [Review.ending, Review.statusOf]
      cases hsuccess : o.success <;> simp_all [Option.isSome_iff_ne_none]
    · simp only [Review.ending, Review.statusOf]
      split <;> decide
  | rejection p reviewer reason =>
    exact ⟨by simp [Review.rejection], fun _ => rfl, by simp [Review.rejection]⟩

theorem new_of_adds? (h : c.Coherent) {p : Proposal} (ha : c.adds? m = some p) :
    p.status = .pending ∧ p.error = none ∧ p.decidedAt = none := by
  cases Call.adds_of_eq ha with
  | renewed p => exact h
  | matched hx xs now r => exact ⟨rfl, rfl, rfl⟩

theorem rows_coherent_step (su : Setup) (hr : d.store.Ready)
    (h : ∀ r ∈ d.store.proposals, r.Coherent) (hc : c.Coherent) :
    ∀ r ∈ (c.step su m d).2.store.proposals, r.Coherent := by
  rcases rows_step (m := m) su hr c with hp | ⟨t, ht, hp⟩ | ⟨p, ha, -, hp⟩
  · rwa [hp]
  · intro r hmem
    rw [hp, changed, List.mem_map] at hmem
    obtain ⟨r, hmem, rfl⟩ := hmem
    exact (h r hmem).after (coherent_of_tries? hc ht)
  · intro r hmem
    rw [hp, List.mem_append, List.mem_singleton] at hmem
    rcases hmem with hmem | rfl
    · exact h r hmem
    · exact coherent_ofProposal (new_of_adds? hc ha)

theorem coherent_step (su : Setup) (hsu : su.registry.Stock) (hr : d.store.Ready)
    (hc : c.Coherent) : (c.step su m d).1.Coherent := by
  rcases c with r | i | a | q | q
  · have hleads := leads_step (m := m) su.registry hr r
    cases r with
    | carryOut p reviewer => exact Registry.coherent_execute hsu _ _ _
    | _ =>
      simp only [Call.step]
      generalize (Review.step su.registry m d _).1 = r' at *
      cases hleads <;> trivial
  all_goals trivial

theorem coherent_of_isStart (h : c.isStart = true) : c.Coherent := by
  rcases c with r | i | a | q | q
  · cases r <;> trivial
  all_goals trivial

/-! ### Whole runs -/

theorem rows_coherent_run {t : Traffic} (hr : t.desk.store.Ready)
    (h : ∀ r ∈ t.desk.store.proposals, r.Coherent) (hc : ∀ c ∈ t.calls, c.Coherent)
    {turns : List Turn} (hturns : ∀ x ∈ turns, x.setup.registry.Stock) :
    ∀ r ∈ (t.run turns).desk.store.proposals, r.Coherent := by
  refine (run_keeps (I := fun d => d.store.Ready ∧ ∀ r ∈ d.store.proposals, r.Coherent) ?_
    ⟨hr, h⟩ hc hturns).1.2
  rintro x c d hx ⟨hr, h⟩ hc
  have hready := ready_effect hr (effect_step (m := x.moment) x.setup c)
  exact ⟨⟨hready, rows_coherent_step x.setup hr h hc⟩, coherent_step x.setup hx hr hc⟩

/-- An action that was not carried out has an error, and one that was carried out has none,
whichever of the handlers there is, whatever comes back from the web, and also when there is no
handler or it breaks down or takes too long. So at each step of any calls on a desk that was empty,
a proposal has an error just when it has failed, and a time of decision just when it is no longer
pending. An answer from the web is a success just when its code is one of success and its text is no
object that denies it, and what can be read of the text is kept. -/
theorem error_iff_failed :
    (∀ reg : Registry, reg.Stock → ∀ actionType params record,
      let o := reg.execute actionType params record
      o.success = true ↔ o.error = none) ∧
    (∀ (calls : List Call) (turns : List Turn), (∀ c ∈ calls, c.isStart = true) →
      (∀ x ∈ turns, x.setup.registry.Stock) →
      ∀ r ∈ ((⟨.empty, calls⟩ : Traffic).run turns).desk.store.proposals,
        r.Coherent ∧ ∀ p, r.read = .ok p →
          (p.error.isSome = true ↔ p.status = .failed) ∧
          (p.decidedAt.isSome = true ↔ p.status ≠ .pending)) ∧
    ∀ reply : Webhook.Reply, let o := Webhook.outcome (some reply)
      (o.success = true ↔ (200 ≤ reply.status ∧ reply.status ≤ 299) ∧
        ¬ ∃ members, Json.parse? reply.content = some (.obj members) ∧
          Json.Object.get? members "success" = some (.bool false)) ∧
      o.response = Json.parse? reply.content := by
  refine ⟨fun reg h => Registry.coherent_execute h, ?_, Webhook.outcome_some⟩
  intro calls turns hstart hturns r hr
  have hrow := rows_coherent_run (t := ⟨.empty, calls⟩) ready_empty (fun _ h => nomatch h)
    (fun c hc => coherent_of_isStart (hstart c hc)) hturns r hr
  exact ⟨hrow, fun p hp => hrow.of_reads (read_ok.mp hp)⟩

/-- An answer that comes with a good code and says that nothing was done, for use in examples. -/
def declining : Handler :=
  answering "\x7b\"success\": false, \"error\": \"mailbox is full\"\x7d"

theorem error_iff_failed_sample :
    (∀ c ∈ sampleApproval, c.isStart = true) ∧
      (∀ x ∈ dayWith declining, x.setup.registry.Stock) ∧
      (eveningWith declining).desk.store.proposals.map (·.error) = [.text "mailbox is full"] ∧
      ∀ r ∈ (eveningWith declining).desk.store.proposals, ∀ p, r.read = .ok p →
        (p.error.isSome = true ↔ p.status = .failed) ∧
        (p.decidedAt.isSome = true ↔ p.status ≠ .pending) := by
  have hstart : ∀ c ∈ sampleApproval, c.isStart = true := by decide
  have hstock : ∀ x ∈ dayWith declining, x.setup.registry.Stock :=
    fun x hx => (web_dayWith _ x hx).stock
  refine ⟨hstart, hstock, by decide +kernel, fun r hr => ?_⟩
  rw [eveningWith] at hr
  exact (error_iff_failed.2.1 sampleApproval (dayWith declining) hstart hstock r hr).2

end Signoff
