import Mathlib
import Signoff.Proofs.Store.Frame
import Signoff.Proofs.Store.Storable

/-!
What a decision knows of the proposal that it is about. It was read from the row of the proposal, and
in the columns that it was read from the row stays as it is, so what was known goes on to hold,
whatever is done to the store in between.
-/

namespace Signoff.Store

open Json

/-- A row has what somebody who decides knows of a proposal, in the columns that decisions leave
alone. -/
structure ProposalRow.Describes (r : ProposalRow) (p : Proposal) : Prop where
  id : r.isOf p.id = true
  recordId : r.recordId = .text p.recordId
  summary : ∃ s v, r.summary = .text s ∧ parse? s = some v ∧ p.summary = summaryOf v
  actionType : r.actionType = .text p.actionType
  params : ∃ s, r.params = .text s ∧ parse? s = some p.params
  policyId : p.policyId = r.policyId.integer?
  confidence : r.confidence = .real p.confidence
  rationale : r.rationale = .text p.rationale

theorem ProposalRow.Reads.describes {r : ProposalRow} {p : Proposal} {id : Uuid} (h : r.Reads p)
    (hid : r.isOf id = true) : r.Describes p :=
  ⟨h.id_eq hid ▸ hid, h.recordId, h.summary, h.actionType, h.params, h.policyId, h.confidence,
    h.rationale⟩

theorem ProposalRow.Follows.describes {R : Cell → Cell → Prop} {r r' : ProposalRow} {p : Proposal}
    (h : r.Follows R r') (hd : r.Describes p) : r'.Describes p := by
  -- the earlier row is the later one but for the decision, of which nothing is described
  rw [← h.fixed] at hd
  exact ⟨hd.id, hd.recordId, hd.summary, hd.actionType, hd.params, hd.policyId, hd.confidence,
    hd.rationale⟩

/-- Two proposals that a row describes differ in their decisions at most. -/
theorem ProposalRow.Describes.eq {r : ProposalRow} {p q : Proposal} (hp : r.Describes p)
    (hq : r.Describes q) :
    q = { p with status := q.status, created := q.created, decidedAt := q.decidedAt
                 decidedBy := q.decidedBy, error := q.error, retryOf := q.retryOf } := by
  -- a cell has one value, and a text one reading
  have hid : q.id = p.id := eq_of_isOf hq.id hp.id
  have hrecordId : q.recordId = p.recordId := Cell.text.inj (hq.recordId.symm.trans hp.recordId)
  have hsummary : q.summary = p.summary := by
    obtain ⟨s, v, hs, hv, hsum⟩ := hp.summary
    obtain ⟨s', v', hs', hv', hsum'⟩ := hq.summary
    rw [hs, Cell.text.injEq] at hs'
    rw [← hs', hv, Option.some.injEq] at hv'
    rw [hsum', hsum, hv']
  have hactionType : q.actionType = p.actionType :=
    Cell.text.inj (hq.actionType.symm.trans hp.actionType)
  have hparams : q.params = p.params := by
    obtain ⟨s, hs, hv⟩ := hp.params
    obtain ⟨s', hs', hv'⟩ := hq.params
    rw [hs, Cell.text.injEq] at hs'
    rw [← hs', hv, Option.some.injEq] at hv'
    exact hv'.symm
  have hpolicyId : q.policyId = p.policyId := hq.policyId.trans hp.policyId.symm
  have hconfidence : q.confidence = p.confidence :=
    Cell.real.inj (hq.confidence.symm.trans hp.confidence)
  have hrationale : q.rationale = p.rationale := Cell.text.inj (hq.rationale.symm.trans hp.rationale)
  cases q
  simp_all

theorem ProposalRow.Describes.legible {r : ProposalRow} {p : Proposal} (h : r.Describes p) :
    Legible p.params := by
  obtain ⟨s, -, hs⟩ := h.params
  exact fits_of_parse? hs

/-- A row of the store describes a proposal. -/
def Describes (s : Store) (p : Proposal) : Prop := ∃ r ∈ s.proposals, r.Describes p

theorem Grows.describes {R : Cell → Cell → Prop} {s s' : Store} {p : Proposal} (h : Grows R s s')
    (hd : s.Describes p) : s'.Describes p := by
  obtain ⟨r, hr, hdescribes⟩ := hd
  obtain ⟨i, hi⟩ := List.mem_iff_getElem?.mp hr
  obtain ⟨r', hi', hfollows⟩ := h.proposals i r hi
  exact ⟨r', List.mem_of_getElem? hi', hfollows.describes hdescribes⟩

/-- Zeros among the confidences have no sign, as cells have it. -/
def Rounded (s : Store) : Prop := ∀ r ∈ s.proposals, ∃ x, r.confidence = .ofDouble x

theorem ofDouble_of_ofDouble {x y : Double} (h : Cell.ofDouble x = .real y) :
    Cell.ofDouble y = .real y := by
  unfold Cell.ofDouble at h ⊢
  cases h
  split_ifs <;> rfl

theorem Rounded.confidence {s : Store} (h : s.Rounded) {p : Proposal} (hd : s.Describes p) :
    Cell.ofDouble p.confidence = .real p.confidence := by
  obtain ⟨r, hr, hdescribes⟩ := hd
  obtain ⟨x, hx⟩ := h r hr
  exact ofDouble_of_ofDouble (hx.symm.trans hdescribes.confidence)

end Signoff.Store
