import Signoff.Policy.Basic

/-!
The order in which policies are tried: by priority, and by number among those of one priority.
-/

namespace Signoff.Policy

/-- Whether a policy may come before another. -/
def before (p q : Policy) : Bool :=
  p.body.priority < q.body.priority || (p.body.priority == q.body.priority && p.id ≤ q.id)

/-- Policies in order. -/
def sorted (ps : List Policy) : List Policy := ps.mergeSort before

/-- The policies that are tried, in order. -/
def inForce (ps : List Policy) : List Policy := sorted (ps.filter (·.body.enabled))

theorem before_total (p q : Policy) : (p.before q || q.before p) = true := by
  simp only [before, Bool.or_eq_true, Bool.and_eq_true, decide_eq_true_eq, beq_iff_eq]
  omega

theorem before_trans (p q r : Policy) (h : p.before q = true) (k : q.before r = true) :
    p.before r = true := by
  simp only [before, Bool.or_eq_true, Bool.and_eq_true, decide_eq_true_eq, beq_iff_eq] at *
  omega

theorem sorted_perm (ps : List Policy) : (sorted ps).Perm ps := List.mergeSort_perm ps before

theorem sorted_pairwise (ps : List Policy) : (sorted ps).Pairwise (before · ·) :=
  List.pairwise_mergeSort before_trans before_total ps

theorem mem_inForce {ps : List Policy} {p : Policy} :
    p ∈ inForce ps ↔ p ∈ ps ∧ p.body.enabled = true := by
  rw [inForce, (sorted_perm _).mem_iff, List.mem_filter]

end Signoff.Policy
