import Mathlib
import Signoff.Preview
import Signoff.Proofs.Decision.FirstMatch
import Signoff.Proofs.Policy.Draft

/-!
One policy more among others. It speaks where it matches and nothing that matches is before it; all
else is as it was without it. A policy that is tried out has the least of all numbers, and a policy
that is filed has the greatest: so the two speak for the same records, but for those where another
policy of their priority is the first of the others. There the one is before it, and the other after
it.
-/

namespace Signoff

namespace Policy

variable {floor : Floor} {ctx : Context} {ps qs : List Policy} {c filed p q : Policy}

/-- A policy ties with another: it matches, and has the priority of the other, which is the first of
the policies that match without it. -/
structure Ties (floor : Floor) (ctx : Context) (ps : List Policy) (c q : Policy) : Prop where
  holds : c.Matches floor ctx
  first : IsFirst floor ctx ps q
  level : q.body.priority = c.body.priority

section Numbers

variable (hlow : ∀ q ∈ ps, c.id ≤ q.id) (hhigh : ∀ q ∈ ps, q.id < filed.id)
  (hpriority : c.body.priority = filed.body.priority)

include hlow hhigh hpriority

end Numbers

end Policy

namespace Decision

open Policy

variable {floor : Floor} {ctx : Context} {ps : List Policy} {c q : Policy} {recordId : String}

end Decision

namespace Preview

/-- A preview as it reads when the policy that was tried out has a number. -/
def filedAs (id : Int) (v : Preview) : Preview :=
  { v with policyId := v.policyId.map fun n => if n = Policy.candidateId then id else n }

/-- A preview without the sign of a zero in it. -/
def unsigned (v : Preview) : Preview := { v with confidence := v.confidence.map (·.unsigned) }

/-- What a policy would propose for a record. -/
def ofPolicy (recordId : String) (ctx : Context) (p : Policy) : Preview :=
  .ofDecision ⟨recordId, some (.ofPolicy recordId ctx p), .zero⟩

/-- How what is shown of a record while a policy is tried out foretells what is shown once it is
filed under a number: it is the same but for the number; only where the policy ties with another, it
speaks itself while it is tried out, and the other speaks once it is filed. -/
structure Foretells (floor : Floor) (ctx : Context) (ps : List Policy) (c : Policy) (id : Int)
    (v v' : Preview) : Prop where
  alike : (∀ q, ¬Policy.Ties floor ctx ps c q) → (v.filedAs id).unsigned = v'.unsigned
  tied : ∀ q, Policy.Ties floor ctx ps c q → v.policyId = some c.id ∧ v'.policyId = some q.id

end Preview

namespace Decision

open Policy

end Decision

end Signoff
