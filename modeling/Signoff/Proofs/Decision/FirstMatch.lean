import Mathlib
import Signoff.Decision
import Signoff.Proofs.Condition.Anomalies

/-!
The first match decides. Of the policies that are on, sure enough and true of a record, the one with
the least priority speaks for it, and of several with that priority the one with the least number;
what is counted on the way are the anomalies of that policy and of those before it. This says nothing
about the list that the policies come in, so the list makes no difference.
-/

namespace Signoff

/-- Whether a confidence is as much as is asked for. -/
def Floor.Allows (floor : Floor) (x : Double) : Prop :=
  match floor with
  | .negInfinity => True
  | .finite y => y.toInt ≤ x.toInt
  | .infinity => False

theorem Floor.exceeds_eq_false {floor : Floor} {x : Double} :
    floor.exceeds x = false ↔ floor.Allows x := by
  cases floor <;> simp [Floor.exceeds, Floor.Allows, Double.lt]

@[simp] theorem Floor.negInfinity_exceeds (x : Double) : Floor.negInfinity.exceeds x = false := rfl

namespace Policy

/-- The place of a policy in the order. -/
def key (p : Policy) : ℤ ×ₗ ℤ := toLex (p.body.priority, p.id)

theorem key_le_iff {p q : Policy} : p.key ≤ q.key ↔
    p.body.priority < q.body.priority ∨ (p.body.priority = q.body.priority ∧ p.id ≤ q.id) :=
  Prod.Lex.toLex_le_toLex

theorem before_iff {p q : Policy} : p.before q = true ↔ p.key ≤ q.key := by
  simp [before, key_le_iff]

theorem id_eq_of_key {p q : Policy} (h : p.key = q.key) : p.id = q.id :=
  congrArg (fun k => (ofLex k).2) h

/-- A policy that may speak: it is on, and sure enough. -/
structure Eligible (floor : Floor) (p : Policy) : Prop where
  enabled : p.body.enabled = true
  sure : floor.Allows p.body.confidence

/-- A policy that may speak and is true of what is seen of a record. -/
structure Matches (floor : Floor) (ctx : Context) (p : Policy) : Prop extends Eligible floor p where
  holds : p.body.condition.evaluate ctx = true

/-- The first of the policies that match. -/
structure IsFirst (floor : Floor) (ctx : Context) (ps : List Policy) (p : Policy) : Prop
    extends Matches floor ctx p where
  mem : p ∈ ps
  least : ∀ q ∈ ps, q.Matches floor ctx → p.key ≤ q.key

/-- A policy whose turn comes: no policy that matches is before it. -/
structure Tried (floor : Floor) (ctx : Context) (ps : List Policy) (p : Policy) : Prop
    extends Eligible floor p where
  mem : p ∈ ps
  least : ∀ q ∈ ps, q.Matches floor ctx → p.key ≤ q.key

/-- The first that matches is the one whose turn comes and that is true. -/
theorem isFirst_iff {floor : Floor} {ctx : Context} {ps : List Policy} {p : Policy} :
    IsFirst floor ctx ps p ↔ Tried floor ctx ps p ∧ p.body.condition.evaluate ctx = true := by
  constructor
  · intro h
    exact ⟨⟨h.toEligible, h.mem, h.least⟩, h.holds⟩
  · intro h
    exact ⟨⟨h.1.toEligible, h.2⟩, h.1.mem, h.1.least⟩

theorem eq_of_id {ps : List Policy} (hids : (ps.map (·.id)).Nodup) {p q : Policy} (hp : p ∈ ps)
    (hq : q ∈ ps) (h : p.id = q.id) : p = q :=
  List.inj_on_of_nodup_map hids hp hq h

theorem IsFirst.eq {floor : Floor} {ctx : Context} {ps : List Policy} {p q : Policy}
    (hids : (ps.map (·.id)).Nodup) (hp : IsFirst floor ctx ps p) (hq : IsFirst floor ctx ps q) :
    p = q := by
  have hkey : p.key = q.key :=
    le_antisymm (hp.least q hq.mem hq.toMatches) (hq.least p hp.mem hp.toMatches)
  exact eq_of_id hids hp.mem hq.mem (id_eq_of_key hkey)

/-- Policies with different numbers have different places. -/
theorem pairwise_key {ps : List Policy} (hsorted : ps.Pairwise fun p q => p.before q = true)
    (hids : (ps.map (·.id)).Nodup) : ps.Pairwise fun p q => p.key < q.key := by
  have hne : ps.Pairwise fun p q => p.id ≠ q.id := List.pairwise_map.mp hids
  refine (hsorted.and hne).imp ?_
  intro p q h
  apply lt_of_le_of_ne (before_iff.mp h.1)
  intro hkey
  exact h.2 (id_eq_of_key hkey)

theorem inForce_pairwise {ps : List Policy} (hids : (ps.map (·.id)).Nodup) :
    (inForce ps).Pairwise fun p q => p.key < q.key := by
  have hperm : (inForce ps).Perm (ps.filter (·.body.enabled)) := sorted_perm _
  have hsub : ((ps.filter (·.body.enabled)).map (·.id)).Nodup :=
    hids.sublist (List.filter_sublist.map _)
  exact pairwise_key (sorted_pairwise _) ((hperm.map _).nodup_iff.mpr hsub)

end Policy

/-- What a match takes over from a policy. -/
structure Match.Carries (f : Match) (recordId : String) (ctx : Context) (p : Policy) : Prop where
  record : f.record = .ofContext recordId ctx
  policyId : f.policyId = p.id
  policyName : f.policyName = p.body.name
  actionType : f.actionType = p.body.actionType
  params : f.params = p.body.params
  confidence : f.confidence = p.body.confidence
  rationale : f.rationale = Rationale.ofPolicy ctx p.body.name p.body.priority p.body.rationale

theorem Match.Carries.eq {f : Match} {recordId : String} {ctx : Context} {p : Policy}
    (h : f.Carries recordId ctx p) : f = .ofPolicy recordId ctx p := by
  obtain ⟨h1, h2, h3, h4, h5, h6, h7⟩ := h
  cases f
  cases h1; cases h2; cases h3; cases h4; cases h5; cases h6; cases h7
  rfl

namespace Decision

open Policy

/-- The anomalies of several policies together. -/
def anomaliesOf (ctx : Context) (ps : List Policy) : Trace :=
  Trace.sum (ps.map fun p => p.body.condition.anomalies ctx)

/-- The decision that the first match makes. -/
structure FirstMatch (floor : Floor) (recordId : String) (ctx : Context) (ps : List Policy)
    (x : Decision) : Prop where
  record : x.recordId = recordId
  matched : x.found.isSome = true ↔ ∃ p ∈ ps, p.Matches floor ctx
  first : ∀ f, x.found = some f → ∃ p, IsFirst floor ctx ps p ∧ f.Carries recordId ctx p
  trace : ∃ tried : List Policy, (tried.Pairwise fun p q => p.key < q.key) ∧
    (∀ p, p ∈ tried ↔ Tried floor ctx ps p) ∧ x.trace = anomaliesOf ctx tried

/-- The policies that are tried, in order: those that are on and sure enough. -/
def eligible (floor : Floor) (ps : List Policy) : List Policy :=
  (inForce ps).filter fun p => !floor.exceeds p.body.confidence

theorem mem_eligible {floor : Floor} {ps : List Policy} {p : Policy} :
    p ∈ eligible floor ps ↔ p ∈ ps ∧ p.Eligible floor := by
  rw [eligible, List.mem_filter, mem_inForce, Bool.not_eq_true', Floor.exceeds_eq_false]
  constructor
  · intro h
    exact ⟨h.1.1, h.1.2, h.2⟩
  · intro h
    exact ⟨⟨h.1, h.2.enabled⟩, h.2.sure⟩

/-- A policy below the floor is passed over without a look at its condition. -/
theorem scan_filter (floor : Floor) (ctx : Context) (ps : List Policy) (t : Trace) :
    scan floor ctx ps t =
      scan .negInfinity ctx (ps.filter fun p => !floor.exceeds p.body.confidence) t := by
  induction ps generalizing t with
  | nil => rfl
  | cons p rest ih =>
    rw [scan]
    cases hfloor : floor.exceeds p.body.confidence with
    | true =>
      rw [if_pos rfl, List.filter_cons_of_neg (by simp [hfloor])]
      exact ih t
    | false =>
      rw [if_neg Bool.false_ne_true, List.filter_cons_of_pos (by simp [hfloor]), scan,
        Floor.negInfinity_exceeds, if_neg Bool.false_ne_true]
      obtain ⟨holds, t'⟩ := p.body.condition.evaluateTraced ctx t
      cases holds with
      | true => rfl
      | false => exact ih t'

theorem anomaliesOf_cons (ctx : Context) (p : Policy) (ps : List Policy) (t : Trace) :
    (t.add (p.body.condition.anomalies ctx)).add (anomaliesOf ctx ps) =
      t.add (anomaliesOf ctx (p :: ps)) :=
  Trace.add_assoc _ _ _

/-- How trying policies one after the other ends: none of them is true, or the list splits at the
first one that is. -/
theorem scan_cases (ctx : Context) (ps : List Policy) (t : Trace) :
    ((∀ p ∈ ps, p.body.condition.evaluate ctx = false) ∧
      scan .negInfinity ctx ps t = (none, t.add (anomaliesOf ctx ps))) ∨
    ∃ before p after, ps = before ++ p :: after ∧ p.body.condition.evaluate ctx = true ∧
      (∀ q ∈ before, q.body.condition.evaluate ctx = false) ∧
      scan .negInfinity ctx ps t = (some p, t.add (anomaliesOf ctx (before ++ [p]))) := by
  -- what was counted before grows with each policy that is not true
  induction ps generalizing t with
  | nil =>
    left
    constructor
    · intro p hp
      cases hp
    · rfl
  | cons p rest ih =>
    rw [scan, Floor.negInfinity_exceeds, if_neg Bool.false_ne_true, Condition.evaluateTraced_eq]
    cases hp : p.body.condition.evaluate ctx with
    | true =>
      right
      refine ⟨[], p, rest, rfl, hp, ?_, rfl⟩
      intro q hq
      cases hq
    | false =>
      rcases ih (t.add (p.body.condition.anomalies ctx)) with
        ⟨hnone, hscan⟩ | ⟨before, q, after, hsplit, hq, hbefore, hscan⟩
      · left
        refine ⟨List.forall_mem_cons.mpr ⟨hp, hnone⟩, ?_⟩
        rw [← anomaliesOf_cons]
        exact hscan
      · right
        refine ⟨p :: before, q, after, ?_, hq, List.forall_mem_cons.mpr ⟨hp, hbefore⟩, ?_⟩
        · rw [hsplit, List.cons_append]
        · rw [List.cons_append, ← anomaliesOf_cons]
          exact hscan

section Split

variable {floor : Floor} {ctx : Context} {ps before after : List Policy} {p : Policy}
  (hids : (ps.map (·.id)).Nodup) (hsplit : eligible floor ps = before ++ p :: after)
  (hp : p.body.condition.evaluate ctx = true)
  (hbefore : ∀ q ∈ before, q.body.condition.evaluate ctx = false)

include hids hsplit

include hp hbefore

end Split

theorem FirstMatch.found_iff {floor : Floor} {recordId : String} {ctx : Context} {ps : List Policy}
    {x : Decision} (hids : (ps.map (·.id)).Nodup) (h : FirstMatch floor recordId ctx ps x)
    {f : Match} :
    x.found = some f ↔ ∃ p, IsFirst floor ctx ps p ∧ f = .ofPolicy recordId ctx p := by
  constructor
  · intro hf
    obtain ⟨p, hp, hcarries⟩ := h.first f hf
    exact ⟨p, hp, hcarries.eq⟩
  · rintro ⟨p, hp, rfl⟩
    have hsome : x.found.isSome = true := h.matched.mpr ⟨p, hp.mem, hp.toMatches⟩
    obtain ⟨g, hg⟩ := Option.isSome_iff_exists.mp hsome
    obtain ⟨q, hq, hcarries⟩ := h.first g hg
    rw [hg, hcarries.eq, hq.eq hids hp]

/-- A list that is in order has no choice but its members. -/
theorem eq_of_mem_iff {ps qs : List Policy} (hps : ps.Pairwise fun p q => p.key < q.key)
    (hqs : qs.Pairwise fun p q => p.key < q.key) (hmem : ∀ p, p ∈ ps ↔ p ∈ qs) : ps = qs := by
  have hne {p q : Policy} (h : p.key < q.key) : p ≠ q := by
    rintro rfl
    exact lt_irrefl _ h
  -- nothing stands twice in such a list, so that having the same members is being a permutation
  have hperm : ps.Perm qs :=
    (List.perm_ext_iff_of_nodup (hps.imp hne) (hqs.imp hne)).mpr hmem
  exact hperm.eq_of_pairwise (fun _ _ _ _ hlt hgt => absurd hlt (lt_asymm hgt)) hps hqs

/-- Lists of which the same policies have their turn have one decision. -/
theorem FirstMatch.unique {floor : Floor} {recordId : String} {ctx : Context} {ps qs : List Policy}
    {x y : Decision} (hps : (ps.map (·.id)).Nodup) (hqs : (qs.map (·.id)).Nodup)
    (hx : FirstMatch floor recordId ctx ps x) (hy : FirstMatch floor recordId ctx qs y)
    (htried : ∀ p, Tried floor ctx ps p ↔ Tried floor ctx qs p) : x = y := by
  have hrecord : x.recordId = y.recordId := hx.record.trans hy.record.symm
  have hfound : x.found = y.found := by
    -- the first match is the one whose turn comes and that is true, so it is common to both
    ext f
    simp only [hx.found_iff hps, hy.found_iff hqs, isFirst_iff, htried]
  have htrace : x.trace = y.trace := by
    obtain ⟨xs, hxs, hmem, htrace⟩ := hx.trace
    obtain ⟨ys, hys, hmem', htrace'⟩ := hy.trace
    have heq : xs = ys := by
      apply eq_of_mem_iff hxs hys
      intro p
      rw [hmem, hmem', htried]
    rw [htrace, htrace', heq]
  cases x
  cases y
  cases hrecord
  cases hfound
  cases htrace
  rfl

/-- A policy for examples: its number, its priority, whether it is on, how sure it is, and the field
that it looks at. -/
def samplePolicy (id priority : Int) (enabled : Bool) (confidence : Double) (field : FieldPath) :
    Policy :=
  ⟨id, ⟨"", priority, enabled, .leaf field (.eq (.str "promotions")), "archive", .obj [],
    confidence, ""⟩, ⟨2026, 60, 0, 0⟩, ⟨2026, 60, 0, 0⟩⟩

def categoryField : FieldPath := ⟨"category", by decide⟩

def riskField : FieldPath := ⟨"risk_score", by decide⟩

/-- The first would be number 2, but it is off, and then number 7, but it is not sure enough; number
5 misses its field, and numbers 9 and 4 have one priority. -/
def samplePolicies : List Policy :=
  [samplePolicy 9 5 true .one categoryField, samplePolicy 7 (-1) true .zero categoryField,
    samplePolicy 4 5 true .half categoryField, samplePolicy 2 (-3) false .one categoryField,
    samplePolicy 5 0 true .one riskField]

def sampleRecord : Record := ⟨"m-1", [("category", .str "promotions")]⟩

end Decision
end Signoff
