import Mathlib
import Signoff.Proofs.Decision.FirstMatch
import Signoff.Proofs.Double.Rounding
import Signoff.Proofs.Policy.Draft
import Signoff.Proofs.Store.FailedWrites
import Signoff.Proofs.Store.Reading

/-!
Rows of policies and what reading them finds. `Reads` tells it column by column. Rows come in one
order, whatever their cells hold; among those that can be read it is the order of the policies. A row
that was written for a policy is read as that policy.
-/

namespace Signoff.Store

theorem integer?_eq_some {c : Cell} {n : Int} : c.integer? = some n ↔ c = .integer n := by
  cases c <;> simp [Cell.integer?]

/-- What reading a row finds in its columns. -/
structure PolicyRow.Reads (r : PolicyRow) (p : Policy) : Prop where
  id : p.id = r.id
  name : r.name = .text p.body.name
  priority : r.priority = .integer p.body.priority
  enabled : ∃ n, r.enabled = .integer n ∧ p.body.enabled = (n != 0)
  condition : ∃ s v, r.condition = .text s ∧ Json.parse? s = some v ∧
    Condition.ofJson v = .ok p.body.condition
  actionType : r.actionType = .text p.body.actionType
  params : ∃ s, r.params = .text s ∧ Json.parse? s = some p.body.params
  confidence : r.confidence = .real p.body.confidence
  rationale : r.rationale = .text p.body.rationale
  created : ∃ s, r.created = .text s ∧ Instant.ofRfc3339? s = some p.created
  updated : ∃ s, r.updated = .text s ∧ Instant.ofRfc3339? s = some p.updated

theorem readCondition_ok {id : Int} {s : String} {c : Condition} :
    PolicyRow.readCondition id s = .ok c ↔
      ∃ v, Json.parse? s = some v ∧ Condition.ofJson v = .ok c := by
  have hmap (r : Except Condition.Error Condition) :
      r.mapError (Error.badCondition id) = .ok c ↔ r = .ok c := by
    cases r <;> simp [Except.mapError]
  simp only [PolicyRow.readCondition, bind_ok, readJson_ok, hmap]

theorem readPolicy_ok {r : PolicyRow} {p : Policy} : r.read = .ok p ↔ r.Reads p := by
  simp only [PolicyRow.read, bind_ok, need_ok, readJson_ok, readInstant_ok, readCondition_ok,
    text?_eq_some, real?_eq_some, integer?_eq_some]
  constructor
  · rintro ⟨conditionText, hconditionText, condition, ⟨v, hv, hcondition⟩, paramsText, hparamsText,
      created, hcreated, updated, hupdated, name, hname, priority, hpriority, enabled, henabled,
      actionType, haction, params, hparams, confidence, hconfidence, rationale, hrationale, t, ht,
      u, hu, h⟩
    cases h
    exact ⟨rfl, hname, hpriority, ⟨enabled, henabled, rfl⟩,
      ⟨conditionText, v, hconditionText, hv, hcondition⟩, haction, ⟨paramsText, hparamsText, hparams⟩,
      hconfidence, hrationale, ⟨created, hcreated, ht⟩, ⟨updated, hupdated, hu⟩⟩
  · rintro ⟨hid, hname, hpriority, ⟨enabled, henabled, hon⟩,
      ⟨conditionText, v, hconditionText, hv, hcondition⟩, haction, ⟨paramsText, hparamsText, hparams⟩,
      hconfidence, hrationale, ⟨created, hcreated, ht⟩, ⟨updated, hupdated, hu⟩⟩
    refine ⟨conditionText, hconditionText, _, ⟨v, hv, hcondition⟩, paramsText, hparamsText, created,
      hcreated, updated, hupdated, _, hname, _, hpriority, enabled, henabled, _, haction, _, hparams,
      _, hconfidence, _, hrationale, _, ht, _, hu, ?_⟩
    rw [← hid, ← hon]
    rfl

theorem PolicyRow.Reads.unique {r : PolicyRow} {p q : Policy} (hp : r.Reads p) (hq : r.Reads q) :
    p = q := by
  have hread := readPolicy_ok.mpr hp
  rw [readPolicy_ok.mpr hq] at hread
  exact (Except.ok.inj hread).symm

theorem toOption_eq_some {r : PolicyRow} {p : Policy} :
    r.read.toOption = some p ↔ r.Reads p := by
  rw [← readPolicy_ok]
  cases r.read <;> simp [Except.toOption]

/-- Whether a row can be read. -/
def PolicyRow.isReadable (r : PolicyRow) : Bool := r.read.toOption.isSome

theorem PolicyRow.isReadable_iff {r : PolicyRow} : r.isReadable = true ↔ ∃ p, r.Reads p := by
  simp only [isReadable, Option.isSome_iff_exists, toOption_eq_some]

/-! ### Order -/

namespace Cell

/-- The text in a cell, if there is any. -/
def words : Cell → String
  | .text s => s
  | _ => ""

/-- The bytes in a cell, if there are any. -/
def octets : Cell → List Nat
  | .blob bytes => bytes.map (·.toNat)
  | _ => []

/-- Cells are compared by their kind, and then by what cells of that kind hold. -/
theorem compare_eq : Cell.compare = compareLex (compareOn rank)
    (compareLex (compareOn units) (compareLex (compareOn words) (compareOn octets))) := by
  funext a b
  have htext (s : String) : (text s).units = 0 := rfl
  -- cells of two kinds are told apart by their ranks, those of one kind by what they hold
  cases a <;> cases b <;> first
    | rfl
    | simp only [Cell.compare, compareLex, compareOn, words, octets, htext,
        Std.ReflCmp.compare_self, Ordering.then_eq, Ordering.eq_then]

theorem compare_integer (m n : Int) :
    (integer m).compare (integer n) = Ord.compare m n := by
  have hone : (0 : Int) < Double.oneUnits := Int.natCast_pos.mpr Double.oneUnits_pos
  simp only [Cell.compare, rank, units, Std.ReflCmp.compare_self, Ordering.eq_then]
  rcases lt_trichotomy m n with h | h | h
  · rw [compare_lt_iff_lt.mpr h, compare_lt_iff_lt]
    exact Int.mul_lt_mul_of_pos_right h hone
  · rw [h, compare_eq_iff_eq.mpr rfl, compare_eq_iff_eq.mpr rfl]
  · rw [compare_gt_iff_gt.mpr h, compare_gt_iff_gt]
    exact Int.mul_lt_mul_of_pos_right h hone

end Cell

namespace PolicyRow

/-- The order of rows: by priority, and by number among those of one priority. -/
def order : PolicyRow → PolicyRow → Ordering :=
  compareLex (compareOn (·.priority.rank)) (compareLex (compareOn (·.priority.units))
    (compareLex (compareOn (·.priority.words)) (compareLex (compareOn (·.priority.octets))
      (compareOn (·.id)))))

instance : Std.TransCmp order := inferInstanceAs (Std.TransCmp (compareLex _ _))

theorem order_eq (r t : PolicyRow) :
    order r t = (r.priority.compare t.priority).then (compare r.id t.id) := by
  simp only [order, Cell.compare_eq, compareLex, compareOn, Ordering.then_assoc]

theorem before_eq (r t : PolicyRow) : r.before t = (order r t).isLE := by
  rw [order_eq, before]
  cases r.priority.compare t.priority with
  | lt => rfl
  | gt => rfl
  | eq =>
    rw [Ordering.eq_then, Bool.eq_iff_iff, decide_eq_true_iff, Int.isLE_compare]

theorem before_trans (r t u : PolicyRow) (h : r.before t = true) (k : t.before u = true) :
    r.before u = true := by
  rw [before_eq] at *
  exact Std.TransCmp.isLE_trans h k

theorem before_total (r t : PolicyRow) : (r.before t || t.before r) = true := by
  have hswap : order t r = (order r t).swap := Std.OrientedCmp.eq_swap
  rw [before_eq, before_eq, hswap]
  cases order r t <;> rfl

/-- Rows that can be read come in the order of their policies. -/
theorem Reads.before {r t : PolicyRow} {p q : Policy} (hp : r.Reads p) (hq : t.Reads q) :
    r.before t = p.before q := by
  rw [PolicyRow.before, hp.priority, hq.priority, Cell.compare_integer, Policy.before, hp.id, hq.id]
  rcases lt_trichotomy p.body.priority q.body.priority with h | h | h
  · rw [compare_lt_iff_lt.mpr h]
    simp [h]
  · rw [compare_eq_iff_eq.mpr h]
    simp [h]
  · rw [compare_gt_iff_gt.mpr h]
    simp [h.not_gt, h.ne']

end PolicyRow

/-! ### Lists -/

/-- The rows that are listed. -/
def listedRows (s : Store) (enabledOnly : Bool) : List PolicyRow :=
  if enabledOnly then s.policies.filter (·.isOn) else s.policies

theorem listPolicies_eq {s : Store} (h : s.schema.has .policies = true) (enabledOnly : Bool) :
    s.listPolicies enabledOnly =
      .ok (((s.listedRows enabledOnly).mergeSort PolicyRow.before).filterMap (·.read.toOption)) := by
  simp only [listPolicies, requires, h, if_true, listedRows]
  rfl

/-- A switch is on when it is the number one, be it a whole number or not. -/
theorem isOn_of_reads {r : PolicyRow} {p : Policy} (h : r.Reads p) :
    r.isOn = true ↔ r.enabled = .integer 1 := by
  obtain ⟨n, hn, -⟩ := h.enabled
  rw [PolicyRow.isOn, hn, Cell.compare_integer, beq_iff_eq, compare_eq_iff_eq, Cell.integer.injEq]

theorem PolicyRow.isOn_ofBool {r : PolicyRow} {b : Bool} (h : r.enabled = .ofBool b) :
    r.isOn = b := by
  rw [isOn, h, Cell.ofBool, Cell.compare_integer]
  cases b <;> rfl

/-- Numbers stay as they are when rows are read, though some rows are left out. -/
theorem ids_sublist (rows : List PolicyRow) :
    ((rows.filterMap (·.read.toOption)).map (·.id)).Sublist (rows.map (·.id)) := by
  induction rows with
  | nil => exact .slnil
  | cons r rows ih =>
    cases hread : r.read.toOption with
    | none =>
      simp only [List.filterMap_cons, hread]
      exact ih.cons _
    | some p =>
      have hid : p.id = r.id := (toOption_eq_some.mp hread).id
      simp only [List.filterMap_cons, hread, List.map_cons, hid]
      exact ih.cons_cons _

theorem listedRows_sublist (s : Store) (enabledOnly : Bool) :
    (s.listedRows enabledOnly).Sublist s.policies := by
  unfold listedRows
  split
  · exact List.filter_sublist
  · exact .refl _

section Listed

variable {s : Store} {enabledOnly : Bool} {policies : List Policy}
  (hlist : s.listPolicies enabledOnly = .ok policies)

include hlist

/-- A list holds what can be read, each policy as often as there is a row of it. -/
theorem listed_perm :
    policies.Perm ((s.listedRows enabledOnly).filterMap (·.read.toOption)) := by
  cases h : s.schema.has .policies with
  | false => simp [listPolicies, requires, h, bind, Except.bind] at hlist
  | true =>
    rw [listPolicies_eq h, Except.ok.injEq] at hlist
    rw [← hlist]
    exact (List.mergeSort_perm _ _).filterMap _

theorem listed_pairwise : policies.Pairwise (Policy.before · ·) := by
  cases h : s.schema.has .policies with
  | false => simp [listPolicies, requires, h, bind, Except.bind] at hlist
  | true =>
    rw [listPolicies_eq h, Except.ok.injEq] at hlist
    rw [← hlist, List.pairwise_filterMap]
    have hsorted := List.pairwise_mergeSort PolicyRow.before_trans PolicyRow.before_total
      (s.listedRows enabledOnly)
    -- rows were sorted and then read, and policies compare as their rows do
    refine hsorted.imp fun {r t} hbefore p hp q hq => ?_
    rw [← (toOption_eq_some.mp hp).before (toOption_eq_some.mp hq)]
    exact hbefore

theorem mem_listed {p : Policy} :
    p ∈ policies ↔ ∃ r ∈ s.listedRows enabledOnly, r.Reads p := by
  rw [(listed_perm hlist).mem_iff, List.mem_filterMap]
  simp only [toOption_eq_some]

/-- With one row to a number a list has no choice of its order. -/
theorem listed_strict (hids : (s.policies.map (·.id)).Nodup) :
    policies.Pairwise fun p q => p.key < q.key := by
  have hsub : (((s.listedRows enabledOnly).filterMap (·.read.toOption)).map (·.id)).Sublist
      (s.policies.map (·.id)) :=
    (ids_sublist _).trans ((listedRows_sublist s enabledOnly).map _)
  have hnodup : (policies.map (·.id)).Nodup :=
    ((listed_perm hlist).map _).nodup_iff.mpr (hids.sublist hsub)
  exact Policy.pairwise_key (listed_pairwise hlist) hnodup

end Listed

/-- The row under a number, where no two rows have one number. -/
theorem find_of_mem {rows : List PolicyRow} (hids : (rows.map (·.id)).Nodup) {r : PolicyRow}
    (hr : r ∈ rows) : rows.find? (·.id == r.id) = some r := by
  cases hfind : rows.find? (·.id == r.id) with
  | none => simpa using List.find?_eq_none.mp hfind r hr
  | some u =>
    have hid : u.id = r.id := by simpa using List.find?_some hfind
    rw [List.inj_on_of_nodup_map hids (List.mem_of_find?_eq_some hfind) hr hid]

theorem getPolicy_eq {s : Store} (h : s.schema.has .policies = true) (id : Int) :
    s.getPolicy id =
      match s.policies.find? (·.id == id) with
      | some r => r.read.map some
      | none => .ok none := by
  simp only [getPolicy, requires, h, if_true]
  rfl

/-! ### What was written -/

namespace PolicyRow

/-- The row of a policy. -/
def ofPolicy (p : Policy) : PolicyRow :=
  { ofBody p.id p.body p.updated with created := instantCell p.created }

end PolicyRow

end Signoff.Store

namespace Signoff

/-- A policy as it comes out of its row: a zero in it has no sign. -/
def Policy.unsigned (p : Policy) : Policy := { p with body := p.body.unsigned }

theorem Policy.unsigned_unsigned (p : Policy) : p.unsigned.unsigned = p.unsigned := by
  simp only [Policy.unsigned, Policy.Body.unsigned, Double.unsigned_unsigned]

/-- A policy that can be read back from its row, and that passes as it is. -/
structure Policy.Storable (p : Policy) : Prop where
  sound : p.body.Sound
  legible : p.body.Legible
  created : p.created.Sortable
  updated : p.updated.Sortable

namespace Store

/-- A row into which a body is written reads as that body, if it tells when it was made: that column
is kept. -/
theorem reads_update {r : PolicyRow} {b : Policy.Body} {created now : Instant} {text : String}
    (hsound : b.Sound) (hlegible : b.Legible) (htext : r.created = .text text)
    (hcreated : Instant.ofRfc3339? text = some created) (hnow : now.Sortable) :
    (r.update b now).Reads ⟨r.id, b.unsigned, created, now⟩ where
  id := rfl
  name := rfl
  priority := rfl
  enabled := by
    refine ⟨if b.enabled then 1 else 0, rfl, ?_⟩
    change b.enabled = _
    cases b.enabled <;> rfl
  condition :=
    ⟨_, _, rfl, Json.parse?_render hlegible.condition, (Policy.Body.sound_iff.mp hsound).1⟩
  actionType := rfl
  params := ⟨_, rfl, Json.parse?_render hlegible.params⟩
  confidence := rfl
  rationale := rfl
  created := ⟨text, htext, hcreated⟩
  updated := ⟨_, rfl, Instant.ofRfc3339?_sortableText hnow⟩

/-- A row that can be read can be read with its switch in the other place. -/
theorem PolicyRow.Reads.switched {r : PolicyRow} {p : Policy} (h : r.Reads p) (enabled : Bool)
    {now : Instant} (hnow : now.Sortable) :
    (r.switched enabled now).Reads
      { p with body := p.body.switched enabled, updated := now } where
  id := h.id
  name := h.name
  priority := h.priority
  enabled := by
    refine ⟨if enabled then 1 else 0, rfl, ?_⟩
    change enabled = _
    cases enabled <;> rfl
  condition := h.condition
  actionType := h.actionType
  params := h.params
  confidence := h.confidence
  rationale := h.rationale
  created := h.created
  updated := ⟨_, rfl, Instant.ofRfc3339?_sortableText hnow⟩

/-- The row of a policy reads as the policy. -/
theorem reads_ofPolicy {p : Policy} (h : p.Storable) :
    (PolicyRow.ofPolicy p).Reads p.unsigned :=
  reads_update (r := .ofPolicy p) h.sound h.legible rfl
    (Instant.ofRfc3339?_sortableText h.created) h.updated

end Store

end Signoff
