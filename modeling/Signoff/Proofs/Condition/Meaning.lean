import Mathlib
import Signoff.Proofs.Condition.Anomalies

/-!
What conditions mean, apart from how they are evaluated: which of them hold, which tests are made
when a group is left as soon as it is decided, and which tests cannot be answered. The evaluation
finds that meaning and counts, among the tests that are made, those that cannot be answered.
-/

namespace Signoff.Condition

/-- The plain meaning of a condition. Tests mean what each gives by itself. -/
def Holds (ctx : Context) : Condition → Prop
  | .all cs => ∀ c ∈ cs, Holds ctx c
  | .any cs => ∃ c, ∃ _ : c ∈ cs, Holds ctx c
  | .not c => ¬ Holds ctx c
  | .leaf field test => (leafVerdict ctx field test).holds = true

mutual

/-- A condition evaluates to its meaning, whatever was counted before. -/
theorem evaluateTraced_holds (ctx : Context) : ∀ (c : Condition) (t : Trace),
    (evaluateTraced ctx c t).1 = true ↔ Holds ctx c
  -- for every trace at once: a group hands on what its earlier conditions have counted
  | .all cs, t => by
    rw [evaluateTraced, Holds]
    exact evaluateAll_holds ctx cs t
  | .any cs, t => by
    rw [evaluateTraced, Holds]
    exact evaluateAny_holds ctx cs t
  | .not c, t => by
    rw [evaluateTraced, Holds, ← evaluateTraced_holds ctx c t]
    simp only [Bool.not_eq_true', Bool.not_eq_true]
  | .leaf field test, t => by
    rw [evaluateTraced, Holds]

theorem evaluateAll_holds (ctx : Context) : ∀ (cs : List Condition) (t : Trace),
    (evaluateAll ctx cs t).1 = true ↔ ∀ c ∈ cs, Holds ctx c
  | [], t => by simp [evaluateAll]
  | c :: cs, t => by
    have hfirst := evaluateTraced_holds ctx c t
    rw [evaluateAll, List.forall_mem_cons, ← hfirst]
    obtain ⟨value, t'⟩ := evaluateTraced ctx c t
    cases value with
    | true => simpa using evaluateAll_holds ctx cs t'
    -- the rest is left out, and cannot make the group hold any more
    | false => simp

theorem evaluateAny_holds (ctx : Context) : ∀ (cs : List Condition) (t : Trace),
    (evaluateAny ctx cs t).1 = true ↔ ∃ c, ∃ _ : c ∈ cs, Holds ctx c
  | [], t => by simp [evaluateAny]
  | c :: cs, t => by
    have hfirst := evaluateTraced_holds ctx c t
    have hsplit : (∃ d, ∃ _ : d ∈ c :: cs, Holds ctx d) ↔
        Holds ctx c ∨ ∃ d, ∃ _ : d ∈ cs, Holds ctx d := by
      simp only [exists_prop, List.exists_mem_cons_iff]
    rw [evaluateAny, hsplit, ← hfirst]
    obtain ⟨value, t'⟩ := evaluateTraced ctx c t
    cases value with
    | true => simp
    | false => simpa using evaluateAny_holds ctx cs t'

end

instance (ctx : Context) (c : Condition) : Decidable (Holds ctx c) :=
  decidable_of_iff _ (evaluateTraced_holds ctx c .zero)

mutual

/-- The tests that are made, in their order: in a group those of its conditions up to the first
that decides it. -/
def visited (ctx : Context) : Condition → List (FieldPath × Test)
  | .all cs => visitedWhile ctx true cs
  | .any cs => visitedWhile ctx false cs
  | .not c => visited ctx c
  | .leaf field test => [(field, test)]

/-- The tests of conditions that are gone through as long as they have this value. -/
def visitedWhile (ctx : Context) (value : Bool) : List Condition → List (FieldPath × Test)
  | [] => []
  | c :: cs =>
    visited ctx c ++ if decide (Holds ctx c) = value then visitedWhile ctx value cs else []

end

/-- The test needs a field that is not there. -/
def missesField (ctx : Context) (leaf : FieldPath × Test) : Bool :=
  (ctx.resolve? leaf.1).isNone && leaf.2.operator != .present

/-- The test makes nothing of the value: there is no order between the value and the bound, the
value has no parts, or it has no text for the pattern. -/
def incomparable (ctx : Context) (v : Json) : Test → Bool
  | .lt bound | .lte bound | .gt bound | .gte bound =>
    (compare? v (ctx.operand bound.toJson)).isNone
  | .contains needle => (contains? v (ctx.operand needle)).isNone
  | .regex _ =>
    match v with
    | .str _ | .num _ => false
    | _ => true
  | .eq _ | .neq _ | .among _ | .present _ => false

/-- The field of the test is there with a value that the test makes nothing of. -/
def mismatches (ctx : Context) (leaf : FieldPath × Test) : Bool :=
  match ctx.resolve? leaf.1 with
  | some v => incomparable ctx v leaf.2
  | none => false

/-- How many of the tests have either trouble. -/
def tally (ctx : Context) (leaves : List (FieldPath × Test)) : Trace :=
  ⟨leaves.countP (missesField ctx), leaves.countP (mismatches ctx)⟩

@[simp] theorem tally_nil (ctx : Context) : tally ctx [] = .zero := rfl

@[simp] theorem tally_append (ctx : Context) (as bs : List (FieldPath × Test)) :
    tally ctx (as ++ bs) = (tally ctx as).add (tally ctx bs) := by
  simp only [tally, Trace.add, List.countP_append]

theorem leafVerdict_none {ctx : Context} {field : FieldPath} {test : Test}
    (h : ctx.resolve? field = none) (htest : test.operator ≠ .present) :
    leafVerdict ctx field test = .anomalous .missingField := by
  unfold leafVerdict
  rw [h]
  cases test with
  | present expected => exact absurd rfl htest
  | _ => rfl

theorem leafVerdict_some {ctx : Context} {field : FieldPath} {test : Test} {v : Json}
    (h : ctx.resolve? field = some v) (htest : test.operator ≠ .present) :
    leafVerdict ctx field test = testVerdict ctx v test := by
  unfold leafVerdict
  rw [h]
  cases test with
  | present expected => exact absurd rfl htest
  | _ => rfl

/-- A value either gets an answer from a test, or there is none to get. -/
theorem testVerdict_cases (ctx : Context) (v : Json) (test : Test) :
    (incomparable ctx v test = false ∧ ∃ b, testVerdict ctx v test = .is b) ∨
      (incomparable ctx v test = true ∧ testVerdict ctx v test = .anomalous .typeMismatch) := by
  -- order, parts and text all report that there is no answer by `none`
  have hoption (found : Option Bool) :
      (found.isNone = false ∧ ∃ b, Verdict.ofOption found = .is b) ∨
        (found.isNone = true ∧ Verdict.ofOption found = .anomalous .typeMismatch) := by
    cases found with
    | none => exact .inr ⟨rfl, rfl⟩
    | some b => exact .inl ⟨rfl, b, rfl⟩
  have hordered (bound : Bound) (accept : Ordering → Bool) :
      ((compare? v (ctx.operand bound.toJson)).isNone = false ∧
          ∃ b, ordered ctx v bound accept = .is b) ∨
        ((compare? v (ctx.operand bound.toJson)).isNone = true ∧
          ordered ctx v bound accept = .anomalous .typeMismatch) := by
    have h := hoption ((compare? v (ctx.operand bound.toJson)).map accept)
    rwa [Option.isNone_map] at h
  cases test with
  | eq _ | neq _ | among _ | present _ => exact .inl ⟨rfl, _, rfl⟩
  | lt bound | lte bound | gt bound | gte bound => exact hordered bound _
  | contains needle => exact hoption _
  | regex pattern =>
    cases v with
    | str s => exact .inl ⟨rfl, _, rfl⟩
    | num n => exact .inl ⟨rfl, _, rfl⟩
    | _ => exact .inr ⟨rfl, rfl⟩

/-- A test is answered, or has exactly one of the two troubles. -/
theorem leafVerdict_cases (ctx : Context) (field : FieldPath) (test : Test) :
    (missesField ctx (field, test) = false ∧ mismatches ctx (field, test) = false ∧
        ∃ b, leafVerdict ctx field test = .is b) ∨
      (missesField ctx (field, test) = true ∧ mismatches ctx (field, test) = false ∧
        leafVerdict ctx field test = .anomalous .missingField) ∨
      (missesField ctx (field, test) = false ∧ mismatches ctx (field, test) = true ∧
        leafVerdict ctx field test = .anomalous .typeMismatch) := by
  -- presence is the one test that a missing field answers
  by_cases hpresent : test.operator = .present
  · cases test with
    | present expected =>
      left
      refine ⟨by simp [missesField, Test.operator], ?_, _, rfl⟩
      unfold mismatches
      split <;> rfl
    | _ => cases hpresent
  · cases hfound : ctx.resolve? field with
    | none =>
      right; left
      refine ⟨?_, ?_, leafVerdict_none hfound hpresent⟩
      · simp [missesField, hfound, hpresent]
      · simp [mismatches, hfound]
    | some v =>
      have hmisses : missesField ctx (field, test) = false := by simp [missesField, hfound]
      have hmismatches : mismatches ctx (field, test) = incomparable ctx v test := by
        simp [mismatches, hfound]
      rw [leafVerdict_some hfound hpresent, hmisses, hmismatches]
      rcases testVerdict_cases ctx v test with ⟨hfits, hb⟩ | ⟨hfits, hanomalous⟩
      · exact .inl ⟨rfl, hfits, hb⟩
      · exact .inr (.inr ⟨rfl, hfits, hanomalous⟩)

/-- A test counts the trouble that it has. -/
theorem leafVerdict_trace (ctx : Context) (field : FieldPath) (test : Test) :
    (leafVerdict ctx field test).trace = tally ctx [(field, test)] := by
  unfold tally
  rcases leafVerdict_cases ctx field test with
    ⟨hmisses, hmismatches, b, h⟩ | ⟨hmisses, hmismatches, h⟩ | ⟨hmisses, hmismatches, h⟩ <;>
  · rw [h]
    simp [hmisses, hmismatches, Verdict.trace, Trace.zero, Anomaly.trace]

mutual

/-- An evaluation counts, among the tests that are made, those that have either trouble. -/
theorem evaluateTraced_tally (ctx : Context) : ∀ (c : Condition) (t : Trace),
    (evaluateTraced ctx c t).2 = t.add (tally ctx (visited ctx c))
  -- `visited` stops by the meaning and the evaluation by the value, which agree
  | .all cs, t => by
    rw [evaluateTraced, visited]
    exact evaluateAll_tally ctx cs t
  | .any cs, t => by
    rw [evaluateTraced, visited]
    exact evaluateAny_tally ctx cs t
  | .not c, t => by
    rw [evaluateTraced, visited]
    exact evaluateTraced_tally ctx c t
  | .leaf field test, t => by
    rw [evaluateTraced, visited, leafVerdict_trace]

theorem evaluateAll_tally (ctx : Context) : ∀ (cs : List Condition) (t : Trace),
    (evaluateAll ctx cs t).2 = t.add (tally ctx (visitedWhile ctx true cs))
  | [], t => rfl
  | c :: cs, t => by
    have hfirst := evaluateTraced_tally ctx c t
    have hholds := evaluateTraced_holds ctx c t
    rw [evaluateAll, visitedWhile, tally_append, ← Trace.add_assoc, ← hfirst]
    rcases hvalue : evaluateTraced ctx c t with ⟨value, t'⟩
    rw [hvalue] at hholds
    -- the rest is gone through exactly when the first holds
    cases value with
    | true =>
      rw [if_pos (decide_eq_true (hholds.mp rfl))]
      exact evaluateAll_tally ctx cs t'
    | false =>
      have hfails : ¬ Holds ctx c := fun h => Bool.false_ne_true (hholds.mpr h)
      rw [if_neg (by simpa using hfails)]
      rfl

theorem evaluateAny_tally (ctx : Context) : ∀ (cs : List Condition) (t : Trace),
    (evaluateAny ctx cs t).2 = t.add (tally ctx (visitedWhile ctx false cs))
  | [], t => rfl
  | c :: cs, t => by
    have hfirst := evaluateTraced_tally ctx c t
    have hholds := evaluateTraced_holds ctx c t
    rw [evaluateAny, visitedWhile, tally_append, ← Trace.add_assoc, ← hfirst]
    rcases hvalue : evaluateTraced ctx c t with ⟨value, t'⟩
    rw [hvalue] at hholds
    cases value with
    | true =>
      have hc : Holds ctx c := hholds.mp rfl
      rw [if_neg (by simpa using hc)]
      rfl
    | false =>
      have hfails : ¬ Holds ctx c := fun h => Bool.false_ne_true (hholds.mpr h)
      rw [if_pos (decide_eq_false hfails)]
      exact evaluateAny_tally ctx cs t'

end

/-- How the tests of one field go together. -/
structure TestLaws (ctx : Context) (field : FieldPath) : Prop where
  /-- No test but presence holds of a field that is not there. -/
  missing : ∀ test, ctx.resolve? field = none → test.operator ≠ .present →
    evaluate ctx (.leaf field test) = false
  neq : ∀ v, ctx.resolve? field = some v → ∀ operand,
    evaluate ctx (.leaf field (.neq operand)) = !evaluate ctx (.leaf field (.eq operand))
  among : ∀ v, ctx.resolve? field = some v → ∀ items,
    evaluate ctx (.leaf field (.among items)) = true ↔
      ∃ item ∈ items, evaluate ctx (.leaf field (.eq item)) = true
  lte : ∀ v, ctx.resolve? field = some v → ∀ bound,
    (compare? v (ctx.operand bound.toJson)).isSome →
      evaluate ctx (.leaf field (.lte bound)) = !evaluate ctx (.leaf field (.gt bound))
  gte : ∀ v, ctx.resolve? field = some v → ∀ bound,
    (compare? v (ctx.operand bound.toJson)).isSome →
      evaluate ctx (.leaf field (.gte bound)) = !evaluate ctx (.leaf field (.lt bound))

theorem evaluate_leaf (ctx : Context) (field : FieldPath) (test : Test) :
    evaluate ctx (.leaf field test) = (leafVerdict ctx field test).holds :=
  rfl

theorem evaluate_leaf_some {ctx : Context} {field : FieldPath} {v : Json}
    (h : ctx.resolve? field = some v) (test : Test) (htest : test.operator ≠ .present) :
    evaluate ctx (.leaf field test) = (testVerdict ctx v test).holds := by
  rw [evaluate_leaf, leafVerdict_some h htest]

theorem ordered_holds {ctx : Context} {v : Json} {bound : Bound} {o : Ordering}
    (h : compare? v (ctx.operand bound.toJson) = some o) (accept : Ordering → Bool) :
    (ordered ctx v bound accept).holds = accept o := by
  rw [ordered, h]
  rfl

theorem evaluate_leaf_eq {ctx : Context} {field : FieldPath} {v : Json}
    (h : ctx.resolve? field = some v) (operand : Json) :
    evaluate ctx (.leaf field (.eq operand)) = looseEq v (ctx.operand operand) := by
  rw [evaluate_leaf_some h _ (by simp [Test.operator])]
  rfl

theorem evaluate_leaf_among {ctx : Context} {field : FieldPath} {v : Json}
    (h : ctx.resolve? field = some v) (items : List Json) :
    evaluate ctx (.leaf field (.among items)) =
      items.any fun item => looseEq v (ctx.operand item) := by
  rw [evaluate_leaf_some h _ (by simp [Test.operator])]
  rfl

/-- A list contains what some item of it is equal to. -/
theorem evaluate_leaf_contains {ctx : Context} {field : FieldPath} {items : List Json}
    (h : ctx.resolve? field = some (.arr items)) (needle : Json) :
    evaluate ctx (.leaf field (.contains needle)) =
      items.any fun item => looseEq item (ctx.operand needle) := by
  rw [evaluate_leaf_some h _ (by simp [Test.operator]), testVerdict, contains?]
  rfl

/-- Where there is an order the four tests of it are answered. -/
theorem evaluate_leaf_ordered {ctx : Context} {field : FieldPath} {v : Json} {bound : Bound}
    {o : Ordering} (hfield : ctx.resolve? field = some v)
    (h : compare? v (ctx.operand bound.toJson) = some o) :
    evaluate ctx (.leaf field (.lt bound)) = o.isLT ∧
      evaluate ctx (.leaf field (.lte bound)) = o.isLE ∧
      evaluate ctx (.leaf field (.gt bound)) = o.isGT ∧
      evaluate ctx (.leaf field (.gte bound)) = o.isGE := by
  have hleaf (test : Test) (htest : test.operator ≠ .present) :=
    evaluate_leaf_some hfield test htest
  refine ⟨?_, ?_, ?_, ?_⟩
  · rw [hleaf _ (by simp [Test.operator]), testVerdict, ordered_holds h]
  · rw [hleaf _ (by simp [Test.operator]), testVerdict, ordered_holds h]
  · rw [hleaf _ (by simp [Test.operator]), testVerdict, ordered_holds h]
  · rw [hleaf _ (by simp [Test.operator]), testVerdict, ordered_holds h]

theorem testLaws (ctx : Context) (field : FieldPath) : TestLaws ctx field where
  missing test h htest := by
    rw [evaluate_leaf, leafVerdict_none h htest]
    rfl
  neq v h operand := by
    have heq := evaluate_leaf_some h (.eq operand) (by simp [Test.operator])
    have hneq := evaluate_leaf_some h (.neq operand) (by simp [Test.operator])
    rw [hneq, heq]
    rfl
  among v h items := by
    have heq (item : Json) := evaluate_leaf_some h (.eq item) (by simp [Test.operator])
    have hamong := evaluate_leaf_some h (.among items) (by simp [Test.operator])
    rw [hamong, testVerdict, Verdict.holds, List.any_eq_true]
    simp only [heq, testVerdict, Verdict.holds]
  -- where there is no order, both this test and the one it negates fail
  lte v h bound hsome := by
    obtain ⟨o, ho⟩ := Option.isSome_iff_exists.mp hsome
    have hlte := evaluate_leaf_some h (.lte bound) (by simp [Test.operator])
    have hgt := evaluate_leaf_some h (.gt bound) (by simp [Test.operator])
    rw [hlte, hgt, testVerdict, testVerdict, ordered_holds ho, ordered_holds ho]
    cases o <;> rfl
  gte v h bound hsome := by
    obtain ⟨o, ho⟩ := Option.isSome_iff_exists.mp hsome
    have hgte := evaluate_leaf_some h (.gte bound) (by simp [Test.operator])
    have hlt := evaluate_leaf_some h (.lt bound) (by simp [Test.operator])
    rw [hgte, hlt, testVerdict, testVerdict, ordered_holds ho, ordered_holds ho]
    cases o <;> rfl

/-- An evaluation answers the meaning of the condition, which is the answer without a trace and the
same from every trace, and adds to the trace one for every test made that misses its field and one
for every test made that its value does not fit. No test has both troubles, a test with either does
not hold, and the tests of a field go together. -/
theorem evaluateTraced_meaning (ctx : Context) (c : Condition) (t : Trace) :
    ((evaluateTraced ctx c t).1 = true ↔ Holds ctx c) ∧
      (evaluateTraced ctx c t).1 = evaluate ctx c ∧
      (evaluateTraced ctx c t).2 =
        ⟨t.missingFields + (visited ctx c).countP (missesField ctx),
          t.typeMismatches + (visited ctx c).countP (mismatches ctx)⟩ ∧
      (∀ leaf : FieldPath × Test, ¬(missesField ctx leaf = true ∧ mismatches ctx leaf = true) ∧
        (missesField ctx leaf = true ∨ mismatches ctx leaf = true →
          evaluate ctx (.leaf leaf.1 leaf.2) = false)) ∧
      ∀ field, TestLaws ctx field := by
  refine ⟨evaluateTraced_holds ctx c t, ?_, evaluateTraced_tally ctx c t, ?_, testLaws ctx⟩
  · rw [evaluateTraced_eq]
  · rintro ⟨field, test⟩
    rw [evaluate_leaf]
    rcases leafVerdict_cases ctx field test with
      ⟨hmisses, hmismatches, -⟩ | ⟨hmisses, hmismatches, h⟩ | ⟨hmisses, hmismatches, h⟩
    · simp [hmisses, hmismatches]
    · simp [hmisses, hmismatches, h, Verdict.holds]
    · simp [hmisses, hmismatches, h, Verdict.holds]

/-- The second test is not made, since the first decides the group. -/
example : (visited ⟨[("a", .null)], ""⟩ (.any [.leaf ⟨"a", by decide⟩ (.present true),
    .leaf ⟨"b", by decide⟩ (.eq .null)])).map (·.1.text) = ["a"] := by
  decide

end Signoff.Condition
