import Mathlib
import Signoff.Proofs.Condition.Meaning
import Signoff.Proofs.Decision.Mentions
import Signoff.Proofs.Json.Fits

/-!
Matches need evidence. A condition that asks only for what is there, with no negation and no test
for absence, is never made to hold by leaving data out: what holds of some of the data holds of all.
-/

namespace Signoff

namespace Context

/-- All that a context names, another one of the same instant names with the same values. -/
structure Within (ctx ctx' : Context) : Prop where
  stamp : ctx.stamp = ctx'.stamp
  values : ∀ name v, Json.Object.get? ctx.values name = some v →
    Json.Object.get? ctx'.values name = some v

/-- The context with some of its names left out. -/
def keeping (ctx : Context) (keep : String → Bool) : Context :=
  ⟨ctx.values.filter fun m => keep m.1, ctx.stamp⟩

theorem keeping_within (ctx : Context) (keep : String → Bool) : (ctx.keeping keep).Within ctx := by
  refine ⟨rfl, ?_⟩
  intro name v hget
  -- a value that is still found has a name that was kept
  have hkeep : keep name = true := by
    have hmem := Json.Object.mem_of_get? hget
    exact (List.mem_filter.mp hmem).2
  rwa [keeping, Json.Object.get?_filter keep hkeep] at hget

/-- The walk along a path that leads to a value has got past the first name of the path. -/
theorem isSome_of_resolve? {ctx : Context} {field : FieldPath} {v : Json} {name : String}
    (h : ctx.resolve? field = some v) (hname : field.segments.head? = some name) :
    (Json.Object.get? ctx.values name).isSome := by
  obtain ⟨rest, hsegments⟩ := List.head?_eq_some_iff.mp hname
  rw [resolve?, hsegments, follow?, child?] at h
  exact Option.isSome_of_isSome_bind (Option.isSome_of_mem h)

namespace Within

variable {ctx ctx' : Context} (h : ctx.Within ctx')

include h

/-- The two cannot be told apart by the names of the smaller one. -/
theorem agree : ctx.Agree (fun name => (Json.Object.get? ctx.values name).isSome) ctx' := by
  refine ⟨h.stamp, ?_⟩
  intro name hname
  obtain ⟨v, hv⟩ := Option.isSome_iff_exists.mp hname
  rw [hv, h.values name v hv]

/-- A test that holds goes on holding, unless it is the one for absence. -/
theorem leafVerdict {field : FieldPath} {test : Test} (htest : test ≠ .present false)
    (hholds : (Condition.leafVerdict ctx field test).holds = true) :
    (Condition.leafVerdict ctx' field test).holds = true := by
  cases hfound : ctx.resolve? field with
  | some v =>
    rwa [← h.agree.leafVerdict test fun name hname => isSome_of_resolve? hfound hname]
  | none =>
    -- of a field that is missing only presence is answered at all, and here it is asked for
    exfalso
    by_cases hpresent : test.operator = .present
    · cases test with
      | present expected =>
        cases expected with
        | false => exact htest rfl
        | true =>
          rw [Condition.leafVerdict, hfound] at hholds
          cases hholds
      | _ => cases hpresent
    · rw [Condition.leafVerdict_none hfound hpresent] at hholds
      cases hholds

end Within

end Context

namespace Condition

/-- A condition without negations and without tests for absence. -/
def Affirmative : Condition → Prop
  | .all cs => ∀ c ∈ cs, Affirmative c
  | .any cs => ∀ c ∈ cs, Affirmative c
  | .not _ => False
  | .leaf _ test => test ≠ .present false

/-- What holds of some of the data holds of all of it. -/
theorem Holds.within {ctx ctx' : Context} (h : ctx.Within ctx') :
    ∀ c : Condition, c.Affirmative → Holds ctx c → Holds ctx' c
  | .all cs, hc, hholds => by
    rw [Affirmative] at hc
    rw [Holds] at hholds ⊢
    intro c hmem
    exact Holds.within h c (hc c hmem) (hholds c hmem)
  | .any cs, hc, hholds => by
    rw [Affirmative] at hc
    rw [Holds] at hholds ⊢
    obtain ⟨c, hmem, hholds⟩ := hholds
    exact ⟨c, hmem, Holds.within h c (hc c hmem) hholds⟩
  | .not c, hc, _ => by
    rw [Affirmative] at hc
    exact hc.elim
  | .leaf field test, hc, hholds => by
    rw [Affirmative] at hc
    rw [Holds] at hholds ⊢
    exact h.leafVerdict hc hholds

/-- Missing data never creates a match. If a condition without negations and without tests for
absence evaluates to true, so it does with more data beside what is there; leaving names out turns
it from true to false at most. -/
theorem evaluate_within {c : Condition} (hc : c.Affirmative) :
    (∀ ctx ctx' : Context, ctx.Within ctx' → evaluate ctx c = true → evaluate ctx' c = true) ∧
      ∀ (ctx : Context) (keep : String → Bool),
        evaluate (ctx.keeping keep) c = true → evaluate ctx c = true := by
  have hmore : ∀ ctx ctx' : Context, ctx.Within ctx' →
      evaluate ctx c = true → evaluate ctx' c = true := by
    intro ctx ctx' h htrue
    have hholds : Holds ctx c := (evaluateTraced_holds ctx c .zero).mp htrue
    apply (evaluateTraced_holds ctx' c .zero).mpr
    exact Holds.within h c hc hholds
  refine ⟨hmore, ?_⟩
  intro ctx keep
  exact hmore _ _ (ctx.keeping_within keep)

/-- Promotions of a sender that is there and is not trusted. -/
def sampleDoubt : Condition :=
  .all [.leaf ⟨"topic", by decide⟩ (.eq (.str "promotions")),
    .any [.leaf ⟨"sender.name", by decide⟩ (.neq (.str "trusted")), .any []]]

theorem evaluate_within_sample :
    sampleDoubt.Affirmative ∧
      evaluate ⟨[("sender", .obj [("name", .str "ann")]), ("topic", .str "promotions")], ""⟩
        sampleDoubt = true ∧
      evaluate ⟨[("body", .null), ("sender", .obj [("name", .str "ann")]),
        ("topic", .str "promotions")], ""⟩ sampleDoubt = true := by
  have hc : sampleDoubt.Affirmative := by
    simp [sampleDoubt, Affirmative]
  have hsmaller : evaluate ⟨[("sender", .obj [("name", .str "ann")]),
      ("topic", .str "promotions")], ""⟩ sampleDoubt = true := by
    decide
  refine ⟨hc, hsmaller, ?_⟩
  exact (evaluate_within hc).2 _ (· != "body") hsmaller

/-- With a negation, leaving data out can make a match. -/
example : evaluate ⟨[], ""⟩ (.not (.leaf ⟨"a", by decide⟩ (.eq .null))) = true ∧
    evaluate ⟨[("a", .null)], ""⟩ (.not (.leaf ⟨"a", by decide⟩ (.eq .null))) = false := by
  decide

end Condition

end Signoff
