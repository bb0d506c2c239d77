import Mathlib
import Signoff.Proofs.Condition.Order
import Signoff.Proofs.Double.Integers

/-!
Tests between integers. All of them but the equality of two texts go through doubles, so integers
of more than 53 bits are tested as the doubles next to them: none of the tests turns the order
round, and they are exact just between integers that do not share a double.
-/

namespace Signoff

namespace Condition

/-- An integer that a JSON number holds, written as a number or as a text. -/
structure Whole where
  value : Int
  low : Json.Document.minInt ≤ value
  high : value ≤ Json.Document.maxInt
  quoted : Bool

namespace Whole

def bound (a : Whole) : Bound :=
  if a.quoted then .text (toString a.value) else .number (.int a.value)

def json (a : Whole) : Json := a.bound.toJson

/-- The integer that its double holds. -/
def rounded (a : Whole) : Int := Double.rounded a.value

/-- What it takes for equality: that both are texts of one integer, or that they share a double. -/
def TakenFor (a b : Whole) : Prop :=
  if a.quoted = true ∧ b.quoted = true then a.value = b.value else a.rounded = b.rounded

theorem json_quoted {a : Whole} (h : a.quoted = true) : a.json = .str (toString a.value) := by
  rw [json, bound, if_pos h, Bound.toJson]

theorem json_number {a : Whole} (h : a.quoted ≠ true) : a.json = .num (.int a.value) := by
  rw [json, bound, if_neg h, Bound.toJson]

theorem ofText?_value (a : Whole) : Double.ofText? (toString a.value) = some (.ofInt a.value) :=
  Double.ofText?_toString a.low a.high

theorem number?_json (a : Whole) : number? a.json = some (.ofInt a.value) := by
  by_cases h : a.quoted = true
  · rw [json_quoted h, number?, a.ofText?_value]
  · rw [json_number h, number?, Json.Number.toDouble]

/-- The digits of an integer are not the name of the instant. -/
theorem operand_json (ctx : Context) (a : Whole) : ctx.operand a.json = a.json := by
  by_cases h : a.quoted = true
  · have hname : toString a.value ≠ Context.nowName := by
      intro hnow
      have hnumber := a.ofText?_value
      have hnone : Double.ofText? Context.nowName = none := by decide +kernel
      rw [hnow, hnone] at hnumber
      cases hnumber
    rw [json_quoted h, Context.operand, if_neg hname]
  · rw [json_number h, Context.operand]
    simp

theorem compare?_json (a b : Whole) :
    compare? a.json b.json = some (Ord.compare a.rounded b.rounded) := by
  have hranked := Ranked.numbers a.number?_json b.number?_json
  rw [Double.compare_ofInt] at hranked
  exact compare?_eq_some.mpr hranked

theorem looseEq_json (a b : Whole) : looseEq a.json b.json = true ↔ a.TakenFor b := by
  have hsame := Double.same_ofInt (m := a.value) (n := b.value)
  rw [Double.same_iff] at hsame
  by_cases ha : a.quoted = true
  · by_cases hb : b.quoted = true
    · -- two texts are compared letter by letter, and spell an integer in one way only
      rw [json_quoted ha, json_quoted hb, looseEq, sameText_of_number a.ofText?_value, TakenFor,
        if_pos ⟨ha, hb⟩]
      exact Int.repr_inj
    · rw [json_quoted ha, json_number hb, looseEq, textIsNumber_iff a.ofText?_value, TakenFor,
        if_neg (hb ·.2)]
      exact hsame
  · rw [TakenFor, if_neg (ha ·.1)]
    by_cases hb : b.quoted = true
    · rw [json_number ha, json_quoted hb, looseEq, textIsNumber_iff b.ofText?_value, eq_comm]
      exact hsame
    · rw [json_number ha, json_number hb, looseEq, Double.same_iff]
      exact hsame

end Whole

/-- The four tests of order hold of a field and a bound as they hold of two integers. -/
structure OrderedAs (ctx : Context) (field : FieldPath) (bound : Bound) (m n : Int) : Prop where
  lt : evaluate ctx (.leaf field (.lt bound)) = true ↔ m < n
  lte : evaluate ctx (.leaf field (.lte bound)) = true ↔ m ≤ n
  gt : evaluate ctx (.leaf field (.gt bound)) = true ↔ m > n
  gte : evaluate ctx (.leaf field (.gte bound)) = true ↔ m ≥ n

theorem orderedAs_of_compare {ctx : Context} {field : FieldPath} {bound : Bound} {v : Json}
    {m n : Int} (hfield : ctx.resolve? field = some v)
    (h : compare? v (ctx.operand bound.toJson) = some (Ord.compare m n)) :
    OrderedAs ctx field bound m n := by
  obtain ⟨hlt, hlte, hgt, hgte⟩ := evaluate_leaf_ordered hfield h
  constructor
  · rw [hlt, Ordering.isLT_iff_eq_lt, compare_lt_iff_lt]
  · rw [hlte, Ordering.isLE_iff_ne_gt]
    exact compare_le_iff_le
  · rw [hgt, Ordering.isGT_iff_eq_gt, compare_gt_iff_gt]
  · rw [hgte, Ordering.isGE_iff_ne_lt]
    exact compare_ge_iff_ge

/-- Integers are ordered as their doubles are, which is exact when they do not share one. -/
theorem orderedAs_value_iff {ctx : Context} {field : FieldPath} {bound : Bound} {m n : Int}
    (h : OrderedAs ctx field bound (Double.rounded m) (Double.rounded n)) :
    OrderedAs ctx field bound m n ↔ (Double.rounded m = Double.rounded n → m = n) := by
  constructor
  · intro hexact heq
    -- where the doubles are the same neither strict test holds
    have hlt : ¬ m < n := by
      rw [← hexact.lt, h.lt]
      omega
    have hgt : ¬ m > n := by
      rw [← hexact.gt, h.gt]
      omega
    omega
  · intro hapart
    have hlt := Double.rounded_lt_iff hapart
    have hgt := Double.rounded_lt_iff fun heq => (hapart heq.symm).symm
    constructor
    · rw [h.lt, hlt]
    · rw [h.lte, ← not_lt, hgt, not_lt]
    · rw [h.gt, gt_iff_lt, hgt]
    · rw [h.gte, ge_iff_le, ← not_lt, hlt, not_lt]

/-- Of a field that holds one integer all tests against another one come out as between the doubles
next to them, but for the equality of two texts. The order is exact when the two do not share a
double, as when one of them has at most 53 bits; when they share one they are taken for each other,
also in lists. -/
theorem integers_tested {ctx : Context} {field : FieldPath} {a : Whole}
    (hfield : ctx.resolve? field = some a.json) (b : Whole) :
    OrderedAs ctx field b.bound a.rounded b.rounded ∧
      (OrderedAs ctx field b.bound a.value b.value ↔ (a.rounded = b.rounded → a.value = b.value)) ∧
      (evaluate ctx (.leaf field (.eq b.json)) = true ↔ a.TakenFor b) ∧
      (∀ items : List Whole,
        evaluate ctx (.leaf field (.among (items.map Whole.json))) = true ↔
          ∃ i ∈ items, a.TakenFor i) ∧
      (∀ (list : FieldPath) (items : List Whole),
        ctx.resolve? list = some (.arr (items.map Whole.json)) →
          (evaluate ctx (.leaf list (.contains b.json)) = true ↔ ∃ i ∈ items, i.TakenFor b)) ∧
      (a.value ≤ b.value → a.rounded ≤ b.rounded) ∧
      (a.value.natAbs < 2 ^ 53 ∨ b.value.natAbs < 2 ^ 53 →
        a.rounded = b.rounded → a.value = b.value) := by
  have horder : OrderedAs ctx field b.bound a.rounded b.rounded := by
    apply orderedAs_of_compare hfield
    have hcompare := a.compare?_json b
    rwa [← b.operand_json ctx] at hcompare
  refine ⟨horder, orderedAs_value_iff horder, ?_, ?_, ?_, Double.rounded_mono, ?_⟩
  · rw [evaluate_leaf_eq hfield, b.operand_json]
    exact a.looseEq_json b
  · intro items
    rw [evaluate_leaf_among hfield, List.any_map, List.any_eq_true]
    simp only [Function.comp_def, Whole.operand_json, Whole.looseEq_json]
  · intro list items hlist
    rw [evaluate_leaf_contains hlist, b.operand_json, List.any_map, List.any_eq_true]
    simp only [Function.comp_def, Whole.looseEq_json]
  · intro hsmall heq
    rcases hsmall with ha | hb
    · exact Double.eq_of_rounded_eq ha heq
    · exact (Double.eq_of_rounded_eq hb heq.symm).symm

theorem integers_tested_sample :
    let a : Whole := ⟨9007199254740993, by decide, by decide, false⟩
    let b : Whole := ⟨-2, by decide, by decide, true⟩
    let ctx : Context := ⟨[("id", a.json), ("ids", .arr [b.json, a.json])], ""⟩
    ctx.resolve? ⟨"id", by decide⟩ = some a.json ∧
      OrderedAs ctx ⟨"id", by decide⟩ b.bound a.value b.value ∧
      evaluate ctx (.leaf ⟨"id", by decide⟩ (.eq b.json)) = false ∧
      evaluate ctx (.leaf ⟨"ids", by decide⟩ (.contains b.json)) = true := by
  intro a b ctx
  have hfield : ctx.resolve? ⟨"id", by decide⟩ = some a.json := rfl
  obtain ⟨-, horder, heq, -, hcontains, -, hsmall⟩ := integers_tested hfield b
  have hexact := hsmall (.inr (by decide))
  refine ⟨hfield, horder.mpr hexact, ?_, ?_⟩
  · rw [← Bool.not_eq_true, heq]
    exact fun hsame => absurd (hexact hsame) (by decide)
  · exact (hcontains ⟨"ids", by decide⟩ [b, a] rfl).mpr ⟨b, List.mem_cons_self, rfl⟩

/-- Two integers side by side that share a double: the one is taken for the other, in a list too,
and is not above it, whether the bound is a number or its digits. -/
theorem neighbours_taken_for_each_other :
    let ctx : Context := ⟨[("id", .int 9007199254740993), ("ids", .arr [.int 9007199254740993])], ""⟩
    evaluate ctx (.leaf ⟨"id", by decide⟩ (.eq (.int 9007199254740992))) = true ∧
      evaluate ctx (.leaf ⟨"id", by decide⟩ (.eq (.str "9007199254740992"))) = true ∧
      evaluate ctx (.leaf ⟨"id", by decide⟩ (.among [.int 9007199254740992])) = true ∧
      evaluate ctx (.leaf ⟨"ids", by decide⟩ (.contains (.int 9007199254740992))) = true ∧
      evaluate ctx (.leaf ⟨"id", by decide⟩ (.gt (.number (.int 9007199254740992)))) = false ∧
      evaluate ctx (.leaf ⟨"id", by decide⟩ (.lte (.text "9007199254740992"))) = true := by
  decide +kernel

end Condition

end Signoff
