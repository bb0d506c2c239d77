import Mathlib
import Signoff.Proofs.Condition.Meaning
import Signoff.Proofs.Condition.Meanings
import Signoff.Proofs.Instant.Order

/-!
The order of values. Values are ordered as instants or as numbers, and since no value means both,
what is ordered at all is ordered by one consistent order. Equality agrees with it except on
numerals in text: two of them are equal only when they are spelled alike, whatever they mean.
-/

namespace Signoff

theorem Double.compare_eq_compareOn : Double.compare = compareOn Double.toInt := rfl

instance : Std.TransCmp Double.compare := by
  rw [Double.compare_eq_compareOn]
  infer_instance

theorem Double.compare_eq_eq {x y : Double} : x.compare y = .eq ↔ x.same y = true := by
  rw [Double.compare, compare_eq_iff_eq, Double.same_iff]

/-- Steps that do not go down add up to one, and one of them that goes up is enough for it to. -/
theorem chain_of_transCmp {α : Type} {cmp : α → α → Ordering} [Std.TransCmp cmp] {x y z : α}
    (hxy : cmp x y ≠ .gt) (hyz : cmp y z ≠ .gt) :
    cmp x z ≠ .gt ∧ (cmp x y = .lt ∨ cmp y z = .lt → cmp x z = .lt) := by
  have hxy' := Ordering.isLE_iff_ne_gt.mpr hxy
  have hyz' := Ordering.isLE_iff_ne_gt.mpr hyz
  constructor
  · exact Ordering.isLE_iff_ne_gt.mp (Std.TransCmp.isLE_trans hxy' hyz')
  · intro hstep
    rcases hstep with hlt | hlt
    · exact Std.TransCmp.lt_of_lt_of_isLE hlt hyz'
    · exact Std.TransCmp.lt_of_isLE_of_lt hxy' hlt

namespace Condition

/-- A value that means an instant means no number. -/
theorem number?_of_instant {a : Json} {s : Instant} (h : instant? a = some s) :
    number? a = none := by
  cases a with
  | str text =>
    rw [instant?] at h
    rw [number?]
    exact Double.ofText?_of_instant h
  | _ => cases h

/-- How two values of one kind are ordered. -/
inductive Ranked (a b : Json) : Ordering → Prop
  | instants {s t : Instant} (first : instant? a = some s) (second : instant? b = some t) :
      Ranked a b (s.compare t)
  | numbers {x y : Double} (first : number? a = some x) (second : number? b = some y) :
      Ranked a b (x.compare y)

theorem compare?_eq_some {a b : Json} {o : Ordering} : compare? a b = some o ↔ Ranked a b o := by
  constructor
  · intro h
    unfold compare? at h
    split at h
    · next s t hs ht =>
      cases h
      exact .instants hs ht
    · split at h
      · next x y hx hy =>
        cases h
        exact .numbers hx hy
      · cases h
  · intro h
    cases h with
    | instants hs ht =>
      unfold compare?
      rw [hs, ht]
    | numbers hx hy =>
      -- neither of them is an instant too
      have hfirst : instant? a = none := by
        cases hs : instant? a with
        | none => rfl
        | some s =>
          rw [number?_of_instant hs] at hx
          cases hx
      unfold compare?
      rw [hfirst, hx, hy]

theorem Ranked.swap {a b : Json} {o : Ordering} (h : Ranked a b o) : Ranked b a o.swap := by
  cases h with
  | instants hs ht =>
    rw [← Std.OrientedCmp.eq_swap]
    exact .instants ht hs
  | numbers hx hy =>
    rw [← Std.OrientedCmp.eq_swap]
    exact .numbers hy hx

theorem Ranked.trans {a b c : Json} {o p : Ordering} (hab : Ranked a b o) (hbc : Ranked b c p)
    (ho : o ≠ .gt) (hp : p ≠ .gt) :
    ∃ q, Ranked a c q ∧ q ≠ .gt ∧ (o = .lt ∨ p = .lt → q = .lt) := by
  -- the middle value is an instant or a number, but never both
  cases hab with
  | instants hs ht =>
    cases hbc with
    | instants ht' hu =>
      rw [ht] at ht'
      cases ht'
      exact ⟨_, .instants hs hu, chain_of_transCmp ho hp⟩
    | numbers hy hz =>
      rw [number?_of_instant ht] at hy
      cases hy
  | numbers hx hy =>
    cases hbc with
    | instants ht hu =>
      rw [number?_of_instant ht] at hy
      cases hy
    | numbers hy' hz =>
      rw [hy] at hy'
      cases hy'
      exact ⟨_, .numbers hx hz, chain_of_transCmp ho hp⟩

theorem compare?_swap (a b : Json) : compare? b a = (compare? a b).map Ordering.swap := by
  cases hab : compare? a b with
  | some o =>
    have hranked := compare?_eq_some.mp hab
    exact compare?_eq_some.mpr hranked.swap
  | none =>
    rw [Option.map_none, Option.eq_none_iff_forall_ne_some]
    intro o hba
    have hranked := compare?_eq_some.mpr (compare?_eq_some.mp hba).swap
    rw [hab] at hranked
    cases hranked

theorem isSome_compare? {a b : Json} : (compare? a b).isSome = true ↔
    ((instant? a).isSome = true ∧ (instant? b).isSome = true) ∨
      ((number? a).isSome = true ∧ (number? b).isSome = true) := by
  simp only [Option.isSome_iff_exists]
  constructor
  · rintro ⟨o, ho⟩
    cases compare?_eq_some.mp ho with
    | instants hs ht => exact .inl ⟨⟨_, hs⟩, ⟨_, ht⟩⟩
    | numbers hx hy => exact .inr ⟨⟨_, hx⟩, ⟨_, hy⟩⟩
  · rintro (⟨⟨s, hs⟩, ⟨t, ht⟩⟩ | ⟨⟨x, hx⟩, ⟨y, hy⟩⟩)
    · exact ⟨_, compare?_eq_some.mpr (.instants hs ht)⟩
    · exact ⟨_, compare?_eq_some.mpr (.numbers hx hy)⟩

/-- The order of values is one order. Values are ordered when both mean instants or both mean
numbers; the other way round they are ordered in reverse; and along a chain that nowhere goes down
the ends are ordered, not down either, and up if some step goes up. No text means both an instant
and a number. -/
theorem compare?_consistent :
    (∀ a b : Json, (compare? a b).isSome = true ↔
      ((instant? a).isSome = true ∧ (instant? b).isSome = true) ∨
        ((number? a).isSome = true ∧ (number? b).isSome = true)) ∧
    (∀ a b : Json, compare? b a = (compare? a b).map Ordering.swap) ∧
    (∀ (a b c : Json) (o p : Ordering), compare? a b = some o → compare? b c = some p →
      o ≠ .gt → p ≠ .gt →
        ∃ q, compare? a c = some q ∧ q ≠ .gt ∧ (o = .lt ∨ p = .lt → q = .lt)) ∧
    ∀ s : String, ¬((Instant.ofText? s).isSome = true ∧ (Double.ofText? s).isSome = true) := by
  refine ⟨fun a b => isSome_compare?, compare?_swap, ?_, ?_⟩
  · intro a b c o p hab hbc ho hp
    obtain ⟨q, hac, hq⟩ := (compare?_eq_some.mp hab).trans (compare?_eq_some.mp hbc) ho hp
    exact ⟨q, compare?_eq_some.mpr hac, hq⟩
  · rintro s ⟨hinstant, hnumber⟩
    obtain ⟨t, ht⟩ := Option.isSome_iff_exists.mp hinstant
    rw [Double.ofText?_of_instant ht] at hnumber
    cases hnumber

/-- A chain of three spellings of two instants. -/
example : compare? (.str "2020-01-01") (.str " 2020-01-01 08:30:00") = some .lt ∧
    compare? (.str " 2020-01-01 08:30:00") (.str "2020-01-01T09:30:00+01:00") = some .eq ∧
    compare? (.str "2020-01-01") (.str "2020-01-01T09:30:00+01:00") = some .lt ∧
    compare? (.str "2020-01-01") (.str "2020") = none := by
  decide

/-! ### Order and equality -/

/-- Two texts that are not the same and mean numbers of one value. -/
def SpelledApart (a b : Json) : Prop :=
  ∃ s t x y, a = .str s ∧ b = .str t ∧ s ≠ t ∧
    Double.ofText? s = some x ∧ Double.ofText? t = some y ∧ x.same y = true

theorem instant?_eq_some {a : Json} {t : Instant} (h : instant? a = some t) :
    ∃ s, a = .str s ∧ Instant.ofText? s = some t := by
  cases a with
  | str s => exact ⟨s, rfl, h⟩
  | _ => cases h

theorem number?_eq_some {a : Json} {x : Double} (h : number? a = some x) :
    (∃ n, a = .num n ∧ n.toDouble = x) ∨ ∃ s, a = .str s ∧ Double.ofText? s = some x := by
  cases a with
  | num n => exact .inl ⟨n, rfl, Option.some.inj h⟩
  | str s => exact .inr ⟨s, rfl, h⟩
  | _ => cases h

theorem ofText?_of_number {s : String} {x : Double} (h : Double.ofText? s = some x) :
    Instant.ofText? s = none := by
  cases hinstant : Instant.ofText? s with
  | none => rfl
  | some t =>
    rw [Double.ofText?_of_instant hinstant] at h
    cases h

theorem sameText_of_number {s t : String} {x : Double} (h : Double.ofText? s = some x) :
    sameText s t = true ↔ s = t := by
  unfold sameText
  rw [ofText?_of_number h]
  simp

theorem textIsNumber_iff {s : String} {n : Json.Number} {x : Double}
    (h : Double.ofText? s = some x) : textIsNumber s n = true ↔ x.toInt = n.toDouble.toInt := by
  unfold textIsNumber
  rw [h]
  exact Double.same_iff

theorem Ranked.eq_of_spelledApart {a b : Json} {o : Ordering} (h : Ranked a b o)
    (hapart : SpelledApart a b) : o = .eq := by
  obtain ⟨s, t, x, y, rfl, rfl, -, hx, hy, hsame⟩ := hapart
  cases h with
  | instants hs ht =>
    rw [instant?, ofText?_of_number hx] at hs
    cases hs
  | numbers hx' hy' =>
    rw [number?, hx] at hx'
    rw [number?, hy] at hy'
    cases hx'
    cases hy'
    exact Double.compare_eq_eq.mpr hsame

theorem not_spelledApart_num (n : Json.Number) (a : Json) :
    ¬ SpelledApart (.num n) a ∧ ¬ SpelledApart a (.num n) := by
  constructor
  · intro ⟨s, t, x, y, hnum, _⟩
    cases hnum
  · intro ⟨s, t, x, y, _, hnum, _⟩
    cases hnum

theorem not_spelledApart_instant {s : String} {u : Instant} (h : Instant.ofText? s = some u)
    (a : Json) : ¬ SpelledApart (.str s) a := by
  intro ⟨_, t, x, y, htext, _, _, hx, _⟩
  cases htext
  rw [Double.ofText?_of_instant h] at hx
  cases hx

theorem sameText_of_instants {s t : String} {u v : Instant} (hs : Instant.ofText? s = some u)
    (ht : Instant.ofText? t = some v) : sameText s t = true ↔ u = v := by
  have htext : s = t → u = v := by
    intro heq
    rw [heq, ht] at hs
    exact (Option.some.inj hs).symm
  unfold sameText
  rw [hs, ht, Bool.or_eq_true, beq_iff_eq, beq_iff_eq]
  exact or_iff_right_of_imp htext

/-- Between two numerals only the spelling counts. -/
theorem sameText_of_numbers {s t : String} {x y : Double} (hs : Double.ofText? s = some x)
    (ht : Double.ofText? t = some y) :
    sameText s t = true ↔ x.same y = true ∧ ¬ SpelledApart (.str s) (.str t) := by
  rw [sameText_of_number hs]
  constructor
  · intro heq
    rw [heq, ht] at hs
    refine ⟨Double.same_iff.mpr (by rw [Option.some.inj hs]), ?_⟩
    intro ⟨_, _, _, _, hfirst, hsecond, hne, _⟩
    cases hfirst
    cases hsecond
    exact hne heq
  · intro ⟨hsame, hapart⟩
    by_contra hne
    exact hapart ⟨s, t, x, y, rfl, rfl, hne, hs, ht, hsame⟩

/-- Values are equal when neither comes first, unless they are numerals spelled apart. -/
theorem Ranked.looseEq_iff {a b : Json} {o : Ordering} (h : Ranked a b o) :
    looseEq a b = true ↔ o = .eq ∧ ¬ SpelledApart a b := by
  cases h with
  | instants hfirst hsecond =>
    obtain ⟨s, rfl, hs⟩ := instant?_eq_some hfirst
    obtain ⟨t, rfl, ht⟩ := instant?_eq_some hsecond
    rw [looseEq, sameText_of_instants hs ht, Instant.compare_eq_eq,
      and_iff_left (not_spelledApart_instant hs _)]
  | numbers hx hy =>
    rw [Double.compare_eq_eq]
    rcases number?_eq_some hx with ⟨m, rfl, rfl⟩ | ⟨s, rfl, hs⟩
    · rw [and_iff_left (not_spelledApart_num m b).1]
      rcases number?_eq_some hy with ⟨n, rfl, rfl⟩ | ⟨t, rfl, ht⟩
      · rw [looseEq]
      · rw [looseEq, textIsNumber_iff ht, Double.same_iff, eq_comm]
    · rcases number?_eq_some hy with ⟨n, rfl, rfl⟩ | ⟨t, rfl, ht⟩
      · rw [looseEq, textIsNumber_iff hs, Double.same_iff,
          and_iff_left (not_spelledApart_num n _).2]
      · rw [looseEq, sameText_of_numbers hs ht]

/-- Of less, equal and greater exactly one holds of a field, and the two other tests are their
unions. -/
structure Trichotomous (ctx : Context) (field : FieldPath) (bound : Bound) : Prop where
  one : [Test.lt bound, .eq bound.toJson, .gt bound].countP
    (fun test => evaluate ctx (.leaf field test)) = 1
  lte : evaluate ctx (.leaf field (.lte bound)) =
    (evaluate ctx (.leaf field (.lt bound)) || evaluate ctx (.leaf field (.eq bound.toJson)))
  gte : evaluate ctx (.leaf field (.gte bound)) =
    (evaluate ctx (.leaf field (.gt bound)) || evaluate ctx (.leaf field (.eq bound.toJson)))

/-- Where two values are ordered they are equal exactly when neither comes first, and of a field
that holds the one and a bound that is the other exactly one of less, equal and greater holds, but
for texts that spell one number in two ways. -/
theorem trichotomous_iff {a b : Json} {o : Ordering} (h : compare? a b = some o) :
    (looseEq a b = true ↔ o = .eq ∧ ¬ SpelledApart a b) ∧
      ((looseEq a b = true ↔ compare? a b = some .eq) ↔ ¬ SpelledApart a b) ∧
      ∀ (ctx : Context) (field : FieldPath) (bound : Bound), ctx.resolve? field = some a →
        ctx.operand bound.toJson = b → (Trichotomous ctx field bound ↔ ¬ SpelledApart a b) := by
  have hranked := compare?_eq_some.mp h
  have hloose := hranked.looseEq_iff
  have hapart := hranked.eq_of_spelledApart
  refine ⟨hloose, ?_, ?_⟩
  · rw [hloose, h, Option.some.injEq]
    tauto
  · intro ctx field bound hfield hbound
    rw [← hbound] at h
    obtain ⟨hlt, hlte, hgt, hgte⟩ := evaluate_leaf_ordered hfield h
    have heq := evaluate_leaf_eq hfield bound.toJson
    rw [hbound] at heq
    constructor
    · -- `lte` holds of them, and neither of its two parts does
      intro htri hspelled
      have hfails : looseEq a b = false := by
        rw [← Bool.not_eq_true, hloose]
        tauto
      have hlte' := htri.lte
      rw [hlte, hlt, heq, hapart hspelled, hfails] at hlte'
      cases hlte'
    · intro hspelled
      have hequal : looseEq a b = (o == .eq) := by
        rw [Bool.eq_iff_iff, hloose, beq_iff_eq]
        tauto
      rw [hequal] at heq
      refine ⟨?_, ?_, ?_⟩
      · simp only [List.countP_cons, List.countP_nil, hlt, heq, hgt]
        cases o <;> rfl
      · rw [hlte, hlt, heq]
        cases o <;> rfl
      · rw [hgte, hgt, heq]
        cases o <;> rfl

theorem trichotomous_iff_sample :
    compare? (.int 1) (.str " 1.0") = some .eq ∧ looseEq (.int 1) (.str " 1.0") = true ∧
      Trichotomous ⟨[("n", .int 1)], ""⟩ ⟨"n", by decide⟩ (.text " 1.0") := by
  have h : compare? (.int 1) (.str " 1.0") = some .eq := by decide +kernel
  have hapart : ¬ SpelledApart (.int 1) (.str " 1.0") := by
    rintro ⟨_, _, _, _, hfirst, -⟩
    cases hfirst
  refine ⟨h, (trichotomous_iff h).1.mpr ⟨rfl, hapart⟩, ?_⟩
  apply ((trichotomous_iff h).2.2 _ _ _ ?_ ?_).mpr hapart
  · rfl
  · simp [Bound.toJson, Context.operand, Context.nowName]

/-- Two spellings of one are ordered as the same, and not equal. -/
theorem numerals_spelled_apart :
    compare? (.str "1") (.str "1.0") = some .eq ∧ looseEq (.str "1") (.str "1.0") = false ∧
      ¬ Trichotomous ⟨[("n", .str "1")], ""⟩ ⟨"n", by decide⟩ (.text "1.0") := by
  refine ⟨by decide +kernel, by decide +kernel, ?_⟩
  intro h
  exact absurd h.lte (by decide +kernel)

end Condition

end Signoff
