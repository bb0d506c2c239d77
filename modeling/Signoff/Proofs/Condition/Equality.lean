import Mathlib
import Signoff.Proofs.Condition.Meaning
import Signoff.Proofs.Json.Fits

/-!
Equality of values. It looks through the kinds of scalars and compares lists and objects part by
part. Every value is equal to itself and equality works both ways, so it is all one on which side of
a test a value stands.
-/

namespace Signoff

namespace Json.Object

theorem Sorted.names_nodup {o : Object} (h : Sorted o) : (names o).Nodup := by
  rw [names, List.nodup_iff_pairwise_ne, List.pairwise_map]
  exact h.imp ne_of_lt

theorem Sorted.get?_of_mem {o : Object} (h : Sorted o) {name : String} {v : Json}
    (hm : (name, v) ∈ o) : get? o name = some v := by
  induction o with
  | nil => cases hm
  | cons m rest ih =>
    obtain ⟨hfirst, hrest⟩ := List.pairwise_cons.mp h
    rcases List.mem_cons.mp hm with rfl | hlater
    · exact get?_cons_self name v rest
    · obtain ⟨k, w⟩ := m
      have hk : k ≠ name := (hfirst (name, v) hlater).ne
      rw [get?, if_neg hk]
      exact ih hrest hlater

theorem mem_names {o : Object} {name : String} : name ∈ names o ↔ ∃ v, (name, v) ∈ o := by
  simp [names]

/-- Distinct names leave no room: an object that has all the names of another one of its size has
no others. -/
theorem names_subset {as bs : Object} (has : Sorted as) (hlength : as.length = bs.length)
    (hsub : names as ⊆ names bs) : names bs ⊆ names as := by
  have hle : (names bs).length ≤ (names as).length := by
    rw [names, names, List.length_map, List.length_map, hlength]
  have hperm := (List.subperm_of_subset has.names_nodup hsub).perm_of_length_le hle
  exact hperm.symm.subset

end Json.Object

theorem Double.same_comm (x y : Double) : x.same y = y.same x := by
  rw [Bool.eq_iff_iff, Double.same_iff, Double.same_iff, eq_comm]

namespace Condition

open Json (Object)

theorem sameText_comm (s t : String) : sameText s t = sameText t s := by
  unfold sameText
  rw [Bool.beq_comm]
  cases Instant.ofText? s <;> cases Instant.ofText? t <;> simp [Bool.beq_comm]

theorem sameText_self (s : String) : sameText s s = true := by
  simp [sameText]

/-- Lists of one length are compared item by item. -/
theorem looseEqItems_iff {as bs : List Json} (hlength : as.length = bs.length) :
    looseEqItems as bs = true ↔ List.Forall₂ (fun a b => looseEq a b = true) as bs := by
  induction as generalizing bs with
  | nil =>
    cases bs with
    | nil => simp [looseEqItems]
    | cons b bs => cases hlength
  | cons a as ih =>
    cases bs with
    | nil => cases hlength
    | cons b bs =>
      rw [looseEqItems, Bool.and_eq_true, List.forall₂_cons, ih (Nat.succ.inj hlength)]

theorem looseEqMembers_iff {as bs : Object} :
    looseEqMembers as bs = true ↔
      ∀ m ∈ as, ∃ b, Object.get? bs m.1 = some b ∧ looseEq m.2 b = true := by
  induction as with
  | nil => simp [looseEqMembers]
  | cons m as ih =>
    obtain ⟨k, a⟩ := m
    rw [looseEqMembers, Bool.and_eq_true, List.forall_mem_cons, ih]
    apply and_congr_left'
    cases Object.get? bs k with
    | none => simp
    | some b => simp

theorem looseEq_arr {as bs : List Json} : looseEq (.arr as) (.arr bs) = true ↔
    List.Forall₂ (fun a b => looseEq a b = true) as bs := by
  rw [looseEq, Bool.and_eq_true, beq_iff_eq]
  constructor
  · rintro ⟨hlength, hitems⟩
    exact (looseEqItems_iff hlength).mp hitems
  · intro hitems
    exact ⟨hitems.length_eq, (looseEqItems_iff hitems.length_eq).mpr hitems⟩

theorem looseEq_obj {as bs : Object} : looseEq (.obj as) (.obj bs) = true ↔
    as.length = bs.length ∧
      ∀ m ∈ as, ∃ b, Object.get? bs m.1 = some b ∧ looseEq m.2 b = true := by
  rw [looseEq, Bool.and_eq_true, beq_iff_eq, looseEqMembers_iff]

theorem looseEq_self {a : Json} (ha : a.Ordered) : looseEq a a = true := by
  induction ha with
  | null => rw [looseEq]
  | bool b => rw [looseEq, beq_self_eq_true]
  | num n => rw [looseEq, Double.same_iff]
  | str s => rw [looseEq, sameText_self]
  | arr _ ih =>
    rw [looseEq_arr, List.forall₂_same]
    exact ih
  | obj sorted _ ih =>
    rw [looseEq_obj]
    refine ⟨rfl, ?_⟩
    intro m hm
    exact ⟨m.2, sorted.get?_of_mem hm, ih m hm⟩

theorem looseEq_arr_symm {as bs : List Json}
    (hback : ∀ a ∈ as, ∀ b ∈ bs, looseEq a b = true → looseEq b a = true)
    (h : looseEq (.arr as) (.arr bs) = true) : looseEq (.arr bs) (.arr as) = true := by
  rw [looseEq_arr, List.forall₂_iff_get] at h ⊢
  obtain ⟨hlength, hitems⟩ := h
  refine ⟨hlength.symm, ?_⟩
  intro i hi hi'
  exact hback _ (List.get_mem _ _) _ (List.get_mem _ _) (hitems i hi' hi)

/-- On the way back every member of the second object has to be found in the first, which only the
sizes tell. -/
theorem looseEq_obj_symm {as bs : Object} (has : as.Sorted) (hbs : bs.Sorted)
    (hback : ∀ m ∈ as, ∀ n ∈ bs, looseEq m.2 n.2 = true → looseEq n.2 m.2 = true)
    (h : looseEq (.obj as) (.obj bs) = true) : looseEq (.obj bs) (.obj as) = true := by
  rw [looseEq_obj] at h ⊢
  obtain ⟨hlength, hmembers⟩ := h
  refine ⟨hlength.symm, ?_⟩
  have hsub : Object.names as ⊆ Object.names bs := by
    intro name hname
    obtain ⟨v, hv⟩ := Object.mem_names.mp hname
    obtain ⟨w, hw, -⟩ := hmembers _ hv
    exact Object.mem_names.mpr ⟨w, Object.mem_of_get? hw⟩
  -- so a member on this side has a namesake on the other, which is compared with it alone
  have hnames := Object.names_subset has hlength hsub
  rintro ⟨name, w⟩ hw
  obtain ⟨v, hv⟩ := Object.mem_names.mp (hnames (Object.mem_names.mpr ⟨w, hw⟩))
  obtain ⟨w', hw', hequal⟩ := hmembers _ hv
  rw [hbs.get?_of_mem hw, Option.some.injEq] at hw'
  subst hw'
  exact ⟨v, has.get?_of_mem hv, hback _ hv _ hw hequal⟩

theorem looseEq_symm {a b : Json} (ha : a.Ordered) (hb : b.Ordered) (h : looseEq a b = true) :
    looseEq b a = true := by
  -- on the first value, with the second one open, since its items meet those of the second
  induction ha generalizing b with
  | null =>
    cases b with
    | null => exact h
    | _ => simp [looseEq] at h
  | bool x =>
    cases b with
    | bool y =>
      rw [looseEq, Bool.beq_comm]
      rwa [looseEq] at h
    | str t => simpa only [looseEq] using h
    | _ => simp [looseEq] at h
  | num m =>
    cases b with
    | num n =>
      rw [looseEq, Double.same_comm]
      rwa [looseEq] at h
    | str t => simpa only [looseEq] using h
    | _ => simp [looseEq] at h
  | str s =>
    cases b with
    | bool y => simpa only [looseEq] using h
    | num n => simpa only [looseEq] using h
    | str t =>
      rw [looseEq, sameText_comm]
      rwa [looseEq] at h
    | _ => simp [looseEq] at h
  | arr _ ih =>
    cases hb with
    | arr hbs => exact looseEq_arr_symm (fun a hm b hn => ih a hm (hbs b hn)) h
    | _ => simp [looseEq] at h
  | obj sorted _ ih =>
    cases hb with
    | obj sorted' hbs =>
      exact looseEq_obj_symm sorted sorted' (fun m hm n hn => ih m hm (hbs n hn)) h
    | _ => simp [looseEq] at h

theorem looseEq_comm {a b : Json} (ha : a.Ordered) (hb : b.Ordered) :
    looseEq a b = looseEq b a := by
  rw [Bool.eq_iff_iff]
  exact ⟨looseEq_symm ha hb, looseEq_symm hb ha⟩

/-- Equality holds of a value and itself and does not depend on the order of its sides. So a field
that holds one value and an operand that means another may change places, and a list may be the
operand that a field is looked for in, or the field that an operand is looked for in. -/
theorem looseEq_sides {a b : Json} (ha : a.Ordered) (hb : b.Ordered) :
    looseEq a a = true ∧
      looseEq a b = looseEq b a ∧
      (∀ (ctx : Context) (f g : FieldPath) (x y : Json),
        ctx.resolve? f = some a → ctx.operand x = b →
        ctx.resolve? g = some b → ctx.operand y = a →
          evaluate ctx (.leaf f (.eq x)) = evaluate ctx (.leaf g (.eq y))) ∧
      ∀ (ctx : Context) (f g : FieldPath) (items values : List Json) (y : Json),
        (∀ v ∈ values, v.Ordered) →
        ctx.resolve? f = some a → items.map ctx.operand = values →
        ctx.resolve? g = some (.arr values) → ctx.operand y = a →
          evaluate ctx (.leaf f (.among items)) = evaluate ctx (.leaf g (.contains y)) := by
  refine ⟨looseEq_self ha, looseEq_comm ha hb, ?_, ?_⟩
  · intro ctx f g x y hf hx hg hy
    calc evaluate ctx (.leaf f (.eq x)) = looseEq a b := by rw [evaluate_leaf_eq hf, hx]
      _ = looseEq b a := looseEq_comm ha hb
      _ = evaluate ctx (.leaf g (.eq y)) := by rw [evaluate_leaf_eq hg, hy]
  · intro ctx f g items values y hvalues hf hitems hg hy
    calc evaluate ctx (.leaf f (.among items)) = values.any (looseEq a) := by
          rw [evaluate_leaf_among hf, ← hitems, List.any_map]
          rfl
      _ = values.any (looseEq · a) := by
          rw [Bool.eq_iff_iff, List.any_eq_true, List.any_eq_true]
          apply exists_congr
          intro v
          apply and_congr_right
          intro hv
          rw [looseEq_comm ha (hvalues v hv)]
      _ = evaluate ctx (.leaf g (.contains y)) := by rw [evaluate_leaf_contains hg, hy]

theorem looseEq_sides_sample :
    let a := Json.obj [("n", .int 1), ("on", .arr [.bool true])]
    let b := Json.obj [("n", .str "1.0"), ("on", .arr [.str "TRUE"])]
    let ctx : Context := ⟨[("a", a), ("b", b), ("list", .arr [.null, b])], ""⟩
    a.Ordered ∧ b.Ordered ∧ looseEq a b = true ∧ looseEq b a = true ∧
      evaluate ctx (.leaf ⟨"a", by decide⟩ (.eq b)) =
        evaluate ctx (.leaf ⟨"b", by decide⟩ (.eq a)) ∧
      evaluate ctx (.leaf ⟨"a", by decide⟩ (.among [.null, b])) =
        evaluate ctx (.leaf ⟨"list", by decide⟩ (.contains a)) := by
  intro a b ctx
  have hsorted (v w : Json) : Object.Sorted [("n", v), ("on", w)] := by
    simp only [Object.Sorted, List.pairwise_pair]
    decide
  have ha : a.Ordered := by
    refine .obj (hsorted _ _) ?_
    simpa using ⟨.num _, .arr (by simpa using .bool true)⟩
  have hb : b.Ordered := by
    refine .obj (hsorted _ _) ?_
    simpa using ⟨.str _, .arr (by simpa using .str _)⟩
  have hequal : looseEq a b = true := by decide +kernel
  obtain ⟨-, hcomm, heq, hamong⟩ := looseEq_sides ha hb
  refine ⟨ha, hb, hequal, hcomm ▸ hequal, ?_, ?_⟩
  · exact heq ctx _ _ b a rfl rfl rfl rfl
  · apply hamong ctx _ _ [.null, b] [.null, b] a ?_ rfl rfl rfl rfl
    simpa using ⟨.null, hb⟩

end Condition

end Signoff
