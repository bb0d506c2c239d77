import Mathlib
import Signoff.Proofs.Instant.Order
import Signoff.Proofs.Store.PendingSet

/-!
Lists of the newest. What such a list has to be is said without a word on sorting: everything that
is asked for, each of it once, the latest first, and of things of one instant the one that was
written last. Whatever key rows are compared by, they are listed so by that key; by their instants,
where the keys are in the order of the instants.
-/

namespace Signoff.Store

variable {α : Type} {kept listed other : List α} {a b : α}

/-- What is asked for of what was kept, in the order in which it was written: the greatest key first,
and of equal keys the one that was written last. -/
structure Latest {κ : Type} (cmp : κ → κ → Ordering) (key : α → κ) (asked : α → Prop)
    (kept listed : List α) : Prop where
  nodup : listed.Nodup
  mem : ∀ a, a ∈ listed ↔ a ∈ kept ∧ asked a
  ordered : listed.Pairwise fun a b => cmp (key b) (key a) = .lt ∨
    cmp (key a) (key b) = .eq ∧ [b, a].Sublist kept

/-- The newest of what was kept, in the order in which it was written. -/
structure Newest (created : α → Instant) (asked : α → Prop) (kept listed : List α) : Prop where
  nodup : listed.Nodup
  mem : ∀ a, a ∈ listed ↔ a ∈ kept ∧ asked a
  ordered : listed.Pairwise fun a b => (created b).compare (created a) = .lt ∨
    created a = created b ∧ [b, a].Sublist kept

/-! ### The order in which things were written -/

/-- Of two things the one was written before the other. -/
theorem pair_sublist_or (ha : a ∈ kept) (hb : b ∈ kept) (hne : a ≠ b) :
    [a, b].Sublist kept ∨ [b, a].Sublist kept := by
  have hpairs : kept.Pairwise fun c d => [c, d].Sublist kept ∨ [d, c].Sublist kept := by
    apply List.pairwise_iff_forall_sublist.mpr
    intro c d h
    exact .inl h
  have hsymm : Std.Symm fun c d => [c, d].Sublist kept ∨ [d, c].Sublist kept :=
    ⟨fun _ _ => Or.symm⟩
  exact hpairs.forall ha hb hne

/-- It was not written after it as well. -/
theorem not_pair_sublist (hkept : kept.Nodup) (h : [a, b].Sublist kept) : ¬[b, a].Sublist kept := by
  induction kept with
  | nil => cases h
  | cons c rest ih =>
    obtain ⟨hc, hrest⟩ := List.nodup_cons.mp hkept
    intro h'
    -- whichever comes first, the other one is further on, so that it cannot come first as well
    cases h with
    | cons _ h =>
      cases h' with
      | cons _ h' => exact ih hrest h h'
      | cons_cons _ h' => exact hc (h.subset (by simp))
    | cons_cons _ h =>
      cases h' with
      | cons _ h' => exact hc (h'.subset (by simp))
      | cons_cons _ h' => exact hc (h.subset (by simp))

/-- Sorting keeps the order of what it does not tell apart. -/
theorem pairwise_mergeSort_stable {le : α → α → Bool}
    (htrans : ∀ a b c, le a b = true → le b c = true → le a c = true)
    (htotal : ∀ a b, (le a b || le b a) = true) (hkept : kept.Nodup) :
    (kept.mergeSort le).Pairwise fun a b =>
      le a b = true ∧ (le b a = true → [a, b].Sublist kept) := by
  have hsorted : (kept.mergeSort le).Nodup := (List.mergeSort_perm kept le).nodup_iff.mpr hkept
  apply (List.pairwise_mergeSort htrans htotal kept).and
  apply List.pairwise_iff_forall_sublist.mpr
  intro a b hpair htie
  have ha : a ∈ kept := List.mem_mergeSort.mp (hpair.subset (by simp))
  have hb : b ∈ kept := List.mem_mergeSort.mp (hpair.subset (by simp))
  have hne : a ≠ b := by
    rintro rfl
    exact not_pair_sublist hsorted hpair hpair
  rcases pair_sublist_or ha hb hne with h | h
  · exact h
  · -- a tie the other way round would have been kept as well
    have hpair' := List.pair_sublist_mergeSort htrans htotal htie h
    exact absurd hpair' (not_pair_sublist hsorted hpair)

/-! ### What is listed -/

section NoEarlier

variable {κ : Type} {cmp : κ → κ → Ordering} [Std.TransCmp cmp] {k l n : κ}

theorem noEarlier_iff : (cmp k l != .lt) = true ↔ (cmp l k).isLE = true := by
  rw [← Ordering.ne_gt_iff_isLE, Std.OrientedCmp.gt_iff_lt]
  exact bne_iff_ne

theorem noEarlier_trans (hkl : (cmp k l != .lt) = true) (hln : (cmp l n != .lt) = true) :
    (cmp k n != .lt) = true := by
  rw [noEarlier_iff] at hkl hln ⊢
  exact Std.TransCmp.isLE_trans hln hkl

theorem noEarlier_total (k l : κ) : (cmp k l != .lt || cmp l k != .lt) = true := by
  have hswap : cmp l k = (cmp k l).swap := Std.OrientedCmp.eq_swap
  rw [Bool.or_eq_true, noEarlier_iff, noEarlier_iff, hswap]
  cases cmp k l <;> decide

end NoEarlier

/-- Whatever tells rows apart as their keys do lists the latest of them. -/
theorem latest_newestFirst {κ : Type} {cmp : κ → κ → Ordering} [Std.TransCmp cmp]
    {newer : α → α → Bool} {key : α → κ} {asked : α → Bool} (hkept : kept.Nodup)
    (hnewer : ∀ a ∈ kept, ∀ b ∈ kept, asked a = true → asked b = true →
      newer a b = (cmp (key a) (key b) != .lt)) :
    Latest cmp key (fun a => asked a = true) kept (newestFirst newer (kept.filter asked)) := by
  let later (a b : α) : Bool := cmp (key a) (key b) != .lt
  have hrows : (kept.filter asked).reverse.Nodup := List.nodup_reverse.mpr (hkept.filter asked)
  have htrans : ∀ a b c, later a b = true → later b c = true → later a c = true :=
    fun _ _ _ => noEarlier_trans
  have htotal : ∀ a b, (later a b || later b a) = true := fun a b => noEarlier_total (key a) (key b)
  -- the rows that are sorted are told apart by their keys
  have hsame : newestFirst newer (kept.filter asked) = newestFirst later (kept.filter asked) := by
    have hagree : ∀ a ∈ (kept.filter asked).reverse, ∀ b ∈ (kept.filter asked).reverse,
        newer a b = later (id a) (id b) := by
      intro a ha b hb
      rw [List.mem_reverse, List.mem_filter] at ha hb
      exact hnewer a ha.1 b hb.1 ha.2 hb.2
    have hmap := List.map_mergeSort hagree
    rwa [List.map_id, List.map_id] at hmap
  rw [hsame]
  refine ⟨?_, ?_, ?_⟩
  · exact (List.mergeSort_perm _ _).nodup_iff.mpr hrows
  · intro a
    rw [mem_newestFirst, List.mem_filter]
  · apply (pairwise_mergeSort_stable htrans htotal hrows).imp
    rintro a b ⟨hab, htie⟩
    cases horder : cmp (key b) (key a) with
    | lt => exact .inl rfl
    | eq =>
      -- of one key: the rows were turned round before, so that the last one comes first
      have heq : cmp (key a) (key b) = .eq := Std.OrientedCmp.eq_symm horder
      have hpair := htie (by simp only [later, horder]; decide)
      have hturned : [b, a].reverse.Sublist (kept.filter asked).reverse := hpair
      right
      refine ⟨heq, ?_⟩
      exact (List.reverse_sublist.mp hturned).trans List.filter_sublist
    | gt =>
      rw [noEarlier_iff, horder] at hab
      cases hab

/-- Keys that are in the order of the instants list the newest. -/
theorem Latest.newest {κ : Type} {cmp : κ → κ → Ordering} {key : α → κ} {created : α → Instant}
    {asked : α → Prop} (h : Latest cmp key asked kept listed)
    (hkey : ∀ a ∈ kept, ∀ b ∈ kept, cmp (key a) (key b) = (created a).compare (created b)) :
    Newest created asked kept listed := by
  refine ⟨h.nodup, h.mem, ?_⟩
  apply h.ordered.imp_of_mem
  intro a b ha hb hab
  rw [hkey b ((h.mem b).mp hb).1 a ((h.mem a).mp ha).1,
    hkey a ((h.mem a).mp ha).1 b ((h.mem b).mp hb).1] at hab
  exact hab.imp_right (And.imp_left Instant.compare_eq_eq.mp)

/-- Whatever tells rows apart as their times do lists the newest of them. -/
theorem newest_newestFirst {newer : α → α → Bool} {created : α → Instant} {asked : α → Bool}
    (hkept : kept.Nodup) (hnewer : ∀ a ∈ kept, ∀ b ∈ kept, asked a = true → asked b = true →
      newer a b = ((created a).compare (created b) != .lt)) :
    Newest created (fun a => asked a = true) kept (newestFirst newer (kept.filter asked)) :=
  (latest_newestFirst hkept hnewer).newest fun _ _ _ _ => rfl

/-- What rows stand for is listed as the rows are. -/
theorem Newest.map {β : Type} {created : α → Instant} {created' : β → Instant} {asked : α → Prop}
    {asked' : β → Prop} {f : α → β} (h : Newest created asked kept listed)
    (hf : (kept.map f).Nodup) (hcreated : ∀ a ∈ kept, created' (f a) = created a)
    (hasked : ∀ a ∈ kept, asked' (f a) ↔ asked a) :
    Newest created' asked' (kept.map f) (listed.map f) := by
  have hkept : ∀ a ∈ listed, a ∈ kept := fun a ha => ((h.mem a).mp ha).1
  -- two elements with one image would make the images repeat
  have hinj : ∀ a ∈ kept, ∀ b ∈ kept, f a = f b → a = b := List.inj_on_of_nodup_map hf
  refine ⟨?_, ?_, ?_⟩
  · apply List.Nodup.map_on _ h.nodup
    intro a ha b hb
    exact hinj a (hkept a ha) b (hkept b hb)
  · intro b
    simp only [List.mem_map]
    constructor
    · rintro ⟨a, ha, rfl⟩
      obtain ⟨hmem, hask⟩ := (h.mem a).mp ha
      exact ⟨⟨a, hmem, rfl⟩, (hasked a hmem).mpr hask⟩
    · rintro ⟨⟨a, hmem, rfl⟩, hask⟩
      exact ⟨a, (h.mem a).mpr ⟨hmem, (hasked a hmem).mp hask⟩, rfl⟩
  · rw [List.pairwise_map]
    apply h.ordered.imp_of_mem
    intro a b ha hb hab
    rw [hcreated a (hkept a ha), hcreated b (hkept b hb)]
    apply hab.imp_right
    rintro ⟨heq, hpair⟩
    exact ⟨heq, hpair.map f⟩

/-- Nothing is left out of the first of them exactly when there are no more than that. -/
theorem Newest.all_shown_iff {created : α → Instant} {asked : α → Prop}
    (h : Newest created asked kept listed) (n : Nat) :
    (∀ a ∈ kept, asked a → a ∈ listed.take n) ↔ listed.length ≤ n := by
  constructor
  · intro hshown
    have hsub : listed ⊆ listed.take n := by
      intro a ha
      obtain ⟨hmem, hask⟩ := (h.mem a).mp ha
      exact hshown a hmem hask
    have hle := (h.nodup.subperm hsub).length_le
    rw [List.length_take] at hle
    omega
  · intro hlength a hmem hask
    rw [List.take_of_length_le hlength]
    exact (h.mem a).mpr ⟨hmem, hask⟩

/-- There is one such list. -/
theorem Newest.unique {created : α → Instant} {asked : α → Prop} (hkept : kept.Nodup)
    (h : Newest created asked kept listed) (h' : Newest created asked kept other) :
    listed = other := by
  have hperm : listed.Perm other := by
    apply (List.perm_ext_iff_of_nodup h.nodup h'.nodup).mpr
    intro a
    rw [h.mem, h'.mem]
  apply hperm.eq_of_pairwise _ h.ordered h'.ordered
  rintro a b - - hab hba
  -- neither is later than the other, so that each would have been written after the other
  rcases hab with hab | ⟨heq, hab⟩
  · rcases hba with hba | ⟨heq, -⟩
    · have hgt := Instant.compare_eq_gt.mpr hab
      rw [hba] at hgt
      cases hgt
    · rw [heq, Instant.compare_self] at hab
      cases hab
  · rcases hba with hba | ⟨-, hba⟩
    · rw [heq, Instant.compare_self] at hba
      cases hba
    · exact absurd hba (not_pair_sublist hkept hab)

end Signoff.Store
