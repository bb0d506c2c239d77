import Mathlib
import Signoff.Text.Split

/-!
Text cut at separators is the text that its parts make when they are joined again, and no part holds
a separator. Where a character stands last, the rest of the text has no more of it.
-/

namespace Signoff.Text

theorem splitOn_eq (separator : Char) (s : List Char) :
    splitOn separator s = s.splitOn separator := by
  induction s with
  | nil => rfl
  | cons c rest ih =>
    rw [splitOn, List.splitOn_cons_eq_if_modifyHead, ih]
    simp only [beq_iff_eq]
    split
    · rfl
    · cases h : rest.splitOn separator with
      | nil => exact absurd h (List.splitOn_ne_nil _ _)
      | cons part parts => rfl

theorem not_mem_of_mem_splitOn {separator : Char} {s part : List Char}
    (h : part ∈ splitOn separator s) : separator ∉ part := by
  induction s generalizing part with
  | nil =>
    rw [splitOn, List.mem_singleton] at h
    rw [h]
    exact List.not_mem_nil
  | cons c rest ih =>
    rw [splitOn] at h
    split at h
    · rcases List.mem_cons.mp h with rfl | h
      · exact List.not_mem_nil
      · exact ih h
    · next hc =>
      split at h
      · next hnil => exact absurd hnil (splitOn_ne_nil separator rest)
      · next first parts hparts =>
        rw [hparts] at ih
        rcases List.mem_cons.mp h with rfl | h
        · -- the character goes to the front of the first part
          have hfirst : separator ∉ first := ih List.mem_cons_self
          rw [List.mem_cons]
          rintro (rfl | hmem)
          · exact hc rfl
          · exact hfirst hmem
        · exact ih (List.mem_cons_of_mem _ h)

theorem intercalate_split (separator : Char) (s : String) :
    (String.singleton separator).intercalate (split separator s) = s := by
  apply String.toList_inj.mp
  rw [String.toList_intercalate, split, List.map_map, String.toList_singleton]
  have hid : String.toList ∘ String.ofList = id := by
    funext cs
    exact String.toList_ofList
  rw [hid, List.map_id, splitOn_eq]
  exact List.intercalate_splitOn separator

theorem split_intercalate {separator : Char} {parts : List String} (hne : parts ≠ [])
    (hparts : ∀ part ∈ parts, separator ∉ part.toList) :
    split separator ((String.singleton separator).intercalate parts) = parts := by
  rw [split, splitOn_eq, String.toList_intercalate, String.toList_singleton]
  have hcut : List.splitOn separator ([separator].intercalate (parts.map String.toList)) =
      parts.map String.toList := by
    apply List.splitOn_intercalate
    · intro cs hcs
      obtain ⟨part, hpart, rfl⟩ := List.mem_map.mp hcs
      exact hparts part hpart
    · simpa using hne
  rw [hcut, List.map_map]
  have hid : String.ofList ∘ String.toList = id := by
    funext part
    exact String.ofList_toList
  rw [hid, List.map_id]

/-! ### The last occurrence -/

/-- A text that has a character has it for a last time. -/
theorem exists_last {mark : Char} {s : List Char} (h : mark ∈ s) :
    ∃ before after, s = before ++ mark :: after ∧ mark ∉ after := by
  obtain ⟨back, front, hreverse, hback⟩ := List.eq_append_cons_of_mem (List.mem_reverse.mpr h)
  refine ⟨front.reverse, back.reverse, ?_, ?_⟩
  · calc s = (back ++ mark :: front).reverse := by rw [← hreverse, List.reverse_reverse]
      _ = front.reverse ++ mark :: back.reverse := by simp
  · rwa [List.mem_reverse]

variable {mark : Char} {s : List Char}

theorem lastIndexOf?_eq_none : lastIndexOf? mark s = none ↔ mark ∉ s := by
  induction s with
  | nil => simp [lastIndexOf?]
  | cons c rest ih =>
    rw [lastIndexOf?, List.mem_cons, not_or, ← ih]
    cases lastIndexOf? mark rest with
    | none => simp [eq_comm (a := mark)]
    | some i => simp

theorem lastIndexOf?_append (before : List Char) {after : List Char} (h : mark ∉ after) :
    lastIndexOf? mark (before ++ mark :: after) = some before.length := by
  induction before with
  | nil => simp [lastIndexOf?, lastIndexOf?_eq_none.mpr h]
  | cons c before ih => rw [List.cons_append, lastIndexOf?, ih, List.length_cons]

theorem afterLast?_eq_none : afterLast? mark s = none ↔ mark ∉ s := by
  induction s with
  | nil => simp [afterLast?]
  | cons c rest ih =>
    rw [afterLast?, List.mem_cons, not_or, ← ih]
    cases afterLast? mark rest with
    | none => simp [eq_comm (a := mark)]
    | some i => simp

theorem afterLast?_append (before : List Char) {after : List Char} (h : mark ∉ after) :
    afterLast? mark (before ++ mark :: after) = some after := by
  induction before with
  | nil => simp [afterLast?, afterLast?_eq_none.mpr h]
  | cons c before ih => rw [List.cons_append, afterLast?, ih]

/-- What stands after the last occurrence is the part of the text that has no more of them. -/
theorem afterLast?_eq_some {after : List Char} :
    afterLast? mark s = some after ↔ ∃ before, s = before ++ mark :: after ∧ mark ∉ after := by
  constructor
  · intro h
    have hmem : mark ∈ s := by
      by_contra hnone
      rw [afterLast?_eq_none.mpr hnone] at h
      cases h
    obtain ⟨before, rest, rfl, hrest⟩ := exists_last hmem
    rw [afterLast?_append before hrest, Option.some.injEq] at h
    exact ⟨before, h ▸ rfl, h ▸ hrest⟩
  · rintro ⟨before, rfl, hafter⟩
    exact afterLast?_append before hafter

end Signoff.Text
