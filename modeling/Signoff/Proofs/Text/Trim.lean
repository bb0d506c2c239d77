import Mathlib
import Signoff.Text.Blank

/-!
Text with its blank ends cut off. What was cut once has no ends left to cut, and blanks at an end
that is cut anyway make no difference.
-/

namespace Signoff.Text

theorem trimChars_eq (s : List Char) :
    trimChars s = (s.dropWhile isBlank).rdropWhile isBlank := rfl

/-- Trimmed text does not start with a blank. -/
theorem skipBlank_trimChars (s : List Char) : skipBlank (trimChars s) = trimChars s := by
  have hfront := List.rdropWhile_prefix isBlank (l := s.dropWhile isBlank)
  rw [trimChars_eq, skipBlank, List.dropWhile_eq_self_iff]
  intro hne
  -- it starts with what the text starts with once its front is cut
  rw [hfront.getElem hne]
  exact List.dropWhile_eq_self_iff.mp (List.dropWhile_idempotent isBlank s) _

theorem trimChars_trimChars (s : List Char) : trimChars (trimChars s) = trimChars s := by
  have hskip : (trimChars s).dropWhile isBlank = trimChars s := skipBlank_trimChars s
  rw [trimChars_eq (trimChars s), hskip, trimChars_eq]
  exact List.rdropWhile_idempotent isBlank _

theorem trim_trim (s : String) : trim (trim s) = trim s := by
  rw [trim, trim, String.toList_ofList, trimChars_trimChars]

theorem trimChars_eq_nil {s : List Char} : trimChars s = [] ↔ s.all isBlank = true := by
  rw [trimChars_eq, List.rdropWhile_eq_nil_iff, List.all_eq_true]
  constructor
  · intro h
    -- the front is cut up to what is no blank, of which there is nothing
    have hnil : s.dropWhile isBlank = [] := by
      by_contra hne
      have hhead := List.head_dropWhile_not isBlank hne
      rw [h _ (List.head_mem hne)] at hhead
      cases hhead
    exact List.dropWhile_eq_nil_iff.mp hnil
  · intro h
    rw [List.dropWhile_eq_nil_iff.mpr h]
    simp

/-- Trimmed text says nothing exactly when the text itself does. -/
theorem isBlankText_trim (s : String) : isBlankText (trim s) = isBlankText s := by
  rw [Bool.eq_iff_iff, isBlankText, isBlankText, ← trimChars_eq_nil, ← trimChars_eq_nil, trim,
    String.toList_ofList, trimChars_trimChars]

theorem trimChars_sublist (s : List Char) : (trimChars s).Sublist s :=
  (List.rdropWhile_prefix isBlank _).sublist.trans (List.dropWhile_suffix isBlank).sublist

/-- Blanks behind a text are cut off as if they had not been there. -/
theorem trimChars_append_blanks (s : List Char) {blanks : List Char}
    (h : ∀ c ∈ blanks, isBlank c = true) : trimChars (s ++ blanks) = trimChars s := by
  have hback (t : List Char) : (t ++ blanks).rdropWhile isBlank = t.rdropWhile isBlank := by
    have hblanks : ∀ c ∈ blanks.reverse, isBlank c = true := by
      intro c hc
      exact h c (List.mem_reverse.mp hc)
    rw [List.rdropWhile, List.reverse_append, List.dropWhile_append_of_pos hblanks, List.rdropWhile]
  rw [trimChars_eq, trimChars_eq, List.dropWhile_append]
  split
  · next hnil =>
    -- there is nothing but blanks
    rw [List.isEmpty_iff] at hnil
    rw [hnil, List.dropWhile_eq_nil_iff.mpr h]
  · exact hback _

/-- What is no blank keeps what stands before it and behind it apart. -/
theorem trimChars_append_cons {mark : Char} (hmark : isBlank mark = false) (before after : List Char) :
    trimChars (before ++ mark :: after) =
      before.dropWhile isBlank ++ mark :: after.rdropWhile isBlank := by
  have hcut (s t : List Char) :
      (s ++ mark :: t).dropWhile isBlank = s.dropWhile isBlank ++ mark :: t := by
    have hkept : (mark :: t).dropWhile isBlank = mark :: t :=
      List.dropWhile_cons_of_neg (by rw [hmark]; decide)
    rw [List.dropWhile_append, hkept]
    split
    · next hnil => rw [List.isEmpty_iff.mp hnil, List.nil_append]
    · rfl
  have hturn (s t : List Char) : (s ++ mark :: t).reverse = t.reverse ++ mark :: s.reverse := by
    rw [List.reverse_append, List.reverse_cons, List.append_assoc, List.singleton_append]
  rw [trimChars_eq, hcut, List.rdropWhile, hturn, hcut, List.reverse_append, List.reverse_cons,
    List.append_assoc, List.singleton_append, List.reverse_reverse, List.rdropWhile]

end Signoff.Text
