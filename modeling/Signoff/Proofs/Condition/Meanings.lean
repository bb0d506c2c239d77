import Mathlib
import Signoff.Condition.Comparison

/-!
What a text can mean. Every date has a hyphen right behind a digit, whichever of its forms it has
and however it is padded; in a number a hyphen is the sign in front or the sign of the exponent. So
no text means both an instant and a number.
-/

namespace Signoff

/-- No hyphen stands right behind a digit. -/
def Unhyphenated (s : List Char) : Prop :=
  s.IsChain fun c d => Double.isDigit c = true → d ≠ '-'

theorem unhyphenated_of_not_mem {s : List Char} (h : '-' ∉ s) : Unhyphenated s := by
  apply List.Pairwise.isChain
  apply List.pairwise_of_forall_mem_list
  intro c _ d hd _ heq
  rw [heq] at hd
  exact h hd

theorem not_unhyphenated {before after : List Char} {d : Char} (hd : Double.isDigit d = true) :
    ¬ Unhyphenated (before ++ d :: '-' :: after) := by
  intro h
  exact (List.isChain_append_cons_cons.mp h).2.1 hd rfl

theorem hyphen_not_mem_of_digits {s : List Char} (h : ∀ c ∈ s, Double.isDigit c = true) :
    '-' ∉ s := by
  intro hmem
  have hdigit := h '-' hmem
  have hhyphen : Double.isDigit '-' = false := by decide
  rw [hhyphen] at hdigit
  cases hdigit

/-! ### Dates -/

namespace Instant

/-- The text starts with something that ends in a digit. -/
def DigitBefore (s rest : List Char) : Prop :=
  ∃ before d, Double.isDigit d = true ∧ s = before ++ d :: rest

theorem DigitBefore.append_left {s rest : List Char} (h : DigitBefore s rest) (front : List Char) :
    DigitBefore (front ++ s) rest := by
  obtain ⟨before, d, hd, rfl⟩ := h
  exact ⟨front ++ before, d, hd, (List.append_assoc _ _ _).symm⟩

theorem digitBefore_of_prefix {s digits : List Char} (hfront : digits <+: s) (hne : digits ≠ [])
    (hall : ∀ c ∈ digits, isDigit c = true) : DigitBefore s (s.drop digits.length) := by
  refine ⟨digits.dropLast, digits.getLast hne, hall _ (List.getLast_mem hne), ?_⟩
  calc s = digits ++ s.drop digits.length := (List.prefix_iff_eq_append.mp hfront).symm
    _ = (digits.dropLast ++ [digits.getLast hne]) ++ s.drop digits.length := by
      rw [List.dropLast_append_getLast hne]
    _ = digits.dropLast ++ digits.getLast hne :: s.drop digits.length := by
      rw [List.append_assoc, List.singleton_append]

theorem number?_some {most n : Nat} {s rest : List Char} (h : number? most s = some (n, rest)) :
    DigitBefore s rest := by
  unfold number? at h
  split at h
  · cases h
  · next hne =>
    cases h
    apply digitBefore_of_prefix
    · exact (List.takeWhile_prefix _).trans (List.take_prefix _ _)
    · exact hne
    · intro c hc
      exact List.mem_takeWhile_imp hc

theorem digits?_some {count n : Nat} {s rest : List Char} (hcount : 0 < count)
    (h : digits? count s = some (n, rest)) : DigitBefore s rest := by
  unfold digits? at h
  dsimp only at h
  split_ifs at h with hlength
  have hrest : s.drop ((s.take count).takeWhile isDigit).length = rest := by
    rw [hlength]
    cases h
    rfl
  rw [← hrest]
  apply digitBefore_of_prefix
  · exact (List.takeWhile_prefix _).trans (List.take_prefix _ _)
  · exact List.ne_nil_of_length_pos (by omega)
  · intro c hc
    exact List.mem_takeWhile_imp hc

theorem char?_some {c : Char} {s rest : List Char} (h : char? c s = some rest) : s = c :: rest := by
  cases s with
  | nil => cases h
  | cons d s =>
    rw [char?] at h
    split_ifs at h with hc
    cases h
    rw [hc]

theorem year?_some {n : Int} {s rest : List Char} (h : year? s = some (n, rest)) :
    DigitBefore s rest := by
  have hskip : s.takeWhile Text.isBlank ++ Text.skipBlank s = s := List.takeWhile_append_dropWhile
  rw [← hskip]
  apply DigitBefore.append_left
  -- behind the blanks there may be a sign
  have hsign (sign r : List Char) (most : Nat) (f : Nat → Int)
      (h : ((number? most r).map fun found => (f found.1, found.2)) = some (n, rest)) :
      DigitBefore (sign ++ r) rest := by
    obtain ⟨⟨m, r'⟩, hnumber, heq⟩ := Option.map_eq_some_iff.mp h
    cases heq
    exact (number?_some hnumber).append_left sign
  unfold year? at h
  split at h
  · next r heq =>
    rw [heq]
    exact hsign ['-'] r r.length (fun m => -(m : Int)) h
  · next r heq =>
    rw [heq]
    exact hsign ['+'] r r.length (fun m => (m : Int)) h
  · exact hsign [] _ 4 (fun m => (m : Int)) h

/-- A year and the hyphen behind it. -/
theorem DigitBefore.not_unhyphenated {s rest after : List Char} (h : DigitBefore s rest)
    (hhyphen : char? '-' rest = some after) : ¬ Unhyphenated s := by
  obtain ⟨before, d, hd, rfl⟩ := h
  rw [char?_some hhyphen]
  exact Signoff.not_unhyphenated hd

theorem not_unhyphenated_of_date? {s rest : List Char} {date : Int × Nat × Nat}
    (h : date? id s = some (date, rest)) : ¬ Unhyphenated s := by
  obtain ⟨⟨year, s'⟩, hyear, h⟩ := Option.bind_eq_some_iff.mp h
  obtain ⟨s'', hhyphen, -⟩ := Option.bind_eq_some_iff.mp h
  exact (year?_some hyear).not_unhyphenated hhyphen

theorem not_unhyphenated_of_strict? {s : List Char} {t : Instant} (h : strict? s = some t) :
    ¬ Unhyphenated s := by
  obtain ⟨⟨year, s'⟩, hyear, h⟩ := Option.bind_eq_some_iff.mp h
  obtain ⟨s'', hhyphen, -⟩ := Option.bind_eq_some_iff.mp h
  exact (digits?_some (by decide) hyear).not_unhyphenated hhyphen

theorem not_unhyphenated_of_local? {between : List Char → Option (List Char)} {s : List Char}
    {t : Instant} (h : local? between s = some t) : ¬ Unhyphenated s := by
  obtain ⟨⟨date, s'⟩, hdate, -⟩ := Option.bind_eq_some_iff.mp h
  exact not_unhyphenated_of_date? hdate

theorem not_unhyphenated_of_midnight? {s : List Char} {t : Instant} (h : midnight? s = some t) :
    ¬ Unhyphenated s := by
  obtain ⟨⟨date, s'⟩, hdate, -⟩ := Option.bind_eq_some_iff.mp h
  exact not_unhyphenated_of_date? hdate

theorem not_unhyphenated_of_ofText? {s : String} {t : Instant} (h : ofText? s = some t) :
    ¬ Unhyphenated (Text.trimChars s.toList) := by
  -- one of the four forms gives the instant
  rcases (Option.orElse_eq_some _ _ _).mp h with h | ⟨-, h⟩
  · exact not_unhyphenated_of_strict? h
  rcases (Option.orElse_eq_some _ _ _).mp h with h | ⟨-, h⟩
  · exact not_unhyphenated_of_local? h
  rcases (Option.orElse_eq_some _ _ _).mp h with h | ⟨-, h⟩
  · exact not_unhyphenated_of_local? h
  · exact not_unhyphenated_of_midnight? h

end Instant

/-! ### Numbers -/

theorem Unhyphenated.cons {s : List Char} (h : Unhyphenated s) {c : Char}
    (hc : Double.isDigit c = false) : Unhyphenated (c :: s) := by
  apply List.isChain_cons.mpr
  refine ⟨?_, h⟩
  intro d _ hdigit
  rw [hc] at hdigit
  cases hdigit

/-- Digits in front of something that does not start with a hyphen. -/
theorem Unhyphenated.run {digits rest : List Char} (h : Unhyphenated rest)
    (hdigits : ∀ c ∈ digits, Double.isDigit c = true) (hhead : ∀ c ∈ rest.head?, c ≠ '-') :
    Unhyphenated (digits ++ rest) := by
  apply List.isChain_append.mpr
  refine ⟨unhyphenated_of_not_mem (hyphen_not_mem_of_digits hdigits), h, ?_⟩
  intro c _ d hd _
  exact hhead d hd

namespace Double

theorem natural?_some {s : List Char} {n : Nat} (h : natural? s = some n) : '-' ∉ s := by
  unfold natural? at h
  split_ifs at h with hbad
  apply hyphen_not_mem_of_digits
  rw [Bool.or_eq_true, not_or, Bool.not_eq_true', Bool.not_eq_false, List.all_eq_true] at hbad
  exact hbad.2

/-- In an exponent a hyphen can only be the sign, right behind the mark. -/
theorem exponent?_some {s : List Char} {n : Int} (h : exponent? s = some n) :
    Unhyphenated s ∧ ∀ c ∈ s.head?, c ≠ '-' := by
  cases s with
  | nil => exact ⟨List.isChain_nil, by simp⟩
  | cons e rest =>
    unfold exponent? at h
    dsimp only at h
    split_ifs at h with he
    have hmark : isDigit e = false ∧ e ≠ '-' := by
      rcases he with rfl | rfl <;> decide
    have hdigits (digits : List Char) (h : natural? digits ≠ none) : Unhyphenated digits := by
      obtain ⟨m, hm⟩ := Option.ne_none_iff_exists'.mp h
      exact unhyphenated_of_not_mem (natural?_some hm)
    -- a sign can stand here, since the mark in front of it is no digit
    have hrest : Unhyphenated rest := by
      split at h
      · next digits =>
        refine (hdigits digits ?_).cons (by decide)
        intro hnone
        simp [hnone] at h
      · next digits =>
        refine (hdigits digits ?_).cons (by decide)
        intro hnone
        simp [hnone] at h
      · apply hdigits
        intro hnone
        simp [hnone] at h
    refine ⟨hrest.cons hmark.1, ?_⟩
    rintro _ ⟨⟩
    exact hmark.2

theorem numeral?_some {s : List Char} {n : Numeral} (h : numeral? s = some n) :
    Unhyphenated s := by
  have hsplit (r : List Char) : r.takeWhile isDigit ++ r.dropWhile isDigit = r :=
    List.takeWhile_append_dropWhile
  have hdigits (r : List Char) : ∀ c ∈ r.takeWhile isDigit, isDigit c = true := fun c hc =>
    List.mem_takeWhile_imp hc
  unfold numeral? at h
  dsimp only at h
  split_ifs at h
  obtain ⟨e, he, -⟩ := Option.map_eq_some_iff.mp h
  rw [← hsplit s]
  -- behind the digits in front there is a fraction or the exponent
  have htail : Unhyphenated (s.dropWhile isDigit) ∧ ∀ c ∈ (s.dropWhile isDigit).head?, c ≠ '-' := by
    split at he
    · next r heq =>
      obtain ⟨hrest, hhead⟩ := exponent?_some he
      have hfraction := hrest.run (hdigits r) hhead
      rw [hsplit] at hfraction
      rw [heq]
      refine ⟨hfraction.cons (by decide), ?_⟩
      rintro _ ⟨⟩
      decide
    · exact exponent?_some he
  exact htail.1.run (hdigits s) htail.2

theorem unhyphenated_of_readUnsigned? {negative : Bool} {s : List Char} {x : Double}
    (h : readUnsigned? negative s = some (.finite x)) : Unhyphenated s := by
  unfold readUnsigned? at h
  dsimp only at h
  -- the words mean no finite number
  split_ifs at h
  · cases h
  · cases h
  · obtain ⟨n, hn, -⟩ := Option.map_eq_some_iff.mp h
    exact numeral?_some hn

theorem unhyphenated_of_ofText? {s : String} {x : Double} (h : ofText? s = some x) :
    Unhyphenated (Text.trimChars s.toList) := by
  unfold ofText? at h
  split at h
  · next y hread =>
    unfold read? at hread
    rw [Text.trim, String.toList_ofList] at hread
    split at hread
    · next rest heq =>
      rw [heq]
      exact (unhyphenated_of_readUnsigned? hread).cons (by decide)
    · next rest heq =>
      rw [heq]
      exact (unhyphenated_of_readUnsigned? hread).cons (by decide)
    · exact unhyphenated_of_readUnsigned? hread
  · cases h

end Double

/-- A text that means an instant means no number. -/
theorem Double.ofText?_of_instant {s : String} {t : Instant} (h : Instant.ofText? s = some t) :
    Double.ofText? s = none := by
  cases hnumber : Double.ofText? s with
  | none => rfl
  | some x =>
    have hnumeral := Double.unhyphenated_of_ofText? hnumber
    exact absurd hnumeral (Instant.not_unhyphenated_of_ofText? h)

end Signoff
