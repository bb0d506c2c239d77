import Mathlib
import Signoff.Proofs.Instant.RoundTrip

/-!
The order of texts is the order of instants, for the texts that stand in tables and the years that
four digits write. Texts of other years have a sign in front, which comes before every digit, so
that they are sorted before all of these, also when they mean a later time.
-/

namespace Signoff.Instant

/-! ### The order of instants -/

theorem compare_eq_compareLex :
    compare = compareLex (compareOn Instant.year) (compareLex (compareOn Instant.dayOfYear)
      (compareLex (compareOn Instant.second) (compareOn Instant.nanos))) :=
  rfl

instance : Std.TransCmp compare := by
  rw [compare_eq_compareLex]
  infer_instance

theorem compare_eq_lt {s t : Instant} :
    s.compare t = .lt ↔ s.year < t.year ∨ s.year = t.year ∧ (s.dayOfYear < t.dayOfYear ∨
      s.dayOfYear = t.dayOfYear ∧ (s.second < t.second ∨
        s.second = t.second ∧ s.nanos < t.nanos)) := by
  simp only [compare, Ordering.then_eq_lt, compare_lt_iff_lt, compare_eq_iff_eq]

theorem compare_eq_eq {s t : Instant} : s.compare t = .eq ↔ s = t := by
  obtain ⟨year, day, second, nanos⟩ := s
  obtain ⟨year', day', second', nanos'⟩ := t
  simp only [compare, Ordering.then_eq_eq, compare_eq_iff_eq, Instant.mk.injEq]

theorem compare_self (t : Instant) : t.compare t = .eq := compare_eq_eq.mpr rfl

theorem compare_eq_gt {s t : Instant} : s.compare t = .gt ↔ t.compare s = .lt :=
  Std.OrientedCmp.gt_iff_lt

/-! ### The order of digits -/

theorem append_lt_append {as bs : List Char} (xs ys : List Char) (h : as.length = bs.length) :
    as ++ xs < bs ++ ys ↔ as < bs ∨ as = bs ∧ xs < ys := by
  induction as generalizing bs with
  | nil =>
    rw [List.length_nil, eq_comm, List.length_eq_zero_iff] at h
    subst h
    simp
  | cons a as ih =>
    cases bs with
    | nil => cases h
    | cons b bs =>
      have htail := ih (Nat.succ.inj h)
      simp only [List.cons_append, List.cons_lt_cons_iff, htail, List.cons.injEq]
      tauto

theorem digitChar_lt {m n : Nat} (hm : m < 10) (hn : n < 10) :
    Nat.digitChar m < Nat.digitChar n ↔ m < n := by
  have hall : ∀ a < 10, ∀ b < 10, Nat.digitChar a < Nat.digitChar b ↔ a < b := by decide
  exact hall m hm n hn

theorem padded_inj {width m n : Nat} (hm : m < 10 ^ width) (hn : n < 10 ^ width) :
    padded width m = padded width n ↔ m = n := by
  constructor
  · intro h
    have hvalue := congrArg digitsValue h
    rwa [digitsValue_padded, digitsValue_padded, Nat.mod_eq_of_lt hm, Nat.mod_eq_of_lt hn] at hvalue
  · intro h
    rw [h]

/-- Numbers of equally many digits are sorted by their digits. -/
theorem padded_lt {width m n : Nat} (hm : m < 10 ^ width) (hn : n < 10 ^ width) :
    padded width m < padded width n ↔ m < n := by
  induction width generalizing m n with
  | zero =>
    rw [pow_zero, Nat.lt_one_iff] at hm hn
    simp [padded, hm, hn]
  | succ width ih =>
    -- the leading digits decide, and the last one where they are the same
    have hm' : m / 10 < 10 ^ width := by
      apply Nat.div_lt_of_lt_mul
      rwa [← pow_succ']
    have hn' : n / 10 < 10 ^ width := by
      apply Nat.div_lt_of_lt_mul
      rwa [← pow_succ']
    have hlength : (padded width (m / 10)).length = (padded width (n / 10)).length := by
      rw [length_padded, length_padded]
    have hten : 10 > 0 := by decide
    have hlast := digitChar_lt (Nat.mod_lt m hten) (Nat.mod_lt n hten)
    rw [padded, padded, append_lt_append _ _ hlength, ih hm' hn', padded_inj hm' hn',
      List.cons_lt_cons_iff, hlast]
    simp only [List.lt_irrefl, and_false, or_false]
    omega

/-- A field of fixed width decides, and what stands after it and its mark where it is the same. -/
theorem field_lt {width m n : Nat} (hm : m < 10 ^ width) (hn : n < 10 ^ width) (mark : Char)
    (xs ys : List Char) :
    padded width m ++ mark :: xs < padded width n ++ mark :: ys ↔ m < n ∨ m = n ∧ xs < ys := by
  have hlength : (padded width m).length = (padded width n).length := by
    rw [length_padded, length_padded]
  rw [append_lt_append _ _ hlength, padded_lt hm hn, padded_inj hm hn, List.cons_lt_cons_iff]
  simp only [Char.lt_irrefl, true_and, false_or]

/-! ### The order of dates and of clocks -/

theorem le_dateIn (months : List Nat) (month day : Nat) : month ≤ (dateIn months month day).1 := by
  induction months generalizing month day with
  | nil => exact Nat.le_refl month
  | cons days rest ih =>
    rw [dateIn]
    split
    · exact Nat.le_refl month
    · exact Nat.le_of_succ_le (ih (month + 1) (day - days))

/-- A later place in the months is a later month, or a later day of the same one. -/
theorem dateIn_lt (months : List Nat) (month day day' : Nat) :
    ((dateIn months month day).1 < (dateIn months month day').1 ∨
      (dateIn months month day).1 = (dateIn months month day').1 ∧
        (dateIn months month day).2 < (dateIn months month day').2) ↔ day < day' := by
  induction months generalizing month day day' with
  | nil => simp [dateIn]
  | cons days rest ih =>
    have hlate := le_dateIn rest (month + 1) (day - days)
    have hlate' := le_dateIn rest (month + 1) (day' - days)
    have hboth := ih (month + 1) (day - days) (day' - days)
    rw [dateIn, dateIn]
    -- either day may lie in the first month, or after it
    split <;> split
    · simp
    · simp only
      omega
    · simp only
      omega
    · rw [hboth]
      omega

/-- Month and day decide as the place in the year does, and what comes after them where they are the
same. -/
theorem date_lt (year : Int) (day day' : Nat) (later : Prop) :
    ((dateOfDay year day).1 < (dateOfDay year day').1 ∨
      (dateOfDay year day).1 = (dateOfDay year day').1 ∧
        ((dateOfDay year day).2 < (dateOfDay year day').2 ∨
          (dateOfDay year day).2 = (dateOfDay year day').2 ∧ later)) ↔
      day < day' ∨ day = day' ∧ later := by
  have hbefore := dateIn_lt (monthDays year) 1 day day'
  have hafter := dateIn_lt (monthDays year) 1 day' day
  rw [← dateOfDay, ← dateOfDay] at hbefore hafter
  by_cases hlater : later
  · simp only [hlater, and_true]
    omega
  · simp only [hlater, and_false, or_false]
    omega

/-- The fields of a clock, the leap second being second 60, are sorted as the time of the day. -/
theorem clock_lt {s t : Instant} (hs : s.Proper) (ht : t.Proper) :
    (s.second / 3600 < t.second / 3600 ∨ s.second / 3600 = t.second / 3600 ∧
      (s.second / 60 % 60 < t.second / 60 % 60 ∨ s.second / 60 % 60 = t.second / 60 % 60 ∧
        ((s.second % 60 + if 1000000000 ≤ s.nanos then 1 else 0) <
            (t.second % 60 + if 1000000000 ≤ t.nanos then 1 else 0) ∨
          (s.second % 60 + if 1000000000 ≤ s.nanos then 1 else 0) =
              (t.second % 60 + if 1000000000 ≤ t.nanos then 1 else 0) ∧
            (if 1000000000 ≤ s.nanos then s.nanos - 1000000000 else s.nanos) <
              (if 1000000000 ≤ t.nanos then t.nanos - 1000000000 else t.nanos)))) ↔
      s.second < t.second ∨ s.second = t.second ∧ s.nanos < t.nanos := by
  have hnanos := hs.nanos
  have hnanos' := ht.nanos
  split <;> split <;> omega

/-! ### The order of texts -/

/-- The fields of an instant of a year with four digits, in the order of its text. -/
theorem chars_nine {t : Instant} (h : t.Sortable) :
    t.chars .nine = padded 4 t.year.toNat ++ '-' :: (padded 2 (dateOfDay t.year t.dayOfYear).1 ++
      '-' :: (padded 2 (dateOfDay t.year t.dayOfYear).2 ++ 'T' :: (padded 2 (t.second / 3600) ++
        ':' :: (padded 2 (t.second / 60 % 60) ++
          ':' :: (padded 2 (t.second % 60 + if 1000000000 ≤ t.nanos then 1 else 0) ++
            '.' :: (padded 9 (if 1000000000 ≤ t.nanos then t.nanos - 1000000000 else t.nanos) ++
              'Z' :: [])))))) := by
  have hyear : yearText t.year = padded 4 t.year.toNat := by
    rw [yearText, if_pos h.year]
  rw [chars]
  simp only [fractionText, hyear, List.append_assoc, List.cons_append]

theorem sortableText_lt {s t : Instant} (hs : s.Sortable) (ht : t.Sortable) :
    s.sortableText < t.sortableText ↔ s.compare t = .lt := by
  -- every field is of a width of its own that its values fit in
  have hyear {u : Instant} (h : u.Sortable) : u.year.toNat < 10 ^ 4 := by
    have := h.year
    omega
  have hdate {u : Instant} (h : u.Sortable) :
      (dateOfDay u.year u.dayOfYear).1 < 10 ^ 2 ∧ (dateOfDay u.year u.dayOfYear).2 < 10 ^ 2 := by
    have := (dayOfDate?_dateOfDay h.day.1 h.day.2).2
    omega
  have hclock {u : Instant} (h : u.Sortable) : u.second / 3600 < 10 ^ 2 ∧
      u.second / 60 % 60 < 10 ^ 2 ∧
      (u.second % 60 + if 1000000000 ≤ u.nanos then 1 else 0) < 10 ^ 2 := by
    have hsecond := h.second
    rw [secondsOfDay] at hsecond
    split <;> omega
  have hnanos {u : Instant} (h : u.Sortable) :
      (if 1000000000 ≤ u.nanos then u.nanos - 1000000000 else u.nanos) < 10 ^ 9 := by
    have := h.nanos
    split <;> omega
  have hyears : s.year.toNat < t.year.toNat ↔ s.year < t.year := by
    have hfirst := hs.year
    have hsecond := ht.year
    omega
  have hyears' : s.year.toNat = t.year.toNat ↔ s.year = t.year := by
    have hfirst := hs.year
    have hsecond := ht.year
    omega
  rw [String.lt_iff_toList_lt, sortableText, sortableText, String.toList_ofList,
    String.toList_ofList, chars_nine hs, chars_nine ht, field_lt (hyear hs) (hyear ht),
    field_lt (hdate hs).1 (hdate ht).1, field_lt (hdate hs).2 (hdate ht).2,
    field_lt (hclock hs).1 (hclock ht).1, field_lt (hclock hs).2.1 (hclock ht).2.1,
    field_lt (hclock hs).2.2 (hclock ht).2.2, field_lt (hnanos hs) (hnanos ht), hyears, hyears',
    compare_eq_lt]
  apply or_congr_right
  apply and_congr_right
  intro hsame
  -- both dates are of one calendar from here on
  rw [hsame, date_lt]
  apply or_congr_right
  apply and_congr_right
  intro _
  simp only [List.lt_irrefl, and_false, or_false]
  exact clock_lt hs.toProper ht.toProper

/-- A sign comes before every digit. -/
theorem sign_lt {sign c : Char} (hsign : sign = '-' ∨ sign = '+') (h : isDigit c = true) :
    sign < c := by
  have hzero : '0' ≤ c := by
    rw [isDigit, Bool.and_eq_true, decide_eq_true_eq] at h
    exact h.1
  rcases hsign with rfl | rfl
  · exact lt_of_lt_of_le (by decide) hzero
  · exact lt_of_lt_of_le (by decide) hzero

/-- A year that four digits do not write has its text before all that they do write. -/
theorem sortableText_lt_of_year {s t : Instant} (hs : s.Sortable)
    (ht : ¬(0 ≤ t.year ∧ t.year ≤ 9999)) : t.sortableText < s.sortableText := by
  obtain ⟨sign, rest, hsign, hrest⟩ :
      ∃ sign rest, (sign = '-' ∨ sign = '+') ∧ t.chars .nine = sign :: rest := by
    rw [chars, yearText, if_neg ht]
    by_cases hneg : t.year < 0
    · exact ⟨'-', _, .inl rfl, by rw [if_pos hneg]; rfl⟩
    · exact ⟨'+', _, .inr rfl, by rw [if_neg hneg]; rfl⟩
  have hfirst : ∃ c digits, padded 4 s.year.toNat = c :: digits := by
    apply List.exists_cons_of_length_pos
    rw [length_padded]
    decide
  obtain ⟨c, digits, hdigits⟩ := hfirst
  have hc : isDigit c = true := by
    have hmem : c ∈ padded 4 s.year.toNat := by
      rw [hdigits]
      exact List.mem_cons_self
    exact isDigit_of_mem_padded hmem
  rw [String.lt_iff_toList_lt, sortableText, sortableText, String.toList_ofList,
    String.toList_ofList, chars_nine hs, hrest, hdigits, List.cons_append, List.cons_lt_cons_iff]
  exact .inl (sign_lt hsign hc)

/-- Texts compare as the instants do, up to the end of the year 9999. -/
theorem compare_sortableText {s t : Instant} (hs : s.Sortable) (ht : t.Proper)
    (hyear : t.year ≤ 9999) : Ord.compare s.sortableText t.sortableText = s.compare t := by
  by_cases hzero : 0 ≤ t.year
  · have ht' : t.Sortable := ⟨ht, hzero, hyear⟩
    cases horder : s.compare t with
    | lt =>
      rw [compare_lt_iff_lt]
      exact (sortableText_lt hs ht').mpr horder
    | eq => rw [compare_eq_eq.mp horder, compare_eq_iff_eq]
    | gt =>
      rw [compare_gt_iff_gt]
      exact (sortableText_lt ht' hs).mpr (compare_eq_gt.mp horder)
  · -- years before the year 0 come first in either order
    have hlater : t.compare s = .lt := by
      have hfirst := hs.year
      rw [compare_eq_lt]
      omega
    rw [compare_eq_gt.mpr hlater, compare_gt_iff_gt]
    exact sortableText_lt_of_year hs (by omega)

/-- The texts of later years come first, though they mean a later time. -/
theorem compare_sortableText_of_late {s t : Instant} (hs : s.Sortable) (hyear : 9999 < t.year) :
    Ord.compare s.sortableText t.sortableText = .gt := by
  rw [compare_gt_iff_gt]
  exact sortableText_lt_of_year hs (by omega)

end Signoff.Instant
