import Mathlib
import Signoff.Instant.Printer
import Signoff.Instant.Reader
import Signoff.Proofs.Text.Scan

/-!
Instants as they are written. An instant of the years that four digits write reads back from its
text to the nanosecond, leap seconds included, whether all nine digits of the fraction stand there,
as in tables, or only as many as it needs.
-/

namespace Signoff.Instant

theorem sum_monthDays (year : Int) : (monthDays year).sum = yearDays year := by
  unfold monthDays yearDays
  split <;> rfl

/-- A place in the months is a day of one of them, and the months before it make up the rest. -/
theorem dateIn_spec (months : List Nat) (month day : Nat) (h1 : 1 ≤ day) (h2 : day ≤ months.sum) :
    ∃ i days, months[i]? = some days ∧ (dateIn months month day).1 = month + i ∧
      1 ≤ (dateIn months month day).2 ∧ (dateIn months month day).2 ≤ days ∧
      (months.take i).sum + (dateIn months month day).2 = day := by
  induction months generalizing month day with
  | nil => simp at h2; omega
  | cons days rest ih =>
    rw [dateIn]
    split
    · next hle => exact ⟨0, days, by simp, by simp, h1, hle, by simp⟩
    · next hlt =>
      rw [List.sum_cons] at h2
      obtain ⟨i, days', hi, hmonth, hlow, hhigh, hsum⟩ :=
        ih (month + 1) (day - days) (by omega) (by omega)
      refine ⟨i + 1, days', by simpa using hi, by omega, hlow, hhigh, ?_⟩
      rw [List.take_succ_cons, List.sum_cons]
      omega

/-- What the calendar and the clock allow, with the leap second that ends a minute. -/
structure Proper (t : Instant) : Prop where
  day : 1 ≤ t.dayOfYear ∧ t.dayOfYear ≤ yearDays t.year
  second : t.second < secondsOfDay
  nanos : t.nanos < 1000000000 ∨ t.second % 60 = 59 ∧ t.nanos < 2000000000

/-- The instants whose texts sort as they do: those of the years 0 to 9999. -/
structure Sortable (t : Instant) : Prop extends Proper t where
  year : 0 ≤ t.year ∧ t.year ≤ 9999

theorem dayOfDate?_dateOfDay {year : Int} {day : Nat} (h1 : 1 ≤ day) (h2 : day ≤ yearDays year) :
    dayOfDate? year (dateOfDay year day).1 (dateOfDay year day).2 = some day ∧
      (dateOfDay year day).1 ≤ 12 ∧ (dateOfDay year day).2 ≤ 31 := by
  rw [← sum_monthDays] at h2
  obtain ⟨i, days, hi, hmonth, hlow, hhigh, hsum⟩ := dateIn_spec (monthDays year) 1 day h1 h2
  rw [← dateOfDay] at hmonth hlow hhigh hsum
  obtain ⟨hlt, hget⟩ := List.getElem?_eq_some_iff.mp hi
  have hlen : (monthDays year).length = 12 := rfl
  have hdays : ∀ d ∈ monthDays year, d ≤ 31 := by
    unfold monthDays
    split <;> decide
  have hle := hdays days (hget ▸ List.getElem_mem hlt)
  refine ⟨?_, by omega, by omega⟩
  simp only [dayOfDate?, hmonth, Nat.add_sub_cancel_left, hi]
  rw [if_neg (by omega), if_pos ⟨hlow, hhigh⟩, ← List.sum_eq_foldr, hsum]

theorem isDigit_digitChar (n : Nat) (h : n < 10) : isDigit (Nat.digitChar n) = true := by
  interval_cases n <;> decide

theorem toNat_digitChar (n : Nat) (h : n < 10) : (Nat.digitChar n).toNat - '0'.toNat = n := by
  interval_cases n <;> decide

theorem length_padded (width n : Nat) : (padded width n).length = width := by
  induction width generalizing n with
  | zero => rfl
  | succ width ih => rw [padded, List.length_append, ih, List.length_singleton]

theorem isDigit_of_mem_padded {width n : Nat} {c : Char} (h : c ∈ padded width n) :
    isDigit c = true := by
  induction width generalizing n with
  | zero => cases h
  | succ width ih =>
    rw [padded, List.mem_append, List.mem_singleton] at h
    rcases h with h | rfl
    · exact ih h
    · exact isDigit_digitChar _ (Nat.mod_lt _ (by decide))

theorem digitsValue_padded (width n : Nat) : digitsValue (padded width n) = n % 10 ^ width := by
  induction width generalizing n with
  | zero => simp [padded, digitsValue, Nat.mod_one]
  | succ width ih =>
    have h := ih (n / 10)
    unfold digitsValue at h ⊢
    rw [padded, List.foldl_append, h, List.foldl_cons, List.foldl_nil,
      toNat_digitChar _ (Nat.mod_lt _ (by decide)), pow_succ', Nat.mod_mul]
    omega

theorem digits?_padded {width n : Nat} (h : n < 10 ^ width) (rest : List Char) :
    digits? width (padded width n ++ rest) = some (n, rest) := by
  have htake : (padded width n ++ rest).take width = padded width n := by
    rw [List.take_append_of_le_length (by rw [length_padded]), List.take_of_length_le]
    rw [length_padded]
  have hall : (padded width n).takeWhile isDigit = padded width n :=
    List.takeWhile_eq_self_iff.mpr fun c hc => isDigit_of_mem_padded hc
  have hdrop : (padded width n ++ rest).drop width = rest := by
    rw [List.drop_append_of_le_length (by rw [length_padded]), List.drop_of_length_le
      (by rw [length_padded]), List.nil_append]
  simp only [digits?, htake, hall, length_padded, if_true, digitsValue_padded, hdrop,
    Nat.mod_eq_of_lt h]

/-- Up to nine digits behind a point, the missing ones being zeros. -/
theorem fraction?_padded {width n : Nat} (hpos : 0 < width) (hmost : width ≤ 9)
    (h : n < 10 ^ width) (rest : List Char) (hrest : ∀ c ∈ rest.head?, isDigit c = false) :
    fraction? ('.' :: padded width n ++ rest) = some (n * 10 ^ (9 - width), rest) := by
  have hall : ∀ c ∈ padded width n, isDigit c = true := fun c hc => isDigit_of_mem_padded hc
  have htake := Text.takeWhile_run hall hrest
  have hdrop := Text.dropWhile_run hall hrest
  have hnanos : nanosOf (padded width n) = n * 10 ^ (9 - width) := by
    have hlen : (padded width n).take 9 = padded width n :=
      List.take_of_length_le (by rw [length_padded]; exact hmost)
    rw [nanosOf, hlen, length_padded, digitsValue_padded, Nat.mod_eq_of_lt h]
    rfl
  rw [List.cons_append, fraction?, htake, hdrop]
  split
  · next hnil =>
    have hlen := congrArg List.length hnil
    rw [length_padded] at hlen
    exact absurd hlen hpos.ne'
  · rw [hnanos]

/-- However many digits a fraction gets, it says all of the nanoseconds. -/
theorem fraction?_fractionText (fraction : Fraction) {nanos : Nat} (h : nanos < 10 ^ 9) :
    fraction? (fractionText fraction nanos ++ ['Z']) = some (nanos, ['Z']) := by
  have hzone : ∀ c ∈ ['Z'].head?, isDigit c = false := by
    rintro _ ⟨⟩
    decide
  have hnine := fraction?_padded (by decide) (by decide) h ['Z'] hzone
  rw [Nat.sub_self, pow_zero, mul_one] at hnine
  cases fraction with
  | nine => exact hnine
  | asNeeded =>
    rw [fractionText]
    -- no digits, or three, six or nine, whichever is the first that leaves nothing out
    split_ifs with hzero hmillis hmicros
    · rw [hzero]
      rfl
    · have hbound : nanos / 1000000 < 10 ^ 3 := by omega
      have hread := fraction?_padded (by decide) (by decide) hbound ['Z'] hzone
      have hvalue : nanos / 1000000 * 10 ^ (9 - 3) = nanos := by omega
      rwa [hvalue] at hread
    · have hbound : nanos / 1000 < 10 ^ 6 := by omega
      have hread := fraction?_padded (by decide) (by decide) hbound ['Z'] hzone
      have hvalue : nanos / 1000 * 10 ^ (9 - 6) = nanos := by omega
      rwa [hvalue] at hread
    · exact hnine

/-- The fields of an instant on the clock, second 60 being the leap second. -/
theorem ofFields?_fields {t : Instant} (h : t.Sortable) :
    ofFields? t.year (dateOfDay t.year t.dayOfYear).1 (dateOfDay t.year t.dayOfYear).2
      (t.second / 3600) (t.second / 60 % 60)
      (t.second % 60 + if 1000000000 ≤ t.nanos then 1 else 0)
      (if 1000000000 ≤ t.nanos then t.nanos - 1000000000 else t.nanos) = some t := by
  obtain ⟨⟨⟨hday1, hday2⟩, hsecond, hnanos⟩, hyear⟩ := h
  have hdate := (dayOfDate?_dateOfDay hday1 hday2).1
  simp only [secondsOfDay] at hsecond
  rw [ofFields?, if_pos (by
    simp only [minYear, maxYear]
    split <;> omega), hdate, Option.map_some]
  obtain ⟨year, day, second, nanos⟩ := t
  dsimp only at *
  by_cases hleap : 1000000000 ≤ nanos
  · simp only [hleap, if_true]
    rw [if_pos (by omega), Option.some_inj, Instant.mk.injEq]
    omega
  · simp only [hleap, if_false]
    rw [if_neg (by omega), Option.some_inj, Instant.mk.injEq]
    omega

theorem universal?_zero {t : Instant} (h : t.Sortable) : universal? (some t) 0 = some t := by
  have hsecond : (t.second : Int) < secondsOfDay := by exact_mod_cast h.second
  have hyear : minYear ≤ t.year ∧ t.year ≤ maxYear := by
    have := h.year
    simp only [minYear, maxYear]
    omega
  have hlow : ¬ (t.second : Int) < 0 := by omega
  have hhigh : ¬ (secondsOfDay : Int) ≤ t.second := by omega
  rw [universal?, if_pos (by decide), Option.bind_some]
  simp only [shiftBack?, sub_zero, hlow, hhigh, if_false, Int.toNat_natCast, hyear, and_self,
    if_true]

/-- The fields of a text with all their digits, up to a universal time. -/
theorem strict?_padded {year month day hour minute second nanos : Nat} {fraction : List Char}
    (hyear : year < 10 ^ 4) (hmonth : month < 10 ^ 2) (hday : day < 10 ^ 2) (hhour : hour < 10 ^ 2)
    (hminute : minute < 10 ^ 2) (hsecond : second < 10 ^ 2)
    (hnanos : fraction? (fraction ++ ['Z']) = some (nanos, ['Z'])) :
    strict? (padded 4 year ++ ('-' :: (padded 2 month ++ ('-' :: (padded 2 day ++
      ('T' :: (padded 2 hour ++ (':' :: (padded 2 minute ++ (':' :: (padded 2 second ++
        (fraction ++ ['Z'])))))))))))) =
      universal? (ofFields? year month day hour minute second nanos) 0 := by
  -- each field is read before what follows is looked at, as that grows with every field
  have hdigits {width n : Nat} (h : n < 10 ^ width) (rest : List Char)
      (f : Nat × List Char → Option Instant) :
      (digits? width (padded width n ++ rest) >>= f) = f (n, rest) := by
    rw [digits?_padded h]
    rfl
  have hmark (c : Char) (s : List Char) (f : List Char → Option Instant) :
      (char? c (c :: s) >>= f) = f s := by
    rw [char?, if_pos rfl]
    rfl
  have htime (s : List Char) (f : List Char → Option Instant) :
      (dateEnd? ('T' :: s) >>= f) = f s := rfl
  have hzone (f : Int × List Char → Option Instant) :
      (offset? (char? ':') ['Z'] >>= f) = f (0, []) := rfl
  have hfraction (f : Nat × List Char → Option Instant) :
      (fraction? (fraction ++ ['Z']) >>= f) = f (nanos, ['Z']) := by
    rw [hnanos]
    rfl
  rw [strict?]
  simp only [↓hdigits hyear, ↓hdigits hmonth, ↓hdigits hday, ↓hdigits hhour, ↓hdigits hminute,
    ↓hdigits hsecond, ↓hmark, ↓htime, ↓hfraction, ↓hzone, List.isEmpty_nil, if_true]

/-- What is written of an instant reads back as that instant, with a fraction of either form. -/
theorem strict?_chars (fraction : Fraction) {t : Instant} (h : t.Sortable) :
    strict? (t.chars fraction) = some t := by
  obtain ⟨hmonth, hday⟩ := (dayOfDate?_dateOfDay h.day.1 h.day.2).2
  have hsecond := h.second
  have hnanos := h.nanos
  simp only [secondsOfDay] at hsecond
  have hyear : yearText t.year = padded 4 t.year.toNat := by rw [yearText, if_pos h.year]
  have hyear' : ((t.year.toNat : Nat) : Int) = t.year := Int.toNat_of_nonneg h.year.1
  have hyear4 : t.year.toNat < 10 ^ 4 := by have := h.year; omega
  have hsecond60 : (t.second % 60 + if 1000000000 ≤ t.nanos then 1 else 0) < 10 ^ 2 := by
    split <;> omega
  have hnanos9 : (if 1000000000 ≤ t.nanos then t.nanos - 1000000000 else t.nanos) < 10 ^ 9 := by
    split <;> omega
  have hread := strict?_padded hyear4 (hmonth.trans_lt (by decide)) (hday.trans_lt (by decide))
    (show t.second / 3600 < 10 ^ 2 by omega) (show t.second / 60 % 60 < 10 ^ 2 by omega)
    hsecond60 (fraction?_fractionText fraction hnanos9)
  rw [hyear', ofFields?_fields h, universal?_zero h] at hread
  rw [chars]
  simp only [hyear, List.append_assoc, List.cons_append]
  exact hread

/-- What stands in a table reads back as the instant that was put there. -/
theorem ofRfc3339?_sortableText {t : Instant} (h : t.Sortable) :
    ofRfc3339? t.sortableText = some t := by
  rw [ofRfc3339?, sortableText, String.toList_ofList]
  exact strict?_chars .nine h

end Signoff.Instant
