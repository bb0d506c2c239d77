import Mathlib
import Signoff.Proofs.Instant.Order
import Signoff.Proofs.Store.Reading
import Signoff.Proofs.Text.Utf8

/-!
Timestamps in tables. The text of an instant reads back as the instant, and the bytes of two texts
are sorted as the instants are, leap seconds included. The instants of the calendar and the clock are
all that reading can give: offsets are whole minutes, so that a leap second ends a minute of
universal time as it ends one of local time.
-/

namespace Signoff.Instant

/-! ### Fields and clocks -/

theorem dayOfDate?_bounds {year : Int} {month day n : Nat} (h : dayOfDate? year month day = some n) :
    1 ≤ n ∧ n ≤ yearDays year := by
  unfold dayOfDate? at h
  split_ifs at h with hmonth
  split at h
  · cases h
  · next days hdays =>
    split_ifs at h with hday
    obtain ⟨hlt, hget⟩ := List.getElem?_eq_some_iff.mp hdays
    -- this month and those before it are not more than all of them
    have hsum := List.sum_take_add_sum_drop (monthDays year) (month - 1)
    rw [List.drop_eq_getElem_cons hlt, List.sum_cons, hget, sum_monthDays] at hsum
    rw [← List.sum_eq_foldr, Option.some.injEq] at h
    omega

theorem proper_of_ofFields? {year : Int} {month day hour minute second nanos : Nat} {t : Instant}
    (hnanos : nanos < 10 ^ 9) (h : ofFields? year month day hour minute second nanos = some t) :
    t.Proper := by
  have hlength : secondsOfDay = 86400 := rfl
  unfold ofFields? at h
  split_ifs at h with hfields hleap
  · obtain ⟨dayOfYear, hdate, rfl⟩ := Option.map_eq_some_iff.mp h
    have hsecond : hour * 3600 + minute * 60 + 59 < secondsOfDay := by omega
    have hlast : (hour * 3600 + minute * 60 + 59) % 60 = 59 := by omega
    have hmore : 1000000000 + nanos < 2000000000 := by omega
    exact ⟨dayOfDate?_bounds hdate, hsecond, .inr ⟨hlast, hmore⟩⟩
  · obtain ⟨dayOfYear, hdate, rfl⟩ := Option.map_eq_some_iff.mp h
    have hsecond : hour * 3600 + minute * 60 + second < secondsOfDay := by omega
    exact ⟨dayOfDate?_bounds hdate, hsecond, .inl hnanos⟩

theorem yearDays_pos (year : Int) : 1 ≤ yearDays year := by
  unfold yearDays
  split <;> decide

/-- A clock that is ahead by whole minutes shows a leap second where universal time has it. -/
theorem Proper.shiftBack? {t u : Instant} {ahead : Int} (ht : t.Proper) (hminutes : ahead % 60 = 0)
    (hahead : ahead.natAbs < secondsOfDay) (h : t.shiftBack? ahead = some u) : u.Proper := by
  obtain ⟨hday, hsecond, hnanos⟩ := ht
  have hlength : secondsOfDay = 86400 := rfl
  -- the same second of the minute, on a day of the calendar
  have hshifted {year : Int} {day : Nat} {second : Int} (hfirst : 1 ≤ day)
      (hlast : day ≤ yearDays year) (hlow : 0 ≤ second) (hhigh : second < secondsOfDay)
      (hsame : second % 60 = t.second % 60) : Proper ⟨year, day, second.toNat, t.nanos⟩ := by
    refine ⟨⟨hfirst, hlast⟩, ?_, ?_⟩
    · show second.toNat < secondsOfDay
      omega
    · show t.nanos < 1000000000 ∨ second.toNat % 60 = 59 ∧ t.nanos < 2000000000
      omega
  unfold Instant.shiftBack? at h
  extract_lets second before after shifted at h
  split_ifs at h
  rw [Option.some.injEq] at h
  rw [← h]
  have hvalue : second = t.second - ahead := rfl
  dsimp only [shifted]
  split_ifs with hearly hturn hlate hturn
  · exact hshifted (yearDays_pos _) le_rfl (by omega) (by omega) (by omega)
  · exact hshifted (by omega) (by omega) (by omega) (by omega) (by omega)
  · exact hshifted le_rfl (yearDays_pos _) (by omega) (by omega) (by omega)
  · exact hshifted (by omega) (by omega) (by omega) (by omega) (by omega)
  · exact hshifted hday.1 hday.2 (by omega) (by omega) (by omega)

theorem proper_of_universal? {t : Option Instant} {u : Instant} {offset : Int}
    (ht : ∀ v, t = some v → v.Proper) (hminutes : offset % 60 = 0)
    (h : universal? t offset = some u) : u.Proper := by
  unfold universal? at h
  split_ifs at h with hday
  obtain ⟨v, hv, hshift⟩ := Option.bind_eq_some_iff.mp h
  exact (ht v hv).shiftBack? hminutes hday hshift

/-! ### Fractions and offsets -/

theorem digitsValue_lt {digits : List Char} (h : ∀ c ∈ digits, isDigit c = true) :
    digitsValue digits < 10 ^ digits.length := by
  induction digits using List.reverseRecOn with
  | nil => decide
  | append_singleton digits c ih =>
    have hrest := ih fun d hd => h d (List.mem_append_left _ hd)
    have hlast : c.toNat - '0'.toNat ≤ 9 := by
      have hc := h c (List.mem_append_right _ (List.mem_singleton_self c))
      rw [isDigit, Bool.and_eq_true, decide_eq_true_eq, decide_eq_true_eq] at hc
      have hhigh : c.toNat ≤ 57 := hc.2
      have hzero : '0'.toNat = 48 := rfl
      omega
    have hvalue : digitsValue (digits ++ [c]) = digitsValue digits * 10 + (c.toNat - '0'.toNat) := by
      simp only [digitsValue, List.foldl_append, List.foldl_cons, List.foldl_nil]
    rw [hvalue, List.length_append, List.length_singleton, pow_succ]
    omega

theorem nanosOf_lt {digits : List Char} (h : ∀ c ∈ digits, isDigit c = true) :
    nanosOf digits < 10 ^ 9 := by
  have hmost : (digits.take 9).length ≤ 9 := List.length_take_le 9 digits
  have hvalue : digitsValue (digits.take 9) < 10 ^ (digits.take 9).length := by
    apply digitsValue_lt
    intro c hc
    exact h c (List.mem_of_mem_take hc)
  calc nanosOf digits
      = digitsValue (digits.take 9) * 10 ^ (9 - (digits.take 9).length) := rfl
    _ < 10 ^ (digits.take 9).length * 10 ^ (9 - (digits.take 9).length) := by
        apply Nat.mul_lt_mul_of_pos_right hvalue
        exact Nat.pow_pos (by decide)
    _ = 10 ^ 9 := by rw [← pow_add, Nat.add_sub_cancel' hmost]

/-- A fraction is less than a second, however many digits it has. -/
theorem fraction?_lt {s rest : List Char} {nanos : Nat} (h : fraction? s = some (nanos, rest)) :
    nanos < 10 ^ 9 := by
  unfold fraction? at h
  split at h
  · next s =>
    split at h
    · cases h
    · next digits hdigits =>
      cases h
      apply nanosOf_lt
      intro c hc
      exact (List.mem_takeWhile_imp hc)
  · cases h
    decide

theorem offsetDigits?_minutes {separator : List Char → Option (List Char)} {s rest : List Char}
    {n : Nat} (h : offsetDigits? separator s = some (n, rest)) : n % 60 = 0 := by
  obtain ⟨⟨hours, s₁⟩, -, h⟩ := Option.bind_eq_some_iff.mp h
  obtain ⟨s₂, -, h⟩ := Option.bind_eq_some_iff.mp h
  obtain ⟨⟨minutes, s₃⟩, -, h⟩ := Option.bind_eq_some_iff.mp h
  dsimp only at h
  split_ifs at h
  cases h
  omega

/-- Offsets are whole minutes. -/
theorem offset?_minutes {separator : List Char → Option (List Char)} {s rest : List Char} {n : Int}
    (h : offset? separator s = some (n, rest)) : n % 60 = 0 := by
  have hsigned (f : Nat → Int) (hf : ∀ m, m % 60 = 0 → f m % 60 = 0) (s : List Char)
      (h : (offsetDigits? separator s).map (fun found => (f found.1, found.2)) = some (n, rest)) :
      n % 60 = 0 := by
    obtain ⟨⟨m, s'⟩, hdigits, heq⟩ := Option.map_eq_some_iff.mp h
    cases heq
    exact hf m (offsetDigits?_minutes hdigits)
  unfold offset? at h
  split at h
  · next c s =>
    split_ifs at h
    · cases h
      decide
    · exact hsigned (fun m => (m : Int)) (fun m hm => by omega) s h
    · exact hsigned (fun m => -(m : Int)) (fun m hm => by omega) s h
  · cases h

/-! ### Texts -/

theorem proper_of_strict? {s : List Char} {t : Instant} (h : strict? s = some t) : t.Proper := by
  obtain ⟨⟨year, s⟩, -, h⟩ := Option.bind_eq_some_iff.mp h
  obtain ⟨s, -, h⟩ := Option.bind_eq_some_iff.mp h
  obtain ⟨⟨month, s⟩, -, h⟩ := Option.bind_eq_some_iff.mp h
  obtain ⟨s, -, h⟩ := Option.bind_eq_some_iff.mp h
  obtain ⟨⟨day, s⟩, -, h⟩ := Option.bind_eq_some_iff.mp h
  obtain ⟨s, -, h⟩ := Option.bind_eq_some_iff.mp h
  obtain ⟨⟨hour, s⟩, -, h⟩ := Option.bind_eq_some_iff.mp h
  obtain ⟨s, -, h⟩ := Option.bind_eq_some_iff.mp h
  obtain ⟨⟨minute, s⟩, -, h⟩ := Option.bind_eq_some_iff.mp h
  obtain ⟨s, -, h⟩ := Option.bind_eq_some_iff.mp h
  obtain ⟨⟨second, s⟩, -, h⟩ := Option.bind_eq_some_iff.mp h
  obtain ⟨⟨nanos, s⟩, hfraction, h⟩ := Option.bind_eq_some_iff.mp h
  obtain ⟨⟨offset, s⟩, hoffset, h⟩ := Option.bind_eq_some_iff.mp h
  dsimp only at h
  split_ifs at h
  -- the fields make a proper instant before the offset is taken off, and it stays one
  apply proper_of_universal? _ (offset?_minutes hoffset) h
  intro v hv
  exact proper_of_ofFields? (fraction?_lt hfraction) hv

/-- An offset does not move a leap second within its minute. -/
example : ofRfc3339? "2017-01-01T05:29:60.5+05:30" = some ⟨2016, 366, 86399, 1500000000⟩ ∧
    sortableText ⟨2016, 366, 86399, 1500000000⟩ = "2016-12-31T23:59:60.500000000Z" := by
  decide +kernel

theorem time?_lt {before : List Char → List Char} {s rest : List Char}
    {hour minute second nanos : Nat}
    (h : time? before s = some ((hour, minute, second, nanos), rest)) : nanos < 10 ^ 9 := by
  obtain ⟨⟨_, s⟩, -, h⟩ := Option.bind_eq_some_iff.mp h
  obtain ⟨s, -, h⟩ := Option.bind_eq_some_iff.mp h
  obtain ⟨⟨_, s⟩, -, h⟩ := Option.bind_eq_some_iff.mp h
  obtain ⟨s, -, h⟩ := Option.bind_eq_some_iff.mp h
  obtain ⟨⟨_, s⟩, -, h⟩ := Option.bind_eq_some_iff.mp h
  obtain ⟨⟨_, s⟩, hfraction, h⟩ := Option.bind_eq_some_iff.mp h
  cases h
  exact fraction?_lt hfraction

theorem looseOffset?_minutes {s rest : List Char} {n : Int}
    (h : looseOffset? s = some (n, rest)) : n % 60 = 0 := by
  unfold looseOffset? at h
  split at h
  · split_ifs at h
    · cases h
      decide
    · exact offset?_minutes h
  · exact offset?_minutes h

theorem proper_of_relaxed? {s : List Char} {t : Instant} (h : relaxed? s = some t) : t.Proper := by
  obtain ⟨⟨⟨year, month, day⟩, s⟩, -, h⟩ := Option.bind_eq_some_iff.mp h
  obtain ⟨s, -, h⟩ := Option.bind_eq_some_iff.mp h
  obtain ⟨⟨⟨hour, minute, second, nanos⟩, s⟩, htime, h⟩ := Option.bind_eq_some_iff.mp h
  obtain ⟨⟨offset, s⟩, hoffset, h⟩ := Option.bind_eq_some_iff.mp h
  dsimp only at h
  split_ifs at h
  apply proper_of_universal? _ (looseOffset?_minutes hoffset) h
  intro v hv
  exact proper_of_ofFields? (time?_lt htime) hv

end Signoff.Instant

namespace Signoff.Store

/-- Timestamps keep value and order, and what is read as one has a day, a second and nanoseconds that
the text of a timestamp can tell. -/
theorem timestamp_value_and_order {s t : Instant} (hs : s.Sortable) (ht : t.Sortable) :
    readInstant t.sortableText = .ok t ∧
      (Utf8.bytes s.sortableText < Utf8.bytes t.sortableText ↔ s.compare t = .lt) ∧
      (Utf8.bytes s.sortableText = Utf8.bytes t.sortableText ↔ s.compare t = .eq) ∧
      (Utf8.bytes t.sortableText < Utf8.bytes s.sortableText ↔ s.compare t = .gt) ∧
      ∀ text u, readInstant text = .ok u ∨ Instant.ofJsonText? text = some u → u.Proper := by
  have hread {u : Instant} (hu : u.Sortable) : readInstant u.sortableText = .ok u := by
    apply readInstant_ok.mpr
    exact Instant.ofRfc3339?_sortableText hu
  have hlt {u v : Instant} (hu : u.Sortable) (hv : v.Sortable) :
      Utf8.bytes u.sortableText < Utf8.bytes v.sortableText ↔ u.compare v = .lt := by
    calc Utf8.bytes u.sortableText < Utf8.bytes v.sortableText
        ↔ u.sortableText < v.sortableText := Utf8.bytes_lt
      _ ↔ u.compare v = .lt := Instant.sortableText_lt hu hv
  have heq : Utf8.bytes s.sortableText = Utf8.bytes t.sortableText ↔ s.compare t = .eq := by
    rw [Utf8.bytes_inj, Instant.compare_eq_eq]
    constructor
    · intro hsame
      -- one text reads as one instant
      have hboth := hread hs
      rw [hsame, hread ht, Except.ok.injEq] at hboth
      exact hboth.symm
    · intro hsame
      rw [hsame]
  have hgt : Utf8.bytes t.sortableText < Utf8.bytes s.sortableText ↔ s.compare t = .gt := by
    rw [Instant.compare_eq_gt]
    exact hlt ht hs
  refine ⟨hread ht, hlt hs ht, heq, hgt, ?_⟩
  rintro text u (hstrict | hrelaxed)
  · exact Instant.proper_of_strict? (readInstant_ok.mp hstrict)
  · exact Instant.proper_of_relaxed? hrelaxed

/-- A leap second and the midnight after it. -/
theorem timestamp_value_and_order_leap :
    (⟨2016, 366, 86399, 1999999999⟩ : Instant).Sortable ∧
      (⟨2017, 1, 0, 0⟩ : Instant).Sortable ∧
      readInstant (Instant.sortableText ⟨2017, 1, 0, 0⟩) = .ok ⟨2017, 1, 0, 0⟩ ∧
      Utf8.bytes (Instant.sortableText ⟨2016, 366, 86399, 1999999999⟩) <
        Utf8.bytes (Instant.sortableText ⟨2017, 1, 0, 0⟩) := by
  have hleap : (⟨2016, 366, 86399, 1999999999⟩ : Instant).Sortable :=
    ⟨⟨by decide, by decide, by decide⟩, by decide⟩
  have hmidnight : (⟨2017, 1, 0, 0⟩ : Instant).Sortable :=
    ⟨⟨by decide, by decide, by decide⟩, by decide⟩
  obtain ⟨hread, hlt, -⟩ := timestamp_value_and_order hleap hmidnight
  exact ⟨hleap, hmidnight, hread, hlt.mpr rfl⟩

end Signoff.Store
