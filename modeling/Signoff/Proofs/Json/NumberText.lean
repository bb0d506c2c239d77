import Mathlib
import Signoff.Json.Decode
import Signoff.Json.Printer
import Signoff.Proofs.Double.Shortest
import Signoff.Proofs.Text.Scan

/-!
Numbers in JSON text. Every layout of digits is read as the decimal that it shows, so integers of
machine size and doubles read back from what is written for them.
-/

namespace Signoff.Json.Document

theorem isDigit_eq (c : Char) : isDigit c = c.isDigit := by
  unfold isDigit Char.isDigit
  rfl

theorem isDigit_of_mem_toDigits {n : Nat} {c : Char} (h : c ∈ Nat.toDigits 10 n) :
    isDigit c = true := by
  rw [isDigit_eq]
  exact Nat.isDigit_of_mem_toDigits (by decide) (by decide) h

theorem digitsValue_eq (digits : List Char) : digitsValue digits = Nat.ofDigitChars 10 digits 0 := by
  simp only [digitsValue, Nat.ofDigitChars_eq_foldl, Nat.mul_comm]

theorem digitsValue_toDigits (n : Nat) : digitsValue (Nat.toDigits 10 n) = n := by
  rw [digitsValue_eq, Nat.ofDigitChars_ten_toDigits]

theorem head_toDigits {n : Nat} (h : n ≠ 0) : (Nat.toDigits 10 n).head? ≠ some '0' := by
  induction n using Nat.strongRecOn with
  | ind n ih =>
    rw [Nat.toDigits_eq_if (by decide)]
    split_ifs with hlt
    · simp [h]
    · have hne : n / 10 ≠ 0 := by omega
      have hhead := ih (n / 10) (by omega) hne
      cases hd : Nat.toDigits 10 (n / 10) with
      | nil => exact absurd hd Nat.toDigits_ne_nil
      | cons c cs =>
        rw [hd] at hhead
        exact hhead

/-- Whether a number ends where this follows. -/
def EndsNumber (rest : List Char) : Prop :=
  ∀ c ∈ rest.head?, isDigit c = false ∧ c ≠ '.' ∧ c ≠ 'e' ∧ c ≠ 'E'

theorem readFraction_of_ne {rest : List Char} (h : ∀ c ∈ rest.head?, c ≠ '.') :
    readFraction rest = some ([], rest) := by
  unfold readFraction
  split
  · exact absurd rfl (h '.' rfl)
  · rfl

theorem readExponent_of_ends {rest : List Char} (h : EndsNumber rest) :
    readExponent rest = some (none, rest) := by
  cases rest with
  | nil => rfl
  | cons c rest =>
    obtain ⟨-, -, he, hE⟩ := h c rfl
    simp only [readExponent, he, hE, or_self, if_false]

/-- Digits in front of a point or an exponent, with no zero that says nothing. -/
structure Leading (whole : List Char) : Prop where
  digits : ∀ c ∈ whole, isDigit c = true
  nonempty : whole ≠ []
  zero : whole.length = 1 ∨ whole.head? ≠ some '0'

/-- What is read of a number: the digits in front, a fraction and an exponent. -/
theorem readNumber_of_parts (negative : Bool) {whole fraction rest rest' rest'' : List Char}
    {exponent : Option Int} (hw : Leading whole) (hrest : ∀ c ∈ rest.head?, isDigit c = false)
    (hf : readFraction rest = some (fraction, rest'))
    (he : readExponent rest' = some (exponent, rest'')) :
    readNumber negative (whole ++ rest) =
      some (numberOf negative whole fraction exponent, rest'') := by
  have hnonempty : whole.isEmpty = false := by
    cases whole with
    | nil => exact absurd rfl hw.nonempty
    | cons c cs => rfl
  have hzero : ¬ (decide (whole.length > 1) && whole.head? == some '0') = true := by
    rw [Bool.and_eq_true, decide_eq_true_eq, beq_iff_eq]
    rintro ⟨hlen, hhead⟩
    rcases hw.zero with h | h
    · omega
    · exact h hhead
  unfold readNumber
  rw [Text.takeWhile_run hw.digits hrest, Text.dropWhile_run hw.digits hrest]
  dsimp only
  rw [hnonempty, if_neg Bool.false_ne_true, if_neg hzero, hf]
  dsimp only [Option.bind_eq_bind, Option.bind_some]
  rw [he]
  rfl

theorem readNumber_whole (negative : Bool) {whole rest : List Char} (hw : Leading whole)
    (hrest : EndsNumber rest) :
    readNumber negative (whole ++ rest) = some (numberOf negative whole [] none, rest) :=
  readNumber_of_parts negative hw (fun c hc => (hrest c hc).1)
    (readFraction_of_ne fun c hc => (hrest c hc).2.1) (readExponent_of_ends hrest)

theorem readFraction_digits {fraction rest : List Char} (hf : ∀ c ∈ fraction, isDigit c = true)
    (hne : fraction ≠ []) (hrest : ∀ c ∈ rest.head?, isDigit c = false) :
    readFraction ('.' :: (fraction ++ rest)) = some (fraction, rest) := by
  rw [readFraction, Text.takeWhile_run hf hrest, Text.dropWhile_run hf hrest]
  cases fraction with
  | nil => exact absurd rfl hne
  | cons c cs => rfl

theorem readNumber_fraction (negative : Bool) {whole fraction rest : List Char}
    (hw : Leading whole) (hf : ∀ c ∈ fraction, isDigit c = true) (hne : fraction ≠ [])
    (hrest : EndsNumber rest) :
    readNumber negative (whole ++ '.' :: (fraction ++ rest)) =
      some (numberOf negative whole fraction none, rest) :=
  readNumber_of_parts negative hw (by rintro _ ⟨⟩; decide)
    (readFraction_digits hf hne fun c hc => (hrest c hc).1) (readExponent_of_ends hrest)

theorem readExponent_signed (n : Int) {rest : List Char} (hrest : EndsNumber rest) :
    readExponent ('e' :: (if n < 0 then '-' else '+') :: (Nat.toDigits 10 n.natAbs ++ rest)) =
      some (some n, rest) := by
  have hdigits : ∀ c ∈ Nat.toDigits 10 n.natAbs, isDigit c = true := fun c hc =>
    isDigit_of_mem_toDigits hc
  have hends : ∀ c ∈ rest.head?, isDigit c = false := fun c hc => (hrest c hc).1
  have htake := Text.takeWhile_run hdigits hends
  have hdrop := Text.dropWhile_run hdigits hends
  have hvalue := digitsValue_toDigits n.natAbs
  have hnil : Nat.toDigits 10 n.natAbs ≠ [] := Nat.toDigits_ne_nil
  generalize Nat.toDigits 10 n.natAbs = digits at *
  obtain ⟨c, cs, rfl⟩ := List.exists_cons_of_ne_nil hnil
  by_cases hneg : n < 0
  · simp only [readExponent, hneg, true_or, if_true, htake, hdrop, hvalue, Option.some.injEq,
      Prod.mk.injEq, and_true]
    omega
  · simp only [readExponent, hneg, true_or, if_true, if_false, htake, hdrop, hvalue,
      Bool.false_eq_true, Option.some.injEq, Prod.mk.injEq, and_true]
    omega

theorem numberOf_real {negative : Bool} {whole fraction : List Char} {exponent : Option Int}
    {x : Double} (h : fraction ≠ [] ∨ exponent ≠ none)
    (hx : Double.ofDecimal? negative (digitsValue (whole ++ fraction))
      (exponent.getD 0 - fraction.length) = some x) :
    numberOf negative whole fraction exponent = .num (.real x) := by
  have hkind : (fraction.isEmpty && exponent.isNone) = false := by
    rw [Bool.and_eq_false_iff]
    rcases h with h | h
    · cases fraction with
      | nil => exact absurd rfl h
      | cons c cs => exact .inl rfl
    · cases exponent with
      | none => exact absurd rfl h
      | some n => exact .inr rfl
  simp only [numberOf, hkind, hx, if_neg Bool.false_ne_true]

theorem digitsValue_append_zeros (digits : List Char) (n : Nat) :
    digitsValue (digits ++ Double.zeros n) = digitsValue digits * 10 ^ n := by
  rw [digitsValue_eq, digitsValue_eq, Nat.ofDigitChars_append, Double.zeros,
    Nat.ofDigitChars_replicate_zero, Nat.mul_comm]

theorem digitsValue_zeros_append (digits : List Char) (n : Nat) :
    digitsValue (Double.zeros n ++ digits) = digitsValue digits := by
  rw [digitsValue_eq, digitsValue_eq, Nat.ofDigitChars_append, Double.zeros,
    Nat.ofDigitChars_replicate_zero, Nat.mul_zero]

theorem zeros_succ (n : Nat) : Double.zeros (n + 1) = Double.zeros n ++ ['0'] :=
  List.replicate_succ'

theorem isDigit_of_mem_zeros {n : Nat} {c : Char} (h : c ∈ Double.zeros n) : isDigit c = true := by
  rw [List.eq_of_mem_replicate h]
  decide

theorem isDigit_zero : ∀ c ∈ ['0'], isDigit c = true := List.forall_mem_singleton.mpr rfl

theorem leading_zero : Leading ['0'] := ⟨isDigit_zero, List.cons_ne_nil _ _, .inl rfl⟩

/-- Digits of which the first is not zero. -/
structure Significant (digits : List Char) : Prop where
  isDigit : ∀ c ∈ digits, isDigit c = true
  nonempty : digits ≠ []
  head : digits.head? ≠ some '0'

theorem significant_toDigits {n : Nat} (h : n ≠ 0) : Significant (Nat.toDigits 10 n) :=
  ⟨fun _ hc => isDigit_of_mem_toDigits hc, Nat.toDigits_ne_nil, head_toDigits h⟩

theorem Significant.append_zeros {digits : List Char} (h : Significant digits) (n : Nat) :
    Leading (digits ++ Double.zeros n) := by
  refine ⟨?_, List.append_ne_nil_of_left_ne_nil h.nonempty _, .inr ?_⟩
  · intro c hc
    rcases List.mem_append.mp hc with hc | hc
    · exact h.isDigit c hc
    · exact isDigit_of_mem_zeros hc
  · rw [List.head?_append_of_ne_nil _ h.nonempty]
    exact h.head

theorem Significant.take {digits : List Char} (h : Significant digits) {k : Nat} (hk : 0 < k) :
    Leading (digits.take k) := by
  refine ⟨fun c hc => h.isDigit c (List.mem_of_mem_take hc), ?_, .inr ?_⟩
  · rw [ne_eq, List.take_eq_nil_iff]
    rintro (hzero | hempty)
    · omega
    · exact h.nonempty hempty
  · rw [List.head?_take, if_neg hk.ne']
    exact h.head

section Layout

variable {magnitude steps : Nat} {place : Int} {digits rest : List Char}

/-- Digits around a point are read as the decimal that they show. -/
theorem readNumber_point {negative : Bool} {whole fraction : List Char} {x : Double}
    (hwhole : Leading whole) (hfraction : ∀ c ∈ fraction, isDigit c = true) (hne : fraction ≠ [])
    (hx : Double.ofDecimal? negative (digitsValue (whole ++ fraction)) (-fraction.length) = some x)
    (hrest : EndsNumber rest) :
    readNumber negative (whole ++ '.' :: (fraction ++ rest)) = some (.num (.real x), rest) := by
  have hplaces : (none : Option Int).getD 0 - (fraction.length : Int) = -fraction.length :=
    zero_sub _
  rw [← hplaces] at hx
  rw [readNumber_fraction negative hwhole hfraction hne hrest, numberOf_real (.inl hne) hx]

/-- All digits stand in front of the point, and one zero behind it. -/
theorem readNumber_zeros_behind {n : Nat} (h : Double.Spells magnitude (digitsValue digits) n)
    (hdigits : Significant digits) (hbound : magnitude < Double.overflowUnits) (negative : Bool)
    (hrest : EndsNumber rest) :
    readNumber negative (digits ++ Double.zeros n ++ '.' :: (['0'] ++ rest)) =
      some (.num (.real ⟨negative, magnitude⟩), rest) := by
  apply readNumber_point (hdigits.append_zeros n) isDigit_zero (List.cons_ne_nil _ _) _ hrest
  have hplaces : (n : Int) - (n + 1 : Nat) = -(['0'].length : Nat) := by
    rw [List.length_singleton]
    omega
  have hdecimal := (h.append_zeros (n + 1)).ofDecimal? hbound negative
  rwa [hplaces, ← digitsValue_append_zeros, zeros_succ, ← List.append_assoc] at hdecimal

/-- Only a zero stands in front of the point. -/
theorem readNumber_zeros_front {n : Nat} (h : Double.Spells magnitude (digitsValue digits) (-n))
    (hdigits : Significant digits) (hbound : magnitude < Double.overflowUnits) (negative : Bool)
    (hrest : EndsNumber rest) (hlen : digits.length ≤ n) :
    readNumber negative
        (['0'] ++ '.' :: (Double.zeros (n - digits.length) ++ digits ++ rest)) =
      some (.num (.real ⟨negative, magnitude⟩), rest) := by
  have hfraction : ∀ c ∈ Double.zeros (n - digits.length) ++ digits, isDigit c = true := by
    intro c hc
    rcases List.mem_append.mp hc with hc | hc
    · exact isDigit_of_mem_zeros hc
    · exact hdigits.isDigit c hc
  have hne : Double.zeros (n - digits.length) ++ digits ≠ [] :=
    List.append_ne_nil_of_right_ne_nil _ hdigits.nonempty
  apply readNumber_point leading_zero hfraction hne _ hrest
  have hvalue : digitsValue (['0'] ++ (Double.zeros (n - digits.length) ++ digits)) =
      digitsValue digits := by
    have hzero : ['0'] = Double.zeros 1 := rfl
    rw [hzero, digitsValue_zeros_append, digitsValue_zeros_append]
  have hplaces : (Double.zeros (n - digits.length) ++ digits).length = n := by
    rw [List.length_append, Double.zeros, List.length_replicate]
    omega
  rw [hvalue, hplaces]
  exact h.ofDecimal? hbound negative

/-- The point stands among the digits. -/
theorem readNumber_among {n : Nat} (h : Double.Spells magnitude (digitsValue digits) (-n))
    (hdigits : Significant digits) (hbound : magnitude < Double.overflowUnits) (negative : Bool)
    (hrest : EndsNumber rest) (hpos : 0 < n) (hlen : n < digits.length) :
    readNumber negative
        (digits.take (digits.length - n) ++ '.' :: (digits.drop (digits.length - n) ++ rest)) =
      some (.num (.real ⟨negative, magnitude⟩), rest) := by
  have hplaces : (digits.drop (digits.length - n)).length = n := by
    rw [List.length_drop]
    omega
  have hfraction : ∀ c ∈ digits.drop (digits.length - n), isDigit c = true := fun c hc =>
    hdigits.isDigit c (List.mem_of_mem_drop hc)
  have hne : digits.drop (digits.length - n) ≠ [] := by
    apply List.ne_nil_of_length_pos
    omega
  apply readNumber_point (hdigits.take (Nat.sub_pos_of_lt hlen)) hfraction hne _ hrest
  rw [List.take_append_drop, hplaces]
  exact h.ofDecimal? hbound negative

/-- Digits without an exponent read back. -/
theorem readNumber_positional (h : Double.Spells magnitude steps place)
    (hbound : magnitude < Double.overflowUnits) (negative : Bool) (hrest : EndsNumber rest) :
    readNumber negative
        (Double.positionalText .json (Nat.toDigits 10 steps) place ++ rest) =
      some (.num (.real ⟨negative, magnitude⟩), rest) := by
  have hdigits := significant_toDigits h.nonzero
  rw [← digitsValue_toDigits steps] at h
  generalize Nat.toDigits 10 steps = digits at *
  unfold Double.positionalText
  -- the point stands behind the digits, in front of them or among them
  by_cases hplace : 0 ≤ place
  · obtain ⟨n, rfl⟩ := Int.eq_ofNat_of_zero_le hplace
    have hread := readNumber_zeros_behind h hdigits hbound negative hrest
    rw [if_pos hplace, Int.toNat_natCast, List.append_assoc]
    exact hread
  · obtain ⟨n, rfl⟩ : ∃ n : Nat, place = -(n : Int) := ⟨(-place).toNat, by omega⟩
    rw [if_neg hplace]
    simp only [neg_neg, Int.toNat_natCast]
    by_cases hlen : digits.length ≤ n
    · rw [if_pos hlen]
      exact readNumber_zeros_front h hdigits hbound negative hrest hlen
    · have hread := readNumber_among h hdigits hbound negative hrest (by omega) (by omega)
      rw [if_neg hlen, List.append_assoc]
      exact hread

/-- Digits with an exponent read back. -/
theorem readNumber_exponentText (h : Double.Spells magnitude steps place)
    (hbound : magnitude < Double.overflowUnits) (negative : Bool) (hrest : EndsNumber rest) :
    readNumber negative
        (Double.exponentText (Nat.toDigits 10 steps)
          (place + (Nat.toDigits 10 steps).length - 1) ++ rest) =
      some (.num (.real ⟨negative, magnitude⟩), rest) := by
  have hdecimal := h.ofDecimal? hbound negative
  have hdigits := (significant_toDigits h.nonzero).isDigit
  have hnil : Nat.toDigits 10 steps ≠ [] := Nat.toDigits_ne_nil
  have hvalue := digitsValue_toDigits steps
  generalize Nat.toDigits 10 steps = digits at *
  generalize hleading : place + digits.length - 1 = leading
  have hexponent := readExponent_signed leading hrest
  cases digits with
  | nil => exact absurd rfl hnil
  | cons first others =>
    have hfirst : Leading [first] :=
      ⟨fun c hc => hdigits c (by rw [List.mem_singleton.mp hc]; exact List.mem_cons_self),
        List.cons_ne_nil _ _, .inl rfl⟩
    rw [← hvalue] at hdecimal
    -- there is no point behind a single digit
    cases others with
    | nil =>
      have hplace : place = (some leading).getD 0 - (([] : List Char).length : Nat) := by
        simp only [List.length_cons, List.length_nil] at hleading
        simp only [Option.getD_some, List.length_nil]
        omega
      rw [hplace] at hdecimal
      have hread := readNumber_of_parts negative hfirst (by rintro _ ⟨⟩; decide)
        (readFraction_of_ne (by rintro _ ⟨⟩; decide)) hexponent
      rw [numberOf_real (.inr (Option.some_ne_none _)) hdecimal] at hread
      exact hread
    | cons second others =>
      have hplace : place = (some leading).getD 0 - ((second :: others).length : Nat) := by
        simp only [List.length_cons] at hleading ⊢
        simp only [Option.getD_some]
        omega
      rw [hplace] at hdecimal
      have hfraction : ∀ c ∈ second :: others, isDigit c = true := fun c hc =>
        hdigits c (List.mem_cons_of_mem _ hc)
      have hread := readNumber_of_parts negative hfirst (by rintro _ ⟨⟩; decide)
        (readFraction_digits hfraction (List.cons_ne_nil _ _) (by rintro _ ⟨⟩; decide)) hexponent
      rw [numberOf_real (.inl (List.cons_ne_nil _ _)) hdecimal] at hread
      simpa [Double.exponentText] using hread

theorem readNumber_zero (negative : Bool) (hrest : EndsNumber rest) :
    readNumber negative (Double.positionalText .json ['0'] 0 ++ rest) =
      some (.num (.real ⟨negative, 0⟩), rest) := by
  have htext : Double.positionalText .json ['0'] 0 ++ rest = ['0'] ++ '.' :: (['0'] ++ rest) := rfl
  have hvalue : digitsValue (['0'] ++ ['0']) = 0 := rfl
  rw [htext]
  apply readNumber_point leading_zero isDigit_zero (List.cons_ne_nil _ _) _ hrest
  rw [hvalue, Double.ofDecimal?, if_pos rfl]

end Layout

theorem head_of_readNumber {negative : Bool} {s : List Char} {read : Document × List Char}
    (h : readNumber negative s = some read) : ∃ c rest, s = c :: rest ∧ isDigit c = true := by
  cases s with
  | nil => simp [readNumber] at h
  | cons c rest =>
    refine ⟨c, rest, rfl, ?_⟩
    by_contra hc
    rw [Bool.not_eq_true] at hc
    have htake : (c :: rest).takeWhile isDigit = [] := by
      rw [List.takeWhile_cons_of_neg (by rw [hc]; decide)]
    rw [readNumber] at h
    dsimp only at h
    rw [htake, List.isEmpty_nil, if_pos rfl] at h
    cases h

/-- The text of a double is its sign and digits that read back to its size. -/
theorem text_double {x : Double} (hx : Double.Representable x.magnitude) :
    ∃ body, (x.text .json).toList = (if x.negative then '-' :: body else body) ∧
      ∀ rest, EndsNumber rest →
        readNumber x.negative (body ++ rest) = some (.num (.real x), rest) := by
  -- the digits are taken as any pair first, as their search must not be run
  by_cases hzero : x.magnitude = 0
  · refine ⟨Double.positionalText .json ['0'] 0, ?_, fun rest hrest => ?_⟩
    · rw [Double.text]
      generalize Double.shortest x.magnitude = found
      obtain ⟨steps, place⟩ := found
      dsimp only
      rw [if_pos hzero, String.toList_ofList]
    · have hx : x = ⟨x.negative, 0⟩ := by
        rw [← hzero]
      rw [readNumber_zero x.negative hrest, ← hx]
  · have h := Double.shortest_spells (Nat.pos_of_ne_zero hzero) hx
    revert h
    rw [Double.text]
    generalize Double.shortest x.magnitude = found
    intro h
    obtain ⟨steps, place⟩ := found
    dsimp only at h ⊢
    rw [if_neg hzero, String.toList_ofList]
    refine ⟨_, rfl, fun rest hrest => ?_⟩
    dsimp only [Double.Style.json]
    split_ifs
    · exact readNumber_positional h hx.bound x.negative hrest
    · exact readNumber_exponentText h hx.bound x.negative hrest

theorem leading_toDigits (n : Nat) : Leading (Nat.toDigits 10 n) := by
  refine ⟨fun _ hc => isDigit_of_mem_toDigits hc, Nat.toDigits_ne_nil, ?_⟩
  by_cases hn : n = 0
  · subst hn
    exact .inl rfl
  · exact .inr (head_toDigits hn)

theorem numberOf_int {n : Int} {whole : List Char} (hlow : minInt ≤ n) (hhigh : n ≤ maxInt)
    (hwhole : digitsValue whole = n.natAbs) :
    numberOf (decide (n < 0)) whole [] none = .num (.int n) := by
  have hvalue : (if decide (n < 0) = true then -(n.natAbs : Int) else n.natAbs) = n := by
    by_cases hneg : n < 0
    · simp only [hneg, decide_true, if_true]
      omega
    · simp only [hneg, decide_false, Bool.false_eq_true, if_false]
      omega
  have hzero : ¬ (decide (n < 0) && n == 0) = true := by
    rw [Bool.and_eq_true, decide_eq_true_eq, beq_iff_eq]
    omega
  have hkind : (([] : List Char).isEmpty && (none : Option Int).isNone) = true := rfl
  unfold numberOf
  dsimp only
  rw [hwhole, hvalue, if_pos hkind, if_neg hzero, if_pos ⟨hlow, hhigh⟩]

theorem text_int (n : Int) :
    (toString n).toList =
      if n < 0 then '-' :: Nat.toDigits 10 n.natAbs else Nat.toDigits 10 n.natAbs := by
  rw [Int.toString_eq_repr, Int.repr_eq_if]
  by_cases hneg : n < 0
  · have habs : (-n).toNat = n.natAbs := by omega
    rw [if_neg (by omega), if_pos hneg, habs, String.toList_append, Nat.toList_repr]
    rfl
  · have habs : n.toNat = n.natAbs := by omega
    rw [if_pos (by omega), if_neg hneg, habs, Nat.toList_repr]

/-- Numbers that JSON text can hold: integers of machine size and proper doubles. -/
inductive Proper : Number → Prop
  | int {n : Int} (low : minInt ≤ n) (high : n ≤ maxInt) : Proper (.int n)
  | real {x : Double} (representable : Double.Representable x.magnitude) : Proper (.real x)

/-- The text of a number is its sign and what reads back as it. -/
theorem text_number {n : Number} (hn : Proper n) :
    ∃ negative body, n.text.toList = (if negative = true then '-' :: body else body) ∧
      ∀ rest, EndsNumber rest → readNumber negative (body ++ rest) = some (.num n, rest) := by
  cases hn with
  | int low high =>
    rename_i n
    refine ⟨decide (n < 0), Nat.toDigits 10 n.natAbs, ?_, fun rest hrest => ?_⟩
    · rw [Number.text, text_int]
      simp only [decide_eq_true_eq]
    · rw [readNumber_whole _ (leading_toDigits _) hrest,
        numberOf_int low high (digitsValue_toDigits _)]
  | real representable =>
    rename_i x
    obtain ⟨body, htext, hread⟩ := text_double representable
    exact ⟨x.negative, body, htext, hread⟩

end Signoff.Json.Document
