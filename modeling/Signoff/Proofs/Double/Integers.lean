import Mathlib
import Signoff.Double.Reading
import Signoff.Proofs.Json.NumberText

/-!
Integers as doubles. A double holds 53 binary digits, so an integer that needs more is rounded to
its neighbour on a coarser grid. Rounding keeps the order of integers but can bring two of them
together; it leaves alone what needs no more than 53 digits. The decimal text of an integer is read
as the double that the integer itself is rounded to.
-/

namespace Signoff.Double

/-! ### Rounding keeps the order -/

theorem le_roundHalfEven {num den k : Nat} (hden : 0 < den) (h : k * den ≤ num) :
    k ≤ roundHalfEven num den := by
  have hk : k ≤ num / den := (Nat.le_div_iff_mul_le hden).mpr h
  rcases roundHalfEven_cases num den with hr | hr <;> omega

theorem roundHalfEven_le {num den k : Nat} (hden : 0 < den) (h : num ≤ k * den) :
    roundHalfEven num den ≤ k := by
  obtain ⟨hclose, -⟩ := roundHalfEven_close num hden
  have hlt : roundHalfEven num den * den < (k + 1) * den := by
    rw [Nat.add_mul]
    omega
  exact Nat.lt_succ_iff.mp (Nat.lt_of_mul_lt_mul_right hlt)

theorem roundHalfEven_mono {num num' den : Nat} (hden : 0 < den) (h : num ≤ num') :
    roundHalfEven num den ≤ roundHalfEven num' den := by
  have hq : num / den ≤ num' / den := Nat.div_le_div_right h
  rcases Nat.lt_or_eq_of_le hq with hlt | heq
  · -- a whole number lies between the two
    have hup : roundHalfEven num den ≤ num / den + 1 := by
      rcases roundHalfEven_cases num den with hr | hr <;> omega
    have hdown : num' / den ≤ roundHalfEven num' den :=
      le_roundHalfEven hden (Nat.div_mul_le_self num' den)
    omega
  · have hmod := Nat.div_add_mod num den
    have hmod' := Nat.div_add_mod num' den
    rw [heq] at hmod
    have hrest : num % den ≤ num' % den := by omega
    unfold roundHalfEven
    dsimp only
    rw [heq]
    split_ifs <;> omega

theorem bitLength_mono {m n : Nat} (h : m ≤ n) : bitLength m ≤ bitLength n :=
  bitLength_le.mpr (h.trans_lt (bitLength_le.mp le_rfl))

/-- A finer grid is at least twice as fine. -/
theorem two_mul_spacing_le {m n : Nat} (h : spacing m < spacing n) :
    2 * spacing m ≤ spacing n := by
  rw [spacing_eq, spacing_eq] at h ⊢
  have hexp := (Nat.pow_lt_pow_iff_right (by decide)).mp h
  rw [← pow_succ']
  exact Nat.pow_le_pow_right (by decide) hexp

/-- The start of a binade, for those whose grid leaves integers out. -/
theorem binade_start_le {n : Nat} (h : 1 < spacing n) : 2 ^ 52 * spacing n ≤ n := by
  rw [spacing_eq] at h ⊢
  have hexp : bitLength n - 53 ≠ 0 := by
    intro hzero
    rw [hzero] at h
    exact absurd h (by decide)
  rw [← pow_add]
  apply lt_bitLength.mp
  omega

/-- Numbers of one binade are rounded on one grid, and between numbers of two of them lies the start
of the upper one, which is on both grids. -/
theorem roundUnits_mono {num num' den : Nat} (hden : 0 < den) (h : num ≤ num') :
    roundUnits num den ≤ roundUnits num' den := by
  have hq : num / den ≤ num' / den := Nat.div_le_div_right h
  have hpos := spacing_pos (num / den)
  have hpos' := spacing_pos (num' / den)
  have hle : spacing (num / den) ≤ spacing (num' / den) := by
    rw [spacing_eq, spacing_eq]
    apply Nat.pow_le_pow_right (by decide)
    have hbits := bitLength_mono hq
    omega
  unfold roundUnits
  dsimp only
  -- with two spacings the smaller numbers end where the larger ones begin
  rcases Nat.lt_or_eq_of_le hle with hlt | heq
  · have htwice := two_mul_spacing_le hlt
    have hend := lt_binade (num / den)
    have hstart := binade_start_le (n := num' / den) (by omega)
    generalize spacing (num / den) = s at *
    generalize spacing (num' / den) = s' at *
    have hlow : roundHalfEven num (den * s) ≤ 2 ^ 53 := by
      apply roundHalfEven_le (Nat.mul_pos hden hpos)
      rw [Nat.div_lt_iff_lt_mul hden] at hend
      calc num ≤ 2 ^ 53 * s * den := hend.le
        _ = 2 ^ 53 * (den * s) := by ring
    have hhigh : 2 ^ 52 ≤ roundHalfEven num' (den * s') := by
      apply le_roundHalfEven (Nat.mul_pos hden hpos')
      rw [Nat.le_div_iff_mul_le hden] at hstart
      calc 2 ^ 52 * (den * s') = 2 ^ 52 * s' * den := by ring
        _ ≤ num' := hstart
    calc roundHalfEven num (den * s) * s ≤ 2 ^ 53 * s := Nat.mul_le_mul_right s hlow
      _ = 2 ^ 52 * (2 * s) := by ring
      _ ≤ 2 ^ 52 * s' := Nat.mul_le_mul_left _ htwice
      _ ≤ roundHalfEven num' (den * s') * s' := Nat.mul_le_mul_right s' hhigh
  · rw [heq]
    exact Nat.mul_le_mul_right _ (roundHalfEven_mono (Nat.mul_pos hden hpos') h)

/-- What is on the grid stays. -/
theorem roundUnits_of_grid {m den : Nat} (hden : 0 < den) (hgrid : spacing m ∣ m) :
    roundUnits (m * den) den = m := by
  rcases Nat.eq_zero_or_pos m with rfl | hm
  · rw [Nat.zero_mul, roundUnits_zero]
  · have hprod : 0 < m * den := Nat.mul_pos hm hden
    apply roundUnits_of_close hgrid <;> omega

theorem spacing_of_lt {n : Nat} (h : n < 2 ^ 53) : spacing n = 1 := by
  have hbits := bitLength_le.mpr h
  rw [spacing_eq, Nat.sub_eq_zero_of_le hbits, pow_zero]

/-- Up to 2^53 all integers are on the grid. -/
theorem spacing_dvd_of_le {n : Nat} (h : n ≤ 2 ^ 53) : spacing n ∣ n := by
  rcases Nat.lt_or_eq_of_le h with hlt | rfl
  · rw [spacing_of_lt hlt]
    exact one_dvd n
  · exact spacing_two_pow_dvd 53

theorem bitLength_mul_two_pow {n : Nat} (hn : 0 < n) (k : Nat) :
    bitLength (n * 2 ^ k) = bitLength n + k := by
  apply le_antisymm
  · rw [bitLength_le, pow_add]
    exact Nat.mul_lt_mul_of_pos_right (bitLength_le.mp le_rfl) (Nat.two_pow_pos k)
  · -- the leading digit moves up by as many places
    have hbits : 0 < bitLength n := lt_bitLength.mpr hn
    have hlead : 2 ^ (bitLength n - 1) ≤ n := lt_bitLength.mp (by omega)
    have hmoved : bitLength n - 1 + k < bitLength (n * 2 ^ k) := by
      apply lt_bitLength.mpr
      rw [pow_add]
      exact Nat.mul_le_mul_right _ hlead
    omega

/-- Integers are rounded alike whether they are counted in ones or in finer units. -/
theorem roundUnits_mul_two_pow (n k : Nat) :
    roundUnits (n * 2 ^ k) 1 = roundUnits n 1 * 2 ^ k := by
  rcases Nat.lt_or_ge n (2 ^ 53) with hsmall | hlarge
  · -- nothing is rounded on either side
    have hexact : roundUnits n 1 = n := by
      have h := roundUnits_of_grid Nat.one_pos (spacing_dvd_of_le hsmall.le)
      rwa [Nat.mul_one] at h
    have hgrid : spacing (n * 2 ^ k) ∣ n * 2 ^ k := by
      rcases Nat.eq_zero_or_pos n with rfl | hn
      · rw [Nat.zero_mul]
        exact dvd_zero _
      · have hbits := bitLength_le.mpr hsmall
        rw [spacing_eq, bitLength_mul_two_pow hn]
        apply Dvd.dvd.mul_left
        apply Nat.pow_dvd_pow
        omega
    have h := roundUnits_of_grid Nat.one_pos hgrid
    rw [Nat.mul_one] at h
    rw [h, hexact]
  · have hbits : 53 < bitLength n := lt_bitLength.mpr hlarge
    have hn : 0 < n := lt_of_lt_of_le (by decide) hlarge
    have hspacing : spacing (n * 2 ^ k) = spacing n * 2 ^ k := by
      rw [spacing_eq, spacing_eq, bitLength_mul_two_pow hn, ← pow_add]
      congr 1
      omega
    unfold roundUnits
    dsimp only
    rw [Nat.div_one, Nat.div_one, hspacing, Nat.one_mul, Nat.one_mul,
      roundHalfEven_mul (Nat.two_pow_pos k), Nat.mul_assoc]

/-! ### The integer that a double holds -/

/-- The integer that the double nearest to an integer holds: the nearest one of 53 binary digits and
zeros behind them, of two the one whose last digit is even. -/
def rounded (n : Int) : Int :=
  if n < 0 then -(roundUnits n.natAbs 1 : Int) else roundUnits n.natAbs 1

theorem toInt_ofInt (n : Int) : (ofInt n).toInt = rounded n * oneUnits := by
  have hunits : roundUnits (n.natAbs * oneUnits) 1 = roundUnits n.natAbs 1 * oneUnits := by
    -- any power of two does, so this one is not worked with
    obtain ⟨k, hk⟩ : ∃ k, oneUnits = 2 ^ k := ⟨1074, by decide +kernel⟩
    rw [hk]
    exact roundUnits_mul_two_pow n.natAbs k
  unfold ofInt toInt rounded
  rw [hunits]
  by_cases hneg : n < 0
  · simp only [hneg, decide_true, if_true]
    push_cast
    ring
  · simp only [hneg, decide_false, if_false, Bool.false_eq_true]
    push_cast
    ring

theorem rounded_mono {m n : Int} (h : m ≤ n) : rounded m ≤ rounded n := by
  have hmono {a b : Nat} (hab : a ≤ b) : roundUnits a 1 ≤ roundUnits b 1 :=
    roundUnits_mono (by decide) hab
  unfold rounded
  split_ifs with hm hn hn
  · have := hmono (a := n.natAbs) (b := m.natAbs) (by omega)
    omega
  · omega
  · omega
  · have := hmono (a := m.natAbs) (b := n.natAbs) (by omega)
    omega

theorem rounded_of_grid {n : Int} (h : spacing n.natAbs ∣ n.natAbs) : rounded n = n := by
  have hexact := roundUnits_of_grid Nat.one_pos h
  rw [Nat.mul_one] at hexact
  unfold rounded
  rw [hexact]
  split_ifs <;> omega

theorem rounded_of_le {n : Int} (h : n.natAbs ≤ 2 ^ 53) : rounded n = n :=
  rounded_of_grid (spacing_dvd_of_le h)

/-- Below 2^53 an integer shares its double with no other. -/
theorem eq_of_rounded_eq {m n : Int} (hm : m.natAbs < 2 ^ 53) (h : rounded m = rounded n) :
    m = n := by
  rw [rounded_of_le hm.le] at h
  by_cases hn : n.natAbs ≤ 2 ^ 53
  · rwa [rounded_of_le hn] at h
  · -- the double of n is no nearer to zero than 2^53
    have hends (k : Int) (hk : k.natAbs = 2 ^ 53) : rounded k = k := rounded_of_le hk.le
    rcases lt_or_ge n 0 with hneg | hpos
    · have hfar := rounded_mono (show n ≤ -2 ^ 53 by omega)
      rw [hends (-2 ^ 53) (by decide)] at hfar
      omega
    · have hfar := rounded_mono (show 2 ^ 53 ≤ n by omega)
      rw [hends (2 ^ 53) (by decide)] at hfar
      omega

theorem rounded_lt_iff {m n : Int} (h : rounded m = rounded n → m = n) :
    rounded m < rounded n ↔ m < n := by
  constructor
  · intro hlt
    by_contra hge
    exact absurd (rounded_mono (not_lt.mp hge)) (not_le.mpr hlt)
  · intro hlt
    apply lt_of_le_of_ne (rounded_mono hlt.le)
    intro heq
    exact hlt.ne (h heq)

theorem oneUnits_pos_int : (0 : Int) < oneUnits := by
  exact_mod_cast oneUnits_pos

/-- Doubles of integers compare as what they hold. -/
theorem compare_ofInt (m n : Int) :
    (ofInt m).compare (ofInt n) = Ord.compare (rounded m) (rounded n) := by
  have hone := oneUnits_pos_int
  rw [Double.compare, toInt_ofInt, toInt_ofInt]
  rcases lt_trichotomy (rounded m) (rounded n) with hlt | heq | hgt
  · rw [compare_lt_iff_lt.mpr hlt, compare_lt_iff_lt]
    exact Int.mul_lt_mul_of_pos_right hlt hone
  · rw [heq, compare_eq_iff_eq.mpr rfl, compare_eq_iff_eq.mpr rfl]
  · rw [compare_gt_iff_gt.mpr hgt, compare_gt_iff_gt]
    exact Int.mul_lt_mul_of_pos_right hgt hone

theorem same_ofInt {m n : Int} : (ofInt m).same (ofInt n) = true ↔ rounded m = rounded n := by
  rw [same_iff, toInt_ofInt, toInt_ofInt]
  exact Int.mul_eq_mul_right_iff oneUnits_pos_int.ne'

/-! ### The text of an integer -/

theorem trimChars_of_not_blank {s : List Char} (h : ∀ c ∈ s, Text.isBlank c = false) :
    Text.trimChars s = s := by
  have hskip {r : List Char} (hr : ∀ c ∈ r, Text.isBlank c = false) : Text.skipBlank r = r := by
    apply List.dropWhile_eq_self_iff.mpr
    intro hne
    rw [hr _ (List.getElem_mem hne)]
    decide
  have hback : ∀ c ∈ s.reverse, Text.isBlank c = false := fun c hc => h c (List.mem_reverse.mp hc)
  rw [Text.trimChars, hskip h, hskip hback, List.reverse_reverse]

theorem isDigit_iff {c : Char} : isDigit c = true ↔ 48 ≤ c.toNat ∧ c.toNat ≤ 57 := by
  rw [isDigit, Bool.and_eq_true, decide_eq_true_eq, decide_eq_true_eq]
  exact Iff.rfl

theorem not_blank_of_isDigit {c : Char} (h : isDigit c = true) : Text.isBlank c = false := by
  obtain ⟨hlow, hhigh⟩ := isDigit_iff.mp h
  have hspace : c ≠ ' ' := by
    rintro rfl
    exact absurd hlow (by decide)
  have hcontrol : ¬ c.toNat ≤ 13 := by omega
  have hwide : ¬ 128 ≤ c.toNat := by omega
  simp [Text.isBlank, hspace, hcontrol, hwide]

theorem lowerAscii_of_isDigit {c : Char} (h : isDigit c = true) : Text.lowerAscii c = c := by
  obtain ⟨-, hhigh⟩ := isDigit_iff.mp h
  have hcapital : ¬ ('A' ≤ c ∧ c ≤ 'Z') := by
    rintro ⟨hlow, -⟩
    have hlow' : 65 ≤ c.toNat := hlow
    omega
  rw [Text.lowerAscii, if_neg hcapital]

theorem numeral?_digits {digits : List Char} (hne : digits ≠ [])
    (hdigits : ∀ c ∈ digits, isDigit c = true) : numeral? digits = some ⟨digits, [], 0⟩ := by
  have htake : digits.takeWhile isDigit = digits := List.takeWhile_eq_self_iff.mpr hdigits
  have hdrop : digits.dropWhile isDigit = [] := List.dropWhile_eq_nil_iff.mpr hdigits
  have hsome : digits.isEmpty = false := List.isEmpty_eq_false_iff.mpr hne
  unfold numeral?
  dsimp only
  rw [htake, hdrop]
  simp [hsome, exponent?]

/-- Digits spell none of the words for what no double holds. -/
theorem readUnsigned?_digits {digits : List Char} (negative : Bool) (hne : digits ≠ [])
    (hdigits : ∀ c ∈ digits, isDigit c = true) :
    readUnsigned? negative digits =
      some (match ofDecimal? negative (digitsValue digits) 0 with
        | some x => .finite x
        | none => .infinite negative) := by
  have hlower : digits.map Text.lowerAscii = digits := by
    calc digits.map Text.lowerAscii = digits.map id :=
          List.map_congr_left fun c hc => lowerAscii_of_isDigit (hdigits c hc)
      _ = digits := List.map_id digits
  -- a word starts with a letter
  have hword {word : String} {c : Char} {cs : List Char} (hchars : word.toList = c :: cs)
      (hc : isDigit c = false) : String.ofList digits ≠ word := by
    rintro rfl
    rw [String.toList_ofList] at hchars
    have hdigit := hdigits c (hchars ▸ List.mem_cons_self)
    rw [hc] at hdigit
    cases hdigit
  have hnan : String.ofList digits ≠ "nan" := hword (c := 'n') rfl rfl
  have hinf : String.ofList digits ≠ "inf" := hword (c := 'i') rfl rfl
  have hinfinity : String.ofList digits ≠ "infinity" := hword (c := 'i') rfl rfl
  unfold readUnsigned?
  dsimp only
  rw [hlower, if_neg hnan, if_neg (not_or.mpr ⟨hinf, hinfinity⟩), numeral?_digits hne hdigits,
    Option.map_some, List.append_nil]
  rfl

theorem read?_hyphen (s : List Char) :
    read? (String.ofList ('-' :: s)) = readUnsigned? true s := by
  unfold read?
  rw [String.toList_ofList]
  rfl

theorem read?_digits {digits : List Char} (hdigits : ∀ c ∈ digits, isDigit c = true) :
    read? (String.ofList digits) = readUnsigned? false digits := by
  unfold read?
  rw [String.toList_ofList]
  -- a digit in front is no sign
  split
  · exact absurd (hdigits _ List.mem_cons_self) (by decide)
  · exact absurd (hdigits _ List.mem_cons_self) (by decide)
  · rfl

/-- A whole number of machine size is past no double. -/
theorem ofDecimal?_natural {k : Nat} (negative : Bool) (hk : k ≤ 2 ^ 64) :
    ofDecimal? negative k 0 = some ⟨negative, roundUnits (k * oneUnits) 1⟩ := by
  rcases Nat.eq_zero_or_pos k with rfl | hpos
  · rw [Nat.zero_mul, roundUnits_zero]
    rfl
  · have hcount : digitCount k ≤ 20 := (digitCount_le (by decide)).mpr (by omega)
    rw [digitCount] at hcount
    have hexponent : exponentBound = 400 := rfl
    have hbound : roundUnits (k * oneUnits) 1 < overflowUnits := by
      have hgrid : spacing (2 ^ 64 * oneUnits) ∣ 2 ^ 64 * oneUnits := by decide +kernel
      have hlast := roundUnits_of_grid Nat.one_pos hgrid
      rw [Nat.mul_one] at hlast
      calc roundUnits (k * oneUnits) 1 ≤ roundUnits (2 ^ 64 * oneUnits) 1 :=
            roundUnits_mono (by decide) (Nat.mul_le_mul_right _ hk)
        _ = 2 ^ 64 * oneUnits := hlast
        _ < overflowUnits := by decide +kernel
    unfold ofDecimal?
    dsimp only
    rw [if_neg hpos.ne', if_neg (by omega), if_neg (by omega), if_pos le_rfl]
    simp only [ofRatio?, Int.toNat_zero, Nat.pow_eq, pow_zero, Nat.mul_one, hbound, if_true]

theorem ofText?_toString {n : Int} (hlow : Json.Document.minInt ≤ n)
    (hhigh : n ≤ Json.Document.maxInt) : ofText? (toString n) = some (ofInt n) := by
  have hsize : n.natAbs ≤ 2 ^ 64 := by
    rw [Json.Document.minInt] at hlow
    rw [Json.Document.maxInt] at hhigh
    omega
  have hdigits : ∀ c ∈ Nat.toDigits 10 n.natAbs, isDigit c = true := fun c hc =>
    Json.Document.isDigit_of_mem_toDigits hc
  have hne : Nat.toDigits 10 n.natAbs ≠ [] := Nat.toDigits_ne_nil
  have hvalue : digitsValue (Nat.toDigits 10 n.natAbs) = n.natAbs :=
    Json.Document.digitsValue_toDigits n.natAbs
  have hread (negative : Bool) := readUnsigned?_digits negative hne hdigits
  have htext := Json.Document.text_int n
  generalize Nat.toDigits 10 n.natAbs = digits at *
  rw [hvalue] at hread
  simp only [ofDecimal?_natural _ hsize] at hread
  have hblank : ∀ c ∈ digits, Text.isBlank c = false := fun c hc =>
    not_blank_of_isDigit (hdigits c hc)
  rw [ofText?, Text.trim, htext]
  -- both texts have the same digits, and one has a sign in front
  by_cases hneg : n < 0
  · have hall : ∀ c ∈ '-' :: digits, Text.isBlank c = false :=
      List.forall_mem_cons.mpr ⟨by decide, hblank⟩
    rw [if_pos hneg, trimChars_of_not_blank hall, read?_hyphen, hread, ofInt, decide_eq_true hneg]
  · rw [if_neg hneg, trimChars_of_not_blank hblank, read?_digits hdigits, hread, ofInt,
      decide_eq_false hneg]

end Signoff.Double
