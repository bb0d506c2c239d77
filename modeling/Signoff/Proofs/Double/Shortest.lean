import Mathlib
import Signoff.Double.Text
import Signoff.Proofs.Double.Rounding

/-!
The digits of doubles. Seventeen digits are always enough, so the search for the fewest that read
back finds some; a decimal is what its value is, however many zeros it ends in.
-/

namespace Signoff.Double

/-- The number of units that `steps * 10^place` is rounded to. -/
def decimalUnits (steps : Nat) (place : Int) : Nat :=
  if 0 ≤ place then roundUnits (steps * 10 ^ place.toNat * oneUnits) 1
  else roundUnits (steps * oneUnits) (10 ^ (-place).toNat)

theorem readsBack_iff {magnitude steps : Nat} {place : Int} :
    readsBack magnitude steps place = true ↔ decimalUnits steps place = magnitude := by
  unfold readsBack decimalUnits
  by_cases h : 0 ≤ place
  · simp only [h, if_true, beq_iff_eq, Nat.pow_eq]
  · simp only [h, if_false, beq_iff_eq, Nat.pow_eq]

theorem decimalUnits_mul_ten_pow (steps j : Nat) (place : Int) :
    decimalUnits (steps * 10 ^ j) (place - j) = decimalUnits steps place := by
  have hpos (n : Nat) : 0 < 10 ^ n := Nat.pow_pos (by decide)
  unfold decimalUnits
  -- the sign of either place says on which side of the fraction its power stands
  by_cases hplace : 0 ≤ place - j
  · rw [if_pos hplace, if_pos (by omega)]
    have hj : 10 ^ place.toNat = 10 ^ j * 10 ^ (place - j).toNat := by
      rw [← pow_add]
      congr 1
      omega
    rw [hj, Nat.mul_assoc steps]
  · rw [if_neg hplace]
    by_cases hplace' : 0 ≤ place
    · rw [if_pos hplace']
      have hj : 10 ^ j = 10 ^ place.toNat * 10 ^ (-(place - j)).toNat := by
        rw [← pow_add]
        congr 1
        omega
      have hnum : steps * 10 ^ j * oneUnits =
          steps * 10 ^ place.toNat * oneUnits * 10 ^ (-(place - j)).toNat := by
        rw [hj]
        ring
      have hden : 10 ^ (-(place - j)).toNat = 1 * 10 ^ (-(place - j)).toNat := (Nat.one_mul _).symm
      rw [hnum]
      conv_lhs => arg 2; rw [hden]
      exact roundUnits_mul (hpos _)
    · rw [if_neg hplace']
      have hden : 10 ^ (-(place - j)).toNat = 10 ^ (-place).toNat * 10 ^ j := by
        rw [← pow_add]
        congr 1
        omega
      have hnum : steps * 10 ^ j * oneUnits = steps * oneUnits * 10 ^ j := by ring
      rw [hnum, hden]
      exact roundUnits_mul (hpos _)

theorem decimalUnits_zero (place : Int) : decimalUnits 0 place = 0 := by
  unfold decimalUnits
  split <;> simp only [Nat.zero_mul, roundUnits_zero]

/-- How many digits a number has. -/
def digitCount (n : Nat) : Nat := (Nat.toDigits 10 n).length

theorem digitCount_le {n k : Nat} (h : 0 < k) : digitCount n ≤ k ↔ n < 10 ^ k :=
  Nat.length_toDigits_le_iff (by decide) h

theorem digitCount_pos (n : Nat) : 0 < digitCount n := Nat.length_toDigits_pos

theorem lt_digitCount {n k : Nat} (h : 0 < k) : k < digitCount n ↔ 10 ^ k ≤ n := by
  rw [← not_le, digitCount_le h, not_lt]

theorem lt_ten_pow_digitCount (n : Nat) : n < 10 ^ digitCount n :=
  (digitCount_le (digitCount_pos n)).mp le_rfl

theorem ten_pow_digitCount_le {n : Nat} (hn : n ≠ 0) : 10 ^ (digitCount n - 1) ≤ n := by
  rcases Nat.eq_zero_or_pos (digitCount n - 1) with hone | hmore
  · rw [hone]
    exact Nat.pos_of_ne_zero hn
  · exact (lt_digitCount hmore).mp (Nat.sub_one_lt (digitCount_pos n).ne')

theorem digitCount_mul_ten_pow {n : Nat} (hn : n ≠ 0) (j : Nat) :
    digitCount (n * 10 ^ j) = digitCount n + j := by
  have hpos := digitCount_pos n
  apply le_antisymm
  · rw [digitCount_le (by omega), pow_add]
    exact Nat.mul_lt_mul_of_pos_right (lt_ten_pow_digitCount n) (Nat.pow_pos (by decide))
  · have hpred : digitCount n + j = digitCount n - 1 + j + 1 := by omega
    rw [hpred, Nat.succ_le_iff]
    rcases Nat.eq_zero_or_pos (digitCount n - 1 + j) with hzero | hmore
    · rw [hzero]
      exact digitCount_pos _
    · rw [lt_digitCount hmore, pow_add]
      exact Nat.mul_le_mul_right _ (ten_pow_digitCount_le hn)

/-- The grid of `10^place` is fine enough for a size that has seventeen digits on it. -/
theorem decimalUnits_nearest {magnitude : Nat} {place : Int} (hpos : 0 < magnitude)
    (hgrid : spacing magnitude ∣ magnitude)
    (hfine : 10 ^ 16 * (inSteps magnitude place).2 ≤ (inSteps magnitude place).1) :
    decimalUnits (roundHalfEven (inSteps magnitude place).1 (inSteps magnitude place).2) place =
      magnitude := by
  have hone := oneUnits_pos
  have hten (n : Nat) : 0 < 10 ^ n := Nat.pow_pos (by decide)
  unfold decimalUnits
  by_cases h : 0 ≤ place
  · rw [if_pos h]
    simp only [inSteps, h, if_true, Nat.pow_eq] at hfine ⊢
    have hden : 0 < oneUnits * 10 ^ place.toNat := Nat.mul_pos hone (hten _)
    obtain ⟨h1, h2⟩ := roundHalfEven_close magnitude hden
    have hcomm (k : Nat) : k * 10 ^ place.toNat * oneUnits = k * (oneUnits * 10 ^ place.toNat) := by
      ring
    rw [hcomm]
    generalize roundHalfEven magnitude (oneUnits * 10 ^ place.toNat) * (oneUnits * 10 ^ place.toNat)
      = rounded at *
    generalize oneUnits * 10 ^ place.toNat = den at *
    refine roundUnits_of_close hgrid ?_ ?_ <;> omega
  · rw [if_neg h]
    simp only [inSteps, h, if_false, Nat.pow_eq] at hfine ⊢
    obtain ⟨h1, h2⟩ := roundHalfEven_close (magnitude * 10 ^ (-place).toNat) hone
    have hprod : 0 < magnitude * 10 ^ (-place).toNat := Nat.mul_pos hpos (hten _)
    refine roundUnits_of_close hgrid ?_ ?_
    all_goals
      generalize roundHalfEven (magnitude * 10 ^ (-place).toNat) oneUnits * oneUnits = rounded at *
      generalize oneUnits = one at *
      generalize magnitude * 10 ^ (-place).toNat = product at *
      omega

/-- A size stands between the powers of ten of its first digit and of the next higher one. The
exponent is a variable, so that nothing works its power out. -/
theorem leadingPlace_spec {magnitude shift : Nat} (hshift : shift = 350)
    (hpos : 0 < magnitude) (hbound : magnitude < overflowUnits) :
    ∃ lead : Nat, leadingPlace magnitude = lead - shift ∧ 26 ≤ lead ∧ lead ≤ 658 ∧
      10 ^ lead * oneUnits ≤ magnitude * 10 ^ shift ∧
      magnitude * 10 ^ shift < 10 ^ (lead + 1) * oneUnits := by
  have hone := oneUnits_pos
  have hmin : 10 ^ 26 * oneUnits ≤ 10 ^ shift := by
    rw [hshift]
    decide +kernel
  have hmax : overflowUnits * 10 ^ shift ≤ 10 ^ 659 * oneUnits := by
    rw [hshift]
    decide +kernel
  have hscaled : scaled magnitude = magnitude * 10 ^ shift / oneUnits := by
    rw [scaled, ← hshift, Nat.pow_eq]
  have hlow : 10 ^ 26 ≤ scaled magnitude := by
    rw [hscaled, Nat.le_div_iff_mul_le hone]
    exact hmin.trans (Nat.le_mul_of_pos_left _ hpos)
  have hhigh : scaled magnitude < 10 ^ 659 := by
    rw [hscaled, Nat.div_lt_iff_lt_mul hone]
    exact (Nat.mul_lt_mul_of_pos_right hbound (Nat.pow_pos (by decide))).trans_le hmax
  have hmore : 26 < digitCount (scaled magnitude) := (lt_digitCount (by decide)).mpr hlow
  have hless : digitCount (scaled magnitude) ≤ 659 := (digitCount_le (by decide)).mpr hhigh
  have hne : scaled magnitude ≠ 0 := by omega
  -- the first digit has the place that is one below the count
  refine ⟨digitCount (scaled magnitude) - 1, ?_, by omega, by omega, ?_, ?_⟩
  · rw [leadingPlace, ← digitCount]
    omega
  · rw [← Nat.le_div_iff_mul_le hone, ← hscaled]
    exact ten_pow_digitCount_le hne
  · have hsucc : digitCount (scaled magnitude) - 1 + 1 = digitCount (scaled magnitude) := by omega
    rw [← Nat.div_lt_iff_lt_mul hone, ← hscaled, hsucc]
    exact lt_ten_pow_digitCount _

theorem leadingPlace_bounds {magnitude : Nat} (hpos : 0 < magnitude)
    (hbound : magnitude < overflowUnits) :
    -324 ≤ leadingPlace magnitude ∧ leadingPlace magnitude ≤ 308 := by
  obtain ⟨shift, hshift⟩ : ∃ shift, shift = 350 := ⟨_, rfl⟩
  obtain ⟨lead, hlead, hlow, hhigh, -, -⟩ := leadingPlace_spec hshift hpos hbound
  rw [hlead]
  omega

theorem inSteps_den_pos (magnitude : Nat) (place : Int) : 0 < (inSteps magnitude place).2 := by
  by_cases h : 0 ≤ place
  · simp only [inSteps, h, if_true, Nat.pow_eq]
    exact Nat.mul_pos oneUnits_pos (Nat.pow_pos (by decide))
  · simp only [inSteps, h, if_false]
    exact oneUnits_pos

/-- A size in steps of `10^(lead - shift - j)`, as an equation between whole numbers. -/
theorem inSteps_ratio (magnitude shift lead j : Nat) :
    (inSteps magnitude (lead - shift - j)).1 * (10 ^ lead * oneUnits) =
      magnitude * 10 ^ shift * (10 ^ j * (inSteps magnitude (lead - shift - j)).2) := by
  by_cases h : (0 : Int) ≤ lead - shift - j
  · obtain ⟨k, hk⟩ := Int.eq_ofNat_of_zero_le h
    have hlead : lead = shift + j + k := by omega
    simp only [inSteps, h, if_true, Nat.pow_eq]
    rw [hk, Int.toNat_natCast, hlead, pow_add, pow_add]
    ring
  · obtain ⟨k, hk⟩ : ∃ k : Nat, -((lead : Int) - shift - j) = k :=
      ⟨_, (Int.toNat_of_nonneg (by omega)).symm⟩
    have hlead : lead + k = shift + j := by omega
    simp only [inSteps, h, if_false, Nat.pow_eq]
    rw [hk, Int.toNat_natCast]
    calc magnitude * 10 ^ k * (10 ^ lead * oneUnits)
        = magnitude * 10 ^ (lead + k) * oneUnits := by ring
      _ = magnitude * 10 ^ shift * (10 ^ j * oneUnits) := by
          rw [hlead]
          ring

/-- On the grid of the seventeenth digit a size is at least 10^16 steps, and on the grid of the
digit after the first `j` it is less than `10^(j + 1)`. -/
theorem inSteps_bounds {magnitude : Nat} (hpos : 0 < magnitude)
    (hbound : magnitude < overflowUnits) (j : Nat) :
    10 ^ j * (inSteps magnitude (leadingPlace magnitude - j)).2 ≤
        (inSteps magnitude (leadingPlace magnitude - j)).1 ∧
      (inSteps magnitude (leadingPlace magnitude - j)).1 <
        10 ^ (j + 1) * (inSteps magnitude (leadingPlace magnitude - j)).2 := by
  obtain ⟨shift, hshift⟩ : ∃ shift, shift = 350 := ⟨_, rfl⟩
  obtain ⟨lead, hlead, -, -, hlow, hhigh⟩ := leadingPlace_spec hshift hpos hbound
  have hratio := inSteps_ratio magnitude shift lead j
  have hden := inSteps_den_pos magnitude (lead - shift - j)
  rw [← hlead] at hratio hden
  generalize inSteps magnitude (leadingPlace magnitude - j) = steps at *
  have hten (n : Nat) : 0 < 10 ^ n := Nat.pow_pos (by decide)
  have hscale : 0 < 10 ^ j * steps.2 := Nat.mul_pos (hten j) hden
  constructor
  · refine Nat.le_of_mul_le_mul_right ?_ (Nat.mul_pos (hten lead) oneUnits_pos)
    calc 10 ^ j * steps.2 * (10 ^ lead * oneUnits)
        = 10 ^ lead * oneUnits * (10 ^ j * steps.2) := Nat.mul_comm _ _
      _ ≤ magnitude * 10 ^ shift * (10 ^ j * steps.2) := Nat.mul_le_mul_right _ hlow
      _ = steps.1 * (10 ^ lead * oneUnits) := hratio.symm
  · refine Nat.lt_of_mul_lt_mul_right (a := 10 ^ lead * oneUnits) ?_
    calc steps.1 * (10 ^ lead * oneUnits)
        = magnitude * 10 ^ shift * (10 ^ j * steps.2) := hratio
      _ < 10 ^ (lead + 1) * oneUnits * (10 ^ j * steps.2) :=
          Nat.mul_lt_mul_of_pos_right hhigh hscale
      _ = 10 ^ (j + 1) * steps.2 * (10 ^ lead * oneUnits) := by ring

/-- What is found on a grid reads back, and is one of the two neighbours of the size. -/
theorem onGrid?_some {magnitude steps : Nat} {place : Int}
    (h : onGrid? magnitude place = some steps) :
    decimalUnits steps place = magnitude ∧
      steps ≤ (inSteps magnitude place).1 / (inSteps magnitude place).2 + 1 := by
  have hcases := roundHalfEven_cases (inSteps magnitude place).1 (inSteps magnitude place).2
  unfold onGrid? at h
  dsimp only at h
  split_ifs at h with h1 h2 h3 h4
  · cases h
    refine ⟨readsBack_iff.mp h1, ?_⟩
    rcases hcases with hc | hc <;> omega
  · cases h
    exact ⟨readsBack_iff.mp h3, le_rfl⟩
  · cases h
    exact ⟨readsBack_iff.mp h4, Nat.le_succ _⟩

theorem onGrid?_fine {magnitude : Nat} {place : Int} (hpos : 0 < magnitude)
    (hgrid : spacing magnitude ∣ magnitude)
    (hfine : 10 ^ 16 * (inSteps magnitude place).2 ≤ (inSteps magnitude place).1) :
    ∃ steps, onGrid? magnitude place = some steps := by
  have hnearest := readsBack_iff.mpr (decimalUnits_nearest hpos hgrid hfine)
  generalize hp : inSteps magnitude place = pair at *
  refine ⟨roundHalfEven pair.1 pair.2, ?_⟩
  unfold onGrid?
  dsimp only
  rw [hp, if_pos hnearest]

/-- A search from coarse to fine ends with what some grid has, if the finest has something. -/
theorem searchGrid_spec {found : Int → Option Nat} {otherwise : Int → Nat} {leading : Int}
    (hlast : ∃ steps, found (leading - (16 : Nat)) = some steps) (left tried : Nat)
    (h : tried + left = 17) (hleft : 0 < left) :
    ∃ j ≤ 16, ∃ steps,
      searchGrid found otherwise leading left tried = (steps, leading - (j : Nat)) ∧
      found (leading - (j : Nat)) = some steps := by
  induction left generalizing tried with
  | zero => omega
  | succ left ih =>
    rw [searchGrid]
    cases hg : found (leading - tried) with
    | some steps => exact ⟨tried, by omega, steps, rfl, hg⟩
    | none =>
      refine ih (tried + 1) (by omega) ?_
      by_contra hzero
      have htried : tried = 16 := by omega
      obtain ⟨steps, hsteps⟩ := hlast
      rw [htried, hsteps] at hg
      cases hg

/-- A decimal that means a size: its digits, and where the last of them stands. -/
structure Spells (magnitude steps : Nat) (place : Int) : Prop where
  nonzero : steps ≠ 0
  units : decimalUnits steps place = magnitude
  low : -400 ≤ digitCount steps + place
  high : digitCount steps + place ≤ 400

theorem Spells.stripZeros {magnitude steps : Nat} {place : Int} (h : Spells magnitude steps place)
    (fuel : Nat) :
    Spells magnitude (stripZeros fuel steps place).1 (stripZeros fuel steps place).2 := by
  induction fuel generalizing steps place with
  | zero => exact h
  | succ fuel ih =>
    rw [Double.stripZeros]
    split_ifs with hz
    · refine ih ?_
      have hmul : steps = steps / 10 * 10 ^ 1 := by omega
      have hne : steps / 10 ≠ 0 := by omega
      have hunits := decimalUnits_mul_ten_pow (steps / 10) 1 (place + 1)
      have hcount := digitCount_mul_ten_pow hne 1
      rw [← hmul] at hunits hcount
      have hplace : place + 1 - (1 : Nat) = place := by omega
      rw [hplace, h.units] at hunits
      have hlow := h.low
      have hhigh := h.high
      exact ⟨hne, hunits.symm, by omega, by omega⟩
    · exact h

theorem shortest_eq {magnitude steps : Nat} {place : Int}
    (h : searchGrid (onGrid? magnitude) (fun place => (inSteps magnitude place).1)
      (leadingPlace magnitude) 17 0 = (steps, place)) :
    shortest magnitude = stripZeros 20 steps place := by
  unfold shortest
  dsimp only
  rw [h]

/-- The digits that are written for a double mean it. -/
theorem shortest_spells {magnitude : Nat} (hpos : 0 < magnitude) (hr : Representable magnitude) :
    Spells magnitude (shortest magnitude).1 (shortest magnitude).2 := by
  -- seventeen digits are always enough, so that the search ends
  have hlast := onGrid?_fine hpos hr.grid (inSteps_bounds hpos hr.bound 16).1
  obtain ⟨j, hj, steps, hsearch, hgrid⟩ := searchGrid_spec hlast 17 0 rfl (by decide)
  rw [shortest_eq hsearch]
  refine Spells.stripZeros ?_ 20
  obtain ⟨hunits, hle⟩ := onGrid?_some hgrid
  have hlt := (inSteps_bounds hpos hr.bound j).2
  have hne : steps ≠ 0 := by
    rintro rfl
    rw [decimalUnits_zero] at hunits
    exact hpos.ne hunits
  have hsteps : digitCount steps ≤ j + 2 := by
    rw [← Nat.div_lt_iff_lt_mul (inSteps_den_pos magnitude _)] at hlt
    rw [digitCount_le (Nat.succ_pos _)]
    calc steps ≤ 10 ^ (j + 1) := hle.trans hlt
      _ < 10 ^ (j + 2) := Nat.pow_lt_pow_succ (by decide)
  obtain ⟨hlow, hhigh⟩ := leadingPlace_bounds hpos hr.bound
  have hcount := digitCount_pos steps
  refine ⟨hne, hunits, ?_, ?_⟩
  all_goals
    clear hlast hunits hsearch hgrid hle hlt hpos hr
    generalize leadingPlace magnitude = leading at *
    generalize digitCount steps = count at *
    omega

/-- A decimal that means a size is read as it. -/
theorem Spells.ofDecimal? {magnitude steps : Nat} {place : Int} (h : Spells magnitude steps place)
    (hbound : magnitude < overflowUnits) (negative : Bool) :
    ofDecimal? negative steps place = some ⟨negative, magnitude⟩ := by
  have hlow := h.low
  have hhigh := h.high
  have hunits := h.units
  rw [digitCount] at hlow hhigh
  have hexponent : exponentBound = 400 := rfl
  unfold Double.ofDecimal?
  dsimp only
  rw [if_neg h.nonzero, if_neg (by omega), if_neg (by omega)]
  unfold decimalUnits at hunits
  split_ifs at hunits ⊢ with hp
  · simp only [ofRatio?, Nat.pow_eq, hunits, hbound, if_true]
  · simp only [ofRatio?, Nat.pow_eq, hunits, hbound, if_true]

theorem representable_zero : Representable 0 :=
  ⟨dvd_zero _, by decide +kernel⟩

theorem representable_ofDecimal? {negative : Bool} {digits : Nat} {exponent : Int} {x : Double}
    (h : ofDecimal? negative digits exponent = some x) : Representable x.magnitude := by
  have hratio {num den : Nat} (hden : 0 < den) (h : ofRatio? negative num den = some x) :
      Representable x.magnitude := by
    unfold ofRatio? at h
    dsimp only at h
    split_ifs at h with hlt
    cases h
    exact ⟨spacing_roundUnits_dvd hden, hlt⟩
  unfold Double.ofDecimal? at h
  dsimp only at h
  split_ifs at h
  · cases h
    exact representable_zero
  · cases h
    exact representable_zero
  · exact hratio (by decide) h
  · exact hratio (Nat.pow_pos (by decide)) h

theorem Spells.append_zeros {magnitude steps : Nat} {place : Int} (h : Spells magnitude steps place)
    (j : Nat) : Spells magnitude (steps * 10 ^ j) (place - j) := by
  have hcount := digitCount_mul_ten_pow h.nonzero j
  have hlow := h.low
  have hhigh := h.high
  have hten : 10 ^ j ≠ 0 := (Nat.pow_pos (by decide)).ne'
  refine ⟨Nat.mul_ne_zero h.nonzero hten, ?_, by omega, by omega⟩
  rw [decimalUnits_mul_ten_pow, h.units]

end Signoff.Double
