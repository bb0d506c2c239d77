import Mathlib
import Signoff.Double.Basic

/-!
Rounding to doubles. What comes out of it is on the grid of doubles, and a quotient that is close to
a double, by less than one part in 2^54, is rounded to it.
-/

namespace Signoff.Double

theorem bitLength_le {n k : Nat} : bitLength n ≤ k ↔ n < 2 ^ k := by
  unfold bitLength
  split
  · next h => simp [h]
  · next h => rw [Nat.succ_le_iff, Nat.log2_lt h]

theorem lt_bitLength {n k : Nat} : k < bitLength n ↔ 2 ^ k ≤ n := by
  rw [← not_le, bitLength_le, not_lt]

theorem spacing_eq (n : Nat) : spacing n = 2 ^ (bitLength n - 53) := rfl

theorem oneUnits_pos : 0 < oneUnits := by decide +kernel

theorem spacing_pos (n : Nat) : 0 < spacing n := Nat.two_pow_pos _

/-- The end of a binade, or 2^53 in front of all of them. -/
theorem binade_eq (n : Nat) : 2 ^ 53 * spacing n = 2 ^ (max (bitLength n) 53) := by
  rw [spacing_eq, ← pow_add]
  congr 1
  omega

theorem lt_binade (n : Nat) : n < 2 ^ 53 * spacing n := by
  rw [binade_eq]
  exact bitLength_le.mp (le_max_left _ _)

/-- Up to the end of a binade the grid is no coarser than in it. -/
theorem spacing_dvd {m n : Nat} (h : m < 2 ^ 53 * spacing n) : spacing m ∣ spacing n := by
  rw [binade_eq] at h
  have hbits := bitLength_le.mpr h
  refine Nat.pow_dvd_pow 2 ?_
  omega

/-- From the end of a binade on the grid is at least twice as coarse. -/
theorem two_mul_spacing_dvd {m n : Nat} (h : 2 ^ 53 * spacing m ≤ n) :
    2 * spacing m ∣ spacing n := by
  rw [binade_eq] at h
  have hbits := lt_bitLength.mpr h
  rw [spacing_eq, spacing_eq, ← pow_succ']
  refine Nat.pow_dvd_pow 2 ?_
  omega

/-- A number of units that a double can have. -/
structure Representable (units : Nat) : Prop where
  grid : spacing units ∣ units
  bound : units < overflowUnits

theorem roundHalfEven_zero (den : Nat) : roundHalfEven 0 den = 0 := by
  unfold roundHalfEven
  simp

theorem roundHalfEven_cases (num den : Nat) :
    roundHalfEven num den = num / den ∨ roundHalfEven num den = num / den + 1 := by
  unfold roundHalfEven
  dsimp only
  split_ifs
  · exact .inl rfl
  · exact .inr rfl
  · have := Nat.mod_two_eq_zero_or_one (num / den)
    omega

/-- Rounding is off by half a step at most. -/
theorem roundHalfEven_close (num : Nat) {den : Nat} (hden : 0 < den) :
    2 * (roundHalfEven num den * den) ≤ 2 * num + den ∧
      2 * num ≤ 2 * (roundHalfEven num den * den) + den := by
  have hdiv := Nat.div_add_mod num den
  have hmod := Nat.mod_lt num hden
  have hsucc : (num / den + 1) * den = den * (num / den) + den := by ring
  have hsame : num / den * den = den * (num / den) := Nat.mul_comm _ _
  unfold roundHalfEven
  dsimp only
  split_ifs with h1 h2
  · omega
  · omega
  · rcases Nat.mod_two_eq_zero_or_one (num / den) with h | h <;> rw [h]
    · rw [Nat.add_zero]
      omega
    · omega

/-- A quotient that is nearer than half a step to a whole number is rounded to it. -/
theorem roundHalfEven_of_close {num den k : Nat} (hlow : 2 * (k * den) < 2 * num + den)
    (hhigh : 2 * num < 2 * (k * den) + den) : roundHalfEven num den = k := by
  have hden : 0 < den := by
    rcases Nat.eq_zero_or_pos den with rfl | h
    · omega
    · exact h
  obtain ⟨h1, h2⟩ := roundHalfEven_close num hden
  generalize roundHalfEven num den = r at h1 h2
  have hle : r * den < (k + 1) * den := by
    rw [Nat.add_mul]
    omega
  have hge : k * den < (r + 1) * den := by
    rw [Nat.add_mul]
    omega
  have := Nat.lt_of_mul_lt_mul_right hle
  have := Nat.lt_of_mul_lt_mul_right hge
  omega

theorem roundHalfEven_mul {num den c : Nat} (hc : 0 < c) :
    roundHalfEven (num * c) (den * c) = roundHalfEven num den := by
  have hlt {a b : Nat} : a * c < b * c ↔ a < b := Nat.mul_lt_mul_right hc
  unfold roundHalfEven
  simp only [Nat.mul_div_mul_right _ _ hc, Nat.mul_mod_mul_right, ← Nat.mul_assoc, hlt]

theorem roundUnits_mul {num den c : Nat} (hc : 0 < c) :
    roundUnits (num * c) (den * c) = roundUnits num den := by
  unfold roundUnits
  simp only [Nat.mul_div_mul_right _ _ hc, Nat.mul_right_comm den c, roundHalfEven_mul hc]

theorem roundUnits_zero (den : Nat) : roundUnits 0 den = 0 := by
  simp only [roundUnits, roundHalfEven_zero, Nat.zero_mul]

theorem spacing_two_pow_dvd (j : Nat) : spacing (2 ^ j) ∣ 2 ^ j := by
  have hbits : bitLength (2 ^ j) ≤ j + 1 := bitLength_le.mpr (Nat.pow_lt_pow_succ (by decide))
  refine Nat.pow_dvd_pow 2 ?_
  omega

theorem spacing_roundUnits_dvd {num den : Nat} (hden : 0 < den) :
    spacing (roundUnits num den) ∣ roundUnits num den := by
  unfold roundUnits
  dsimp only
  have hbinade := binade_eq (num / den)
  have hdvd {r : Nat} : r < 2 ^ 53 * spacing (num / den) → spacing r ∣ spacing (num / den) :=
    spacing_dvd
  have hlt := lt_binade (num / den)
  have hpos := spacing_pos (num / den)
  generalize spacing (num / den) = step at *
  have hnum : num / (den * step) < 2 ^ 53 := by
    rw [Nat.div_lt_iff_lt_mul hden] at hlt
    rw [Nat.div_lt_iff_lt_mul (Nat.mul_pos hden hpos)]
    calc num < 2 ^ 53 * step * den := hlt
      _ = 2 ^ 53 * (den * step) := by ring
  have hround : roundHalfEven num (den * step) ≤ 2 ^ 53 := by
    rcases roundHalfEven_cases num (den * step) with h | h <;> omega
  -- rounding up can reach the end of the binade, which is a power of two
  rcases Nat.lt_or_eq_of_le hround with h | h
  · exact (hdvd (Nat.mul_lt_mul_of_pos_right h hpos)).trans (Nat.dvd_mul_left _ _)
  · rw [h, hbinade]
    exact spacing_two_pow_dvd _

section Close

variable {num den m : Nat}

/-- A number on the grid is a step away from the end of its binade, so that a quotient that is hardly
more lies below that end. -/
theorem div_lt_binade (hden : 0 < den) (hgrid : spacing m ∣ m)
    (hhigh : 2 ^ 54 * num < 2 ^ 54 * (m * den) + m * den) : num / den < 2 ^ 53 * spacing m := by
  obtain ⟨k, hk⟩ := hgrid
  have hmlt := lt_binade m
  generalize spacing m = s at *
  have hk' : k + 1 ≤ 2 ^ 53 := by
    rw [hk, Nat.mul_comm s] at hmlt
    exact Nat.lt_of_mul_lt_mul_right hmlt
  have hle : m * den + s * den ≤ 2 ^ 53 * (s * den) := by
    calc m * den + s * den = (k + 1) * (s * den) := by rw [hk]; ring
      _ ≤ 2 ^ 53 * (s * den) := Nat.mul_le_mul_right _ hk'
  rw [Nat.div_lt_iff_lt_mul hden, Nat.mul_assoc]
  generalize m * den = M at *
  generalize s * den = S at *
  omega

/-- A number on the grid above the end of a binade is a step of the next one away from it, so that
a quotient in the binade is not close to it. -/
theorem le_binade_div (hden : 0 < den) (hgrid : spacing m ∣ m)
    (hlow : 2 ^ 54 * (m * den) < 2 ^ 54 * num + m * den) : m ≤ 2 ^ 53 * spacing (num / den) := by
  by_contra hgt
  rw [not_le] at hgt
  -- above the end of the binade only every second step is on the grid
  obtain ⟨j, hj⟩ := (two_mul_spacing_dvd hgt.le).trans hgrid
  have hq := lt_binade (num / den)
  rw [Nat.div_lt_iff_lt_mul hden] at hq
  generalize spacing (num / den) = t at *
  have hj' : 2 ^ 52 + 1 ≤ j := by
    have h : (2 * t) * 2 ^ 52 < (2 * t) * j := by
      rw [← hj]
      calc (2 * t) * 2 ^ 52 = 2 ^ 53 * t := by ring
        _ < m := hgt
    exact Nat.lt_of_mul_lt_mul_left h
  have hM : (2 ^ 52 + 1) * (2 * t * den) ≤ m * den := by
    calc (2 ^ 52 + 1) * (2 * t * den) ≤ j * (2 * t * den) := Nat.mul_le_mul_right _ hj'
      _ = m * den := by rw [hj]; ring
  have hN : num < 2 ^ 52 * (2 * t * den) := by
    calc num < 2 ^ 53 * t * den := hq
      _ = 2 ^ 52 * (2 * t * den) := by ring
  generalize 2 * t * den = U at *
  generalize m * den = M at *
  omega

/-- A quotient within one part in 2^54 of a number on the grid is rounded to it. -/
theorem roundUnits_of_close (hgrid : spacing m ∣ m)
    (hlow : 2 ^ 54 * (m * den) < 2 ^ 54 * num + m * den)
    (hhigh : 2 ^ 54 * num < 2 ^ 54 * (m * den) + m * den) : roundUnits num den = m := by
  have hden : 0 < den := by
    rcases Nat.eq_zero_or_pos den with rfl | h
    · omega
    · exact h
  have hstep := (spacing_dvd (div_lt_binade hden hgrid hhigh)).trans hgrid
  have hm := le_binade_div hden hgrid hlow
  unfold roundUnits
  dsimp only
  generalize spacing (num / den) = t at *
  obtain ⟨k, rfl⟩ := hstep
  have hM : t * k * den ≤ 2 ^ 53 * (den * t) := by
    calc t * k * den ≤ 2 ^ 53 * t * den := Nat.mul_le_mul_right _ hm
      _ = 2 ^ 53 * (den * t) := by ring
  have hk : k * (den * t) = t * k * den := by ring
  have hround : roundHalfEven num (den * t) = k := by
    refine roundHalfEven_of_close ?_ ?_ <;> rw [hk]
    · generalize t * k * den = M at *
      generalize den * t = T at *
      omega
    · generalize t * k * den = M at *
      generalize den * t = T at *
      omega
  rw [hround, Nat.mul_comm]

end Close

end Signoff.Double
