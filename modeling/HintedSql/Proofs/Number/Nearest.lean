import HintedSql.Number.Decimal
import Mathlib.Data.Nat.Log
import Mathlib.Tactic.Ring
import Mathlib.Tactic.NormNum
set_option relaxedAutoImplicit false
set_option autoImplicit false

/-!
# Nearest magnitudes

The code nearest to a fraction depends on the value of the fraction alone, and a magnitude is
nearest to itself. Reading a decimal is rounding its value, also where the reader stops early
because the decimal is too small.

## Main results

* `HintedSql.Double.nearestCode_congr` — equal fractions have the same nearest code.
* `HintedSql.Magnitude.nearestCode_units` — a magnitude is nearest to itself.
* `HintedSql.Decimal.toDouble_eq_ofRatio` — a decimal with a moderate exponent is rounded.
-/

namespace HintedSql

/-- Powers written without the power operator are positive, too. -/
lemma natPow_pos {b : Nat} (n : Nat) (hb : 0 < b) : 0 < Nat.pow b n :=
  Nat.pow_pos hb

namespace Double

/-! ## Equal fractions -/

/-- A common factor does not change a rounded quotient. -/
lemma roundDiv_mul_right {k : Nat} (hk : 0 < k) (a b : Nat) :
    roundDiv (a * k) (b * k) = roundDiv a b := by
  have hlt : 2 * (a % b * k) < b * k ↔ 2 * (a % b) < b := by
    rw [← Nat.mul_assoc]
    exact Nat.mul_lt_mul_right hk
  have hgt : b * k < 2 * (a % b * k) ↔ b < 2 * (a % b) := by
    rw [← Nat.mul_assoc]
    exact Nat.mul_lt_mul_right hk
  simp only [roundDiv, Nat.mul_div_mul_right _ _ hk, Nat.mul_mod_mul_right, hlt, hgt]

/-- A common factor does not change the nearest code. -/
lemma nearestCode_mul_right {k : Nat} (hk : 0 < k) (a b : Nat) :
    nearestCode (a * k) (b * k) = nearestCode a b := by
  have hunits (n : Nat) : a * k * n = a * n * k := by ring
  have hden (n : Nat) : b * k * n = b * n * k := by ring
  simp only [nearestCode, hunits, hden, Nat.mul_div_mul_right _ _ hk, roundDiv_mul_right hk]

/-- Equal fractions have the same nearest code. -/
theorem nearestCode_congr {a b c d : Nat} (hb : 0 < b) (hd : 0 < d) (h : a * d = c * b) :
    nearestCode a b = nearestCode c d :=
  calc
    nearestCode a b = nearestCode (a * d) (b * d) := (nearestCode_mul_right hd a b).symm
    _ = nearestCode (c * b) (d * b) := by rw [h, Nat.mul_comm b d]
    _ = nearestCode c d := nearestCode_mul_right hb c d

/-- An exact quotient is not rounded. -/
lemma roundDiv_mul_self {k : Nat} (hk : 0 < k) (a : Nat) : roundDiv (a * k) k = a := by
  simp [roundDiv, Nat.mul_div_cancel _ hk, hk]

/-- What is less than half of the least magnitude is nearest to zero. -/
lemma nearestCode_eq_zero {a b : Nat} (h : 2 * (a * Magnitude.unitsOfOne) < b) :
    nearestCode a b = 0 := by
  unfold nearestCode roundDiv
  generalize a * Magnitude.unitsOfOne = units at h
  have hdiv : units / b = 0 := Nat.div_eq_of_lt (by omega)
  have hmod : units % b = units := Nat.mod_eq_of_lt (by omega)
  simp [hdiv, hmod, h]

/-- A fraction whose nearest magnitude is known. -/
lemma ofRatio_of_nearestCode {m : Magnitude} {negative : Bool} {num den : Nat}
    (h : nearestCode num den = m.code) : ofRatio negative num den = .finite negative m := by
  rw [ofRatio, dif_pos (by rw [h]; exact m.code_lt)]
  simp [h]

end Double

namespace Magnitude

/-! ## Magnitudes are nearest to themselves -/

/-- One is some multiple of the smallest magnitude. -/
lemma unitsOfOne_pos : 0 < unitsOfOne :=
  natPow_pos places (by decide)

/-- A subnormal magnitude is its own significand. -/
lemma units_of_lt {m : Magnitude} (h : m.code < 2 ^ 52) : m.units = m.code := by
  have hdiv : m.code / 2 ^ 52 = 0 := Nat.div_eq_of_lt h
  have hshift : m.shift = 0 := by
    change m.code / 2 ^ 52 - 1 = 0
    rw [hdiv]
  simp [units, significand, hshift]

/-- The code of a normal magnitude is its shift and its significand. -/
lemma code_eq {m : Magnitude} (h : 2 ^ 52 ≤ m.code) :
    m.code = m.shift * 2 ^ 52 + m.significand ∧ 2 ^ 52 ≤ m.significand ∧
      m.significand < 2 ^ 53 := by
  have hdiv := Nat.div_add_mod m.code (2 ^ 52)
  have hmod := Nat.mod_lt m.code (show 2 ^ 52 > 0 by decide)
  have hpos : 1 ≤ m.code / 2 ^ 52 := (Nat.one_le_div_iff (by decide)).mpr h
  have hshift : m.shift = m.code / 2 ^ 52 - 1 := rfl
  have hsig : m.significand = m.code - m.shift * 2 ^ 52 := rfl
  omega

/-- The units of a normal magnitude have 53 bits above its shift. -/
lemma log2_units {m : Magnitude} (h : 2 ^ 52 ≤ m.code) : m.units.log2 = m.shift + 52 := by
  obtain ⟨-, hlow, hhigh⟩ := code_eq h
  have hpos : 0 < 2 ^ m.shift := Nat.two_pow_pos _
  have hunits : m.units = m.significand * 2 ^ m.shift := rfl
  rw [Nat.log2_eq_iff (by rw [hunits]; positivity), hunits]
  constructor
  · rw [pow_add, Nat.mul_comm]
    exact Nat.mul_le_mul_right _ hlow
  · rw [show m.shift + 52 + 1 = m.shift + 53 from rfl, pow_add, Nat.mul_comm]
    exact Nat.mul_lt_mul_of_pos_left hhigh hpos

/-- A magnitude is nearest to itself. -/
theorem nearestCode_units (m : Magnitude) :
    Double.nearestCode m.units unitsOfOne = m.code := by
  rw [Double.nearestCode, Nat.mul_div_cancel _ unitsOfOne_pos, Nat.mul_comm unitsOfOne,
    Double.roundDiv_mul_right unitsOfOne_pos]
  by_cases h : m.code < 2 ^ 52
  · -- Below the first power of two with full precision nothing is shifted.
    have hlog : m.units.log2 - 52 = 0 := by
      rw [units_of_lt h, Nat.sub_eq_zero_iff_le]
      by_cases h0 : m.code = 0
      · simp [h0]
      · exact ((Nat.log2_lt h0).mpr h).le
    rw [hlog, units_of_lt h]
    simpa using Double.roundDiv_mul_self Nat.one_pos m.code
  · obtain ⟨hcode, -, -⟩ := code_eq (Nat.le_of_not_lt h)
    have hround : Double.roundDiv m.units (Nat.pow 2 m.shift) = m.significand :=
      Double.roundDiv_mul_self (natPow_pos _ (by decide)) _
    rw [log2_units (Nat.le_of_not_lt h), Nat.add_sub_cancel, hround]
    exact hcode.symm

end Magnitude

namespace Decimal

/-! ## Decimals -/

/-- A power of ten that is not positive stands in the denominator. -/
lemma ratio_neg (c n : Nat) : ratio c (-(n : Int)) = (c, Nat.pow 10 n) := by
  rw [ratio]
  split
  · obtain rfl : n = 0 := by omega
    simp
  · simp

/-- A power of ten that is not negative stands in the numerator. -/
lemma ratio_natCast (c n : Nat) : ratio c n = (c * Nat.pow 10 n, 1) := by
  rw [ratio, if_pos (Int.natCast_nonneg n), Int.toNat_natCast]

/-- The denominator of a decimal is positive. -/
lemma ratio_snd_pos (c : Nat) (e : Int) : 0 < (ratio c e).2 := by
  unfold ratio
  split
  · exact Nat.one_pos
  · exact natPow_pos _ (by decide)

/-- A number is less than half a unit if it is divided by a power of ten with room for its binary
digits and for those of one, at three binary digits for a decimal one. -/
private lemma two_mul_unitsOfOne_lt {c k n : Nat} (hk : Magnitude.places + 1 ≤ 3 * k)
    (hn : c.log2 + 1 + k ≤ n) : 2 * (c * Magnitude.unitsOfOne) < Nat.pow 10 n := by
  have hone : 2 * Magnitude.unitsOfOne ≤ 10 ^ k :=
    calc
      2 * Magnitude.unitsOfOne = 2 ^ (Magnitude.places + 1) := Nat.mul_comm _ _
      _ ≤ 2 ^ (3 * k) := Nat.pow_le_pow_right (by decide) hk
      _ = (2 ^ 3) ^ k := pow_mul 2 3 k
      _ ≤ 10 ^ k := Nat.pow_le_pow_left (by decide) k
  have hcoefficient : c < 10 ^ (c.log2 + 1) :=
    Nat.lt_log2_self.trans_le (Nat.pow_le_pow_left (by decide) _)
  calc
    2 * (c * Magnitude.unitsOfOne) = c * (2 * Magnitude.unitsOfOne) := by ring
    _ < 10 ^ (c.log2 + 1) * 10 ^ k :=
      Nat.mul_lt_mul_of_lt_of_le hcoefficient hone (by positivity)
    _ = 10 ^ (c.log2 + 1 + k) := (pow_add 10 _ _).symm
    _ ≤ 10 ^ n := Nat.pow_le_pow_right (by decide) hn

/-- A decimal far below the least magnitude is nearest to zero.

**Proof sketch.** The coefficient is below a power of two that is smaller than the power of ten
under it by so much that twice the quotient is still below the least magnitude. -/
lemma nearestCode_eq_zero_of_small {c : Nat} {e : Int}
    (h : (c.log2 : Int) + 1 + e < -400) :
    Double.nearestCode (ratio c e).1 (ratio c e).2 = 0 := by
  obtain ⟨n, rfl⟩ : ∃ n : Nat, e = -(n : Int) := ⟨(-e).toNat, by omega⟩
  rw [ratio_neg]
  have hplaces : Magnitude.places + 1 ≤ 3 * 401 := by simp [Magnitude.places]
  exact Double.nearestCode_eq_zero (two_mul_unitsOfOne_lt hplaces (by dsimp only; omega))

/-- A decimal is the double nearest to its value, also where the reader does not look at it
closely. -/
theorem toDouble_eq_ofRatio {d : Decimal} (hc : d.coefficient ≠ 0) (he : d.exponent ≤ 400) :
    d.toDouble = .ofRatio d.negative (ratio d.coefficient d.exponent).1
      (ratio d.coefficient d.exponent).2 := by
  rw [toDouble, if_neg hc, if_neg (by omega)]
  split
  · rename_i hsmall
    simp [Double.ofRatio, nearestCode_eq_zero_of_small hsmall, Magnitude.zero]
  · rfl

end Decimal

end HintedSql
