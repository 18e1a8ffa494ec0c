import HintedSql.Number.Scaling
import HintedSql.Proofs.Number.Nearest
set_option relaxedAutoImplicit false
set_option autoImplicit false

/-!
# Numbers in range

Rounding to the nearest magnitude is monotone. So a fraction is rounded to a finite double if some
magnitude is at least as great, and a quotient by a double that is at least one is finite with its
dividend. It follows that scaling, which gives up where a product is infinite, only ever yields
finite doubles.

## Main results

* `HintedSql.Double.nearestCode_mono` — a greater fraction has no lesser nearest code.
* `HintedSql.Decimal.isFinite_div_tenTo` — dividing by a power of ten keeps a double finite.
* `HintedSql.Decimal.isFinite_of_scaled` — what is read by scaling is finite.
-/

namespace HintedSql

/-- Powers written without the power operator grow with the exponent, too. -/
lemma natPow_le_natPow {b m n : Nat} (hb : 0 < b) (h : m ≤ n) : Nat.pow b m ≤ Nat.pow b n :=
  Nat.pow_le_pow_right hb h

namespace Double

/-! ## Rounding is monotone -/

/-- Rounding a quotient rounds it down, or up by one. -/
lemma roundDiv_le_succ (a b : Nat) : a / b ≤ roundDiv a b ∧ roundDiv a b ≤ a / b + 1 := by
  unfold roundDiv
  dsimp only
  split
  · omega
  · split
    · omega
    · split <;> omega

/-- With one denominator, a greater numerator is not rounded to less. -/
lemma roundDiv_mono_left {a c : Nat} (b : Nat) (h : a ≤ c) : roundDiv a b ≤ roundDiv c b := by
  have hdiv : a / b ≤ c / b := Nat.div_le_div_right h
  obtain heq | hlt := Nat.eq_or_lt_of_le hdiv
  · -- The remainders decide, and the quotients have the same parity.
    have hmod : a % b ≤ c % b := by
      have ha := Nat.div_add_mod a b
      have hc := Nat.div_add_mod c b
      rw [heq] at ha
      omega
    unfold roundDiv
    dsimp only
    rw [heq]
    generalize c / b = q
    generalize a % b = r at hmod
    generalize c % b = r' at hmod
    split_ifs <;> omega
  · have ha := roundDiv_le_succ a b
    have hc := roundDiv_le_succ c b
    omega

/-- A larger fraction is not rounded to a smaller number. -/
lemma roundDiv_mono {a b c d : Nat} (hb : 0 < b) (hd : 0 < d) (h : a * d ≤ c * b) :
    roundDiv a b ≤ roundDiv c d :=
  calc
    roundDiv a b = roundDiv (a * d) (b * d) := (roundDiv_mul_right hd a b).symm
    _ ≤ roundDiv (c * b) (b * d) := roundDiv_mono_left _ h
    _ = roundDiv c d := by rw [Nat.mul_comm b d, roundDiv_mul_right hb]

/-- A quotient of at most 53 bits above its shift is rounded to at most `2 ^ 53`. -/
lemma roundDiv_le_of_log2 {u b t : Nat} (hb : 0 < b) (h : (u / b).log2 ≤ t + 52) :
    roundDiv u (b * 2 ^ t) ≤ 2 ^ 53 := by
  have hq : u / b < 2 ^ (t + 53) := by
    refine Nat.lt_log2_self.trans_le (Nat.pow_le_pow_right (by decide) ?_)
    omega
  have hu : u ≤ 2 ^ 53 * (b * 2 ^ t) := by
    calc
      u ≤ 2 ^ (t + 53) * b := (Nat.lt_mul_of_div_lt hq hb).le
      _ = 2 ^ 53 * (b * 2 ^ t) := by rw [pow_add]; ring
  have hpos : 0 < b * 2 ^ t := Nat.mul_pos hb (Nat.two_pow_pos t)
  calc
    roundDiv u (b * 2 ^ t) ≤ roundDiv (2 ^ 53 * (b * 2 ^ t)) (b * 2 ^ t) :=
      roundDiv_mono_left _ hu
    _ = 2 ^ 53 := roundDiv_mul_self hpos _

/-- A quotient with a bit at place 52 above its shift is rounded to at least `2 ^ 52`. -/
lemma le_roundDiv_of_log2 {v d t : Nat} (ht : 0 < t) (h : (v / d).log2 - 52 = t) :
    2 ^ 52 ≤ roundDiv v (d * 2 ^ t) := by
  have hq : 2 ^ (t + 52) ≤ v / d := by
    have hne : v / d ≠ 0 := by
      intro h0
      rw [h0, Nat.log2_zero] at h
      omega
    rw [← Nat.le_log2 hne]
    omega
  refine le_trans ?_ (roundDiv_le_succ v (d * 2 ^ t)).1
  rw [← Nat.div_div_eq_div_mul, Nat.le_div_iff_mul_le (Nat.two_pow_pos t), ← pow_add,
    Nat.add_comm]
  exact hq

/-- **A greater fraction has no lesser nearest code.**

**Proof sketch.** The quotient of the greater fraction has at least as many bits. With equally many,
both are rounded at the same place. With more, the greater one is rounded to at least the power of
two that the lesser one is rounded to at most. -/
theorem nearestCode_mono {a b c d : Nat} (hb : 0 < b) (hd : 0 < d) (h : a * d ≤ c * b) :
    nearestCode a b ≤ nearestCode c d := by
  unfold nearestCode
  dsimp only
  have hscaled : a * Magnitude.unitsOfOne * d ≤ c * Magnitude.unitsOfOne * b := by
    calc
      a * Magnitude.unitsOfOne * d = a * d * Magnitude.unitsOfOne := by ring
      _ ≤ c * b * Magnitude.unitsOfOne := Nat.mul_le_mul_right _ h
      _ = c * Magnitude.unitsOfOne * b := by ring
  generalize a * Magnitude.unitsOfOne = u at hscaled
  generalize c * Magnitude.unitsOfOne = v at hscaled
  have hdiv : u / b ≤ v / d := by
    rw [Nat.le_div_iff_mul_le hd]
    refine Nat.le_of_mul_le_mul_right ?_ hb
    calc
      u / b * d * b = u / b * b * d := by ring
      _ ≤ u * d := Nat.mul_le_mul_right _ (Nat.div_mul_le_self u b)
      _ ≤ v * b := hscaled
  have hlog : (u / b).log2 ≤ (v / d).log2 := by
    by_cases h0 : u / b = 0
    · simp [h0]
    · have h0' : v / d ≠ 0 := by
        intro hz
        rw [hz] at hdiv
        exact h0 (Nat.le_zero.mp hdiv)
      exact (Nat.le_log2 h0').mpr ((Nat.log2_self_le h0).trans hdiv)
  obtain heq | hlt : (u / b).log2 - 52 = (v / d).log2 - 52 ∨
      (u / b).log2 - 52 < (v / d).log2 - 52 := by omega
  · rw [heq]
    refine Nat.add_le_add_left (roundDiv_mono ?_ ?_ ?_) _
    · exact Nat.mul_pos hb (natPow_pos _ (by decide))
    · exact Nat.mul_pos hd (natPow_pos _ (by decide))
    · calc
        u * (d * Nat.pow 2 ((v / d).log2 - 52)) = u * d * Nat.pow 2 ((v / d).log2 - 52) := by ring
        _ ≤ v * b * Nat.pow 2 ((v / d).log2 - 52) := Nat.mul_le_mul_right _ hscaled
        _ = v * (b * Nat.pow 2 ((v / d).log2 - 52)) := by ring
  · have hlow : roundDiv u (b * 2 ^ ((u / b).log2 - 52)) ≤ 2 ^ 53 :=
      roundDiv_le_of_log2 hb (by omega)
    have hhigh : 2 ^ 52 ≤ roundDiv v (d * 2 ^ ((v / d).log2 - 52)) :=
      le_roundDiv_of_log2 (by omega) rfl
    change _ * 2 ^ 52 + roundDiv u (b * 2 ^ _) ≤ _ * 2 ^ 52 + roundDiv v (d * 2 ^ _)
    omega

/-! ## Finite results -/

/-- A fraction that is not greater than some magnitude is rounded to a finite double. -/
lemma isFinite_ofRatio {m : Magnitude} {num den : Nat} (hden : 0 < den)
    (h : num * Magnitude.unitsOfOne ≤ m.units * den) (negative : Bool) :
    (ofRatio negative num den).isFinite = true := by
  have hcode : nearestCode num den ≤ m.code := by
    rw [← m.nearestCode_units]
    exact nearestCode_mono hden Magnitude.unitsOfOne_pos h
  rw [ofRatio, dif_pos (hcode.trans_lt m.code_lt)]
  rfl

end Double

namespace Magnitude

/-- Magnitudes with greater codes are greater. -/
lemma units_mono {m m' : Magnitude} (h : m.code ≤ m'.code) : m.units ≤ m'.units := by
  refine Nat.le_of_not_lt fun hlt => ?_
  have hcode : m'.code ≤ m.code := by
    rw [← m.nearestCode_units, ← m'.nearestCode_units]
    exact Double.nearestCode_mono unitsOfOne_pos unitsOfOne_pos (Nat.mul_le_mul_right _ hlt.le)
  have heq : m = m' := by
    obtain ⟨c, hc⟩ := m
    obtain ⟨c', hc'⟩ := m'
    simpa using Nat.le_antisymm h hcode
  rw [heq] at hlt
  exact Nat.lt_irrefl _ hlt

/-- The magnitude one. -/
def one : Magnitude :=
  ⟨1023 * Nat.pow 2 52, by decide⟩

/-- The magnitude one has as many units as one has. -/
lemma units_one : one.units = unitsOfOne := by
  decide +kernel

/-- The greatest magnitude. -/
def greatest : Magnitude :=
  ⟨2047 * Nat.pow 2 52 - 1, by decide⟩

/-- The greatest power of ten that is used is in range. -/
lemma pow_maxPower_le_greatest :
    Nat.pow 10 Decimal.maxPower * unitsOfOne ≤ greatest.units := by
  decide +kernel

end Magnitude

namespace Decimal

/-- A natural number that is not too great is rounded to a finite double. -/
lemma isFinite_ofRatio_one {n : Nat} (h : n ≤ Nat.pow 10 maxPower) (negative : Bool) :
    (Double.ofRatio negative n 1).isFinite = true := by
  refine Double.isFinite_ofRatio Nat.one_pos (m := .greatest) ?_ negative
  rw [Nat.mul_one]
  exact (Nat.mul_le_mul_right _ h).trans Magnitude.pow_maxPower_le_greatest

/-- The powers of ten that are used for scaling are finite, and none is less than one. -/
lemma exists_tenTo_eq {n : Nat} (h : n ≤ maxPower) :
    ∃ m : Magnitude, tenTo n = .finite false m ∧ Magnitude.unitsOfOne ≤ m.units := by
  have hone : Magnitude.one.code ≤ Double.nearestCode (Nat.pow 10 n) 1 := by
    rw [← Magnitude.one.nearestCode_units, Magnitude.units_one]
    refine Double.nearestCode_mono Magnitude.unitsOfOne_pos Nat.one_pos ?_
    rw [Nat.mul_one]
    exact Nat.le_mul_of_pos_left _ (natPow_pos n (by decide))
  have hpow : Nat.pow 10 n ≤ Nat.pow 10 maxPower := natPow_le_natPow (by decide) h
  have hfinite := isFinite_ofRatio_one hpow false
  rw [Double.ofRatio] at hfinite
  split at hfinite
  · rename_i hlt
    refine ⟨⟨_, hlt⟩, ?_, ?_⟩
    · rw [tenTo, Double.ofRatio, dif_pos hlt]
    · rw [← Magnitude.units_one]
      exact Magnitude.units_mono hone
  · cases hfinite

/-- **Dividing by a power of ten keeps a double finite.** -/
theorem isFinite_div_tenTo {x : Double} (hx : x.isFinite = true) {n : Nat} (h : n ≤ maxPower) :
    (x.div (tenTo n)).isFinite = true := by
  obtain ⟨m', hten, hle⟩ := exists_tenTo_eq h
  cases x with
  | finite negative m =>
    have hpos : 0 < m'.units := Magnitude.unitsOfOne_pos.trans_le hle
    have hcode : m'.code ≠ 0 := by
      intro hzero
      rw [Magnitude.units_of_lt (by rw [hzero]; decide), hzero] at hpos
      exact Nat.lt_irrefl 0 hpos
    rw [hten, Double.div, if_pos hcode]
    exact Double.isFinite_ofRatio hpos (Nat.mul_le_mul_left _ hle) _
  | infinite negative => cases hx
  | nan => cases hx

/-- Dividing again and again by powers of ten leads from a finite double to a finite one. -/
lemma isFinite_descend {x : Double} (hx : x.isFinite = true) (n : Nat) :
    (descend x n).isFinite = true := by
  induction n generalizing x with
  | zero => exact hx
  | succ n ih =>
    rw [descend]
    split
    · exact hx
    · exact ih (isFinite_div_tenTo hx (Nat.le_refl _))

/-- The largest power of ten is beyond every number of 64 bits. -/
lemma size_le_pow_maxPower : UInt64.size ≤ Nat.pow 10 maxPower :=
  calc
    UInt64.size ≤ Nat.pow 10 20 := by decide
    _ ≤ Nat.pow 10 maxPower := natPow_le_natPow (by decide) (by decide)

/-- What is left of an exponent after as many full divisions as there are before the last one. -/
lemma sub_maxPower_mul_le (n : Nat) : n - maxPower * ((n - 1) / maxPower) ≤ maxPower := by
  have hdiv := Nat.div_add_mod (n - 1) maxPower
  have hmod := Nat.mod_lt (n - 1) (show maxPower > 0 by decide)
  omega

/-- **What is read by scaling is finite.** -/
theorem isFinite_of_scaled {d : Decimal} (hd : d.coefficient < UInt64.size) {x : Double}
    (h : d.scaled = some x) : x.isFinite = true := by
  have hfinite : (Double.ofRatio d.negative d.coefficient 1).isFinite = true :=
    isFinite_ofRatio_one (hd.le.trans size_le_pow_maxPower) _
  unfold scaled at h
  generalize Double.ofRatio d.negative d.coefficient 1 = y at h hfinite
  simp only at h
  split at h
  · rwa [← Option.some.inj h]
  · split at h
    · cases h
    · split at h
      · split at h
        · rename_i hproduct
          rwa [← Option.some.inj h]
        · cases h
      · rw [← Option.some.inj h]
        exact isFinite_div_tenTo (isFinite_descend hfinite _) (sub_maxPower_mul_le _)

/-- The leading digits of a numeral fit in 64 bits. -/
lemma appendFitting_lt {n : Nat} (hn : n < UInt64.size) (cs : List Char) :
    (appendFitting n cs).1 < UInt64.size := by
  induction cs generalizing n with
  | nil => exact hn
  | cons c cs ih =>
    rw [appendFitting]
    split
    · rename_i hlt
      exact ih hlt
    · exact hn

/-- The leading digits of a numeral are a number of 64 bits. -/
lemma coefficient_ofLeading_lt (negative : Bool) (whole fraction : List Char) (e : Int) :
    (ofLeading negative whole fraction e).coefficient < UInt64.size :=
  appendFitting_lt (appendFitting_lt (by decide) whole) fraction

end Decimal

/-- An integer of 64 bits is rounded to a finite double. -/
lemma Double.isFinite_ofInt {i : Int} (h : i.natAbs < UInt64.size) :
    (Double.ofInt i).isFinite = true :=
  Decimal.isFinite_ofRatio_one (h.le.trans Decimal.size_le_pow_maxPower) _

end HintedSql
