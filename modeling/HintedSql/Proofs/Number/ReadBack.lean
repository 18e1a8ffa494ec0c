import HintedSql.Number.Notation
import HintedSql.Proofs.Number.Nearest
set_option relaxedAutoImplicit false
set_option autoImplicit false

/-!
# Shortest numerals read back

The search for a shortest numeral tries each candidate by reading it, and falls back on the exact
value, so what it finds reads back. Written out in full, the numeral is a whole part and a fraction
whose digits spell its coefficient.

## Main results

* `HintedSql.Magnitude.readsBack_shortest` — the shortest numeral reads back as its magnitude.
* `HintedSql.Magnitude.positional_of_nonneg`, `HintedSql.Magnitude.positional_of_neg` — the digits
  of a numeral, by the sign of its exponent.
* `HintedSql.Decimal.toDouble_of_readsBack` — what reads back is read as the double it stands for.
-/

namespace HintedSql

/-! ## The search -/

/-- What is chosen reads back. -/
lemma Tie.choose_eq_some {tie : Tie} {below twice den c : Nat} {r r' : Bool}
    (h : tie.choose below twice den r r' = some c) :
    c = below ∧ r = true ∨ c = below + 1 ∧ r' = true := by
  cases r <;> cases r' <;> simp only [choose, Option.some.injEq, reduceCtorEq] at h
  · exact .inr ⟨h.symm, rfl⟩
  · exact .inl ⟨h.symm, rfl⟩
  · split at h
    · exact .inl ⟨h.symm, rfl⟩
    · exact .inr ⟨h.symm, rfl⟩

namespace Magnitude

/-- A coefficient and an exponent read back if their value is nearest to the magnitude. -/
lemma readsBack_iff {m : Magnitude} {c : Nat} {e : Int} :
    m.readsBack c e ↔ Double.nearestCode (Decimal.ratio c e).1 (Decimal.ratio c e).2 = m.code := by
  simp [readsBack]

/-- A factor of ten may stand in the coefficient or in the exponent. -/
lemma readsBack_ten_mul (m : Magnitude) (c : Nat) (e : Int) :
    m.readsBack (10 * c) e = m.readsBack c (e + 1) := by
  have hvalue : (Decimal.ratio (10 * c) e).1 * (Decimal.ratio c (e + 1)).2 =
      (Decimal.ratio c (e + 1)).1 * (Decimal.ratio (10 * c) e).2 := by
    obtain ⟨n, rfl⟩ | ⟨n, rfl⟩ : (∃ n : Nat, e = n) ∨ ∃ n : Nat, e = -(n : Int) - 1 := by
      rcases Int.lt_or_le e 0 with h | h
      · exact .inr ⟨(-e - 1).toNat, by omega⟩
      · exact .inl ⟨e.toNat, by omega⟩
    · rw [Decimal.ratio_natCast, ← Int.natCast_succ, Decimal.ratio_natCast]
      simp only [Nat.pow_eq, Nat.mul_one, Nat.pow_succ]
      ring
    · rw [show -(n : Int) - 1 = -((n + 1 : Nat) : Int) by omega, Decimal.ratio_neg,
        show -((n + 1 : Nat) : Int) + 1 = -(n : Int) by omega, Decimal.ratio_neg]
      simp only [Nat.pow_eq, Nat.pow_succ]
      ring
  simp only [readsBack, Double.nearestCode_congr (Decimal.ratio_snd_pos _ _)
    (Decimal.ratio_snd_pos _ _) hvalue]

/-- What is found on a decimal grid reads back. -/
lemma readsBack_of_onGrid {tie : Tie} {m : Magnitude} {e : Int} {c : Nat}
    (h : m.onGrid tie e = some c) : m.readsBack c e := by
  rw [onGrid] at h
  generalize m.scaled e = s at h
  obtain ⟨rfl, hread⟩ | ⟨rfl, hread⟩ := Tie.choose_eq_some h
  · exact hread
  · exact hread

/-- Moving factors of ten does not change what is read. -/
lemma readsBack_dropZeros (m : Magnitude) (fuel c : Nat) (e : Int) :
    m.readsBack (dropZeros fuel c e).1 (dropZeros fuel c e).2 = m.readsBack c e := by
  induction fuel generalizing c e with
  | zero => rfl
  | succ fuel ih =>
    rw [dropZeros]
    split
    · rename_i h
      rw [ih, ← readsBack_ten_mul, Nat.mul_div_cancel' (Nat.dvd_of_mod_eq_zero h.2)]
    · rfl

/-- The exact value reads back. -/
lemma readsBack_exact (m : Magnitude) : m.readsBack m.exact.1 m.exact.2 := by
  have hfive : 0 < Nat.pow 5 places := natPow_pos _ (by decide)
  have hratio : Decimal.ratio m.exact.1 m.exact.2 =
      (m.units * Nat.pow 5 places, unitsOfOne * Nat.pow 5 places) := by
    rw [exact, Decimal.ratio_neg]
    exact congrArg (m.units * Nat.pow 5 places, ·) (Nat.mul_pow 2 5 places)
  rw [readsBack_iff, hratio, Double.nearestCode_mul_right hfive, nearestCode_units]

/-- The shortest numeral of a positive magnitude is found on a grid, or is the exact value. -/
lemma shortest_cases (tie : Tie) {m : Magnitude} (h : m.code ≠ 0) :
    m.shortest tie = m.exact ∨
      ∃ e c, m.onGrid tie e = some c ∧ m.shortest tie = dropZeros 17 c e := by
  rw [shortest, if_neg h]
  dsimp only
  cases hhit : (List.range 17).findSome? fun n : Nat =>
      (m.onGrid tie (m.leadingExponent - n)).map fun c =>
        dropZeros 17 c (m.leadingExponent - n) with
  | none => exact .inl rfl
  | some hit =>
    obtain ⟨n, -, hn⟩ := List.exists_of_findSome?_eq_some hhit
    obtain ⟨c, hc, rfl⟩ := Option.map_eq_some_iff.mp hn
    exact .inr ⟨_, c, hc, rfl⟩

/-- The shortest digits of zero are zero. -/
lemma shortest_of_code_eq_zero (tie : Tie) {m : Magnitude} (h : m.code = 0) :
    m.shortest tie = (0, 0) := by
  rw [shortest, if_pos h]

/-- Zero reads back as zero. -/
lemma readsBack_zero {m : Magnitude} (h : m.code = 0) : m.readsBack 0 0 := by
  rw [readsBack_iff, h]
  exact Double.nearestCode_eq_zero (by simp [Decimal.ratio])

/-- **The shortest numeral reads back as its magnitude.** -/
theorem readsBack_shortest (tie : Tie) (m : Magnitude) :
    m.readsBack (m.shortest tie).1 (m.shortest tie).2 := by
  by_cases hzero : m.code = 0
  · rw [shortest_of_code_eq_zero tie hzero]
    exact readsBack_zero hzero
  · obtain h | ⟨e, c, hc, h⟩ := shortest_cases tie hzero
    · rw [h]
      exact m.readsBack_exact
    · rw [h, readsBack_dropZeros]
      exact readsBack_of_onGrid hc

end Magnitude

/-! ## Digits -/

namespace Decimal

/-- The number of digits is that of the standard library. -/
lemma ofDigits_eq_ofDigitChars (cs : List Char) : ofDigits cs = Nat.ofDigitChars 10 cs 0 := by
  rw [Nat.ofDigitChars_eq_foldl]
  rfl

/-- The digits of a number are read as the number. -/
@[simp] lemma ofDigits_digits (n : Nat) : ofDigits (digits n) = n := by
  rw [ofDigits_eq_ofDigitChars, digits, Nat.ofDigitChars_ten_toDigits]

/-- Zeros in front of digits do not count. -/
lemma ofDigits_replicate_append (k : Nat) (cs : List Char) :
    ofDigits (List.replicate k '0' ++ cs) = ofDigits cs := by
  simp [ofDigits_eq_ofDigitChars, Nat.ofDigitChars_append, Nat.ofDigitChars_replicate_zero]

/-- A number has a digit. -/
lemma digits_ne_nil (n : Nat) : digits n ≠ [] :=
  Nat.toDigits_ne_nil

/-- The digits of a number are digits. -/
lemma isDigit_of_mem_digits {n : Nat} {c : Char} (h : c ∈ digits n) : isDigit c = true :=
  Nat.isDigit_of_mem_toDigits (by decide) (by decide) h

/-- A power of ten adds zeros. -/
lemma digits_mul_pow {c : Nat} (hc : 0 < c) (n : Nat) :
    digits (c * 10 ^ n) = digits c ++ List.replicate n '0' := by
  induction n with
  | zero => simp
  | succ n ih =>
    have hpos : 0 < c * 10 ^ n := by positivity
    have hten := Nat.toDigits_append_toDigits (b := 10) (by decide) hpos (show 0 < 10 by decide)
    rw [Nat.pow_succ, ← Nat.mul_assoc, Nat.mul_comm _ 10, List.replicate_succ', ← List.append_assoc,
      ← ih]
    exact hten.symm

end Decimal

namespace Numeral

/-- A whole number is written with its digits and zeros behind them. -/
lemma parts_of_nonneg (ds : List Char) (n : Nat) (hds : ds ≠ []) :
    parts ⟨ds, n + ds.length - 1⟩ = (ds ++ List.replicate n '0', []) := by
  have hlength : 0 < ds.length := List.length_pos_iff.mpr hds
  have hwhole : ((n : Int) + ds.length - 1).toNat + 1 = n + ds.length := by omega
  rw [parts, if_neg (by dsimp only; omega)]
  dsimp only
  rw [hwhole, List.take_of_length_le (by omega), List.drop_eq_nil_of_le (by omega),
    Nat.add_sub_cancel]

/-- A number with a fraction is written with its digits, after zeros where they begin behind the
point, and the point has as many digits behind it as the exponent says. -/
lemma parts_of_neg (ds : List Char) (n : Nat) (hds : ds ≠ []) (hn : 0 < n) :
    ∃ whole fraction k, parts ⟨ds, -n + ds.length - 1⟩ = (whole, fraction) ∧ whole ≠ [] ∧
      fraction.length = n ∧ whole ++ fraction = List.replicate k '0' ++ ds := by
  have hlength : 0 < ds.length := List.length_pos_iff.mpr hds
  rw [parts]
  dsimp only
  split
  · -- All digits stand behind the point.
    refine ⟨['0'], _, n - ds.length + 1, rfl, by simp, ?_, ?_⟩
    · simp only [List.length_append, List.length_replicate]
      omega
    · rw [show (-(-(n : Int) + ds.length - 1)).toNat - 1 = n - ds.length by omega,
        List.replicate_succ]
      rfl
  · refine ⟨_, _, 0, rfl, ?_, ?_, ?_⟩
    · simp [hds]
    · simp only [List.length_drop]
      omega
    · have hzeros : (-(n : Int) + ds.length - 1).toNat + 1 - ds.length = 0 := by omega
      simp only [hzeros, List.replicate_zero, List.append_nil, List.nil_append,
        List.take_append_drop]

end Numeral

/-! ## Numerals written out in full -/

namespace Magnitude

/-- A numeral is made of the shortest digits, with the power of ten of the first of them. -/
lemma numeral_eq (tie : Tie) (m : Magnitude) :
    m.numeral tie = ⟨Decimal.digits (m.shortest tie).1,
      (m.shortest tie).2 + (Decimal.digits (m.shortest tie).1).length - 1⟩ := rfl

/-- A magnitude whose shortest numeral has no negative exponent is written without a fraction. -/
theorem positional_of_nonneg {tie : Tie} {m : Magnitude} {c n : Nat}
    (h : m.shortest tie = (c, (n : Int))) :
    (m.numeral tie).positional = Decimal.digits c ++ List.replicate n '0' := by
  rw [numeral_eq, h, Numeral.positional, Numeral.parts_of_nonneg _ _ (Decimal.digits_ne_nil c)]
  rfl

/-- A magnitude whose shortest numeral has a negative exponent is written with a whole part and a
fraction, which together spell the coefficient. -/
theorem positional_of_neg {tie : Tie} {m : Magnitude} {c n : Nat}
    (h : m.shortest tie = (c, -(n : Int))) (hn : 0 < n) :
    ∃ whole fraction, (m.numeral tie).positional = whole ++ '.' :: fraction ∧ whole ≠ [] ∧
      (∀ d ∈ whole ++ fraction, Decimal.isDigit d = true) ∧ fraction.length = n ∧
      Decimal.ofDigits (whole ++ fraction) = c := by
  obtain ⟨whole, fraction, k, hparts, hwhole, hfraction, hdigits⟩ :=
    Numeral.parts_of_neg (Decimal.digits c) n (Decimal.digits_ne_nil c) hn
  have hempty : fraction.isEmpty = false := by
    rw [List.isEmpty_eq_false_iff]
    rintro rfl
    exact hn.ne hfraction
  refine ⟨whole, fraction, ?_, hwhole, ?_, hfraction, ?_⟩
  · rw [numeral_eq, h, Numeral.positional, hparts]
    simp [hempty]
  · intro d hd
    rw [hdigits, List.mem_append, List.mem_replicate] at hd
    obtain ⟨-, rfl⟩ | hd := hd
    · rfl
    · exact Decimal.isDigit_of_mem_digits hd
  · rw [hdigits, Decimal.ofDigits_replicate_append, Decimal.ofDigits_digits]

/-- Only zero reads back from a coefficient of zero. -/
lemma eq_zero_of_readsBack {m : Magnitude} {e : Int} (h : m.readsBack 0 e) : m = zero := by
  have hfst : (Decimal.ratio 0 e).1 = 0 := by
    rw [Decimal.ratio]
    split <;> simp
  have hcode : m.code = 0 := by
    rw [← readsBack_iff.mp h, hfst]
    exact Double.nearestCode_eq_zero (by simpa using Decimal.ratio_snd_pos 0 e)
  obtain ⟨code, hlt⟩ := m
  subst hcode
  rfl

end Magnitude

/-- A decimal that reads back as a magnitude is read as that magnitude with the decimal's sign. -/
theorem Decimal.toDouble_of_readsBack {m : Magnitude} {negative : Bool} {c : Nat} {e : Int}
    (he : e ≤ 400) (h : m.readsBack c e) :
    (Decimal.mk negative c e).toDouble = .finite negative m := by
  by_cases hc : c = 0
  · subst hc
    rw [Magnitude.eq_zero_of_readsBack h]
    rfl
  · rw [toDouble_eq_ofRatio hc he]
    exact Double.ofRatio_of_nearestCode (Magnitude.readsBack_iff.mp h)

end HintedSql
