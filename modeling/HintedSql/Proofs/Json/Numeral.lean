import HintedSql.Json.Outline
import HintedSql.Proofs.Grammar.Literal
import HintedSql.Proofs.Json.Lexeme
set_option relaxedAutoImplicit false
set_option autoImplicit false

/-!
# Numbers in written JSON

The number as which an integer or a finite double is written. An integer has neither fraction nor
exponent, and a double always has one of the two. The exact value of a written double is nearest to
that double, so different doubles are written as different numbers.

## Main definitions

* `HintedSql.Json.Number.ofInt`, `HintedSql.Numeral.number` — written numbers.
* `HintedSql.Json.Number.decimal` — the exact value of a number.

## Main results

* `HintedSql.Json.numberSpelling_ofInt`, `HintedSql.Magnitude.numberSpelling_numeral` — what is
  written spells these numbers.
* `HintedSql.Magnitude.readsBack_number` — the exact value of a written double reads back.
* `HintedSql.Magnitude.number_inj` — different doubles are written as different numbers.
-/

namespace HintedSql

/-! ## Digits -/

namespace Decimal

/-- Only zero is written with a leading zero. -/
lemma eq_zero_of_head?_digits {n : Nat} (h : (digits n).head? = some '0') : n = 0 := by
  induction n using Nat.strongRecOn with
  | _ n ih =>
    by_cases hn : n < 10
    · have hall : ∀ k < 10, (digits k).head? = some '0' → k = 0 := by decide
      exact hall n hn h
    · have hdigits : digits n = digits (n / 10) ++ [(n % 10).digitChar] :=
        Nat.toDigits_of_base_le (by decide) (by omega)
      have hhead : (digits (n / 10)).head? = some '0' := by
        rw [hdigits, List.head?_append_of_ne_nil _ (digits_ne_nil _)] at h
        exact h
      have := ih (n / 10) (by omega) hhead
      omega

/-- A zero behind digits multiplies by ten. -/
lemma ofDigits_append_replicate (ds : List Char) (k : Nat) :
    ofDigits (ds ++ List.replicate k '0') = 10 ^ k * ofDigits ds := by
  induction k with
  | zero => simp
  | succ k ih =>
    have hsnoc (cs : List Char) : ofDigits (cs ++ ['0']) = 10 * ofDigits cs := by
      simp [ofDigits, digitValue]
    rw [List.replicate_succ', ← List.append_assoc, hsnoc, ih]
    ring

/-- A natural number is written in digits. -/
lemma isDigits_digits (n : Nat) : Json.IsDigits (digits n) :=
  ⟨digits_ne_nil n, fun _ hd => isDigit_of_mem_digits hd⟩

end Decimal

/-- A power of ten may stand in the coefficient or in the exponent. -/
lemma Magnitude.readsBack_pow_mul (m : Magnitude) (k c : Nat) (e : Int) :
    m.readsBack (10 ^ k * c) e = m.readsBack c (e + k) := by
  induction k generalizing e with
  | zero => simp
  | succ k ih =>
    rw [pow_succ', Nat.mul_assoc, readsBack_ten_mul, ih]
    congr 1
    omega

/-! ## Integers -/

namespace Json

/-- The number as which an integer is written. -/
def Number.ofInt (i : Int) : Number :=
  ⟨decide (i < 0), Decimal.digits i.natAbs, none, none⟩

/-- An integer is written as a number. -/
theorem numberSpelling_ofInt (i : Int) : NumberSpelling (.ofInt i) (toString i).toList := by
  have htext : (toString i).toList = signed (decide (i < 0)) (Decimal.digits i.natAbs) := by
    rw [← Sql.toList_toString_signedInt (Sql.not_neg_and_natAbs_eq_zero i), Sql.signedInt_natAbs]
  have hzero : (Decimal.digits i.natAbs).head? = some '0' → Decimal.digits i.natAbs = ['0'] := by
    intro h
    rw [Decimal.eq_zero_of_head?_digits h]
    rfl
  have hspelling := NumberSpelling.mk (decide (i < 0)) (Decimal.isDigits_digits i.natAbs) hzero
    .none .none
  rw [htext, Number.ofInt]
  simpa using hspelling

/-- Different integers are written as different numbers. -/
@[simp] lemma Number.ofInt_inj {i j : Int} : Number.ofInt i = Number.ofInt j ↔ i = j := by
  refine ⟨fun h => ?_, congrArg _⟩
  obtain ⟨hsign, hdigits, -, -⟩ := Number.mk.inj h
  have habs : i.natAbs = j.natAbs := by
    rw [← Decimal.ofDigits_digits i.natAbs, hdigits, Decimal.ofDigits_digits]
  have hneg : i < 0 ↔ j < 0 := decide_eq_decide.mp hsign
  omega

/-! ## The exact value of a number -/

/-- The exact value of a number. -/
def Number.decimal (n : Number) : Decimal :=
  ⟨n.negative, Decimal.ofDigits (n.whole ++ n.fraction.getD []),
    n.power - (n.fraction.getD []).length⟩

end Json

/-! ## Doubles -/

/-- The fraction that a list of further digits makes. -/
def fractionOf : List Char → Option (List Char)
  | [] => none
  | ds => some ds

/-- The number as which a numeral is written. -/
def Numeral.number (negative : Bool) (n : Numeral) : Json.Number :=
  if -5 ≤ n.leading ∧ n.leading ≤ 15 then
    ⟨negative, n.parts.1, some (if n.parts.2.isEmpty then ['0'] else n.parts.2), none⟩
  else
    ⟨negative, n.digits.take 1, fractionOf n.digits.tail,
      some (decide (n.leading < 0), Decimal.digits n.leading.natAbs)⟩

/-- A written double has a fraction or an exponent. -/
lemma Numeral.isInteger_number (negative : Bool) (n : Numeral) :
    (n.number negative).isInteger = false := by
  rw [number]
  split
  · rfl
  · simp [Json.Number.isInteger]

/-- A numeral keeps the sign it is given. -/
lemma Numeral.negative_number (negative : Bool) (n : Numeral) :
    (n.number negative).negative = negative := by
  rw [number]
  split <;> rfl

namespace Numeral

/-- The digits of a number with the power of ten of its last digit; zero has no such power. -/
def Canonical (n : Numeral) : Prop :=
  ∃ c e, n = ⟨Decimal.digits c, e + (Decimal.digits c).length - 1⟩ ∧ (c = 0 → e = 0)

/-- A canonical numeral consists of digits. -/
lemma Canonical.isDigits {n : Numeral} (h : n.Canonical) : Json.IsDigits n.digits := by
  obtain ⟨c, e, rfl, -⟩ := h
  exact Decimal.isDigits_digits c

/-- A numeral in scientific notation spells its number. -/
lemma numberSpelling_scientific (negative : Bool) {n : Numeral} (h : Json.IsDigits n.digits) :
    Json.NumberSpelling ⟨negative, n.digits.take 1, fractionOf n.digits.tail,
      some (decide (n.leading < 0), Decimal.digits n.leading.natAbs)⟩
      (signed negative n.scientific) := by
  obtain ⟨ds, leading⟩ := n
  obtain ⟨hne, hdigits⟩ := h
  obtain ⟨d, ds, rfl⟩ := List.exists_cons_of_ne_nil hne
  have hfirst : Json.IsDigits [d] := ⟨by simp, fun c hc => hdigits c (by simp_all)⟩
  have hexponent : Json.ExponentSpelling
      (some (decide (leading < 0), Decimal.digits leading.natAbs))
      ('e' :: ([if leading < 0 then '-' else '+'] ++ Decimal.digits leading.natAbs)) := by
    refine .some (.inl rfl) ?_ (Decimal.isDigits_digits _)
    split <;> simp_all
  cases ds with
  | nil =>
    have := Json.NumberSpelling.mk negative hfirst (by simp) .none hexponent
    simpa [scientific, fractionOf] using this
  | cons d' ds' =>
    have hrest : Json.IsDigits (d' :: ds') :=
      ⟨by simp, fun c hc => hdigits c (List.mem_cons_of_mem _ hc)⟩
    have := Json.NumberSpelling.mk negative hfirst (by simp) (.some hrest) hexponent
    simpa [scientific, fractionOf] using this

/-- Both parts of a numeral consist of digits, and the first is not empty. -/
lemma isDigits_parts {n : Numeral} (h : Json.IsDigits n.digits) :
    Json.IsDigits n.parts.1 ∧ ∀ d ∈ n.parts.2, Decimal.isDigit d = true := by
  obtain ⟨hne, hdigits⟩ := h
  have hzeros : ∀ k, ∀ d ∈ List.replicate k '0', Decimal.isDigit d = true := by
    intro k d hd
    rw [List.eq_of_mem_replicate hd]
    rfl
  rw [parts]
  split
  · refine ⟨⟨by simp, hzeros 1⟩, fun d hd => ?_⟩
    obtain hd | hd := List.mem_append.mp hd
    · exact hzeros _ d hd
    · exact hdigits d hd
  · refine ⟨⟨by simp [hne], fun d hd => ?_⟩, fun d hd => hdigits d (List.mem_of_mem_drop hd)⟩
    obtain hd | hd := List.mem_append.mp hd
    · exact hdigits d (List.mem_of_mem_take hd)
    · exact hzeros _ d hd

/-- The whole part of a canonical numeral has no leading zero. -/
lemma Canonical.head?_parts {n : Numeral} (h : n.Canonical) (hzero : n.parts.1.head? = some '0') :
    n.parts.1 = ['0'] := by
  obtain ⟨c, e, rfl, hc⟩ := h
  rw [parts] at hzero ⊢
  split
  · rfl
  · rename_i hleading
    rw [if_neg hleading] at hzero
    have hhead : (Decimal.digits c).head? = some '0' := by
      obtain ⟨d, ds, hds⟩ := List.exists_cons_of_ne_nil (Decimal.digits_ne_nil c)
      simpa [hds] using hzero
    obtain rfl := Decimal.eq_zero_of_head?_digits hhead
    obtain rfl := hc rfl
    rfl

/-- A numeral that is written out in full spells its number. -/
lemma Canonical.numberSpelling_positionalPoint (negative : Bool) {n : Numeral}
    (h : n.Canonical) :
    Json.NumberSpelling
      ⟨negative, n.parts.1, some (if n.parts.2.isEmpty then ['0'] else n.parts.2), none⟩
      (signed negative n.positionalPoint) := by
  obtain ⟨hwhole, hfraction⟩ := isDigits_parts h.isDigits
  have hfraction' : Json.IsDigits (if n.parts.2.isEmpty then ['0'] else n.parts.2) := by
    split
    · exact ⟨by simp, by simp [Decimal.isDigit]⟩
    · rename_i hne
      exact ⟨by simpa using hne, hfraction⟩
  have := Json.NumberSpelling.mk negative hwhole h.head?_parts (.some hfraction') .none
  simpa [positionalPoint] using this

/-- A canonical numeral spells its number. -/
lemma Canonical.numberSpelling (negative : Bool) {n : Numeral} (h : n.Canonical) :
    Json.NumberSpelling (n.number negative) (signed negative (Json.numeral n)) := by
  rw [number, Json.numeral]
  split
  · exact h.numberSpelling_positionalPoint negative
  · exact numberSpelling_scientific negative h.isDigits

end Numeral

namespace Magnitude

/-- The shortest numeral of a magnitude is canonical. -/
lemma canonical_numeral (tie : Tie) (m : Magnitude) : (m.numeral tie).Canonical := by
  refine ⟨(m.shortest tie).1, (m.shortest tie).2, rfl, fun hzero => ?_⟩
  have hread := m.readsBack_shortest tie
  rw [hzero] at hread
  rw [shortest_of_code_eq_zero tie (by rw [eq_zero_of_readsBack hread]; rfl)]

/-- **A written double spells its number.** -/
theorem numberSpelling_numeral (tie : Tie) (negative : Bool) (m : Magnitude) :
    Json.NumberSpelling ((m.numeral tie).number negative)
      (signed negative (Json.numeral (m.numeral tie))) :=
  (m.canonical_numeral tie).numberSpelling negative

/-- The exact value of a numeral that is written out in full.

**Proof sketch.** By the sign of the exponent: without a fraction a zero is written behind the
point, which puts one more power of ten into the coefficient; otherwise the digits before and behind
the point together spell the coefficient. -/
lemma readsBack_positional {m : Magnitude} {c : Nat} {e : Int} (h : m.readsBack c e)
    (negative : Bool) {n : Numeral}
    (hn : n = ⟨Decimal.digits c, e + (Decimal.digits c).length - 1⟩) {d : Decimal}
    (hd : d = Json.Number.decimal
      ⟨negative, n.parts.1, some (if n.parts.2.isEmpty then ['0'] else n.parts.2), none⟩) :
    m.readsBack d.coefficient d.exponent := by
  obtain ⟨k, rfl⟩ | ⟨k, hk, rfl⟩ : (∃ k : Nat, e = k) ∨ ∃ k : Nat, 0 < k ∧ e = -(k : Int) := by
    obtain he | he := Int.lt_or_le e 0
    · exact .inr ⟨e.natAbs, by omega, by omega⟩
    · exact .inl ⟨e.toNat, by omega⟩
  · have hparts := Numeral.parts_of_nonneg (Decimal.digits c) k (Decimal.digits_ne_nil c)
    have hcoefficient : d.coefficient = 10 ^ (k + 1) * c := by
      rw [hd, hn, hparts]
      have := Decimal.ofDigits_append_replicate (Decimal.digits c) (k + 1)
      rw [Decimal.ofDigits_digits, List.replicate_succ', ← List.append_assoc] at this
      exact this
    have hexponent : d.exponent = -1 := by
      rw [hd, hn, hparts]
      rfl
    rw [hcoefficient, hexponent, readsBack_pow_mul]
    simpa using h
  · obtain ⟨whole, fraction, zeros, hparts, -, hlength, hdigits⟩ :=
      Numeral.parts_of_neg (Decimal.digits c) k (Decimal.digits_ne_nil c) hk
    have hempty : fraction.isEmpty = false := by
      rw [List.isEmpty_eq_false_iff]
      rintro rfl
      exact hk.ne hlength
    have hcoefficient : d.coefficient = c := by
      rw [hd, hn, hparts]
      simp [Json.Number.decimal, hempty, hdigits, Decimal.ofDigits_replicate_append]
    have hexponent : d.exponent = -(k : Int) := by
      rw [hd, hn, hparts]
      simp [Json.Number.decimal, Json.Number.power, hempty, hlength]
    rw [hcoefficient, hexponent]
    exact h

/-- The exact value of a numeral in scientific notation. -/
lemma decimal_scientific (negative : Bool) (c : Nat) (e : Int) {n : Numeral}
    (hn : n = ⟨Decimal.digits c, e + (Decimal.digits c).length - 1⟩) :
    Json.Number.decimal ⟨negative, n.digits.take 1, fractionOf n.digits.tail,
      some (decide (n.leading < 0), Decimal.digits n.leading.natAbs)⟩ = ⟨negative, c, e⟩ := by
  have hpower : Json.Number.power ⟨negative, n.digits.take 1, fractionOf n.digits.tail,
      some (decide (n.leading < 0), Decimal.digits n.leading.natAbs)⟩ = n.leading := by
    by_cases hneg : n.leading < 0
    · simp only [Json.Number.power, hneg, decide_true, Decimal.ofDigits_digits]
      omega
    · simp only [Json.Number.power, hneg, decide_false, Decimal.ofDigits_digits]
      omega
  obtain ⟨d, ds, hds⟩ := List.exists_cons_of_ne_nil (Decimal.digits_ne_nil c)
  have hfraction : (fractionOf n.digits.tail).getD [] = ds := by
    rw [hn, hds]
    cases ds <;> rfl
  have hdigits : n.digits.take 1 ++ ds = Decimal.digits c := by
    rw [hn, hds]
    rfl
  rw [Json.Number.decimal, hpower, hfraction, hdigits, Decimal.ofDigits_digits, hn]
  simp only [hds, List.length_cons, Decimal.mk.injEq, true_and]
  omega

/-- **The exact value of a written double reads back.** -/
theorem readsBack_number (tie : Tie) (negative : Bool) (m : Magnitude) :
    m.readsBack ((m.numeral tie).number negative).decimal.coefficient
      ((m.numeral tie).number negative).decimal.exponent := by
  have hread := m.readsBack_shortest tie
  rw [Numeral.number]
  split
  · exact readsBack_positional hread negative rfl rfl
  · rw [decimal_scientific negative _ _ (m.numeral_eq tie)]
    exact hread

/-- **Different doubles are written as different numbers.** -/
theorem number_inj {tie : Tie} {negative negative' : Bool} {m m' : Magnitude}
    (h : (m.numeral tie).number negative = (m'.numeral tie).number negative') :
    negative = negative' ∧ m = m' := by
  have hsign : negative = negative' := by
    rw [← Numeral.negative_number negative (m.numeral tie), h, Numeral.negative_number]
  have hcode : m.code = m'.code := by
    rw [← readsBack_iff.mp (m.readsBack_number tie negative), h,
      readsBack_iff.mp (m'.readsBack_number tie negative')]
  obtain ⟨code, hlt⟩ := m
  obtain ⟨code', hlt'⟩ := m'
  obtain rfl : code = code' := hcode
  exact ⟨hsign, rfl⟩

end Magnitude

end HintedSql
