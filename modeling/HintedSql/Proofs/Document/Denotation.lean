import HintedSql.Document.Encode
import HintedSql.Proofs.Yaml.Content
import HintedSql.Sql.Literal
import Mathlib.Algebra.Field.Rat
import Mathlib.Algebra.GroupWithZero.Basic
import Mathlib.Tactic.Ring
set_option relaxedAutoImplicit false
set_option autoImplicit false

/-!
# The number that a text denotes

A finite double has two texts, a literal in SQL and a canonical text in JSON. Both lay out the
shortest digits of the double behind its sign, but not in the same way: the literal is always
written out in full and has no fraction if none is needed, and the canonical text has a fraction or
an exponent. Read as a decimal numeral, either text is exactly the number of the digits it was
written from, so the two denote the same number if and only if they were written from the same
digits.

The digits differ only where a double lies halfway between two shortest numerals, as the literal
then takes the larger one and the canonical text the one with an even last digit.

## Main definitions

* `HintedSql.Decimal.rational`, `HintedSql.Decimal.rational?` — the number of a decimal numeral.
* `HintedSql.Numeral.rational` — the number of digits with a power of ten.
* `HintedSql.IsPlain`, `HintedSql.IsPointed`, `HintedSql.IsScientific` — forms of numerals.
* `HintedSql.Magnitude.IsTie` — doubles halfway between two numerals that read back.

## Main results

* `HintedSql.Numeral.rational_parts` — where the point stands and how many zeros are written.
* `HintedSql.Magnitude.numeral_eq_of_rational_eq` — the shortest digits are determined by their
  number.
* `HintedSql.Magnitude.numeral_eq_or_isTie` — they depend on the rule for ties only where there is
  one.
* `HintedSql.Value.literal_denotes_canonical` — the two texts of a finite double.
-/

namespace HintedSql

/-! ## The number of a numeral -/

/-- A number with a sign in front of it. -/
def signedRat (negative : Bool) (q : Rat) : Rat :=
  if negative then -q else q

/-- Numbers with the same sign are equal if their absolute values are. -/
lemma signedRat_inj {negative : Bool} {q r : Rat} :
    signedRat negative q = signedRat negative r ↔ q = r := by
  cases negative with
  | false => exact Iff.rfl
  | true => exact neg_inj

/-- The number that a decimal is. -/
def Decimal.rational (d : Decimal) : Rat :=
  signedRat d.negative (d.coefficient * 10 ^ d.exponent)

/-- The number that a text is as a decimal numeral. -/
def Decimal.rational? (s : String) : Option Rat :=
  (Decimal.parse? s.toList).map Decimal.rational

/-- The number of a numeral: its digits count units of the power of ten of the last one. -/
def Numeral.rational (n : Numeral) : Rat :=
  Decimal.ofDigits n.digits * 10 ^ (n.leading - (n.digits.length - 1))

/-- Digits on both sides of a point. -/
def IsPointed (cs : List Char) : Prop :=
  ∃ whole fraction, Json.IsDigits whole ∧ Json.IsDigits fraction ∧ cs = whole ++ '.' :: fraction

/-- A numeral without an exponent: digits, or digits on both sides of a point. -/
def IsPlain (cs : List Char) : Prop :=
  Json.IsDigits cs ∨ IsPointed cs

/-- A numeral with a signed exponent. -/
def IsScientific (cs : List Char) : Prop :=
  ∃ mantissa sign ds, IsPlain mantissa ∧ sign ∈ ['+', '-'] ∧ Json.IsDigits ds ∧
    cs = mantissa ++ 'e' :: sign :: ds

/-- A factor of ten may stand in the coefficient or in the exponent. -/
lemma Decimal.ten_mul_mul_zpow (c : Nat) (e : Int) :
    ((10 * c : Nat) : Rat) * 10 ^ e = c * 10 ^ (e + 1) := by
  rw [zpow_add_one₀ (by norm_num), Nat.cast_mul, Nat.cast_ofNat]
  ring

/-- A spelled number is read as its exact value. -/
lemma Decimal.rational?_of_numberSpelling {n : Json.Number} {s : String}
    (h : Json.NumberSpelling n s.toList) : Decimal.rational? s = some n.decimal.rational := by
  obtain ⟨fs, es, hs, hwhole, -, hfraction, hexponent⟩ := Yaml.exists_parts h
  rw [rational?, parse?, hs, Yaml.readSign_number hwhole]
  dsimp only
  rw [Yaml.readUnsigned_of_spelling n.negative hwhole hfraction hexponent]
  rfl

namespace Numeral

/-! ## Digits laid out around a point -/

/-- **The digits around the point are those of the numeral**, with zeros where the point stands
outside of them.

**Proof sketch.** By where the point stands. In front of the digits the zeros do not count; behind
them each zero is one power of ten; among them there are none. -/
theorem rational_parts (n : Numeral) :
    (Decimal.ofDigits (n.parts.1 ++ n.parts.2) : Rat) * 10 ^ (-(n.parts.2.length : Int)) =
      n.rational := by
  obtain ⟨ds, leading⟩ := n
  rw [rational, parts]
  dsimp only
  split
  · -- In front of the digits, with a zero of its own before it.
    rename_i hneg
    have hzeros : ['0'] ++ (List.replicate ((-leading).toNat - 1) '0' ++ ds) =
        List.replicate ((-leading).toNat - 1 + 1) '0' ++ ds := by
      rw [List.replicate_succ]
      rfl
    rw [hzeros, Decimal.ofDigits_replicate_append, List.length_append, List.length_replicate]
    congr 2
    omega
  · rename_i hneg
    obtain ⟨w, rfl⟩ : ∃ w : Nat, leading = w := ⟨leading.toNat, by omega⟩
    rw [Int.toNat_natCast]
    obtain hlt | hle := Nat.lt_or_ge (w + 1) ds.length
    · -- Among the digits.
      rw [show w + 1 - ds.length = 0 by omega, List.replicate_zero, List.append_nil,
        List.take_append_drop, List.length_drop]
      congr 2
      omega
    · -- Behind the digits and `k` zeros.
      obtain ⟨k, hk⟩ := Nat.exists_eq_add_of_le hle
      rw [List.take_of_length_le hle, List.drop_eq_nil_of_le hle, List.append_nil,
        Decimal.ofDigits_append_replicate, show w + 1 - ds.length = k by omega,
        show (w : Int) - (ds.length - 1) = k by omega]
      simp only [List.length_nil, Nat.cast_mul, Nat.cast_pow, Nat.cast_ofNat, Nat.cast_zero,
        neg_zero, zpow_zero, mul_one, zpow_natCast]
      exact mul_comm _ _

/-- What the literal spells is the number of the digits. -/
lemma rational_decimal_plain (negative : Bool) (n : Numeral) :
    (Json.Number.decimal ⟨negative, n.parts.1, fractionOf n.parts.2, none⟩).rational =
      signedRat negative n.rational := by
  have hfraction : (fractionOf n.parts.2).getD [] = n.parts.2 := by
    cases n.parts.2 <;> rfl
  rw [Json.Number.decimal, hfraction, Decimal.rational, ← rational_parts]
  simp [Json.Number.power]

/-- A zero behind the point does not count. -/
lemma rational_decimal_pointed (negative : Bool) (n : Numeral) :
    (Json.Number.decimal
      ⟨negative, n.parts.1, some (if n.parts.2.isEmpty then ['0'] else n.parts.2), none⟩).rational =
      signedRat negative n.rational := by
  rw [Json.Number.decimal, Decimal.rational, ← rational_parts]
  by_cases hempty : n.parts.2 = []
  · have hzero : Decimal.ofDigits (n.parts.1 ++ ['0']) = 10 * Decimal.ofDigits n.parts.1 :=
      Decimal.ofDigits_append_replicate n.parts.1 1
    have hten := Decimal.ten_mul_mul_zpow (Decimal.ofDigits n.parts.1) (-1)
    simp only [hempty, List.isEmpty_nil, if_true, Option.getD_some, hzero, List.append_nil]
    exact signedRat_inj.mpr hten
  · simp [hempty, Json.Number.power]

/-! ## Forms -/

/-- A numeral that is written out in full has digits on both sides of its point, if there is one. -/
lemma isPlain_positional {n : Numeral} (h : Json.IsDigits n.digits) : IsPlain n.positional := by
  obtain ⟨hwhole, hfraction⟩ := isDigits_parts h
  rw [positional]
  dsimp only
  split
  · exact .inl hwhole
  · rename_i hne
    exact .inr ⟨_, _, hwhole, ⟨by simpa using hne, hfraction⟩, rfl⟩

/-- Positional notation with a point is digits, a point and digits. -/
lemma isPointed_positionalPoint {n : Numeral} (h : Json.IsDigits n.digits) :
    IsPointed n.positionalPoint := by
  obtain ⟨hwhole, hfraction⟩ := isDigits_parts h
  refine ⟨_, _, hwhole, ?_, rfl⟩
  split
  · exact ⟨by simp, by simp [Decimal.isDigit]⟩
  · rename_i hne
    exact ⟨by simpa using hne, hfraction⟩

/-- Scientific notation is digits, possibly with a point among them, and an exponent with its
sign. -/
lemma isScientific_scientific {n : Numeral} (h : Json.IsDigits n.digits) :
    IsScientific n.scientific := by
  obtain ⟨ds, leading⟩ := n
  obtain ⟨hne, hdigits⟩ := h
  obtain ⟨d, ds, rfl⟩ := List.exists_cons_of_ne_nil hne
  have hsign : (if leading < 0 then '-' else '+') ∈ ['+', '-'] := by
    split <;> simp
  refine ⟨_, _, _, ?_, hsign, Decimal.isDigits_digits leading.natAbs, rfl⟩
  cases ds with
  | nil => exact .inl ⟨hne, hdigits⟩
  | cons d' ds' =>
    obtain ⟨hd, hds⟩ := List.forall_mem_cons.mp hdigits
    exact .inr ⟨[d], d' :: ds', ⟨by simp, by simpa using hd⟩, ⟨by simp, hds⟩, rfl⟩

/-- The canonical text has a fraction or an exponent. -/
lemma isPointed_or_isScientific {n : Numeral} (h : Json.IsDigits n.digits) :
    IsPointed (Json.numeral n) ∨ IsScientific (Json.numeral n) := by
  rw [Json.numeral]
  split
  · exact .inl (isPointed_positionalPoint h)
  · exact .inr (isScientific_scientific h)

/-- A fraction that is written only if it has digits. -/
lemma fractionSpelling_fractionOf {ds : List Char} (h : ∀ d ∈ ds, Decimal.isDigit d = true) :
    Json.FractionSpelling (fractionOf ds) (if ds.isEmpty then [] else '.' :: ds) := by
  cases ds with
  | nil => exact .none
  | cons d ds => exact .some ⟨by simp, h⟩

/-- A numeral that is written out in full spells a number without an exponent. -/
lemma Canonical.numberSpelling_positional (negative : Bool) {n : Numeral} (h : n.Canonical) :
    Json.NumberSpelling ⟨negative, n.parts.1, fractionOf n.parts.2, none⟩
      (signed negative n.positional) := by
  obtain ⟨hwhole, hfraction⟩ := isDigits_parts h.isDigits
  have hspelling := Json.NumberSpelling.mk negative hwhole h.head?_parts
    (fractionSpelling_fractionOf hfraction) .none
  have htext : n.positional =
      n.parts.1 ++ ((if n.parts.2.isEmpty then [] else '.' :: n.parts.2) ++ []) := by
    rw [positional]
    dsimp only
    split <;> simp
  rwa [htext]

end Numeral

/-! ## Shortest digits -/

namespace Magnitude

/-- The number of the shortest numeral. -/
lemma rational_numeral (tie : Tie) (m : Magnitude) :
    (m.numeral tie).rational = (m.shortest tie).1 * 10 ^ (m.shortest tie).2 := by
  rw [numeral_eq, Numeral.rational]
  dsimp only
  rw [Decimal.ofDigits_digits]
  congr 2
  omega

/-- **The canonical text spells the number of its digits.** -/
theorem rational_number (tie : Tie) (negative : Bool) (m : Magnitude) :
    ((m.numeral tie).number negative).decimal.rational =
      signedRat negative (m.numeral tie).rational := by
  rw [Numeral.number]
  split
  · exact Numeral.rational_decimal_pointed negative (m.numeral tie)
  · rw [decimal_scientific negative _ _ (m.numeral_eq tie), rational_numeral]
    rfl

/-- Moving factors of ten does not change the number. -/
lemma rational_dropZeros (fuel c : Nat) (e : Int) :
    ((dropZeros fuel c e).1 : Rat) * 10 ^ (dropZeros fuel c e).2 = c * 10 ^ e := by
  induction fuel generalizing c e with
  | zero => rfl
  | succ fuel ih =>
    rw [dropZeros]
    split
    · rename_i h
      rw [ih, ← Decimal.ten_mul_mul_zpow, Nat.mul_div_cancel' (Nat.dvd_of_mod_eq_zero h.2)]
    · rfl

/-- Whether there is a numeral on a grid does not depend on the rule for ties. -/
lemma isSome_onGrid (tie tie' : Tie) (m : Magnitude) (e : Int) :
    (m.onGrid tie e).isSome = (m.onGrid tie' e).isSome := by
  rw [onGrid, onGrid]
  dsimp only
  cases m.readsBack _ e <;> cases m.readsBack _ e <;> rfl

end Magnitude

/-- Two searches that succeed at the same places both fail, or they end at the same place. -/
lemma findSome?_cases {α β : Type} {f g : α → Option β} (h : ∀ a, (f a).isSome = (g a).isSome)
    (as : List α) :
    as.findSome? f = none ∧ as.findSome? g = none ∨
      ∃ a b b', f a = some b ∧ g a = some b' ∧ as.findSome? f = some b ∧
        as.findSome? g = some b' := by
  induction as with
  | nil => exact .inl ⟨rfl, rfl⟩
  | cons a as ih =>
    have ha := h a
    rw [List.findSome?_cons, List.findSome?_cons]
    cases hf : f a with
    | none =>
      have hg : g a = none := by
        rw [hf] at ha
        exact Option.not_isSome_iff_eq_none.mp (by simp [← ha])
      rw [hg]
      exact ih
    | some b =>
      rw [hf] at ha
      obtain ⟨b', hg⟩ := Option.isSome_iff_exists.mp ha.symm
      exact .inr ⟨a, b, b', hf, hg, rfl, by rw [hg]⟩

namespace Magnitude

/-- The two rules for ties find the same numeral, or numerals on the same grid. -/
lemma shortest_eq_or_dropZeros (tie tie' : Tie) (m : Magnitude) :
    m.shortest tie = m.shortest tie' ∨
      ∃ e c c', m.shortest tie = dropZeros 17 c e ∧ m.shortest tie' = dropZeros 17 c' e := by
  by_cases hzero : m.code = 0
  · left
    rw [shortest_of_code_eq_zero tie hzero, shortest_of_code_eq_zero tie' hzero]
  · have hsome (n : Nat) : ((m.onGrid tie (m.leadingExponent - n)).map
          fun c => dropZeros 17 c (m.leadingExponent - n)).isSome =
        ((m.onGrid tie' (m.leadingExponent - n)).map
          fun c => dropZeros 17 c (m.leadingExponent - n)).isSome := by
      rw [Option.isSome_map, Option.isSome_map, isSome_onGrid tie tie']
    rw [shortest, shortest, if_neg hzero, if_neg hzero]
    dsimp only
    obtain ⟨hnone, hnone'⟩ | ⟨n, b, b', hb, hb', hsearch, hsearch'⟩ :=
      findSome?_cases hsome (List.range 17)
    · left
      rw [hnone, hnone']
    · obtain ⟨c, -, rfl⟩ := Option.map_eq_some_iff.mp hb
      obtain ⟨c', -, rfl⟩ := Option.map_eq_some_iff.mp hb'
      right
      rw [hsearch, hsearch']
      exact ⟨_, c, c', rfl, rfl⟩

/-- **The shortest digits are determined by their number**, whatever the rule for ties.

**Proof sketch.** Both rules find their numerals on one decimal grid, where equal numbers have equal
coefficients. -/
theorem numeral_eq_of_rational_eq {tie tie' : Tie} {m : Magnitude}
    (h : (m.numeral tie).rational = (m.numeral tie').rational) :
    m.numeral tie = m.numeral tie' := by
  have hshortest : m.shortest tie = m.shortest tie' := by
    obtain heq | ⟨e, c, c', hc, hc'⟩ := shortest_eq_or_dropZeros tie tie' m
    · exact heq
    · rw [rational_numeral, rational_numeral, hc, hc', rational_dropZeros, rational_dropZeros] at h
      have hpow : (10 : Rat) ^ e ≠ 0 := zpow_ne_zero e (by norm_num)
      have hcoefficient : c = c' := by
        exact_mod_cast mul_right_cancel₀ hpow h
      rw [hc, hc', hcoefficient]
  rw [numeral_eq, numeral_eq, hshortest]

/-- A magnitude that lies halfway between two neighbours on a decimal grid which both read back. -/
def IsTie (m : Magnitude) (e : Int) : Prop :=
  2 * ((m.scaled e).1 % (m.scaled e).2) = (m.scaled e).2 ∧
    m.readsBack ((m.scaled e).1 / (m.scaled e).2) e = true ∧
    m.readsBack ((m.scaled e).1 / (m.scaled e).2 + 1) e = true

/-- The rule for ties matters for ties only. -/
lemma onGrid_eq_of_not_isTie {m : Magnitude} {e : Int} (h : ¬m.IsTie e) (tie tie' : Tie) :
    m.onGrid tie e = m.onGrid tie' e := by
  rw [IsTie] at h
  rw [onGrid, onGrid]
  dsimp only
  generalize m.readsBack ((m.scaled e).1 / (m.scaled e).2) e = below at h
  generalize m.readsBack ((m.scaled e).1 / (m.scaled e).2 + 1) e = above at h
  -- Only between two numerals that read back is there a choice.
  cases below with
  | false => cases above <;> rfl
  | true =>
    cases above with
    | false => rfl
    | true =>
      have hne : 2 * ((m.scaled e).1 % (m.scaled e).2) ≠ (m.scaled e).2 :=
        fun heq => h ⟨heq, rfl, rfl⟩
      simp [Tie.choose, hne]

/-- **The shortest digits depend on the rule for ties only where there is one.** -/
theorem numeral_eq_or_isTie (tie tie' : Tie) (m : Magnitude) :
    m.numeral tie = m.numeral tie' ∨ ∃ e, m.IsTie e := by
  by_cases htie : ∃ e, m.IsTie e
  · exact .inr htie
  · have hgrid (e : Int) : m.onGrid tie e = m.onGrid tie' e :=
      onGrid_eq_of_not_isTie (fun h => htie ⟨e, h⟩) tie tie'
    left
    simp only [numeral, shortest, hgrid]

end Magnitude

/-! ## The texts of a double -/

/-- **The literal and the canonical text of a finite double.** Both have the sign of the double. The
literal has no exponent, and digits on both sides of its point if it has one; the canonical text has
a fraction or a signed exponent. Each is exactly the number of the digits it is written from, so the
two denote the same number if and only if they are written from the same digits; and they do unless
the double lies halfway between two numerals that read back. -/
theorem Value.literal_denotes_canonical (negative : Bool) (m : Magnitude) :
    (∃ body, (Sql.literal (.float (.finite negative m))).toList = signed negative body ∧
      IsPlain body) ∧
    (∃ body, (Value.float (.finite negative m)).canonical.toList = signed negative body ∧
      (IsPointed body ∨ IsScientific body)) ∧
    Decimal.rational? (Sql.literal (.float (.finite negative m))) =
      some (signedRat negative (m.numeral .up).rational) ∧
    Decimal.rational? (Value.float (.finite negative m)).canonical =
      some (signedRat negative (m.numeral .even).rational) ∧
    (Decimal.rational? (Sql.literal (.float (.finite negative m))) =
        Decimal.rational? (Value.float (.finite negative m)).canonical ↔
      m.numeral .up = m.numeral .even) ∧
    (Decimal.rational? (Sql.literal (.float (.finite negative m))) =
        Decimal.rational? (Value.float (.finite negative m)).canonical ∨ ∃ e, m.IsTie e) := by
  have hliteral : (Sql.literal (.float (.finite negative m))).toList =
      signed negative (m.numeral .up).positional := String.toList_ofList
  have hcanonical : (Value.float (.finite negative m)).canonical.toList =
      signed negative (Json.numeral (m.numeral .even)) := String.toList_ofList
  have hup := m.canonical_numeral .up
  have heven := m.canonical_numeral .even
  have hsql : Decimal.rational? (Sql.literal (.float (.finite negative m))) =
      some (signedRat negative (m.numeral .up).rational) := by
    rw [← Numeral.rational_decimal_plain]
    apply Decimal.rational?_of_numberSpelling
    rw [hliteral]
    exact hup.numberSpelling_positional negative
  have hjson : Decimal.rational? (Value.float (.finite negative m)).canonical =
      some (signedRat negative (m.numeral .even).rational) := by
    rw [← Magnitude.rational_number]
    apply Decimal.rational?_of_numberSpelling
    rw [hcanonical]
    exact heven.numberSpelling negative
  refine ⟨⟨_, hliteral, Numeral.isPlain_positional hup.isDigits⟩,
    ⟨_, hcanonical, Numeral.isPointed_or_isScientific heven.isDigits⟩, hsql, hjson, ?_, ?_⟩
  · rw [hsql, hjson, Option.some_inj, signedRat_inj]
    exact ⟨Magnitude.numeral_eq_of_rational_eq, congrArg Numeral.rational⟩
  · obtain hdigits | htie := m.numeral_eq_or_isTie .up .even
    · left
      rw [hsql, hjson, hdigits]
    · exact .inr htie

-- Halfway between two numerals of 17 digits the texts differ in their last digit.
example :
    Sql.literal (.float (.finite false ⟨1073 * Nat.pow 2 52 + 1, by decide⟩)) =
        "1125899906842624.3" ∧
      Value.canonical (.float (.finite false ⟨1073 * Nat.pow 2 52 + 1, by decide⟩)) =
        "1125899906842624.2" := by
  decide +kernel

end HintedSql
