import HintedSql.Document.Condition
import HintedSql.Proofs.Grammar.Token
import HintedSql.Proofs.Number.ReadBack
import HintedSql.Text.Case
import Mathlib.Data.List.TakeWhile
set_option relaxedAutoImplicit false
set_option autoImplicit false

/-!
# Reading literals

A literal is one token. A quoted text stands for itself; a word is a numeral, or one of the
constants `NULL`, `TRUE` and `FALSE` in any case. A numeral without a point is a whole number, and
one with a point or an exponent is the nearest double.

A written literal does not tell everything about its value: `5` is written for an integer and for a
double, and `NULL` for what is not a finite number. What is read has the same literal.

## Main definitions

* `HintedSql.Sql.Token.value?` — the value of a literal token.
* `HintedSql.Sql.literalToken` — the token of a written literal.

## Main results

* `HintedSql.Sql.spells_literal` — a written literal is one token.
* `HintedSql.Sql.exists_value?_literalToken` — it is read as a value with the same literal.
-/

namespace HintedSql.Sql

/-- A number with a sign in front of it. -/
def signedInt (negative : Bool) (n : Nat) : Int :=
  if negative then -(n : Int) else n

/-- The value of a whole number with a sign in front of it; only a double can be a negative
zero. -/
def wholeValue (negative : Bool) (n : Nat) : Value :=
  if negative ∧ n = 0 then .float (.finite true .zero) else .ofInt (signedInt negative n)

/-- The value of a numeral. -/
def numeral? (cs : List Char) : Option Value :=
  let (negative, ds) := Decimal.readSign cs
  if ds ≠ [] ∧ ds.all Decimal.isDigit then some (wholeValue negative (Decimal.ofDigits ds))
  else (Decimal.readUnsigned negative ds).map fun d => .float d.toDouble

/-- The value of a named constant. -/
def constant? (w : String) : Option Value :=
  if Text.sameIgnoringCase w "NULL" then some .null
  else if Text.sameIgnoringCase w "TRUE" then some (.bool true)
  else if Text.sameIgnoringCase w "FALSE" then some (.bool false)
  else none

/-- The value of a literal. -/
def Token.value? : Token → Option Value
  | text s => some (.text s)
  | word w => (numeral? w.toList).or (constant? w)
  | _ => none

/-- The token of the literal of a value. -/
def literalToken : Value → Token
  | .text s => .text s
  | v => .word (literal v)

/-! ## Reading numerals -/

/-- The sign is read off a number that begins with a digit. -/
lemma readSign_signed (negative : Bool) {cs : List Char}
    (h : ∀ c ∈ cs.head?, Decimal.isDigit c = true) :
    Decimal.readSign (signed negative cs) = (negative, cs) := by
  cases negative with
  | true => rfl
  | false =>
    cases cs with
    | nil => rfl
    | cons c cs =>
      have hc := h c rfl
      -- A digit is none of the signs.
      have hminus : c ≠ '-' := by
        rintro rfl
        exact absurd hc (by decide)
      have hplus : c ≠ '+' := by
        rintro rfl
        exact absurd hc (by decide)
      simp [signed, Decimal.readSign, hminus, hplus]

/-- Digits alone are a whole number. -/
lemma numeral?_digits (negative : Bool) {ds : List Char} (hne : ds ≠ [])
    (hds : ∀ d ∈ ds, Decimal.isDigit d = true) :
    numeral? (signed negative ds) = some (wholeValue negative (Decimal.ofDigits ds)) := by
  have hhead : ∀ c ∈ ds.head?, Decimal.isDigit c = true :=
    fun c hc => hds c (List.mem_of_mem_head? hc)
  rw [numeral?, readSign_signed negative hhead]
  exact if_pos ⟨hne, by simpa using hds⟩

/-- Digits with a sign are read as a whole number. -/
lemma numeral?_signed_digits (negative : Bool) (n : Nat) :
    numeral? (signed negative (Decimal.digits n)) = some (wholeValue negative n) := by
  rw [numeral?_digits negative (Decimal.digits_ne_nil n)
    (fun d hd => Decimal.isDigit_of_mem_digits hd), Decimal.ofDigits_digits]

/-- Digits with a point among them are the nearest double. -/
lemma numeral?_fraction (negative : Bool) {whole fraction : List Char} (hne : whole ≠ [])
    (hds : ∀ d ∈ whole ++ fraction, Decimal.isDigit d = true) :
    numeral? (signed negative (whole ++ '.' :: fraction)) =
      some (.float (Decimal.mk negative (Decimal.ofDigits (whole ++ fraction))
        (-(fraction.length : Int))).toDouble) := by
  have hwhole : ∀ d ∈ whole, Decimal.isDigit d = true :=
    fun d hd => hds d (List.mem_append_left _ hd)
  have hfraction : ∀ d ∈ fraction, Decimal.isDigit d = true :=
    fun d hd => hds d (List.mem_append_right _ hd)
  have hhead : ∀ c ∈ (whole ++ '.' :: fraction).head?, Decimal.isDigit c = true := by
    intro c hc
    obtain ⟨d, ds, rfl⟩ := List.exists_cons_of_ne_nil hne
    exact hwhole c (List.mem_of_mem_head? hc)
  have hpoint : ¬(whole ++ '.' :: fraction ≠ [] ∧
      (whole ++ '.' :: fraction).all Decimal.isDigit = true) := by
    rintro ⟨-, hall⟩
    have := List.all_eq_true.mp hall '.' (by simp)
    exact absurd this (by decide)
  have htake : (whole ++ '.' :: fraction).takeWhile Decimal.isDigit = whole := by
    rw [List.takeWhile_append_of_pos hwhole, List.takeWhile_cons_of_neg (by decide),
      List.append_nil]
  have hdrop : (whole ++ '.' :: fraction).dropWhile Decimal.isDigit = '.' :: fraction := by
    rw [List.dropWhile_append_of_pos hwhole, List.dropWhile_cons_of_neg (by decide)]
  have htake' : fraction.takeWhile Decimal.isDigit = fraction :=
    List.takeWhile_eq_self_iff.mpr hfraction
  have hdrop' : fraction.dropWhile Decimal.isDigit = [] :=
    List.dropWhile_eq_nil_iff.mpr hfraction
  rw [numeral?, readSign_signed negative hhead]
  dsimp only
  rw [if_neg hpoint]
  simp [Decimal.readUnsigned, htake, hdrop, htake', hdrop', hne, Decimal.readExponent]

/-! ## Written numbers -/

/-- A number other than a negative zero is written as its digits behind its sign. -/
lemma toList_toString_signedInt {negative : Bool} {n : Nat} (h : ¬(negative ∧ n = 0)) :
    (toString (signedInt negative n)).toList = signed negative (Decimal.digits n) := by
  cases negative with
  | false => exact Nat.toList_repr
  | true =>
    obtain ⟨k, rfl⟩ := Nat.exists_eq_succ_of_ne_zero (fun hn => h ⟨rfl, hn⟩)
    have hminus : toString (signedInt true (k + 1)) = "-" ++ Nat.repr (k + 1) := rfl
    rw [hminus, String.toList_append, Nat.toList_repr]
    rfl

/-- A whole number is its absolute value with its sign. -/
lemma signedInt_natAbs (i : Int) : signedInt (decide (i < 0)) i.natAbs = i := by
  rw [signedInt]
  split
  · rename_i h
    have := of_decide_eq_true h
    omega
  · rename_i h
    have := of_decide_eq_false (Bool.eq_false_iff.mpr h)
    omega

/-- An integer is no negative zero. -/
lemma not_neg_and_natAbs_eq_zero (i : Int) : ¬(decide (i < 0) = true ∧ i.natAbs = 0) := by
  rintro ⟨hneg, habs⟩
  have := of_decide_eq_true hneg
  omega

/-- A 64-bit integer is the value of its number. -/
lemma ofInt_toInt (i : Int64) : Value.ofInt i.toInt = .int i := by
  rw [Value.ofInt, if_pos ⟨i.minValue_le_toInt, i.toInt_le⟩, Int64.ofInt_toInt]

/-- The double of a whole number whose nearest magnitude is known. -/
lemma ofInt_signedInt {negative : Bool} {m : Magnitude} {n : Nat} (hn : ¬(negative ∧ n = 0))
    (h : Double.nearestCode n 1 = m.code) :
    Double.ofInt (signedInt negative n) = .finite negative m := by
  have hsign : decide (signedInt negative n < 0) = negative := by
    cases negative with
    | false => simp [signedInt]
    | true => simpa [signedInt, Nat.pos_iff_ne_zero] using hn
  have habs : (signedInt negative n).natAbs = n := by
    cases negative <;> simp [signedInt]
  rw [Double.ofInt, hsign, habs]
  exact Double.ofRatio_of_nearestCode h

/-- A magnitude whose shortest numeral has no negative exponent is written like a whole number. -/
lemma positional_eq_digits {m : Magnitude} {c n : Nat} (h : m.shortest .up = (c, (n : Int))) :
    (m.numeral .up).positional = Decimal.digits (c * 10 ^ n) := by
  rw [Magnitude.positional_of_nonneg h]
  obtain rfl | hc := Nat.eq_zero_or_pos c
  · -- Zero is written as one digit.
    have hread := m.readsBack_shortest .up
    rw [h] at hread
    have hzero : m.shortest .up = (0, 0) :=
      Magnitude.shortest_of_code_eq_zero _ (by rw [Magnitude.eq_zero_of_readsBack hread]; rfl)
    have hn : n = 0 := by simpa [h] using hzero
    subst hn
    simp
  · rw [Decimal.digits_mul_pow hc]

/-- A whole number is read as an integer or as a double, and either has the literal it was read
from. -/
lemma literal_wholeValue {negative : Bool} {m : Magnitude} {n : Nat}
    (hdigits : (m.numeral .up).positional = Decimal.digits n)
    (h : Double.nearestCode n 1 = m.code) :
    literal (wholeValue negative n) = literal (.float (.finite negative m)) := by
  rw [wholeValue]
  split
  · rename_i hzero
    obtain ⟨rfl, rfl⟩ := hzero
    have hm : m = .zero := by
      refine Magnitude.eq_zero_of_readsBack (e := 0) (Magnitude.readsBack_iff.mpr ?_)
      simpa [Decimal.ratio] using h
    rw [hm]
  · rename_i hne
    rw [Value.ofInt]
    split
    · -- In range: the digits of the integer are those of the double.
      rename_i hrange
      have hint : (Int64.ofInt (signedInt negative n)).toInt = signedInt negative n :=
        Int64.toInt_ofInt_of_le hrange.1 (Int.lt_of_le_of_lt hrange.2 (by decide))
      apply String.toList_inj.mp
      rw [literal, hint, toList_toString_signedInt hne, literal, float, String.toList_ofList,
        hdigits]
    · rw [ofInt_signedInt hne h]

/-- The written form of a magnitude is that of a whole number, or it has a fraction. Either way the
magnitude is the one nearest to it.

**Proof sketch.** By the sign of the exponent of the shortest numeral, which reads back. -/
lemma positional_cases (m : Magnitude) :
    (∃ n, (m.numeral .up).positional = Decimal.digits n ∧ Double.nearestCode n 1 = m.code) ∨
      ∃ whole fraction, (m.numeral .up).positional = whole ++ '.' :: fraction ∧ whole ≠ [] ∧
        (∀ d ∈ whole ++ fraction, Decimal.isDigit d = true) ∧
        m.readsBack (Decimal.ofDigits (whole ++ fraction)) (-(fraction.length : Int)) := by
  have hread := m.readsBack_shortest .up
  cases hshortest : m.shortest .up with
  | mk c e =>
    rw [hshortest] at hread
    obtain ⟨n, rfl⟩ | ⟨n, hn, rfl⟩ : (∃ n : Nat, e = n) ∨ ∃ n : Nat, 0 < n ∧ e = -(n : Int) := by
      obtain he | he := Int.lt_or_le e 0
      · exact .inr ⟨e.natAbs, by omega, by omega⟩
      · exact .inl ⟨e.toNat, by omega⟩
    · have hcode := Magnitude.readsBack_iff.mp hread
      rw [Decimal.ratio_natCast] at hcode
      exact .inl ⟨c * 10 ^ n, positional_eq_digits hshortest, hcode⟩
    · obtain ⟨whole, fraction, hpositional, hwhole, hds, hlength, hvalue⟩ :=
        Magnitude.positional_of_neg hshortest hn
      refine .inr ⟨whole, fraction, hpositional, hwhole, hds, ?_⟩
      rw [hvalue, hlength]
      exact hread

/-- The written form of a finite double is read as a value with the same literal. A whole number
becomes an integer if it fits; all other numbers become the double that was written. -/
lemma exists_numeral?_positional (negative : Bool) (m : Magnitude) :
    ∃ v, numeral? (signed negative (m.numeral .up).positional) = some v ∧
      literal v = literal (.float (.finite negative m)) := by
  obtain ⟨n, hdigits, hcode⟩ | ⟨whole, fraction, hpositional, hwhole, hds, hread⟩ :=
    positional_cases m
  · refine ⟨wholeValue negative n, ?_, literal_wholeValue hdigits hcode⟩
    rw [hdigits, numeral?_signed_digits]
  · refine ⟨.float (.finite negative m), ?_, rfl⟩
    rw [hpositional, numeral?_fraction negative hwhole hds,
      Decimal.toDouble_of_readsBack (by omega) hread]

/-! ## Literals as tokens -/

/-- A digit can stand in a word. -/
lemma isWordChar_of_isDigit {c : Char} (h : Decimal.isDigit c = true) :
    isWordChar c = true := by
  have hbounds : 48 ≤ c.toNat ∧ c.toNat ≤ 57 := by
    simpa [Decimal.isDigit, Char.le_def, UInt32.le_iff_toNat_le] using h
  have hspace : Text.isSpace c = false := by
    simp only [Text.isSpace, Bool.or_eq_false_iff, Bool.and_eq_false_iff, beq_eq_false_iff_ne,
      decide_eq_false_iff_not]
    omega
  have hsymbol : symbol? c = none := by
    unfold symbol?
    split <;> first | rfl | exact absurd h (by decide)
  have hquote : c ≠ '\'' := by
    rintro rfl
    exact absurd h (by decide)
  simp [isWordChar, hspace, hsymbol, hquote]

/-- A number written out in full is a word. -/
lemma isWord_signed (negative : Bool) {cs : List Char} (hne : cs ≠ [])
    (h : ∀ c ∈ cs, Decimal.isDigit c = true ∨ c = '.') :
    IsWord (String.ofList (signed negative cs)) := by
  have hchars : ∀ c ∈ cs, isWordChar c = true := by
    intro c hc
    obtain hdigit | rfl := h c hc
    · exact isWordChar_of_isDigit hdigit
    · decide
  cases negative with
  | false => exact ⟨by simpa [signed] using hne, by simpa [signed] using hchars⟩
  | true =>
    have hminus : isWordChar '-' = true := by decide
    exact ⟨by simp [signed], by simpa [signed, hminus] using hchars⟩

/-- Digits with a sign are a word. -/
lemma isWord_signed_digits (negative : Bool) (n : Nat) :
    IsWord (String.ofList (signed negative (Decimal.digits n))) :=
  isWord_signed negative (Decimal.digits_ne_nil n)
    fun _ hc => .inl (Decimal.isDigit_of_mem_digits hc)

/-- A finite double is written as a word. -/
lemma isWord_float (negative : Bool) (m : Magnitude) :
    IsWord (float (.finite negative m)) := by
  rw [float]
  obtain ⟨n, hdigits, -⟩ | ⟨whole, fraction, hpositional, hwhole, hds, -⟩ := positional_cases m
  · rw [hdigits]
    exact isWord_signed_digits negative n
  · rw [hpositional]
    refine isWord_signed negative (by simp) fun c hc => ?_
    obtain hc | hc := List.mem_append.mp hc
    · exact .inl (hds c (List.mem_append_left _ hc))
    · obtain rfl | hc := List.mem_cons.mp hc
      · exact .inr rfl
      · exact .inl (hds c (List.mem_append_right _ hc))

/-- The sign and the digits of a written integer. -/
lemma toString_toInt (i : Int64) :
    toString i.toInt =
      String.ofList (signed (decide (i.toInt < 0)) (Decimal.digits i.toInt.natAbs)) := by
  apply String.toList_inj.mp
  rw [String.toList_ofList, ← toList_toString_signedInt (not_neg_and_natAbs_eq_zero _),
    signedInt_natAbs]

/-- A literal that is not a text is written as a word. -/
lemma isWord_literal {v : Value} (h : ∀ s, v ≠ .text s) : IsWord (literal v) := by
  cases v with
  | null => exact (show IsWord "NULL" by decide)
  | bool b => cases b <;> decide
  | int i =>
    rw [literal, toString_toInt]
    exact isWord_signed_digits _ _
  | float x =>
    cases x with
    | finite negative m => exact isWord_float negative m
    | infinite negative | nan => exact (show IsWord "NULL" by decide)
  | text s => exact absurd rfl (h s)

/-- A written literal is one token. -/
theorem spells_literal (v : Value) : Spells (literal v) [literalToken v] := by
  cases v with
  | text s => exact spells_quote s
  | null | bool _ | int _ | float _ => exact spells_word (isWord_literal (by simp))

/-- A word that is a numeral stands for its number. -/
lemma value?_word {w : String} {v : Value} (h : numeral? w.toList = some v) :
    (Token.word w).value? = some v := by
  rw [Token.value?, h]
  rfl

/-- A written literal is read as a value with the same literal. -/
theorem exists_value?_literalToken (v : Value) :
    ∃ v', (literalToken v).value? = some v' ∧ literal v' = literal v := by
  cases v with
  | null => exact ⟨.null, by decide, rfl⟩
  | bool b => exact ⟨.bool b, by cases b <;> decide, rfl⟩
  | int i =>
    refine ⟨.int i, value?_word ?_, rfl⟩
    rw [literal, toString_toInt, String.toList_ofList, numeral?_signed_digits, wholeValue,
      if_neg (not_neg_and_natAbs_eq_zero _), signedInt_natAbs, ofInt_toInt]
  | float x =>
    cases x with
    | finite negative m =>
      obtain ⟨v, hv, hliteral⟩ := exists_numeral?_positional negative m
      refine ⟨v, value?_word ?_, hliteral⟩
      rw [literal, float, String.toList_ofList, hv]
    | infinite negative | nan =>
      exact ⟨.null, (show (Token.word "NULL").value? = some .null by decide), rfl⟩
  | text s => exact ⟨.text s, rfl, rfl⟩

end HintedSql.Sql
