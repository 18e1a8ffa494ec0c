import HintedSql.Number.Double
set_option relaxedAutoImplicit false
set_option autoImplicit false

/-!
# Decimal numerals

A decimal is a sign, a coefficient and a power of ten. `Decimal.parse?` reads the usual spelling
(`-12.5e3`, `.5`, `1.`), and `Decimal.toDouble` rounds to the nearest double.

## Main definitions

* `HintedSql.Decimal` and its value `± coefficient * 10 ^ exponent`.
* `HintedSql.Decimal.toDouble`.
* `HintedSql.Decimal.parse?`, `HintedSql.Double.parse?`.
-/

namespace HintedSql

/-- The number `± coefficient * 10 ^ exponent`. -/
structure Decimal where
  negative : Bool
  coefficient : Nat
  exponent : Int
deriving DecidableEq, Repr

namespace Decimal

/-- Whether a character is one of `0`–`9`. -/
def isDigit (c : Char) : Bool :=
  '0' ≤ c && c ≤ '9'

/-- The value of a digit. -/
def digitValue (c : Char) : Nat :=
  c.toNat - '0'.toNat

/-- The number that a sequence of digits spells. -/
def ofDigits (cs : List Char) : Nat :=
  cs.foldl (fun n c => 10 * n + digitValue c) 0

/-- The digits of a number, most significant first. -/
def digits (n : Nat) : List Char :=
  Nat.toDigits 10 n

/-- The magnitude as a fraction of natural numbers. -/
def ratio (coefficient : Nat) (exponent : Int) : Nat × Nat :=
  if 0 ≤ exponent then (coefficient * Nat.pow 10 exponent.toNat, 1)
  else (coefficient, Nat.pow 10 (-exponent).toNat)

/-- The nearest double. A power of ten that takes the number far out of the range of doubles is not
evaluated: the number is then beyond every finite double, or nearer to zero than to any other. -/
def toDouble (d : Decimal) : Double :=
  if d.coefficient = 0 then .finite d.negative .zero
  else if 400 < d.exponent then .infinite d.negative
  else if (d.coefficient.log2 : Int) + 1 + d.exponent < -400 then .finite d.negative .zero
  else
    let r := ratio d.coefficient d.exponent
    Double.ofRatio d.negative r.1 r.2

/-- Read a sign, if there is one. -/
def readSign : List Char → Bool × List Char
  | '-' :: cs => (true, cs)
  | '+' :: cs => (false, cs)
  | cs => (false, cs)

/-- Read an exponent part, which has to be the whole rest: nothing, or `e` with a number. -/
def readExponent : List Char → Option Int
  | [] => some 0
  | c :: cs =>
    if c = 'e' ∨ c = 'E' then
      let (negative, ds) := readSign cs
      if ds.isEmpty || !ds.all isDigit then none
      else if negative then some (-(ofDigits ds : Int))
      else some (ofDigits ds)
    else none

/-- Read an unsigned numeral that begins with its whole part. -/
def readUnsigned (negative : Bool) (cs : List Char) : Option Decimal :=
  let whole := cs.takeWhile isDigit
  let rest := cs.dropWhile isDigit
  let (fraction, rest) :=
    match rest with
    | '.' :: tail => (tail.takeWhile isDigit, tail.dropWhile isDigit)
    | _ => ([], rest)
  if whole.isEmpty && fraction.isEmpty then none
  else
    (readExponent rest).map fun e =>
      ⟨negative, ofDigits (whole ++ fraction), e - fraction.length⟩

/-- Read a numeral: an optional sign, digits with at most one point among them and at least one
digit, and an optional exponent. -/
def parse? (cs : List Char) : Option Decimal :=
  let (negative, rest) := readSign cs
  readUnsigned negative rest

end Decimal

namespace Double

/-- Read a double: a decimal numeral, or a signed `inf`, `infinity` or `nan` in any case. -/
def parse? (s : String) : Option Double :=
  let (negative, rest) := Decimal.readSign s.toList
  let word := String.ofList (rest.map Char.toLower)
  if word = "inf" ∨ word = "infinity" then some (.infinite negative)
  else if word = "nan" then some .nan
  else (Decimal.readUnsigned negative rest).map Decimal.toDouble

end Double

end HintedSql
