import HintedSql.Number.Shortest
set_option relaxedAutoImplicit false
set_option autoImplicit false

/-!
# Written numerals

A positive numeral is a non-empty digit sequence together with the power of ten of its first digit.
It can be written out in full (`positional`) or with an exponent (`scientific`).

## Main definitions

* `HintedSql.Numeral` — digits and the power of ten of the first one.
* `HintedSql.Numeral.positional`, `HintedSql.Numeral.scientific`.
* `HintedSql.Magnitude.numeral` — the shortest numeral of a magnitude.
-/

namespace HintedSql

/-- Digits, most significant first, and the power of ten of the first of them. -/
structure Numeral where
  digits : List Char
  leading : Int
deriving DecidableEq, Repr

namespace Numeral

/-- A numeral written without an exponent: the whole part, and the fraction digits. -/
def parts (n : Numeral) : List Char × List Char :=
  if n.leading < 0 then
    (['0'], List.replicate ((-n.leading).toNat - 1) '0' ++ n.digits)
  else
    let whole := n.leading.toNat + 1
    (n.digits.take whole ++ List.replicate (whole - n.digits.length) '0', n.digits.drop whole)

/-- The numeral written out in full; a fraction is written only if there is one. -/
def positional (n : Numeral) : List Char :=
  let (whole, fraction) := n.parts
  if fraction.isEmpty then whole else whole ++ '.' :: fraction

/-- The numeral written out in full, with at least one fraction digit. -/
def positionalPoint (n : Numeral) : List Char :=
  let (whole, fraction) := n.parts
  whole ++ '.' :: (if fraction.isEmpty then ['0'] else fraction)

/-- The numeral with a signed exponent; a point stands only after the first of several digits. -/
def scientific (n : Numeral) : List Char :=
  let mantissa :=
    match n.digits with
    | first :: second :: rest => first :: '.' :: second :: rest
    | ds => ds
  let sign := if n.leading < 0 then '-' else '+'
  mantissa ++ 'e' :: sign :: Decimal.digits n.leading.natAbs

end Numeral

/-- The shortest numeral of a magnitude. -/
def Magnitude.numeral (tie : Tie) (m : Magnitude) : Numeral :=
  let (coefficient, exponent) := m.shortest tie
  let digits := Decimal.digits coefficient
  ⟨digits, exponent + digits.length - 1⟩

/-- A minus sign in front of a negative number. -/
def signed (negative : Bool) (cs : List Char) : List Char :=
  if negative then '-' :: cs else cs

end HintedSql
