import HintedSql.Number.Decimal
set_option relaxedAutoImplicit false
set_option autoImplicit false

/-!
# Decimals read by scaling

A decimal can be read into a double by rounding its coefficient and then multiplying or dividing by
a power of ten, which is itself rounded. Every step rounds to nearest, but the result need not be
the double nearest to the decimal: `2e-30` read in this way is `1.9999999999999998e-30`. The result
of `Decimal.toDouble`, in contrast, always is the nearest one.

## Main definitions

* `HintedSql.Decimal.ofLeading` — the decimal of the leading digits that fit in 64 bits.
* `HintedSql.Decimal.scaled` — the double of a decimal, by scaling.
-/

namespace HintedSql.Decimal

/-- Append digits to a number as long as it stays below `2 ^ 64`, and count those left over. -/
def appendFitting (n : Nat) : List Char → Nat × Nat
  | [] => (n, 0)
  | c :: cs =>
    if 10 * n + digitValue c < UInt64.size then appendFitting (10 * n + digitValue c) cs
    else (n, cs.length + 1)

/-- The decimal of a numeral with a whole part, a fraction and an exponent, of which the
coefficient keeps the leading digits that fit in 64 bits. Digits of the whole part that are left
over count in the exponent, and those of the fraction are dropped. The two parts are appended one
after the other, so that a fraction may go on where a whole part did not fit. -/
def ofLeading (negative : Bool) (whole fraction : List Char) (exponent : Int) : Decimal :=
  let (n, more) := appendFitting 0 whole
  let (n, dropped) := appendFitting n fraction
  ⟨negative, n, exponent + more - (fraction.length - dropped : Nat)⟩

/-- The greatest power of ten below all infinities. -/
def maxPower : Nat := 308

/-- The double nearest to a power of ten. -/
def tenTo (n : Nat) : Double :=
  .ofRatio false (Nat.pow 10 n) 1

/-- Divide by the greatest power of ten a number of times; zero stays as it is. -/
def descend (x : Double) : Nat → Double
  | 0 => x
  | n + 1 => if x.isZero then x else descend (x.div (tenTo maxPower)) n

/-- The double of a decimal, by scaling its rounded coefficient by a power of ten. Where one
division is not enough there are several. There is none if the result is infinite. -/
@[irreducible] def scaled (d : Decimal) : Option Double :=
  let x := Double.ofRatio d.negative d.coefficient 1
  if x.isZero then some x
  else if (maxPower : Int) < d.exponent then none
  else if 0 ≤ d.exponent then
    let y := x.mul (tenTo d.exponent.toNat)
    if y.isFinite then some y else none
  else
    let n := d.exponent.natAbs
    let steps := (n - 1) / maxPower
    some ((descend x steps).div (tenTo (n - maxPower * steps)))

end HintedSql.Decimal
