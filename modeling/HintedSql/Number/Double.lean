set_option relaxedAutoImplicit false
set_option autoImplicit false

/-!
# Binary64 numbers

A double is a signed finite number, a signed infinity or not a number. The magnitude of a finite
double is given by its `code`, its position when all magnitudes are listed in increasing order:
zero has code `0`, the least positive double `2 ^ -1074` has code `1`, and there are
`2047 * 2 ^ 52` magnitudes in all. All arithmetic is exact arithmetic on natural numbers.

## Main definitions

* `HintedSql.Magnitude` — the magnitude of a finite double.
* `HintedSql.Magnitude.units` — its value as a multiple of `2 ^ -1074`.
* `HintedSql.Double` — binary64 numbers.
* `HintedSql.Double.ofRatio` — the double nearest to a fraction, a tie going to the even code.
* `HintedSql.Double.mul`, `HintedSql.Double.div` — products and quotients, rounded once.
-/

namespace HintedSql

/-- The magnitude of a finite binary64 number, by its position in increasing order. -/
structure Magnitude where
  /-- The position, counted from zero. -/
  code : Nat
  code_lt : code < 2047 * Nat.pow 2 52
deriving DecidableEq, Repr

namespace Magnitude

/-- The power of two by which the significand is scaled, counted from the least one. -/
def shift (m : Magnitude) : Nat :=
  m.code / Nat.pow 2 52 - 1

/-- The integer significand; at least `2 ^ 52` unless the magnitude is subnormal. -/
def significand (m : Magnitude) : Nat :=
  m.code - m.shift * Nat.pow 2 52

/-- The value as a multiple of `2 ^ -1074`. -/
def units (m : Magnitude) : Nat :=
  m.significand * Nat.pow 2 m.shift

/-- The number of binary places of the least positive magnitude. -/
@[irreducible] def places : Nat :=
  1074

/-- The number one as a multiple of `2 ^ -1074`. -/
def unitsOfOne : Nat :=
  Nat.pow 2 places

/-- The magnitude zero. -/
def zero : Magnitude :=
  ⟨0, by decide⟩

end Magnitude

/-- A binary64 number; all that is not a number is one value. -/
inductive Double where
  | finite (negative : Bool) (magnitude : Magnitude)
  | infinite (negative : Bool)
  | nan
deriving DecidableEq, Repr

namespace Double

/-- A quotient rounded to the nearest integer, a half going to the even one. -/
def roundDiv (num den : Nat) : Nat :=
  let q := num / den
  let r := num % den
  if 2 * r < den then q
  else if den < 2 * r then q + 1
  else if q % 2 = 0 then q
  else q + 1

/-- The code of the magnitude nearest to `num / den`; it is out of range where the fraction is
nearer to infinity. The quotient is first scaled to 53 significant bits. -/
def nearestCode (num den : Nat) : Nat :=
  let units := num * Magnitude.unitsOfOne
  let shift := (units / den).log2 - 52
  shift * Nat.pow 2 52 + roundDiv units (den * Nat.pow 2 shift)

/-- The double with a given sign nearest to `num / den`, a tie going to the even code. -/
def ofRatio (negative : Bool) (num den : Nat) : Double :=
  let code := nearestCode num den
  if h : code < 2047 * Nat.pow 2 52 then .finite negative ⟨code, h⟩ else .infinite negative

/-- The double nearest to an integer. -/
def ofInt (i : Int) : Double :=
  ofRatio (decide (i < 0)) i.natAbs 1

/-- Whether a double is zero, of either sign. -/
def isZero : Double → Bool
  | finite _ m => m.code == 0
  | _ => false

/-- The double nearest to a product. An infinity times zero is not a number. -/
def mul : Double → Double → Double
  | finite n m, finite n' m' => ofRatio (n != n') (m.units * m'.units) (Nat.pow 2 2148)
  | infinite n, infinite n' => infinite (n != n')
  | infinite n, finite n' m | finite n m, infinite n' =>
    if m.code = 0 then nan else infinite (n != n')
  | nan, _ | _, nan => nan

/-- The double nearest to a quotient. What is not zero divided by zero is infinite. -/
def div : Double → Double → Double
  | finite n m, finite n' m' =>
    if m'.code ≠ 0 then ofRatio (n != n') m.units m'.units
    else if m.code = 0 then nan
    else infinite (n != n')
  | infinite n, finite n' _ => infinite (n != n')
  | finite n _, infinite n' => finite (n != n') .zero
  | infinite _, infinite _ => nan
  | nan, _ | _, nan => nan

/-- Whether a double is a finite number. -/
def isFinite : Double → Bool
  | finite _ _ => true
  | _ => false

/-- Numeric equality: the two zeros are equal, and what is not a number equals nothing. -/
def same : Double → Double → Bool
  | finite n m, finite n' m' => m == m' && (n == n' || m.code == 0)
  | infinite n, infinite n' => n == n'
  | _, _ => false

end Double

end HintedSql
