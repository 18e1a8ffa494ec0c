import HintedSql.Number.Decimal
set_option relaxedAutoImplicit false
set_option autoImplicit false

/-!
# Shortest decimal numerals

Every finite double has decimal numerals that read back as that double. `Magnitude.shortest` finds
one with the fewest digits, and among those the one nearest to the double. Where two numerals are
equally short and equally near, a `Tie` rule decides.

The search tries one digit, two digits, and so on: with a given number of digits only the two
neighbours of the double on that decimal grid can be nearest, and each is tried by reading it.

## Main definitions

* `HintedSql.Tie` — what decides between two equally near numerals; `HintedSql.Tie.choose`.
* `HintedSql.Magnitude.leadingExponent` — the power of ten of the first digit.
* `HintedSql.Magnitude.shortest` — the shortest numeral, as coefficient and exponent.
-/

namespace HintedSql

/-- Which of two equally near neighbours is taken. -/
inductive Tie where
  /-- The one with an even last digit. -/
  | even
  /-- The larger one. -/
  | up
deriving DecidableEq, Repr

/-- Whether the lower one of two equally near neighbours is taken. -/
def Tie.takesBelow : Tie → Nat → Bool
  | even, below => below % 2 == 0
  | up, _ => false

/-- The nearer one of `below` and its successor among those that read back. The number between them
is `twice / den` halves above `below`. -/
def Tie.choose (tie : Tie) (below twice den : Nat) : Bool → Bool → Option Nat
  | true, true =>
    some (if twice < den || twice == den && tie.takesBelow below then below else below + 1)
  | true, false => some below
  | false, true => some (below + 1)
  | false, false => none

namespace Magnitude

/-- The power of ten of the first decimal digit of a positive magnitude. The scale `10 ^ 400` makes
every positive magnitude at least one. -/
def leadingExponent (m : Magnitude) : Int :=
  ((Decimal.digits (m.units * Nat.pow 10 400 / unitsOfOne)).length : Int) - 401

/-- Whether a coefficient and a power of ten read back as this magnitude. -/
def readsBack (m : Magnitude) (coefficient : Nat) (exponent : Int) : Bool :=
  let r := Decimal.ratio coefficient exponent
  Double.nearestCode r.1 r.2 == m.code

/-- The magnitude divided by a power of ten, as a fraction. -/
def scaled (m : Magnitude) (exponent : Int) : Nat × Nat :=
  if 0 ≤ exponent then (m.units, unitsOfOne * Nat.pow 10 exponent.toNat)
  else (m.units * Nat.pow 10 (-exponent).toNat, unitsOfOne)

/-- The best numeral on the grid of multiples of `10 ^ exponent`, if one reads back. -/
def onGrid (tie : Tie) (m : Magnitude) (exponent : Int) : Option Nat :=
  let (num, den) := m.scaled exponent
  let below := num / den
  tie.choose below (2 * (num % den)) den (m.readsBack below exponent)
    (m.readsBack (below + 1) exponent)

/-- Move factors of ten from the coefficient to the exponent, at most `fuel` of them. -/
def dropZeros : Nat → Nat → Int → Nat × Int
  | 0, c, e => (c, e)
  | fuel + 1, c, e => if c ≠ 0 ∧ c % 10 = 0 then dropZeros fuel (c / 10) (e + 1) else (c, e)

/-- The exact value as a coefficient and a power of ten. -/
def exact (m : Magnitude) : Nat × Int :=
  (m.units * Nat.pow 5 places, -places)

/-- The shortest numeral that reads back as this magnitude, the nearest one among those of its
length. Seventeen digits always suffice. -/
def shortest (tie : Tie) (m : Magnitude) : Nat × Int :=
  if m.code = 0 then (0, 0)
  else
    let top := m.leadingExponent
    let hit := (List.range 17).findSome? fun n : Nat =>
      (m.onGrid tie (top - n)).map fun c => dropZeros 17 c (top - n)
    hit.getD m.exact

end Magnitude

end HintedSql
