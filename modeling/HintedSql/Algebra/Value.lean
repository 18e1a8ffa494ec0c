import HintedSql.Number.Double
set_option relaxedAutoImplicit false
set_option autoImplicit false

/-!
# Literal values

The right-hand side of a comparison: nothing, a truth value, a 64-bit integer, a double or a text.

## Main definitions

* `HintedSql.Value`.
* `HintedSql.Value.same` — equality that compares doubles as numbers.
-/

namespace HintedSql

/-- A literal carried by a comparison. -/
inductive Value where
  | null
  | bool (b : Bool)
  | int (i : Int64)
  | float (x : Double)
  | text (s : String)
deriving DecidableEq, Repr

namespace Value

/-- The name of the kind of a value. -/
def kind : Value → String
  | null => "null"
  | bool _ => "bool"
  | int _ => "int"
  | float _ => "float"
  | text _ => "string"

/-- An absent value is `null`. -/
def ofOption : Option Value → Value
  | some v => v
  | none => null

/-- Equality of values where doubles are compared as numbers. -/
def same : Value → Value → Bool
  | float x, float y => x.same y
  | v, w => v == w

end Value

end HintedSql
