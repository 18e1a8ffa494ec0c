import HintedSql.Algebra.Value
import HintedSql.Number.Notation
set_option relaxedAutoImplicit false
set_option autoImplicit false

/-!
# Literals in SQL

A text is quoted with single quotes, and a quote inside it is written twice. A double is written out
in full with the fewest digits that read back; what is not finite is `NULL`.

## Main definitions

* `HintedSql.Sql.quote`.
* `HintedSql.Sql.float`, `HintedSql.Sql.literal`.
-/

namespace HintedSql.Sql

/-- The inside of a quoted text: a single quote is written twice. -/
def escape : List Char → List Char
  | [] => []
  | c :: cs => if c = '\'' then '\'' :: '\'' :: escape cs else c :: escape cs

/-- A text between single quotes. -/
def quote (s : String) : String :=
  "'" ++ String.ofList (escape s.toList) ++ "'"

/-- A double as a numeral without an exponent; of two equally short and near numerals the larger. -/
def float : Double → String
  | .finite negative m => String.ofList (signed negative (m.numeral .up).positional)
  | _ => "NULL"

/-- A value as a literal. -/
def literal : Value → String
  | .null => "NULL"
  | .bool true => "TRUE"
  | .bool false => "FALSE"
  | .int i => toString i.toInt
  | .float x => float x
  | .text s => quote s

end HintedSql.Sql
