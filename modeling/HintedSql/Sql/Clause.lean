import HintedSql.Algebra.Condition
import HintedSql.Sql.Literal
set_option relaxedAutoImplicit false
set_option autoImplicit false

/-!
# Conditions and WHERE clauses in SQL

A comparison is written with single spaces, and a conjunction or disjunction stands in parentheses.
A WHERE clause is a body that may be absent; two clauses are joined by `AND`, and an absent clause
does not count.

## Main definitions

* `HintedSql.Sql.condition` — the text of a condition.
* `HintedSql.Sql.WhereClause`, `HintedSql.Sql.WhereClause.and`, `HintedSql.Sql.WhereClause.render`.
-/

namespace HintedSql.Sql

/-- The text of a condition. -/
def condition : Condition → String
  | .compare op column value => column ++ " " ++ op.sign ++ " " ++ literal value
  | .connect op left right =>
    "(" ++ condition left ++ " " ++ op.word ++ " " ++ condition right ++ ")"

/-- The condition of a statement as text, if it has one. -/
structure WhereClause where
  body : Option String := none
deriving DecidableEq, Repr

namespace WhereClause

/-- No condition. -/
def empty : WhereClause :=
  ⟨none⟩

/-- A clause with a given body. -/
def ofText (body : String) : WhereClause :=
  ⟨some body⟩

/-- A clause that demands a condition. -/
def ofCondition (c : Condition) : WhereClause :=
  ofText (condition c)

/-- Whether there is no condition; an empty text is one. -/
def isEmpty (w : WhereClause) : Bool :=
  w.body.isNone

/-- Demand both, in this order. -/
def and (w v : WhereClause) : WhereClause :=
  match w.body, v.body with
  | none, _ => v
  | some _, none => w
  | some a, some b => ofText (a ++ " AND " ++ b)

/-- The clause as a line of a statement. -/
def render (w : WhereClause) : Option String :=
  w.body.map ("WHERE " ++ ·)

end WhereClause

end HintedSql.Sql
