import HintedSql.Algebra.Value
set_option relaxedAutoImplicit false
set_option autoImplicit false

/-!
# Conditions

Conditions are built from comparisons of a column with a value by conjunction and disjunction.
There is no negation.

## Main definitions

* `HintedSql.Comparison`, `HintedSql.Connective`, `HintedSql.Condition`.
-/

namespace HintedSql

/-- The relation a comparison tests. -/
inductive Comparison where
  | eq
  | gt
  | lt
deriving DecidableEq, Repr

/-- The sign of a comparison in SQL. -/
def Comparison.sign : Comparison → String
  | eq => "="
  | gt => ">"
  | lt => "<"

/-- How two conditions are combined. -/
inductive Connective where
  | and
  | or
deriving DecidableEq, Repr

/-- The word of a connective in SQL. -/
def Connective.word : Connective → String
  | and => "AND"
  | or => "OR"

/-- A condition on rows. -/
inductive Condition where
  | compare (op : Comparison) (column : String) (value : Value)
  | connect (op : Connective) (left right : Condition)
deriving DecidableEq, Repr

namespace Condition

/-- A column equals a value. -/
def eq (column : String) (value : Value) : Condition :=
  compare .eq column value

/-- A column is greater than a value. -/
def gt (column : String) (value : Value) : Condition :=
  compare .gt column value

/-- A column is less than a value. -/
def lt (column : String) (value : Value) : Condition :=
  compare .lt column value

/-- Both conditions hold. -/
def and (left right : Condition) : Condition :=
  connect .and left right

/-- At least one of the conditions holds. -/
def or (left right : Condition) : Condition :=
  connect .or left right

/-- Equality of conditions where doubles are compared as numbers. -/
def same : Condition → Condition → Bool
  | compare op column value, compare op' column' value' =>
    op == op' && column == column' && value.same value'
  | connect op l r, connect op' l' r' => op == op' && l.same l' && r.same r'
  | _, _ => false

end Condition

end HintedSql
