import HintedSql.Algebra.Condition
set_option relaxedAutoImplicit false
set_option autoImplicit false

/-!
# Relational expressions

An expression is a table, a selection or a projection over an expression, or a join of two.

## Main definitions

* `HintedSql.Table`, `HintedSql.JoinKind`, `HintedSql.Expression`.
* `HintedSql.Expression.kind` — the name of the outermost node.
-/

namespace HintedSql

/-- A stored relation, possibly under another name. -/
structure Table where
  name : String
  asName : Option String := none
deriving DecidableEq, Repr

/-- Which unmatched rows a join keeps. -/
inductive JoinKind where
  | inner
  | left
  | right
  | full
deriving DecidableEq, Repr

namespace JoinKind

/-- The name of a join kind in documents. -/
def name : JoinKind → String
  | inner => "inner"
  | left => "left"
  | right => "right"
  | full => "full"

/-- The word before `JOIN` in SQL. -/
def word : JoinKind → String
  | inner => "INNER"
  | left => "LEFT"
  | right => "RIGHT"
  | full => "FULL"

/-- All join kinds. -/
def all : List JoinKind :=
  [inner, left, right, full]

/-- The join kind with a given name. -/
def ofName? (s : String) : Option JoinKind :=
  all.find? (·.name == s)

end JoinKind

/-- A relational expression. -/
inductive Expression where
  | table (t : Table)
  | selection (input : Expression) (predicate : Condition)
  | projection (input : Expression) (columns : List String)
  | join (kind : JoinKind) (left right : Expression) (on : Condition)
deriving DecidableEq, Repr

namespace Expression

/-- The name of the outermost node. -/
def kind : Expression → String
  | table _ => "table"
  | selection _ _ => "selection"
  | projection _ _ => "projection"
  | join _ _ _ _ => "join"

/-- Keep the rows that satisfy a condition. -/
def select (e : Expression) (predicate : Condition) : Expression :=
  selection e predicate

/-- Keep some columns; no columns stand for all of them. -/
def project (e : Expression) (columns : List String) : Expression :=
  projection e columns

/-- Join with another expression. -/
def joinWith (left right : Expression) (on : Condition) (kind : JoinKind := .inner) : Expression :=
  join kind left right on

/-- Equality of expressions where doubles are compared as numbers. -/
def same : Expression → Expression → Bool
  | table t, table t' => t == t'
  | selection e p, selection e' p' => e.same e' && p.same p'
  | projection e cs, projection e' cs' => e.same e' && cs == cs'
  | join k l r on, join k' l' r' on' => k == k' && l.same l' && r.same r' && on.same on'
  | _, _ => false

end Expression

end HintedSql
