import HintedSql.Algebra.Expression
import HintedSql.Sql.Clause
set_option relaxedAutoImplicit false
set_option autoImplicit false

/-!
# Statements

An expression is compiled to one SELECT statement over a table or over a join of two tables. The
predicates of all its selections become the WHERE clause, inner before outer and left before right.
A join can be compiled only at the root or directly below one selection or projection, and its
inputs have to reduce to tables.

## Main definitions

* `HintedSql.Sql.CompileError`.
* `HintedSql.Sql.Source` — what a statement selects from; `HintedSql.Sql.Statement`.
* `HintedSql.Sql.baseTable` — the table below selections and projections.
* `HintedSql.Sql.filter` — the clause of all predicates of an expression.
* `HintedSql.Sql.compile` — the statement of an expression.
-/

namespace HintedSql.Sql

/-- Why an expression has no statement. -/
inductive CompileError where
  /-- An expression of the given kind stands where a table is needed. -/
  | missingTable (kind : String)
  /-- A selection or projection, of the given kind, lies between its parent and a join. -/
  | unsupportedFrom (kind : String)
deriving DecidableEq, Repr

/-- What is said about an expression without a statement. -/
def CompileError.message : CompileError → String
  | missingTable kind => "Cannot unwrap table from " ++ kind ++ " expression"
  | unsupportedFrom kind =>
    "Unsupported expression in FROM clause: " ++ kind ++ " wraps a join below its immediate input"

/-- A table as it stands in a statement. -/
def tableRef (t : Table) : String :=
  match t.asName with
  | some asName => t.name ++ " AS " ++ asName
  | none => t.name

/-- What a statement selects from. -/
inductive Source where
  | table (t : Table)
  | join (kind : JoinKind) (left right : Table) (on : Condition)
deriving DecidableEq, Repr

/-- The FROM clause. -/
def Source.render : Source → String
  | table t => "FROM " ++ tableRef t
  | join kind left right on =>
    "FROM " ++ tableRef left ++ "\n" ++ kind.word ++ " JOIN " ++ tableRef right ++ " ON "
      ++ condition on

/-- A SELECT statement; no columns stand for all of them. -/
structure Statement where
  columns : List String
  source : Source
  filter : WhereClause
deriving DecidableEq, Repr

/-- The columns of a statement. -/
def columnList (columns : List String) : String :=
  if columns.isEmpty then "*" else String.intercalate ", " columns

/-- The text of a statement, one clause to a line. -/
def Statement.render (s : Statement) : String :=
  String.intercalate "\n"
    (["SELECT " ++ columnList s.columns, s.source.render] ++ s.filter.render.toList)

/-- The table below any number of selections and projections. -/
def baseTable : Expression → Except CompileError Table
  | .table t => .ok t
  | .selection input _ => baseTable input
  | .projection input _ => baseTable input
  | .join _ _ _ _ => .error (.missingTable "join")

/-- A join of the tables below its two inputs. -/
def joinSource (kind : JoinKind) (left right : Expression) (on : Condition) :
    Except CompileError Source := do
  let l ← baseTable left
  let r ← baseTable right
  return .join kind l r on

/-- What the statement of a selection or projection over `input` selects from. -/
def sourceOf (input : Expression) : Except CompileError Source :=
  match input with
  | .table t => .ok (.table t)
  | .join kind left right on => joinSource kind left right on
  | .selection _ _ | .projection _ _ =>
    match baseTable input with
    | .ok t => .ok (.table t)
    | .error _ => .error (.unsupportedFrom input.kind)

/-- All predicates of an expression, inner before outer and left before right; the condition of a
join is not one of them. -/
def filter : Expression → WhereClause
  | .table _ => .empty
  | .selection input predicate => (filter input).and (.ofCondition predicate)
  | .projection input _ => filter input
  | .join _ left right _ => (filter left).and (filter right)

/-- The statement of an expression. -/
def statement : Expression → Except CompileError Statement
  | .table t => .ok ⟨[], .table t, .empty⟩
  | .projection input columns => do
    let source ← sourceOf input
    return ⟨columns, source, filter input⟩
  | .selection input predicate => do
    let source ← sourceOf input
    return ⟨[], source, (filter input).and (.ofCondition predicate)⟩
  | .join kind left right on => do
    let source ← joinSource kind left right on
    return ⟨[], source, (filter left).and (filter right)⟩

/-- The text of the statement of an expression. -/
def compile (e : Expression) : Except CompileError String :=
  Statement.render <$> statement e

end HintedSql.Sql
