import HintedSql.Proofs.Algebra.Literals
import HintedSql.Proofs.Algebra.Shape
import Mathlib.Tactic.Lemma
set_option relaxedAutoImplicit false
set_option autoImplicit false

/-!
# The texts of an expression

Two expressions that differ only in what their texts hold are equal once every text is emptied.
Emptying leaves the shape of an expression alone: the same tables, columns and names stand in the
same places, and the predicates and join conditions are those of the original with their own texts
emptied.

## Main definitions

* `HintedSql.Condition.texts` — the texts in a condition, from left to right.
* `HintedSql.Expression.onConditions` — the conditions of all joins.
* `HintedSql.Expression.names` — the names of tables and columns.
* `HintedSql.Value.emptied`, `HintedSql.Condition.emptied`, `HintedSql.Expression.emptied` — with
  nothing in every text.

## Main results

* `HintedSql.Expression.predicates_emptied`, `HintedSql.Expression.names_emptied` — what emptying
  does to the predicates and the names.
-/

namespace HintedSql

namespace Value

/-- What a text holds. -/
def text? : Value → Option String
  | text s => some s
  | _ => none

/-- A value with nothing in it if it is a text. -/
def emptied : Value → Value
  | text _ => text ""
  | v => v

end Value

namespace Condition

/-- The texts in a condition. -/
def texts (c : Condition) : List String :=
  c.values.filterMap Value.text?

/-- The columns that a condition compares. -/
def columns : Condition → List String
  | compare _ column _ => [column]
  | connect _ left right => left.columns ++ right.columns

/-- A condition with nothing in its texts. -/
def emptied : Condition → Condition
  | compare op column value => compare op column value.emptied
  | connect op left right => connect op left.emptied right.emptied

/-- A comparison has one text if its literal is one, and none otherwise. -/
@[simp] lemma texts_compare (op : Comparison) (column : String) (value : Value) :
    (compare op column value).texts = value.text?.toList := by
  cases h : value.text? <;> simp [texts, values, h]

/-- The texts of a connection are those of its left side and then those of its right side. -/
@[simp] lemma texts_connect (op : Connective) (left right : Condition) :
    (connect op left right).texts = left.texts ++ right.texts := by
  simp [texts, values]

/-- Emptying the texts of a condition keeps its columns. -/
@[simp] lemma columns_emptied (c : Condition) : c.emptied.columns = c.columns := by
  induction c with
  | compare op column value => rfl
  | connect op left right ihl ihr => simp [emptied, columns, ihl, ihr]

end Condition

namespace Expression

/-- The condition of a join. -/
def on? : Expression → Option Condition
  | join _ _ _ on => some on
  | _ => none

/-- The conditions of all joins, each once, in the order of the nodes. -/
def onConditions (e : Expression) : List Condition :=
  e.nodes.filterMap on?

/-- The names in an expression: those of its tables and of the columns that it projects to or
compares. -/
def names : Expression → List String
  | table t => t.name :: t.asName.toList
  | selection input p => input.names ++ p.columns
  | projection input columns => input.names ++ columns
  | join _ left right on => left.names ++ right.names ++ on.columns

/-- An expression with nothing in its texts. -/
def emptied : Expression → Expression
  | table t => table t
  | selection input p => selection input.emptied p.emptied
  | projection input columns => projection input.emptied columns
  | join kind left right on => join kind left.emptied right.emptied on.emptied

/-- Emptying the texts of an expression keeps its names. -/
@[simp] theorem names_emptied (e : Expression) : e.emptied.names = e.names := by
  induction e with
  | table t => rfl
  | selection input p ih => simp [emptied, names, ih]
  | projection input columns ih => simp [emptied, names, ih]
  | join kind left right on ihl ihr => simp [emptied, names, ihl, ihr]

/-- Emptying the texts of an expression empties those of its predicates. -/
@[simp] theorem predicates_emptied (e : Expression) :
    e.emptied.predicates = e.predicates.map Condition.emptied := by
  induction e with
  | table t => rfl
  | selection input p ih => simp [emptied, ih]
  | projection input columns ih => simp [emptied, ih]
  | join kind left right on ihl ihr => simp [emptied, ihl, ihr]

/-! ## Names of parts -/

/-- The names of the table that an expression reaches are among its own. -/
lemma Reaches.names_subset {e : Expression} {t : Table} (h : e.Reaches t) :
    (Expression.table t).names ⊆ e.names := by
  induction h with
  | table t => exact List.Subset.refl _
  | selection p _ ih => exact List.subset_append_of_subset_left _ ih
  | projection columns _ ih => exact List.subset_append_of_subset_left _ ih

/-- The columns of a predicate are among the names of the expression. -/
lemma columns_subset_names {e : Expression} {p : Condition} (h : p ∈ e.predicates) :
    p.columns ⊆ e.names := by
  induction e with
  | table t => simp at h
  | selection input q ih =>
    obtain h | h := List.mem_append.mp (predicates_selection input q ▸ h)
    · exact List.subset_append_of_subset_left _ (ih h)
    · obtain rfl := List.mem_singleton.mp h
      exact List.subset_append_right _ _
  | projection input columns ih =>
    exact List.subset_append_of_subset_left _ (ih (predicates_projection input columns ▸ h))
  | join kind left right on ihl ihr =>
    obtain h | h := List.mem_append.mp (predicates_join kind left right on ▸ h)
    · exact List.subset_append_of_subset_left _ (List.subset_append_of_subset_left _ (ihl h))
    · exact List.subset_append_of_subset_left _ (List.subset_append_of_subset_right _ (ihr h))

end Expression

end HintedSql
