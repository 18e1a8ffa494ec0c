import HintedSql.Algebra.Expression
import Mathlib.Tactic.Lemma
set_option relaxedAutoImplicit false
set_option autoImplicit false

/-!
# The shape of expressions

Selections and projections are wrappers: they have one input. Below any number of wrappers stands
either a table or a join. The nodes of an expression are listed with every input before its parent
and a left input before a right one, and the predicates are read off that list.

## Main definitions

* `HintedSql.Expression.nodes` — all nodes; `HintedSql.Expression.predicates` — the predicates of
  all selections among them.
* `HintedSql.Expression.input?` — what a wrapper wraps.
* `HintedSql.Expression.Reaches` — the table below the wrappers.
* `HintedSql.Expression.EndsInJoin` — a join stands below the wrappers.

## Main results

* `HintedSql.Expression.EndsInJoin.not_reaches` — what ends in a join reaches no table.
-/

namespace HintedSql.Expression

/-! ## Nodes and predicates -/

/-- All nodes, every input before its parent and a left input before a right one. -/
def nodes : Expression → List Expression
  | table t => [table t]
  | selection input p => input.nodes ++ [selection input p]
  | projection input columns => input.nodes ++ [projection input columns]
  | join kind left right on => left.nodes ++ right.nodes ++ [join kind left right on]

/-- The predicate of a selection; the condition of a join is none. -/
def predicate? : Expression → Option Condition
  | selection _ p => some p
  | _ => none

/-- The predicates of all selections, each once, in the order of the nodes. -/
def predicates (e : Expression) : List Condition :=
  e.nodes.filterMap predicate?

/-- A table has no predicates. -/
@[simp] lemma predicates_table (t : Table) : (table t).predicates = [] := rfl

/-- A selection adds its condition behind the predicates of its input. -/
@[simp] lemma predicates_selection (input : Expression) (p : Condition) :
    (selection input p).predicates = input.predicates ++ [p] := by
  simp [predicates, nodes, predicate?]

/-- A projection has the predicates of its input. -/
@[simp] lemma predicates_projection (input : Expression) (columns : List String) :
    (projection input columns).predicates = input.predicates := by
  simp [predicates, nodes, predicate?]

/-- A join has the predicates of its left input and then those of its right input. -/
@[simp] lemma predicates_join (kind : JoinKind) (left right : Expression) (on : Condition) :
    (join kind left right on).predicates = left.predicates ++ right.predicates := by
  simp [predicates, nodes, predicate?]

/-- An expression is one of its own nodes. -/
lemma self_mem_nodes (e : Expression) : e ∈ e.nodes := by
  cases e <;> simp [nodes]

/-! ## Wrappers -/

/-- The input of a selection or projection. -/
def input? : Expression → Option Expression
  | selection input _ => some input
  | projection input _ => some input
  | _ => none

/-- The table below any number of selections and projections. -/
inductive Reaches : Expression → Table → Prop
  | table (t : Table) : Reaches (table t) t
  | selection {input : Expression} {t : Table} (p : Condition) :
    Reaches input t → Reaches (selection input p) t
  | projection {input : Expression} {t : Table} (columns : List String) :
    Reaches input t → Reaches (projection input columns) t

/-- A join stands below the selections and projections, of which there may be none. -/
inductive EndsInJoin : Expression → Prop
  | join (kind : JoinKind) (left right : Expression) (on : Condition) :
    EndsInJoin (join kind left right on)
  | selection {input : Expression} (p : Condition) :
    EndsInJoin input → EndsInJoin (selection input p)
  | projection {input : Expression} (columns : List String) :
    EndsInJoin input → EndsInJoin (projection input columns)

/-- What ends in a join reaches no table. -/
theorem EndsInJoin.not_reaches {e : Expression} (h : e.EndsInJoin) (t : Table) :
    ¬ e.Reaches t := by
  induction h with
  | join => rintro ⟨⟩
  | selection p _ ih => rintro ⟨⟩; exact ih ‹_›
  | projection columns _ ih => rintro ⟨⟩; exact ih ‹_›

end HintedSql.Expression
