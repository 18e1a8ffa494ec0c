import HintedSql.Request
import Mathlib.Tactic.Lemma
set_option relaxedAutoImplicit false
set_option autoImplicit false

/-!
# The literals of an expression

A document can only hold finite numbers, so a literal that is a double but not a finite one is
settled as null before it is written. Settling keeps an expression exactly if all its literals are
finite, and since nothing equals a double that is not finite but another double, a settled
expression equals the original in no other case.

## Main definitions

* `HintedSql.Condition.values`, `HintedSql.Expression.values` — the literals, from left to right.
* `HintedSql.Value.settled`, `HintedSql.Condition.settled`, `HintedSql.Expression.settled`,
  `HintedSql.Request.settled` — with null for every double that is not finite.

## Main results

* `HintedSql.Condition.settled_eq_self`, `HintedSql.Expression.settled_eq_self` — finite literals
  are settled.
* `HintedSql.Condition.settled_same_iff`, `HintedSql.Expression.settled_same_iff`,
  `HintedSql.Request.settled_same_iff` — when settling changes nothing.
-/

namespace HintedSql

namespace Value

/-- A value that is not a double, or a finite one. -/
def IsFinite : Value → Prop
  | float x => x.isFinite = true
  | _ => True

/-- A value as it can be written. -/
def settled : Value → Value
  | float x => if x.isFinite then float x else null
  | v => v

/-- A finite value can be written as it is. -/
theorem settled_eq_self {v : Value} (h : v.IsFinite) : v.settled = v := by
  cases v with
  | float x => exact if_pos h
  | null | bool _ | int _ | text _ => rfl

/-- Settling a value changes nothing exactly if the value is finite. -/
theorem settled_same_iff (v : Value) : v.settled.same v ↔ v.IsFinite := by
  cases v with
  | float x => cases x <;> simp [settled, Double.isFinite, IsFinite, same, Double.same]
  | null | bool _ | int _ | text _ => simp [settled, IsFinite, same]

end Value

namespace Condition

/-- The literals of a condition. -/
def values : Condition → List Value
  | compare _ _ value => [value]
  | connect _ left right => left.values ++ right.values

/-- Every double in the condition is finite. -/
def IsFinite (c : Condition) : Prop :=
  ∀ v ∈ c.values, v.IsFinite

/-- A condition as it can be written. -/
def settled : Condition → Condition
  | compare op column value => compare op column value.settled
  | connect op left right => connect op left.settled right.settled

/-- A comparison is finite if its literal is. -/
@[simp] lemma isFinite_compare (op : Comparison) (column : String) (value : Value) :
    (compare op column value).IsFinite ↔ value.IsFinite := by
  simp [IsFinite, values]

/-- A connection is finite if both of its sides are. -/
@[simp] lemma isFinite_connect (op : Connective) (left right : Condition) :
    (connect op left right).IsFinite ↔ left.IsFinite ∧ right.IsFinite := by
  simp only [IsFinite, values, List.forall_mem_append]

/-- A finite condition can be written as it is. -/
theorem settled_eq_self {c : Condition} (h : c.IsFinite) : c.settled = c := by
  induction c with
  | compare op column value =>
    rw [settled, Value.settled_eq_self ((isFinite_compare op column value).mp h)]
  | connect op left right ihl ihr =>
    obtain ⟨hl, hr⟩ := (isFinite_connect op left right).mp h
    rw [settled, ihl hl, ihr hr]

/-- Settling a condition changes nothing exactly if all its literals are finite. -/
theorem settled_same_iff (c : Condition) : c.settled.same c ↔ c.IsFinite := by
  induction c with
  | compare op column value => simp [settled, same, Value.settled_same_iff]
  | connect op left right ihl ihr => simp [settled, same, ihl, ihr]

end Condition

namespace Expression

/-- The literals of an expression. -/
def values : Expression → List Value
  | table _ => []
  | selection input predicate => input.values ++ predicate.values
  | projection input _ => input.values
  | join _ left right on => left.values ++ (right.values ++ on.values)

/-- Every double in the expression is finite. -/
def IsFinite (e : Expression) : Prop :=
  ∀ v ∈ e.values, v.IsFinite

/-- An expression as it can be written. -/
def settled : Expression → Expression
  | table t => table t
  | selection input predicate => selection input.settled predicate.settled
  | projection input columns => projection input.settled columns
  | join kind left right on => join kind left.settled right.settled on.settled

/-- A table has no literals. -/
@[simp] lemma isFinite_table (t : Table) : (table t).IsFinite := by
  simp [IsFinite, values]

/-- A selection is finite if its input and its condition are. -/
@[simp] lemma isFinite_selection (input : Expression) (predicate : Condition) :
    (selection input predicate).IsFinite ↔ input.IsFinite ∧ predicate.IsFinite := by
  simp only [IsFinite, Condition.IsFinite, values, List.forall_mem_append]

/-- A projection is finite if its input is. -/
@[simp] lemma isFinite_projection (input : Expression) (columns : List String) :
    (projection input columns).IsFinite ↔ input.IsFinite :=
  Iff.rfl

/-- A join is finite if its inputs and its condition are. -/
@[simp] lemma isFinite_join (kind : JoinKind) (left right : Expression) (on : Condition) :
    (join kind left right on).IsFinite ↔ left.IsFinite ∧ right.IsFinite ∧ on.IsFinite := by
  simp only [IsFinite, Condition.IsFinite, values, List.forall_mem_append]

/-- A finite expression can be written as it is. -/
theorem settled_eq_self {e : Expression} (h : e.IsFinite) : e.settled = e := by
  induction e with
  | table t => rfl
  | selection input predicate ih =>
    obtain ⟨hinput, hpredicate⟩ := (isFinite_selection input predicate).mp h
    rw [settled, ih hinput, Condition.settled_eq_self hpredicate]
  | projection input columns ih =>
    rw [settled, ih ((isFinite_projection input columns).mp h)]
  | join kind left right on ihl ihr =>
    obtain ⟨hl, hr, hon⟩ := (isFinite_join kind left right on).mp h
    rw [settled, ihl hl, ihr hr, Condition.settled_eq_self hon]

/-- Settling an expression changes nothing exactly if all its literals are finite. -/
theorem settled_same_iff (e : Expression) : e.settled.same e ↔ e.IsFinite := by
  induction e with
  | table t => simp [settled, same]
  | selection input predicate ih => simp [settled, same, ih, Condition.settled_same_iff]
  | projection input columns ih => simp [settled, same, ih]
  | join kind left right on ihl ihr =>
    simp [settled, same, ihl, ihr, Condition.settled_same_iff, and_assoc]

end Expression

namespace Request

/-- A request as it can be written. -/
def settled (r : Request) : Request :=
  { r with expression := r.expression.settled }

/-- Equality of requests where doubles are compared as numbers. -/
def same (r r' : Request) : Bool :=
  r.expression.same r'.expression && r.options == r'.options

/-- A request with a finite expression can be written as it is. -/
theorem settled_eq_self {r : Request} (h : r.expression.IsFinite) : r.settled = r := by
  rw [settled, Expression.settled_eq_self h]

/-- Settling a request changes nothing exactly if its expression is finite. -/
theorem settled_same_iff (r : Request) : r.settled.same r ↔ r.expression.IsFinite := by
  simp [settled, same, Expression.settled_same_iff]

end Request

end HintedSql
