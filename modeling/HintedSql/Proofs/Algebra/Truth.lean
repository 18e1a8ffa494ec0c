import HintedSql.Algebra.Condition
import Mathlib.Tactic.Lemma
set_option relaxedAutoImplicit false
set_option autoImplicit false

/-!
# Three-valued truth of conditions

A comparison is true, false or unknown, and the connectives follow Kleene: a conjunction is as true
as its least true part, a disjunction as its most true one. What the comparisons mean is a
parameter, an assignment of a truth value to every comparison.

## Main definitions

* `HintedSql.Truth` with `HintedSql.Truth.and`, `HintedSql.Truth.or`, `HintedSql.Truth.all`.
* `HintedSql.Condition.truth` — the truth value of a condition under an assignment.
* `HintedSql.Condition.comparisons` — the comparisons in a condition.

## Main results

* `HintedSql.Truth.holds_all` — a conjunction is true exactly if all its parts are.
* `HintedSql.Condition.truth_congr` — the truth value depends on the comparisons of the condition
  alone.
-/

namespace HintedSql

/-- A truth value. -/
inductive Truth where
  | no
  | unknown
  | yes
deriving DecidableEq, Repr

namespace Truth

/-- The lesser of two truth values. -/
def and : Truth → Truth → Truth
  | no, _ => no
  | yes, t => t
  | unknown, no => no
  | unknown, _ => unknown

/-- The greater of two truth values. -/
def or : Truth → Truth → Truth
  | yes, _ => yes
  | no, t => t
  | unknown, yes => yes
  | unknown, _ => unknown

/-- The least of several truth values; of none, true. -/
def all (ts : List Truth) : Truth :=
  ts.foldr and yes

/-- Whether a truth value is true; what is unknown is not. -/
def holds (t : Truth) : Bool :=
  t == yes

/-- A conjunction holds if both sides do. -/
@[simp] lemma holds_and (s t : Truth) : (s.and t).holds = (s.holds && t.holds) := by
  cases s <;> cases t <;> rfl

/-- A condition that holds adds nothing to a conjunction. -/
@[simp] lemma and_yes (t : Truth) : t.and yes = t := by
  cases t <;> rfl

/-- Conjunctions may be regrouped, also where a truth value is unknown. -/
lemma and_assoc (s t u : Truth) : (s.and t).and u = s.and (t.and u) := by
  cases s <;> cases t <;> cases u <;> rfl

/-- Of no conditions all hold. -/
@[simp] lemma all_nil : all [] = yes := rfl

/-- The conjunction of several conditions is that of the first with the others. -/
@[simp] lemma all_cons (t : Truth) (ts : List Truth) : all (t :: ts) = t.and (all ts) := rfl

/-- A conjunction is true exactly if all its parts are. -/
theorem holds_all (ts : List Truth) : (all ts).holds = ts.all holds := by
  induction ts with
  | nil => rfl
  | cons t ts ih => simp [ih]

end Truth

/-- What a connective makes of two truth values. -/
def Connective.truth : Connective → Truth → Truth → Truth
  | and => Truth.and
  | or => Truth.or

/-- A truth value for every comparison of a column with a value. -/
abbrev Assignment := Comparison → String → Value → Truth

namespace Condition

/-- The truth value of a condition under an assignment. -/
def truth (assign : Assignment) : Condition → Truth
  | compare op column value => assign op column value
  | connect op left right => op.truth (left.truth assign) (right.truth assign)

/-- The comparisons in a condition, from left to right. -/
def comparisons : Condition → List (Comparison × String × Value)
  | compare op column value => [(op, column, value)]
  | connect _ left right => left.comparisons ++ right.comparisons

/-- Assignments that agree on the comparisons of a condition give it the same truth value. -/
theorem truth_congr {f g : Assignment} {c : Condition}
    (h : ∀ x ∈ c.comparisons, f x.1 x.2.1 x.2.2 = g x.1 x.2.1 x.2.2) : c.truth f = c.truth g := by
  induction c with
  | compare op column value => exact h _ (List.mem_singleton.mpr rfl)
  | connect op left right ihl ihr =>
    have hl := ihl fun x hx => h x (List.mem_append_left _ hx)
    have hr := ihr fun x hx => h x (List.mem_append_right _ hx)
    rw [truth, truth, hl, hr]

end Condition

end HintedSql
