import HintedSql.Sql.Clause
import Mathlib.Tactic.Lemma
set_option relaxedAutoImplicit false
set_option autoImplicit false

/-!
# Conjoined clauses

Clauses are merged pairwise, and the text of the result depends only on the bodies that went into
it and on their order: it is the bodies with `AND` between them. `WhereClause.conjunction` is that
text in one step, and merging two conjunctions concatenates their lists of bodies.

## Main definitions

* `HintedSql.Sql.WhereClause.conjunction` — the clause with the given bodies.

## Main results

* `HintedSql.Sql.WhereClause.conjunction_append` — merging is concatenation.
* `HintedSql.Sql.WhereClause.render_conjunction` — the line of a conjunction in a statement.
-/

namespace HintedSql.Sql.WhereClause

/-- The clause that demands all of the given bodies, in this order. -/
def conjunction (bodies : List String) : WhereClause :=
  if bodies = [] then empty else ofText (String.intercalate " AND " bodies)

/-- An empty clause adds nothing in front. -/
@[simp] lemma empty_and (w : WhereClause) : empty.and w = w := by
  obtain ⟨_ | _⟩ := w <;> rfl

/-- An empty clause adds nothing behind. -/
@[simp] lemma and_empty (w : WhereClause) : w.and empty = w := by
  obtain ⟨_ | _⟩ := w <;> rfl

/-- No texts make an empty clause. -/
@[simp] lemma conjunction_nil : conjunction [] = empty := rfl

/-- With at least one body the clause is present. -/
lemma conjunction_of_ne_nil {bodies : List String} (h : bodies ≠ []) :
    conjunction bodies = ofText (String.intercalate " AND " bodies) :=
  if_neg h

/-- Merging two conjunctions concatenates their bodies.

**Proof sketch.** An absent side is neutral. With both sides present the two texts are joined by
the same separator that stands inside each of them. -/
theorem conjunction_append (xs ys : List String) :
    conjunction (xs ++ ys) = (conjunction xs).and (conjunction ys) := by
  by_cases hx : xs = []
  · simp [hx]
  by_cases hy : ys = []
  · simp [hy]
  have hxy : xs ++ ys ≠ [] := by simp [hx]
  rw [conjunction_of_ne_nil hx, conjunction_of_ne_nil hy, conjunction_of_ne_nil hxy,
    String.intercalate_append_of_ne_nil hx hy]
  rfl

/-- A clause made from one condition is a conjunction of one body. -/
lemma ofCondition_eq_conjunction (c : Condition) :
    ofCondition c = conjunction [condition c] := by
  rw [conjunction_of_ne_nil (List.cons_ne_nil _ _), String.intercalate_singleton]
  rfl

/-- The line of a conjunction stands in a statement only if there is a body. -/
theorem render_conjunction (bodies : List String) :
    (conjunction bodies).render =
      if bodies = [] then none else some ("WHERE " ++ String.intercalate " AND " bodies) := by
  by_cases h : bodies = []
  · simp [h, empty, render]
  · simp [conjunction_of_ne_nil h, h, ofText, render]

end HintedSql.Sql.WhereClause
