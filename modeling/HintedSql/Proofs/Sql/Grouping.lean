import HintedSql.Proofs.Sql.Clause
import Mathlib.Tactic.Lemma
set_option relaxedAutoImplicit false
set_option autoImplicit false

/-!
# Merging does not depend on grouping

Clauses are merged two at a time, and a statement is built from merges that are grouped in many
ways: along chains, from both sides of a join, or in front of what is there. All groupings of the
same clauses give the same clause, the conjunction of those that are present. A clause with an empty
body is present.

A run of steps that set, extend or precede a clause is one more grouping: it is told by the order
into which the steps bring their operands.

## Main definitions

* `HintedSql.Sql.Grouping` — clauses grouped for merging.
* `HintedSql.Sql.MergeStep`, `HintedSql.Sql.MergeStep.run` — steps that change a clause.
* `HintedSql.Sql.MergeStep.operands` — the operands of a run, in the order of the result.

## Main results

* `HintedSql.Sql.Grouping.merged_eq_conjunction` — what a grouping is merged to.
* `HintedSql.Sql.MergeStep.run_eq_conjunction` — what a run leads to.
* `HintedSql.Sql.Grouping.merged_closed_form` — all of this in one statement.
-/

namespace HintedSql.Sql

/-! ## Clauses that are present -/

namespace WhereClause

/-- A clause that is said to be empty is the empty clause. -/
lemma isEmpty_eq_true_iff {w : WhereClause} : w.isEmpty = true ↔ w = empty := by
  obtain ⟨_ | body⟩ := w <;> simp [isEmpty, empty]

/-- The bodies of the clauses that are present. -/
def bodies (ws : List WhereClause) : List String :=
  ws.filterMap body

/-- The bodies of joined clauses are joined. -/
lemma bodies_append (ws vs : List WhereClause) : bodies (ws ++ vs) = bodies ws ++ bodies vs :=
  List.filterMap_append

/-- There are no bodies only if no clause is present. -/
lemma bodies_eq_nil_iff {ws : List WhereClause} :
    bodies ws = [] ↔ ∀ w ∈ ws, w.isEmpty = true := by
  simp [bodies, isEmpty]

/-- One clause is the conjunction of its body, if it has one. -/
lemma conjunction_bodies_singleton (w : WhereClause) : conjunction (bodies [w]) = w := by
  obtain ⟨_ | body⟩ := w
  · rfl
  · have hbodies : bodies [⟨some body⟩] = [body] := rfl
    rw [hbodies, conjunction_of_ne_nil (List.cons_ne_nil _ _), String.intercalate_singleton]
    rfl

/-- A conjunction is empty if it is of no texts. -/
lemma conjunction_eq_empty_iff {texts : List String} :
    conjunction texts = empty ↔ texts = [] := by
  by_cases h : texts = []
  · simp [h]
  · simp [conjunction_of_ne_nil h, ofText, empty, h]

end WhereClause

open WhereClause

/-! ## Groupings -/

/-- Clauses grouped for merging. -/
inductive Grouping where
  | clause (w : WhereClause)
  | and (left right : Grouping)
deriving Repr

namespace Grouping

/-- The clauses from left to right. -/
def clauses : Grouping → List WhereClause
  | clause w => [w]
  | and left right => left.clauses ++ right.clauses

/-- Merge the groups from the inside out. -/
def merged : Grouping → WhereClause
  | clause w => w
  | and left right => left.merged.and right.merged

/-- **A grouping is merged to the conjunction of the clauses that are present.** -/
theorem merged_eq_conjunction (g : Grouping) : g.merged = conjunction (bodies g.clauses) := by
  induction g with
  | clause w => exact (conjunction_bodies_singleton w).symm
  | and left right ihl ihr =>
    rw [merged, clauses, ihl, ihr, bodies_append, conjunction_append]

end Grouping

/-! ## Runs -/

/-- A step that changes a clause. -/
inductive MergeStep where
  /-- Replace the clause. -/
  | set (w : WhereClause)
  /-- Demand more, behind what is demanded. -/
  | and (w : WhereClause)
  /-- Demand more, in front of what is demanded. -/
  | before (w : WhereClause)
deriving Repr

namespace MergeStep

/-- Take a step. -/
def apply (v : WhereClause) : MergeStep → WhereClause
  | set w => w
  | and w => v.and w
  | before w => w.and v

/-- Where a step puts its operand among those that count before it. -/
def place (ws : List WhereClause) : MergeStep → List WhereClause
  | set w => [w]
  | and w => ws ++ [w]
  | before w => w :: ws

/-- Take steps from the clause without a condition. -/
def run (steps : List MergeStep) : WhereClause :=
  steps.foldl apply .empty

/-- The operands that count after a run, in order. -/
def operands (steps : List MergeStep) : List WhereClause :=
  steps.foldl place []

/-- A step keeps the clause the conjunction of the operands. -/
lemma apply_conjunction (ws : List WhereClause) (step : MergeStep) :
    step.apply (conjunction (bodies ws)) = conjunction (bodies (step.place ws)) := by
  cases step with
  | set w => exact (conjunction_bodies_singleton w).symm
  | and w => rw [apply, place, bodies_append, conjunction_append, conjunction_bodies_singleton]
  | before w =>
    rw [apply, place, ← List.singleton_append, bodies_append, conjunction_append,
      conjunction_bodies_singleton]

/-- What the steps have merged so far is the conjunction of what they have placed. -/
lemma foldl_apply_conjunction (ws : List WhereClause) (steps : List MergeStep) :
    steps.foldl apply (conjunction (bodies ws)) = conjunction (bodies (steps.foldl place ws)) := by
  induction steps generalizing ws with
  | nil => rfl
  | cons step steps ih => rw [List.foldl_cons, apply_conjunction, ih, List.foldl_cons]

/-- **A run leads to the conjunction of its operands.** -/
theorem run_eq_conjunction (steps : List MergeStep) :
    run steps = conjunction (bodies (operands steps)) :=
  foldl_apply_conjunction [] steps

end MergeStep

/-- **Merging is independent of grouping.** A grouping is merged to the clause that renders nothing
if and only if none of its clauses is present. Otherwise its body is the bodies of the clauses that
are present, in order and with `AND` between them, and it renders as this body behind `WHERE`. So
another grouping of the same clauses is merged to the same clause, and so is a run with these
operands; and the operands of a run alone, in their order, determine what it leads to. -/
theorem Grouping.merged_closed_form (g : Grouping) :
    (g.merged.isEmpty = true ↔ ∀ w ∈ g.clauses, w.isEmpty = true) ∧
    (g.merged.isEmpty = true → g.merged = .empty ∧ g.merged.render = none) ∧
    (g.merged.isEmpty = false →
      g.merged.body = some (String.intercalate " AND " (g.clauses.filterMap body)) ∧
      g.merged.render = some ("WHERE " ++ String.intercalate " AND " (g.clauses.filterMap body))) ∧
    (∀ g' : Grouping, g'.clauses = g.clauses → g'.merged = g.merged) ∧
    (∀ steps, MergeStep.operands steps = g.clauses → MergeStep.run steps = g.merged) ∧
    (∀ steps steps', MergeStep.operands steps = MergeStep.operands steps' →
      MergeStep.run steps = MergeStep.run steps') := by
  have hempty : g.merged.isEmpty = true ↔ bodies g.clauses = [] := by
    rw [isEmpty_eq_true_iff, merged_eq_conjunction, conjunction_eq_empty_iff]
  refine ⟨hempty.trans bodies_eq_nil_iff, fun h => ?_, fun h => ?_, fun g' h => ?_,
    fun steps h => ?_, fun steps steps' h => ?_⟩
  · have hmerged := isEmpty_eq_true_iff.mp h
    exact ⟨hmerged, by rw [hmerged]; rfl⟩
  · have hne : bodies g.clauses ≠ [] := by
      rw [Ne, ← hempty]
      simp [h]
    rw [merged_eq_conjunction, render_conjunction, if_neg hne, conjunction_of_ne_nil hne]
    exact ⟨rfl, rfl⟩
  · rw [merged_eq_conjunction, merged_eq_conjunction, h]
  · rw [MergeStep.run_eq_conjunction, h, merged_eq_conjunction]
  · rw [MergeStep.run_eq_conjunction, MergeStep.run_eq_conjunction, h]

/-- A clause with an empty body, none, and one more, grouped to the right. -/
def hollowGrouping : Grouping :=
  .and (.clause (.ofText "")) (.and (.clause .empty) (.clause (.ofText "a = 1")))

/-- A clause with an empty body counts, one without a body does not. -/
theorem hollowGrouping_merged :
    hollowGrouping.merged.render = some "WHERE  AND a = 1" ∧
      MergeStep.run [.set (.ofText "b = 2"), .set (.ofText "a = 1"), .before .empty,
        .before (.ofText "")] = hollowGrouping.merged := by
  obtain ⟨-, -, hbody, -, hrun, -⟩ := hollowGrouping.merged_closed_form
  exact ⟨(hbody (by decide)).2, hrun _ (by decide)⟩

end HintedSql.Sql
