import HintedSql.Proofs.Sql.ClosedForm
import HintedSql.Script.Basic
set_option relaxedAutoImplicit false
set_option autoImplicit false

/-!
# The query of a script is the text of a statement

A script lists the lines of its query at once: the columns, the table, the conditions if there are
any, and the hints. An expression is compiled to a statement whose clause is merged from those of
its selections, and the hints are put behind the finished text. Both write the same statement, so a
table under selections and a projection has the text of the script with its parts.

## Main results

* `HintedSql.Script.toSql_eq_withHints` — the query of a script is that of a statement.
* `HintedSql.Sql.compile_project_foldl_select` — the statement of a table under selections and a
  projection.
* `HintedSql.Script.toSql_eq_toSql_of_chain` — both texts agree.
-/

namespace HintedSql

/-! ## Tables under selections -/

namespace Expression

/-- Selections do not change the table below. -/
lemma Reaches.foldl_select {e : Expression} {t : Table} (h : e.Reaches t)
    (conditions : List Condition) : (conditions.foldl select e).Reaches t := by
  induction conditions generalizing e with
  | nil => exact h
  | cons c conditions ih => exact ih (h.selection c)

/-- Selections add their predicates in order. -/
lemma predicates_foldl_select (e : Expression) (conditions : List Condition) :
    (conditions.foldl select e).predicates = e.predicates ++ conditions := by
  induction conditions generalizing e with
  | nil => simp
  | cons c conditions ih =>
    rw [List.foldl_cons, ih, select, predicates_selection, List.append_assoc,
      List.singleton_append]

end Expression

namespace Sql

/-- A table under selections and a projection is one statement. -/
theorem compile_project_foldl_select (t : Table) (conditions : List Condition)
    (columns : List String) :
    compile ((conditions.foldl Expression.select (.table t)).project columns) =
      .ok (Statement.render
        ⟨columns, .table t, .conjunction (conditions.map condition)⟩) := by
  have hreaches := (Expression.Reaches.table t).foldl_select conditions
  have hfilter := filter_eq_conjunction
    ((conditions.foldl Expression.select (.table t)).project columns)
  rw [Expression.project, Expression.predicates_projection, Expression.predicates_foldl_select,
    Expression.predicates_table, List.nil_append] at hfilter
  rw [compile_eq_ok_iff_hasSource]
  refine ⟨.table t, .table hreaches, ?_⟩
  unfold statementOn
  rw [Expression.project, hfilter]
  rfl

/-- The lines of a statement and the hint lines are one list of lines.

**Proof sketch.** Without hints there is nothing behind the text. Otherwise the text of the
statement, itself joined from lines, comes first in a list that is joined in the same way. -/
lemma withHints_render (s : Statement) (o : Options) :
    withHints s.render o =
      String.intercalate "\n"
        (["SELECT " ++ columnList s.columns, s.source.render] ++ s.filter.render.toList
          ++ hints o) := by
  rw [withHints_of_ne_empty s.render_ne_empty]
  unfold Statement.render
  by_cases hnone : hints o = []
  · rw [hnone, String.intercalate_singleton, List.append_nil]
  · rw [String.intercalate_cons_of_ne_nil hnone,
      String.intercalate_append_of_ne_nil (by simp) hnone]

end Sql

namespace Script

/-- The query of a script is the text of a statement with hints. -/
theorem toSql_eq_withHints {s : Script} {t : Table} (h : s.table = some (Sql.tableRef t)) :
    s.toSql = .ok (Sql.withHints
      (Sql.Statement.render ⟨s.columns, .table t, .conjunction s.filters⟩) s.options) := by
  have hcondition :
      (if s.filters.isEmpty then [] else ["WHERE " ++ String.intercalate " AND " s.filters]) =
        (Sql.WhereClause.conjunction s.filters).render.toList := by
    rw [Sql.WhereClause.render_conjunction]
    by_cases hfilters : s.filters = []
    · simp [hfilters]
    · simp [hfilters]
  unfold toSql
  rw [h, Sql.withHints_render]
  dsimp only
  rw [hcondition]
  rfl

/-- **Scripts and expressions agree.** If the table and the conditions of a script are written as
those of a table and of conditions are, then its query is the text of that table under selections
with these conditions, in this order, and a projection to the columns of the script, with the hints
of the script. -/
theorem toSql_eq_toSql_of_chain (s : Script) (t : Table) (conditions : List Condition)
    (htable : s.table = some (Sql.tableRef t))
    (hfilters : s.filters = conditions.map Sql.condition) :
    ∃ text, s.toSql = .ok text ∧
      Sql.toSql ((conditions.foldl Expression.select (.table t)).project s.columns) s.options =
        .ok text := by
  refine ⟨_, toSql_eq_withHints htable, ?_⟩
  rw [Sql.toSql, Sql.compile_project_foldl_select, hfilters]
  rfl

/-- A script with two conditions and all hints. -/
def activeUsers : Script where
  table := some "users AS u"
  filters := ["u.name = 'O''Brien'", "(u.active = TRUE OR u.level > 3)"]
  columns := ["u.id", "u.name"]
  timeWindow := some "LAST_7_DAYS"
  target := some .gcs
  lane := some "hot"

/-- The conditions that are written like those of the script. -/
def activeConditions : List Condition :=
  [.eq "u.name" (.text "O'Brien"),
    .or (.eq "u.active" (.bool true)) (.gt "u.level" (.int 3))]

/-- A script with conditions and the expression it stands for. -/
theorem activeUsers_agrees :
    (activeUsers.table = some (Sql.tableRef ⟨"users", some "u"⟩) ∧
      activeUsers.filters = activeConditions.map Sql.condition) ∧
    ∃ text, activeUsers.toSql = .ok text ∧
      Sql.toSql ((activeConditions.foldl Expression.select
        (.table ⟨"users", some "u"⟩)).project activeUsers.columns) activeUsers.options =
          .ok text := by
  have htable : activeUsers.table = some (Sql.tableRef ⟨"users", some "u"⟩) := by decide
  have hfilters : activeUsers.filters = activeConditions.map Sql.condition := by decide +kernel
  exact ⟨⟨htable, hfilters⟩, toSql_eq_toSql_of_chain activeUsers _ _ htable hfilters⟩

end Script

end HintedSql
