import HintedSql.Proofs.Algebra.Shape
import HintedSql.Proofs.Sql.Clause
import HintedSql.Sql.Hint
import Mathlib.Tactic.Lemma
set_option relaxedAutoImplicit false
set_option autoImplicit false

/-!
# The text of a statement in closed form

A statement is compiled along three paths (for a projection, a selection and a join), and its
clauses by two recursions of their own. All paths agree with one description: the columns are those
of the root, the FROM clause is that of one node, the root or its input, and the WHERE clause lists
the predicates of all selections.

## Main definitions

* `HintedSql.Expression.sourceNode` — the node from which the FROM clause is derived.
* `HintedSql.Sql.selectList`, `HintedSql.Sql.FromText`, `HintedSql.Sql.whereText` — the three parts
  of the text.

## Main results

* `HintedSql.Sql.filter_eq_conjunction` — the merged clause of an expression is the conjunction of
  its predicates.
* `HintedSql.Sql.statement_eq_map_sourceOf` — the three paths as one.
* `HintedSql.Sql.compile_eq_ok_iff` — the closed form.
* `HintedSql.Sql.toSql_eq_map_compile` — hint lines always have a statement in front of them.
-/

namespace HintedSql

/-- The node from which the FROM clause is derived: the input of a selection or projection, and
any other expression itself. -/
def Expression.sourceNode (e : Expression) : Expression :=
  e.input?.getD e

/-- The columns that the root of an expression asks for; none stand for all of them. -/
def Expression.rootColumns : Expression → List String
  | .projection _ columns => columns
  | _ => []

namespace Sql

/-! ## The parts of the text -/

/-- What stands after `SELECT`: the columns of a projection at the root if it has any. -/
def selectList : Expression → String
  | .projection _ (column :: columns) => String.intercalate ", " (column :: columns)
  | _ => "*"

/-- The FROM clause of a node: the table it reaches, or the tables that the two inputs of a join
reach, with the condition of the join. -/
inductive FromText : Expression → String → Prop
  | table {e : Expression} {t : Table} :
    e.Reaches t → FromText e ("FROM " ++ tableRef t)
  | join {left right : Expression} {l r : Table} (kind : JoinKind) (on : Condition) :
    left.Reaches l → right.Reaches r →
      FromText (.join kind left right on)
        ("FROM " ++ tableRef l ++ "\n" ++ kind.word ++ " JOIN " ++ tableRef r ++ " ON "
          ++ condition on)

/-- The WHERE line with the line feed before it, or nothing if there is no predicate. -/
def whereText (predicates : List Condition) : String :=
  if predicates = [] then ""
  else "\nWHERE " ++ String.intercalate " AND " (predicates.map condition)

/-! ## Base tables and sources -/

/-- Resolution finds the table below the wrappers. -/
lemma baseTable_eq_ok_iff {e : Expression} {t : Table} :
    baseTable e = .ok t ↔ e.Reaches t := by
  constructor
  · intro h
    induction e with
    | table u =>
      obtain rfl : u = t := by simpa [baseTable] using h
      exact .table u
    | selection input p ih => exact .selection p (ih h)
    | projection input columns ih => exact .projection columns (ih h)
    | join => simp [baseTable] at h
  · intro h
    induction h with
    | table => rfl
    | selection p _ ih => exact ih
    | projection columns _ ih => exact ih

/-- Resolution fails, always in the same way, where a join stands below the wrappers. -/
lemma baseTable_eq_error_iff {e : Expression} {err : CompileError} :
    baseTable e = .error err ↔ e.EndsInJoin ∧ err = .missingTable "join" := by
  constructor
  · intro h
    induction e with
    | table => simp [baseTable] at h
    | selection input p ih => exact (ih h).imp_left (.selection p)
    | projection input columns ih => exact (ih h).imp_left (.projection columns)
    | join kind left right on =>
      refine ⟨.join kind left right on, ?_⟩
      simpa [baseTable, eq_comm] using h
  · rintro ⟨h, rfl⟩
    induction h with
    | join => rfl
    | selection p _ ih => exact ih
    | projection columns _ ih => exact ih

/-- The FROM clause of a join needs the tables below both inputs. -/
lemma joinSource_eq_ok_iff {kind : JoinKind} {left right : Expression} {on : Condition}
    {source : Source} :
    joinSource kind left right on = .ok source ↔
      ∃ l r, left.Reaches l ∧ right.Reaches r ∧ source = .join kind l r on := by
  simp only [← baseTable_eq_ok_iff]
  cases hl : baseTable left <;> cases hr : baseTable right <;>
    simp [joinSource, hl, hr, bind, Except.bind, pure, Except.pure, eq_comm]

/-- What a node is selected from: the table it reaches, or the two tables of a join. -/
inductive HasSource : Expression → Source → Prop
  | table {e : Expression} {t : Table} :
    e.Reaches t → HasSource e (.table t)
  | join {left right : Expression} {l r : Table} (kind : JoinKind) (on : Condition) :
    left.Reaches l → right.Reaches r →
      HasSource (.join kind left right on) (.join kind l r on)

/-- The derived source of a node is the one it has.

**Proof sketch.** A join is rebuilt from the tables of its inputs, and its inputs alone decide
whether that succeeds. Every other node has to reach a table, and then has that table as its
source; the remapped error of a wrapper plays no part in success. -/
lemma sourceOf_eq_ok_iff {e : Expression} {source : Source} :
    sourceOf e = .ok source ↔ HasSource e source := by
  constructor
  · intro h
    cases e with
    | table t =>
      obtain rfl : Source.table t = source := by simpa [sourceOf] using h
      exact .table (.table t)
    | join kind left right on =>
      obtain ⟨l, r, hl, hr, rfl⟩ := joinSource_eq_ok_iff.mp h
      exact .join kind on hl hr
    | selection input p =>
      cases ht : baseTable (.selection input p) with
      | error => simp [sourceOf, ht] at h
      | ok t =>
        obtain rfl : Source.table t = source := by simpa [sourceOf, ht] using h
        exact .table (baseTable_eq_ok_iff.mp ht)
    | projection input columns =>
      cases ht : baseTable (.projection input columns) with
      | error => simp [sourceOf, ht] at h
      | ok t =>
        obtain rfl : Source.table t = source := by simpa [sourceOf, ht] using h
        exact .table (baseTable_eq_ok_iff.mp ht)
  · intro h
    cases h with
    | table h =>
      have ht := baseTable_eq_ok_iff.mpr h
      cases h <;> simp_all [sourceOf, baseTable]
    | join kind on hl hr => exact joinSource_eq_ok_iff.mpr ⟨_, _, hl, hr, rfl⟩

/-- The FROM clause of a node is the text of its source. -/
lemma fromText_iff {e : Expression} {text : String} :
    FromText e text ↔ ∃ source, HasSource e source ∧ text = source.render := by
  constructor
  · rintro (h | ⟨kind, on, hl, hr⟩)
    · exact ⟨_, .table h, rfl⟩
    · exact ⟨_, .join kind on hl hr, rfl⟩
  · rintro ⟨source, h | ⟨kind, on, hl, hr⟩, rfl⟩
    · exact .table h
    · exact .join kind on hl hr

/-! ## Statements -/

/-- The merged clause of an expression is the conjunction of its predicates, in order.

**Proof sketch.** By induction on the expression: at each node the clauses of the inputs are merged
in the order in which the lists of predicates are concatenated. -/
theorem filter_eq_conjunction (e : Expression) :
    filter e = .conjunction (e.predicates.map condition) := by
  induction e with
  | table t => rfl
  | selection input p ih =>
    rw [filter, ih, WhereClause.ofCondition_eq_conjunction, ← WhereClause.conjunction_append]
    simp
  | projection input columns ih => simp [filter, ih]
  | join kind left right on ihl ihr =>
    rw [filter, ihl, ihr, ← WhereClause.conjunction_append]
    simp

/-- The statement of an expression on a given source. -/
def statementOn (e : Expression) (source : Source) : Statement :=
  ⟨e.rootColumns, source, filter e⟩

/-- The paths for the four kinds of root are one: derive the source of one node, then put the
columns of the root and the clause of all predicates around it. -/
theorem statement_eq_map_sourceOf (e : Expression) :
    statement e = statementOn e <$> sourceOf e.sourceNode := by
  cases e with
  | table t => rfl
  | selection input p =>
    change (sourceOf input >>= _) = _ <$> sourceOf input
    cases sourceOf input <;> rfl
  | projection input columns =>
    change (sourceOf input >>= _) = _ <$> sourceOf input
    cases sourceOf input <;> rfl
  | join kind left right on =>
    change (joinSource kind left right on >>= _) = _ <$> joinSource kind left right on
    cases joinSource kind left right on <;> rfl

/-- The text of a statement with given terms: SELECT list, FROM clause and WHERE line. -/
lemma Statement.render_mk_conjunction (columns : List String) (source : Source)
    (terms : List Condition) :
    render ⟨columns, source, .conjunction (terms.map condition)⟩ =
      "SELECT " ++ columnList columns ++ "\n" ++ source.render ++ whereText terms := by
  rw [render, WhereClause.render_conjunction, whereText]
  by_cases h : terms = []
  · simp [h, String.append_assoc]
  · simp only [h, List.map_eq_nil_iff, if_false, Option.toList_some, List.cons_append,
      List.nil_append, String.intercalate_cons_cons, String.intercalate_singleton,
      String.append_assoc]
    rfl

/-- The text of a statement: SELECT list of the root, FROM clause and WHERE line. -/
lemma render_statementOn (e : Expression) (source : Source) :
    (statementOn e source).render =
      "SELECT " ++ selectList e ++ "\n" ++ source.render ++ whereText e.predicates := by
  have hcolumns : columnList e.rootColumns = selectList e := by
    rcases e with _ | _ | ⟨_, _ | _⟩ | _ <;> rfl
  rw [statementOn, filter_eq_conjunction, Statement.render_mk_conjunction, hcolumns]

/-- An expression compiles exactly if its source node has a source. -/
lemma compile_eq_ok_iff_hasSource {e : Expression} {s : String} :
    compile e = .ok s ↔
      ∃ source, HasSource e.sourceNode source ∧ (statementOn e source).render = s := by
  simp only [compile, statement_eq_map_sourceOf, ← sourceOf_eq_ok_iff]
  cases sourceOf e.sourceNode <;> simp [Functor.map, Except.map]

/-- **The compiler in closed form.** An expression compiles to a text exactly if its source node
has a FROM clause, and then the text is the SELECT list of the root, that FROM clause, and the
predicates of all selections, inner before outer and left before right, with `AND` between them. -/
theorem compile_eq_ok_iff (e : Expression) (s : String) :
    compile e = .ok s ↔
      ∃ source, FromText e.sourceNode source ∧
        s = "SELECT " ++ selectList e ++ "\n" ++ source ++ whereText e.predicates := by
  rw [compile_eq_ok_iff_hasSource]
  constructor
  · rintro ⟨source, hsource, rfl⟩
    exact ⟨source.render, fromText_iff.mpr ⟨source, hsource, rfl⟩, render_statementOn e source⟩
  · rintro ⟨text, htext, rfl⟩
    obtain ⟨source, hsource, rfl⟩ := fromText_iff.mp htext
    exact ⟨source, hsource, render_statementOn e source⟩

/-! ## Hint lines -/

/-- A statement has a text. -/
lemma Statement.render_ne_empty (s : Statement) : s.render ≠ "" := by
  rw [render, List.cons_append, String.intercalate_cons_of_ne_nil (by simp)]
  simp

/-- No expression is compiled to the empty text. -/
lemma ne_empty_of_compile {e : Expression} {body : String} (h : compile e = .ok body) :
    body ≠ "" := by
  obtain ⟨source, -, rfl⟩ := compile_eq_ok_iff_hasSource.mp h
  exact Statement.render_ne_empty _

/-- Behind a text that is not empty every hint line begins a line of its own. -/
lemma withHints_of_ne_empty {body : String} (h : body ≠ "") (o : Options) :
    withHints body o = String.intercalate "\n" (body :: hints o) := by
  simp [withHints, h]

/-- **Hint lines always have a statement in front of them**: the text in front of them is never
empty, so that the case of an empty text plays no part. -/
theorem toSql_eq_map_compile (e : Expression) (o : Options) :
    toSql e o = (fun body => String.intercalate "\n" (body :: hints o)) <$> compile e := by
  rw [toSql]
  cases h : compile e with
  | error err => rfl
  | ok body => exact congrArg Except.ok (withHints_of_ne_empty (ne_empty_of_compile h) o)

end Sql

end HintedSql
