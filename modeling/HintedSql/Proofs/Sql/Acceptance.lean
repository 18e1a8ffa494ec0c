import HintedSql.Proofs.Sql.ClosedForm
import HintedSql.Sql.Hint
set_option relaxedAutoImplicit false
set_option autoImplicit false

/-!
# Which expressions compile

A chain is a table under any number of selections and projections. What compiles is a chain, a join
of two chains, or one selection or projection directly over such a join. All other expressions are
refused in one of two ways: a join below two or more wrappers is reported with the kind of the outer
wrapper's input, and a join with an input that is no chain is reported as a missing table. Hints
change nothing about either.

## Main definitions

* `HintedSql.Expression.IsChain`, `HintedSql.Sql.Accepted`.
* `HintedSql.Expression.BuriesJoin`, `HintedSql.Expression.JoinsJoin` — the refused expressions.

## Main results

* `HintedSql.Sql.exists_hasSource_iff` — what has a source is accepted.
* `HintedSql.Sql.sourceOf_eq_unsupportedFrom_iff`, `HintedSql.Sql.sourceOf_eq_missingTable_iff` —
  how a source can fail.
* `HintedSql.Sql.HasSource.filter_isJoin_nodes` — the joins of an accepted expression.
* `HintedSql.Sql.compile_classification` — the three outcomes, with and without hints.
-/

namespace HintedSql

namespace Expression

/-! ## Kinds of expressions -/

/-- A table under any number of selections and projections. -/
def IsChain (e : Expression) : Prop :=
  ∃ t, e.Reaches t

/-- Whether the outermost node is a join. -/
def isJoin : Expression → Bool
  | join _ _ _ _ => true
  | _ => false

/-- A selection or projection whose input is again one, of the given kind, with a join below. -/
def BuriesJoin (e : Expression) (kind : String) : Prop :=
  ∃ w, e.input? = some w ∧ w.input?.isSome ∧ w.kind = kind ∧ w.EndsInJoin

/-- A join, possibly under one selection or projection, with an input that ends in a join. -/
def JoinsJoin (e : Expression) : Prop :=
  ∃ kind left right on,
    (e = join kind left right on ∨ e.input? = some (join kind left right on)) ∧
      (left.EndsInJoin ∨ right.EndsInJoin)

/-- A chain has no joins. -/
theorem Reaches.filter_isJoin_nodes {e : Expression} {t : Table} (h : e.Reaches t) :
    e.nodes.filter isJoin = [] := by
  induction h with
  | table => rfl
  | selection p _ ih => simp [nodes, ih, isJoin]
  | projection columns _ ih => simp [nodes, ih, isJoin]

/-- The source node has all joins of the expression. -/
lemma filter_isJoin_nodes_sourceNode (e : Expression) :
    e.sourceNode.nodes.filter isJoin = e.nodes.filter isJoin := by
  cases e <;> simp [sourceNode, input?, nodes, isJoin]

end Expression

namespace Sql

/-- The expressions that compile. -/
inductive Accepted : Expression → Prop
  | chain {e : Expression} : e.IsChain → Accepted e
  | join {left right : Expression} (kind : JoinKind) (on : Condition) :
    left.IsChain → right.IsChain → Accepted (.join kind left right on)
  | selection {left right : Expression} (kind : JoinKind) (on p : Condition) :
    left.IsChain → right.IsChain → Accepted (.selection (.join kind left right on) p)
  | projection {left right : Expression} (kind : JoinKind) (on : Condition)
    (columns : List String) :
    left.IsChain → right.IsChain → Accepted (.projection (.join kind left right on) columns)

/-! ## Success -/

/-- An expression is accepted exactly if its source node has a source. -/
theorem exists_hasSource_iff {e : Expression} :
    (∃ source, HasSource e.sourceNode source) ↔ Accepted e := by
  constructor
  · rintro ⟨source, h⟩
    cases e with
    | table t => exact .chain ⟨t, .table t⟩
    | join kind left right on =>
      obtain h | ⟨_, _, hl, hr⟩ := h
      · exact .chain ⟨_, h⟩
      · exact .join kind on ⟨_, hl⟩ ⟨_, hr⟩
    | selection input p =>
      change HasSource input source at h
      obtain h | ⟨kind, on, hl, hr⟩ := h
      · exact .chain ⟨_, h.selection p⟩
      · exact .selection kind on p ⟨_, hl⟩ ⟨_, hr⟩
    | projection input columns =>
      change HasSource input source at h
      obtain h | ⟨kind, on, hl, hr⟩ := h
      · exact .chain ⟨_, h.projection columns⟩
      · exact .projection kind on columns ⟨_, hl⟩ ⟨_, hr⟩
  · intro h
    cases h with
    | chain h =>
      obtain ⟨t, h⟩ := h
      refine ⟨.table t, .table ?_⟩
      cases h with
      | table => exact .table t
      | selection p h => exact h
      | projection columns h => exact h
    | join kind on hl hr => exact ⟨_, .join kind on hl.choose_spec hr.choose_spec⟩
    | selection kind on p hl hr => exact ⟨_, .join kind on hl.choose_spec hr.choose_spec⟩
    | projection kind on columns hl hr => exact ⟨_, .join kind on hl.choose_spec hr.choose_spec⟩

/-- A node with a source has one join if it is a join, and none otherwise. -/
theorem HasSource.filter_isJoin_nodes {e : Expression} {source : Source} (h : HasSource e source) :
    e.nodes.filter Expression.isJoin = if e.isJoin then [e] else [] := by
  cases h with
  | table h =>
    rw [h.filter_isJoin_nodes]
    cases h <;> rfl
  | join kind on hl hr =>
    simp [Expression.nodes, hl.filter_isJoin_nodes, hr.filter_isJoin_nodes, Expression.isJoin]

/-- The only join that an expression with a source can have is the source itself: it is compiled
from the tables of its two inputs. -/
lemma HasSource.eq_join_of_mem_nodes {e : Expression} {source : Source}
    (h : HasSource e.sourceNode source) {kind : JoinKind} {left right : Expression}
    {on : Condition} (hmem : .join kind left right on ∈ e.nodes) :
    ∃ l r, left.Reaches l ∧ right.Reaches r ∧ source = .join kind l r on := by
  have hjoin : .join kind left right on ∈ e.nodes.filter Expression.isJoin :=
    List.mem_filter.mpr ⟨hmem, rfl⟩
  rw [← e.filter_isJoin_nodes_sourceNode, h.filter_isJoin_nodes] at hjoin
  have heq : e.sourceNode = .join kind left right on := by
    split at hjoin
    · exact (List.mem_singleton.mp hjoin).symm
    · exact absurd hjoin List.not_mem_nil
  rw [heq] at h
  obtain h | ⟨_, _, hl, hr⟩ := h
  · exact absurd h ((Expression.EndsInJoin.join kind left right on).not_reaches _)
  · exact ⟨_, _, hl, hr, rfl⟩

/-! ## Failure -/

/-- A join has no source if one of its inputs ends in a join. -/
lemma joinSource_eq_error_iff {kind : JoinKind} {left right : Expression} {on : Condition}
    {err : CompileError} :
    joinSource kind left right on = .error err ↔
      (left.EndsInJoin ∨ right.EndsInJoin) ∧ err = .missingTable "join" := by
  cases hl : baseTable left with
  | error f =>
    obtain ⟨hleft, rfl⟩ := baseTable_eq_error_iff.mp hl
    simp [joinSource, hl, bind, Except.bind, hleft, eq_comm]
  | ok l =>
    have hleft : ¬ left.EndsInJoin := fun h => h.not_reaches l (baseTable_eq_ok_iff.mp hl)
    cases hr : baseTable right with
    | error f =>
      obtain ⟨hright, rfl⟩ := baseTable_eq_error_iff.mp hr
      simp [joinSource, hl, hr, bind, Except.bind, hright, eq_comm]
    | ok r =>
      have hright : ¬ right.EndsInJoin := fun h => h.not_reaches r (baseTable_eq_ok_iff.mp hr)
      simp [joinSource, hl, hr, bind, Except.bind, pure, Except.pure, hleft, hright]

/-- A wrapper has no source if it ends in a join. Its own kind is reported, however far below it
the join lies. -/
lemma sourceOf_wrapper_eq_error_iff {w : Expression} (hw : w.input?.isSome)
    {err : CompileError} :
    sourceOf w = .error err ↔ w.EndsInJoin ∧ err = .unsupportedFrom w.kind := by
  cases h : baseTable w with
  | error f =>
    have hsource : sourceOf w = .error (.unsupportedFrom w.kind) := by
      cases w with
      | table | join => simp [Expression.input?] at hw
      | selection | projection => simp [sourceOf, h]
    simp [hsource, (baseTable_eq_error_iff.mp h).1, eq_comm]
  | ok t =>
    have hsource : sourceOf w = .ok (.table t) := by
      cases w with
      | table | join => simp [Expression.input?] at hw
      | selection | projection => simp [sourceOf, h]
    have hjoin : ¬ w.EndsInJoin := fun he => he.not_reaches t (baseTable_eq_ok_iff.mp h)
    simp [hsource, hjoin]

/-- Only a wrapper reports an unsupported FROM clause. -/
theorem sourceOf_eq_unsupportedFrom_iff {e : Expression} {kind : String} :
    sourceOf e = .error (.unsupportedFrom kind) ↔
      e.input?.isSome ∧ e.kind = kind ∧ e.EndsInJoin := by
  by_cases hw : e.input?.isSome
  · rw [sourceOf_wrapper_eq_error_iff hw]
    simp [hw, and_comm, eq_comm]
  · have hnot : sourceOf e ≠ .error (.unsupportedFrom kind) := by
      cases e with
      | table t => simp [sourceOf]
      | join k left right on => simp [sourceOf, joinSource_eq_error_iff]
      | selection | projection => simp [Expression.input?] at hw
    simp [hw, hnot]

/-- Only a join reports a missing table. -/
theorem sourceOf_eq_missingTable_iff {e : Expression} {kind : String} :
    sourceOf e = .error (.missingTable kind) ↔
      kind = "join" ∧ ∃ k left right on, e = .join k left right on ∧
        (left.EndsInJoin ∨ right.EndsInJoin) := by
  cases e with
  | table t => simp [sourceOf]
  | selection input p =>
    rw [sourceOf_wrapper_eq_error_iff rfl]
    simp
  | projection input columns =>
    rw [sourceOf_wrapper_eq_error_iff rfl]
    simp
  | join k left right on =>
    rw [sourceOf, joinSource_eq_error_iff]
    constructor
    · rintro ⟨h, hkind⟩
      exact ⟨CompileError.missingTable.inj hkind, k, left, right, on, rfl, h⟩
    · rintro ⟨rfl, k', left', right', on', heq, h⟩
      cases heq
      exact ⟨h, rfl⟩

/-- Compiling fails exactly as the source of the source node does. -/
lemma compile_eq_error_iff {e : Expression} {err : CompileError} :
    compile e = .error err ↔ sourceOf e.sourceNode = .error err := by
  rw [compile, statement_eq_map_sourceOf]
  cases sourceOf e.sourceNode <;> simp [Functor.map, Except.map]

/-- An unsupported FROM clause is reported for a join below two or more wrappers. -/
lemma compile_eq_unsupportedFrom_iff {e : Expression} {kind : String} :
    compile e = .error (.unsupportedFrom kind) ↔ e.BuriesJoin kind := by
  rw [compile_eq_error_iff, sourceOf_eq_unsupportedFrom_iff]
  cases e <;> simp [Expression.BuriesJoin, Expression.sourceNode, Expression.input?]

/-- A missing table is reported for a join, possibly below one wrapper, that joins a join. -/
lemma compile_eq_missingTable_iff {e : Expression} {kind : String} :
    compile e = .error (.missingTable kind) ↔ kind = "join" ∧ e.JoinsJoin := by
  rw [compile_eq_error_iff, sourceOf_eq_missingTable_iff]
  cases e <;> simp [Expression.JoinsJoin, Expression.sourceNode, Expression.input?]

/-- Hints are put behind a statement and cannot make one fail. -/
lemma toSql_eq_error_iff {e : Expression} {o : Options} {err : CompileError} :
    toSql e o = .error err ↔ compile e = .error err := by
  rw [toSql]
  cases compile e <;> simp [Functor.map, Except.map]

/-! ## The three outcomes -/

/-- **Acceptance.** Chains, joins of two chains and one wrapper directly over such a join compile,
and nothing else does. A wrapper whose input is a wrapper of some kind above a join is refused with
that kind, and a join of a join as a missing table. An expression that compiles has at most one
join, and the join stands in the text with the tables of both its inputs. Requests fail as their
expressions do, whatever their hints. -/
theorem compile_classification (e : Expression) :
    ((∃ s, compile e = .ok s) ↔ Accepted e) ∧
    (∀ kind, compile e = .error (.unsupportedFrom kind) ↔ e.BuriesJoin kind) ∧
    (∀ kind, compile e = .error (.missingTable kind) ↔ kind = "join" ∧ e.JoinsJoin) ∧
    (∀ s, compile e = .ok s →
      (e.nodes.filter Expression.isJoin).length ≤ 1 ∧
      ∀ kind left right on, .join kind left right on ∈ e.nodes →
        ∃ l r, left.Reaches l ∧ right.Reaches r ∧
          s = "SELECT " ++ selectList e ++ "\n" ++ "FROM " ++ tableRef l ++ "\n" ++ kind.word
            ++ " JOIN " ++ tableRef r ++ " ON " ++ condition on ++ whereText e.predicates) ∧
    (∀ (o : Options) (err : CompileError), toSql e o = .error err ↔ compile e = .error err) ∧
    (∀ (o : Options) (err : CompileError),
      (Request.mk e o).toSql = .error err ↔ compile e = .error err) := by
  refine ⟨?_, fun kind => compile_eq_unsupportedFrom_iff, fun kind => compile_eq_missingTable_iff,
    ?_, fun o err => toSql_eq_error_iff, fun o err => toSql_eq_error_iff⟩
  · rw [← exists_hasSource_iff]
    simp only [compile_eq_ok_iff_hasSource]
    exact ⟨fun ⟨_, source, h, _⟩ => ⟨source, h⟩, fun ⟨source, h⟩ => ⟨_, source, h, rfl⟩⟩
  · intro s hs
    obtain ⟨source, hsource, rfl⟩ := compile_eq_ok_iff_hasSource.mp hs
    constructor
    · rw [← e.filter_isJoin_nodes_sourceNode, hsource.filter_isJoin_nodes]
      split <;> simp
    · intro kind left right on hmem
      obtain ⟨l, r, hl, hr, rfl⟩ := hsource.eq_join_of_mem_nodes hmem
      refine ⟨l, r, hl, hr, ?_⟩
      rw [render_statementOn]
      simp only [Source.render, String.append_assoc]

end Sql

end HintedSql
