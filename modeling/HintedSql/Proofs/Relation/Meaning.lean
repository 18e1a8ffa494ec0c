import HintedSql.Proofs.Algebra.Truth
import HintedSql.Proofs.Relation.Basic
import HintedSql.Proofs.Sql.ClosedForm
set_option relaxedAutoImplicit false
set_option autoImplicit false

/-!
# What expressions and statements mean

An interpretation gives every table a relation, every comparison a truth value on every row, and
every column of a SELECT list a cell of every row. Under it an expression means a relation, built
node by node, and a statement means another: FROM first, then the join, then WHERE as a conjunction
of its terms, then the SELECT list.

The compiler moves the predicates of all selections into the WHERE clause, also those that stand
below a join. The two meanings agree as long as no predicate is moved out of an input that the join
pads with nulls, and predicates of one input do not read the other.

## Main definitions

* `HintedSql.Interpretation`, `HintedSql.Expression.meaning`.
* `HintedSql.Sql.Query` — a statement whose terms are conditions, with
  `HintedSql.Sql.Query.meaning`.
* `HintedSql.Expression.FiltersUnpadded`, `HintedSql.Expression.FiltersOneSided` — when predicates
  may be moved.

## Main results

* `HintedSql.Expression.Reaches.meaning_eq` — a chain means the restriction of its table.
* `HintedSql.Expression.meaning_join_eq` — the predicates of both inputs of a join may follow it.
* `HintedSql.Sql.compile_preserves_meaning` — the compiled statement means what the expression does.
  That the text of the statement determines this meaning is in `HintedSql.Proofs.Relation.Reading`.
-/

namespace HintedSql

variable {α : Type}

/-- What tables, comparisons and columns stand for. -/
structure Interpretation (α : Type) where
  /-- The stored relations. -/
  table : Table → Relation α
  /-- The truth value of a comparison on a row. -/
  compare : Comparison → String → Value → Row α → Truth
  /-- The cell of a row that a column of a SELECT list names. -/
  cell : String → Row α → Option α

namespace Interpretation

/-- The truth values of comparisons on a row. -/
def assignment (I : Interpretation α) (row : Row α) : Assignment :=
  fun op column value => I.compare op column value row

/-- Whether a condition is true on a row. -/
def holds (I : Interpretation α) (c : Condition) (row : Row α) : Bool :=
  (c.truth (I.assignment row)).holds

/-- Whether the conjunction of conditions is true on a row. -/
def satisfies (I : Interpretation α) (terms : List Condition) (row : Row α) : Bool :=
  (Truth.all (terms.map (·.truth (I.assignment row)))).holds

/-- A conjunction is true where every term is. -/
lemma satisfies_eq_all (I : Interpretation α) (terms : List Condition) (row : Row α) :
    I.satisfies terms row = terms.all (I.holds · row) := by
  rw [satisfies, Truth.holds_all, List.all_map]
  rfl

/-- Every row satisfies no conditions. -/
@[simp] lemma satisfies_nil (I : Interpretation α) (row : Row α) : I.satisfies [] row = true :=
  rfl

/-- A row satisfies joined conditions if it satisfies both parts. -/
@[simp] lemma satisfies_append (I : Interpretation α) (xs ys : List Condition) (row : Row α) :
    I.satisfies (xs ++ ys) row = (I.satisfies xs row && I.satisfies ys row) := by
  simp only [satisfies_eq_all, List.all_append]

/-- A row satisfies a single condition if the condition holds on it. -/
@[simp] lemma satisfies_singleton (I : Interpretation α) (c : Condition) (row : Row α) :
    I.satisfies [c] row = I.holds c row := by
  simp [satisfies_eq_all]

/-- One more condition is one more term. -/
lemma restrict_satisfies_restrict_holds (I : Interpretation α) (R : Relation α)
    (terms : List Condition) (p : Condition) :
    (R.restrict (I.satisfies terms)).restrict (I.holds p) =
      R.restrict (I.satisfies (terms ++ [p])) := by
  rw [Relation.restrict_restrict]
  congr 1
  funext row
  simp

/-- Rows on which all comparisons of some terms agree satisfy the same ones of them. -/
lemma satisfies_congr {I : Interpretation α} {terms : List Condition} {row row' : Row α}
    (h : ∀ p ∈ terms, ∀ x ∈ p.comparisons,
      I.compare x.1 x.2.1 x.2.2 row = I.compare x.1 x.2.1 x.2.2 row') :
    I.satisfies terms row = I.satisfies terms row' := by
  rw [satisfies, satisfies]
  congr 2
  exact List.map_congr_left fun p hp => Condition.truth_congr (h p hp)

end Interpretation

/-! ## Expressions -/

namespace Expression

/-- The relation that an expression stands for. A selection keeps the rows on which its predicate is
true, and a projection without columns keeps all columns. -/
def meaning (I : Interpretation α) : Expression → Relation α
  | table t => I.table t
  | selection input p => (input.meaning I).restrict (I.holds p)
  | projection input columns => (input.meaning I).project I.cell columns
  | join kind left right on => (left.meaning I).join kind (right.meaning I) (I.holds on)

/-- Whether the outermost node is a projection. -/
def isProjection : Expression → Bool
  | projection _ _ => true
  | _ => false

/-- All nodes but the root, which comes last. -/
def properNodes (e : Expression) : List Expression :=
  e.nodes.dropLast

/-- The nodes of an expression are its proper ones and then the expression. -/
lemma nodes_eq_properNodes_append (e : Expression) : e.nodes = e.properNodes ++ [e] := by
  cases e <;> simp [properNodes, nodes]

/-- The nodes below and at the source node are nodes of the expression. -/
lemma nodes_sourceNode_subset (e : Expression) : e.sourceNode.nodes ⊆ e.nodes := by
  cases e with
  | table | join => exact List.Subset.refl _
  | selection | projection => exact List.subset_append_left _ _

/-- Only the root can be a projection; the source node then has none. -/
lemma isProjection_of_mem_sourceNode (e : Expression)
    (h : ∀ n ∈ e.properNodes, n.isProjection = false) :
    ∀ n ∈ e.sourceNode.nodes, n.isProjection = false := by
  intro n hn
  cases e with
  | table t =>
    obtain rfl : n = table t := List.mem_singleton.mp hn
    rfl
  | join kind left right on =>
    change n ∈ (join kind left right on).nodes at hn
    rw [nodes_eq_properNodes_append, List.mem_append, List.mem_singleton] at hn
    obtain hn | rfl := hn
    · exact h n hn
    · rfl
  | selection input p =>
    change n ∈ input.nodes at hn
    exact h n (by simpa [properNodes, nodes] using hn)
  | projection input columns =>
    change n ∈ input.nodes at hn
    exact h n (by simpa [properNodes, nodes] using hn)

/-- No selection stands in an input that its join pads with nulls. -/
def FiltersUnpadded (e : Expression) : Prop :=
  ∀ kind left right on, join kind left right on ∈ e.nodes →
    (kind.padsLeft → left.predicates = []) ∧ (kind.padsRight → right.predicates = [])

/-- The comparisons in the predicates of one input of a join have the same truth value on a row of
that input's table as on every joined row that extends it. -/
def FiltersOneSided (I : Interpretation α) (e : Expression) : Prop :=
  ∀ kind left right on, join kind left right on ∈ e.nodes →
    ∀ l r, left.Reaches l → right.Reaches r →
      (∀ x ∈ (I.table l).rows,
        ∀ y, y ∈ (I.table r).rows ∨ kind.padsRight ∧ y = (I.table r).nulls →
          ∀ p ∈ left.predicates, ∀ c ∈ p.comparisons,
            I.compare c.1 c.2.1 c.2.2 (x ++ y) = I.compare c.1 c.2.1 c.2.2 x) ∧
      (∀ y ∈ (I.table r).rows,
        ∀ x, x ∈ (I.table l).rows ∨ kind.padsLeft ∧ x = (I.table l).nulls →
          ∀ p ∈ right.predicates, ∀ c ∈ p.comparisons,
            I.compare c.1 c.2.1 c.2.2 (x ++ y) = I.compare c.1 c.2.1 c.2.2 y)

/-- A chain without projections means the rows of its table that satisfy all its predicates. -/
theorem Reaches.meaning_eq {e : Expression} {t : Table} (h : e.Reaches t) (I : Interpretation α)
    (hproj : ∀ n ∈ e.nodes, n.isProjection = false) :
    e.meaning I = (I.table t).restrict (I.satisfies e.predicates) := by
  induction h with
  | table t => exact (Relation.restrict_of_forall (I.satisfies_nil)).symm
  | selection p h ih =>
    rw [meaning, ih fun n hn => hproj n (List.mem_append_left _ hn),
      I.restrict_satisfies_restrict_holds, predicates_selection]
  | projection columns h ih =>
    exact absurd (hproj _ (self_mem_nodes _)) (by simp [isProjection])

/-- The predicates of both inputs of a join may follow the join. -/
theorem meaning_join_eq {I : Interpretation α} {kind : JoinKind} {left right : Expression}
    {on : Condition} {l r : Table} (hl : left.Reaches l) (hr : right.Reaches r)
    (hproj : ∀ n ∈ (join kind left right on).nodes, n.isProjection = false)
    (hpad : (join kind left right on).FiltersUnpadded)
    (hside : (join kind left right on).FiltersOneSided I) :
    (join kind left right on).meaning I =
      ((I.table l).join kind (I.table r) (I.holds on)).restrict
        (I.satisfies (left.predicates ++ right.predicates)) := by
  have hleft : ∀ n ∈ left.nodes, n.isProjection = false := fun n hn =>
    hproj n (List.mem_append_left _ (List.mem_append_left _ hn))
  have hright : ∀ n ∈ right.nodes, n.isProjection = false := fun n hn =>
    hproj n (List.mem_append_left _ (List.mem_append_right _ hn))
  obtain ⟨hpadl, hpadr⟩ := hpad kind left right on (self_mem_nodes _)
  obtain ⟨hsidel, hsider⟩ := hside kind left right on (self_mem_nodes _) l r hl hr
  rw [meaning, hl.meaning_eq I hleft, hr.meaning_eq I hright, Relation.join_restrict]
  · congr 1
    funext row
    exact (I.satisfies_append _ _ row).symm
  · exact fun x hx y hy => Interpretation.satisfies_congr (hsidel x hx y hy)
  · exact fun y hy x hx => Interpretation.satisfies_congr (hsider y hy x hx)
  · intro h row
    rw [hpadl h, I.satisfies_nil]
  · intro h row
    rw [hpadr h, I.satisfies_nil]

end Expression

/-! ## Statements -/

namespace Sql

/-- What a FROM clause stands for. -/
def Source.meaning (I : Interpretation α) : Source → Relation α
  | table t => I.table t
  | join kind left right on => (I.table left).join kind (I.table right) (I.holds on)

/-- A SELECT statement with the terms of its WHERE clause as conditions. -/
structure Query where
  columns : List String
  source : Source
  terms : List Condition

namespace Query

/-- The statement with the terms as text. -/
def statement (q : Query) : Statement :=
  ⟨q.columns, q.source, .conjunction (q.terms.map condition)⟩

/-- The relation that a query stands for: FROM and the join first, then WHERE as the conjunction of
its terms, then the SELECT list. -/
def meaning (I : Interpretation α) (q : Query) : Relation α :=
  ((q.source.meaning I).restrict (I.satisfies q.terms)).project I.cell q.columns

end Query

/-- A node without projections means its source, restricted by all its predicates. -/
theorem HasSource.meaning_eq {e : Expression} {source : Source} (h : HasSource e source)
    {I : Interpretation α} (hproj : ∀ n ∈ e.nodes, n.isProjection = false)
    (hpad : e.FiltersUnpadded) (hside : e.FiltersOneSided I) :
    e.meaning I = (source.meaning I).restrict (I.satisfies e.predicates) := by
  cases h with
  | table h => exact h.meaning_eq I hproj
  | join kind on hl hr =>
    rw [Expression.meaning_join_eq hl hr hproj hpad hside, Expression.predicates_join]
    rfl

/-- The query of an expression on a given source. -/
def queryOn (e : Expression) (source : Source) : Query :=
  ⟨e.rootColumns, source, e.predicates⟩

/-- The query of an expression has the clauses that are compiled for it. -/
lemma statement_queryOn (e : Expression) (source : Source) :
    (queryOn e source).statement = statementOn e source := by
  rw [statementOn, filter_eq_conjunction]
  rfl

/-- The query of an expression means what the expression does.

**Proof sketch.** The source node means its source restricted by its predicates. The root adds to it
nothing, one more predicate, or the SELECT list. -/
lemma HasSource.meaning_queryOn {e : Expression} {source : Source}
    (h : HasSource e.sourceNode source) {I : Interpretation α}
    (hproj : ∀ n ∈ e.properNodes, n.isProjection = false)
    (hpad : e.FiltersUnpadded) (hside : e.FiltersOneSided I) :
    (queryOn e source).meaning I = e.meaning I := by
  have hsub := e.nodes_sourceNode_subset
  have hnode := h.meaning_eq (e.isProjection_of_mem_sourceNode hproj)
    (fun kind l r on hmem => hpad kind l r on (hsub hmem))
    (fun kind l r on hmem => hside kind l r on (hsub hmem))
  cases e with
  | table t => exact hnode.symm
  | join kind left right on => exact hnode.symm
  | selection input p =>
    change input.meaning I = _ at hnode
    rw [Expression.meaning, hnode, I.restrict_satisfies_restrict_holds]
    rw [Query.meaning, queryOn, Expression.predicates_selection]
    rfl
  | projection input columns =>
    change input.meaning I = _ at hnode
    rw [Expression.meaning, hnode, Query.meaning, queryOn, Expression.predicates_projection]
    rfl

/-- **Compiling preserves meaning.** If an expression has no projection below its root, no selection
in an input that a join pads with nulls, and no predicate that reads across a join, then the
statement it compiles to has, under every interpretation, the same columns and the same rows as the
expression, each the same number of times. -/
theorem compile_preserves_meaning (I : Interpretation α) (e : Expression) (s : String)
    (hs : compile e = .ok s) (hproj : ∀ n ∈ e.properNodes, n.isProjection = false)
    (hpad : e.FiltersUnpadded) (hside : e.FiltersOneSided I) :
    ∃ q : Query, statement e = .ok q.statement ∧ q.statement.render = s ∧
      q.terms = e.predicates ∧ (q.meaning I).header = (e.meaning I).header ∧
      (q.meaning I).rows.Perm (e.meaning I).rows := by
  obtain ⟨source, hsource, hrender⟩ := compile_eq_ok_iff_hasSource.mp hs
  have hmeaning := hsource.meaning_queryOn hproj hpad hside
  refine ⟨queryOn e source, ?_, ?_, rfl, ?_, ?_⟩
  · rw [statement_eq_map_sourceOf, sourceOf_eq_ok_iff.mpr hsource, statement_queryOn]
    rfl
  · rw [statement_queryOn, hrender]
  · rw [hmeaning]
  · rw [hmeaning]

/-! ## An example -/

/-- Whether a comparison relates two integers. -/
def Comparison.relates : Comparison → Int → Int → Bool
  | .eq, a, b => a == b
  | .gt, a, b => b < a
  | .lt, a, b => a < b

/-- Columns are looked up by name and cells are integers. A comparison with a null, with an absent
column or with anything but an integer is unknown. -/
def integers (table : Table → Relation Int) : Interpretation Int where
  table := table
  compare op column value row :=
    match row.lookup column, value with
    | some (some a), .int b => if Comparison.relates op a b.toInt then .yes else .no
    | _, _ => .unknown
  cell column row := (row.lookup column).join

/-- Users with an age that may be null, and one order. -/
def usersAndOrders (t : Table) : Relation Int :=
  if t.name = "users" then
    { header := ["u.id", "u.age"]
      rows := [[("u.id", some 1), ("u.age", some 30)], [("u.id", some 2), ("u.age", none)],
        [("u.id", some 3), ("u.age", some 40)], [("u.id", some 9), ("u.age", some 50)]]
      names_eq_header := by decide }
  else
    { header := ["o.id"]
      rows := [[("o.id", some 7)]]
      names_eq_header := by decide }

/-- The grown users with the order, if they are the first user, and with nulls otherwise. -/
def grownUsers : Expression :=
  (((Expression.table ⟨"users", some "u"⟩).select (.gt "u.age" (.int 18))).joinWith
    (.table ⟨"orders", some "o"⟩) (.eq "u.id" (.int 1)) .left).select (.lt "u.id" (.int 5))

/-- The filter on the users may follow the left join: the users are not padded. -/
theorem grownUsers_compiled :
    ∃ q : Query, statement grownUsers = .ok q.statement ∧
      q.statement.render = "SELECT *\nFROM users AS u\nLEFT JOIN orders AS o ON u.id = 1\n"
        ++ "WHERE u.age > 18 AND u.id < 5" ∧
      (q.meaning (integers usersAndOrders)).rows.Perm
        [[("u.id", some 1), ("u.age", some 30), ("o.id", some 7)],
          [("u.id", some 3), ("u.age", some 40), ("o.id", none)]] := by
  have hcompile : compile grownUsers =
      .ok ("SELECT *\nFROM users AS u\nLEFT JOIN orders AS o ON u.id = 1\n"
        ++ "WHERE u.age > 18 AND u.id < 5") := by
    decide +kernel
  have hjoin : ∀ kind left right on, .join kind left right on ∈ grownUsers.nodes →
      kind = .left ∧ left = (Expression.table ⟨"users", some "u"⟩).select (.gt "u.age" (.int 18)) ∧
        right = .table ⟨"orders", some "o"⟩ := by
    simp +contextual [grownUsers, Expression.select, Expression.joinWith, Expression.nodes]
  have hpad : grownUsers.FiltersUnpadded := by
    intro kind left right on hmem
    obtain ⟨rfl, rfl, rfl⟩ := hjoin kind left right on hmem
    exact ⟨by decide, by decide⟩
  have hside : grownUsers.FiltersOneSided (integers usersAndOrders) := by
    intro kind left right on hmem l r hl hr
    obtain ⟨rfl, rfl, rfl⟩ := hjoin kind left right on hmem
    obtain _ | ⟨_, ⟨⟩⟩ := hl
    cases hr
    refine ⟨fun x hx y _ p hp c hc => ?_, fun y hy x _ p hp => absurd hp List.not_mem_nil⟩
    obtain rfl : p = .gt "u.age" (.int 18) := List.mem_singleton.mp hp
    obtain rfl : c = (.gt, "u.age", .int 18) := List.mem_singleton.mp hc
    change x ∈ (usersAndOrders ⟨"users", some "u"⟩).rows at hx
    simp only [usersAndOrders, if_true, List.mem_cons, List.not_mem_nil, or_false] at hx
    obtain rfl | rfl | rfl | rfl := hx <;> rfl
  obtain ⟨q, hq, hrender, -, -, hrows⟩ := compile_preserves_meaning (integers usersAndOrders)
    grownUsers _ hcompile (by decide) hpad hside
  refine ⟨q, hq, hrender, hrows.trans ?_⟩
  decide

end Sql

end HintedSql
