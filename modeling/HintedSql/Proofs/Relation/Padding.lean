import HintedSql.Proofs.Relation.Meaning
set_option relaxedAutoImplicit false
set_option autoImplicit false

/-!
# Filters on an input that a join pads

A selection below a join filters its input before rows are matched, whereas the statement filters
the joined rows. For an input that the join pads with nulls this makes a difference: a row that
found no partner has nulls in the columns of the filter, a comparison with a null is unknown, and
since conditions are built without negation nothing unknown ever becomes true. So the WHERE clause
removes all the rows that were padded for a filtered input, and the statement is the join of the
filtered inputs that pads only what is not filtered.

## Main definitions

* `HintedSql.Interpretation.ComparesCells` — comparisons look at a cell and are unknown on a null.
* `HintedSql.Expression.NoCapture` — the predicates of one input do not name cells of the other.
* `HintedSql.Expression.isFiltered` — whether there is a selection in an expression.

## Main results

* `HintedSql.Condition.truth_eq_unknown` — unknown comparisons make an unknown condition.
* `HintedSql.Expression.restrict_join_eq_join_unpad` — the joined rows that pass the predicates of
  both inputs.
* `HintedSql.Relation.join_unpad_perm_iff` — when padding fewer inputs changes nothing.
* `HintedSql.Sql.compile_join_unpads` — the statement of a join pads no filtered input. That the
  text of the statement determines this meaning is in `HintedSql.Proofs.Relation.Reading`.
* `HintedSql.Sql.rareOrders_lost` — rows that an expression has and its statement has not.
-/

namespace HintedSql

variable {α : Type}

/-- A condition all of whose comparisons are unknown is unknown. -/
theorem Condition.truth_eq_unknown {assign : Assignment} {c : Condition}
    (h : ∀ x ∈ c.comparisons, assign x.1 x.2.1 x.2.2 = .unknown) : c.truth assign = .unknown := by
  induction c with
  | compare op column value => exact h _ (List.mem_singleton.mpr rfl)
  | connect op left right ihl ihr =>
    have hl := ihl fun x hx => h x (List.mem_append_left _ hx)
    have hr := ihr fun x hx => h x (List.mem_append_right _ hx)
    rw [truth, hl, hr]
    cases op <;> rfl

/-! ## Comparisons of cells -/

namespace Interpretation

/-- Comparisons as SQL makes them: they depend on the cell that their column names, and if that is
null, or there is none, they are unknown. In a row of nulls every column names a null. -/
structure ComparesCells (I : Interpretation α) : Prop where
  congr : ∀ (op : Comparison) (column : String) (value : Value) (row row' : Row α),
    I.cell column row = I.cell column row' →
      I.compare op column value row = I.compare op column value row'
  unknown : ∀ (op : Comparison) (column : String) (value : Value) (row : Row α),
    I.cell column row = none → I.compare op column value row = .unknown
  nulls : ∀ (column : String) (header : List String), I.cell column (Row.nulls header) = none

/-- Terms whose columns name the same cells in two rows are satisfied by both or by neither. -/
lemma ComparesCells.satisfies_congr {I : Interpretation α} (hI : I.ComparesCells)
    {terms : List Condition} {row row' : Row α}
    (h : ∀ p ∈ terms, ∀ x ∈ p.comparisons, I.cell x.2.1 row = I.cell x.2.1 row') :
    I.satisfies terms row = I.satisfies terms row' := by
  apply Interpretation.satisfies_congr
  intro p hp x hx
  exact hI.congr _ _ _ _ _ (h p hp x hx)

/-- A row in which the columns of the terms name nothing but nulls satisfies none of the terms. -/
lemma ComparesCells.satisfies_eq_false {I : Interpretation α} (hI : I.ComparesCells)
    {terms : List Condition} {row : Row α} (hne : terms ≠ [])
    (h : ∀ p ∈ terms, ∀ x ∈ p.comparisons, I.cell x.2.1 row = none) :
    I.satisfies terms row = false := by
  obtain ⟨p, rest, rfl⟩ := List.exists_cons_of_ne_nil hne
  have htruth : p.truth (I.assignment row) = .unknown := by
    apply Condition.truth_eq_unknown
    intro x hx
    exact hI.unknown _ _ _ _ (h p List.mem_cons_self x hx)
  have hholds : I.holds p row = false := by
    rw [holds, htruth]
    rfl
  simp [satisfies_eq_all, hholds]

end Interpretation

/-! ## Joins of filtered inputs -/

/-- Rows that are kept under a condition, and under a stronger one. -/
private lemma ite_and_not_sublist {β : Type} (a b : Bool) (xs : List β) :
    (if a && !b then xs else []).Sublist (if a then xs else []) := by
  cases a <;> cases b <;> simp

/-- The stronger condition keeps as much exactly if nothing is lost where it fails. -/
private lemma ite_and_not_eq_iff {β : Type} (a b : Bool) (xs : List β) :
    (if a && !b then xs else []) = (if a then xs else []) ↔ (a → b → xs = []) := by
  cases a <;> cases b <;> simp [eq_comm]

/-- Joins of two relations that differ in what they pad have the same rows exactly if no row is
padded by the one and not by the other. -/
theorem Relation.join_unpad_perm_iff {kind : JoinKind} {L R : Relation α} {on : Row α → Bool}
    (dropLeft dropRight : Bool) :
    (L.join (kind.unpad dropLeft dropRight) R on).rows.Perm (L.join kind R on).rows ↔
      (kind.padsRight → dropRight → L.leftAlone R on = []) ∧
        (kind.padsLeft → dropLeft → L.rightAlone R on = []) := by
  have hsubl := ite_and_not_sublist kind.padsRight dropRight (L.leftAlone R on)
  have hsubr := ite_and_not_sublist kind.padsLeft dropLeft (L.rightAlone R on)
  have hlel := hsubl.length_le
  have hler := hsubr.length_le
  rw [← ite_and_not_eq_iff, ← ite_and_not_eq_iff]
  simp only [join, JoinKind.unpad, JoinKind.padsLeft_ofPads, JoinKind.padsRight_ofPads]
  constructor
  · intro h
    -- No part of the one list is longer than its part of the other, and the lists are equally long.
    have hlength := h.length_eq
    simp only [List.length_append] at hlength
    exact ⟨hsubl.eq_of_length (by omega), hsubr.eq_of_length (by omega)⟩
  · rintro ⟨hl, hr⟩
    rw [hl, hr]

namespace Expression

/-- Whether there is a selection in an expression. -/
def isFiltered (e : Expression) : Bool :=
  !e.predicates.isEmpty

/-- No name capture between the inputs of a join: in a joined row, of which one part may be nulls,
the columns of the predicates of one input name the cells that they name in the part of that
input. -/
def NoCapture (I : Interpretation α) (left right : Expression) (L R : Relation α) : Prop :=
  ∀ x y, x ∈ L.rows ∨ x = L.nulls → y ∈ R.rows ∨ y = R.nulls →
    (∀ p ∈ left.predicates, ∀ c ∈ p.comparisons, I.cell c.2.1 (x ++ y) = I.cell c.2.1 x) ∧
      ∀ p ∈ right.predicates, ∀ c ∈ p.comparisons, I.cell c.2.1 (x ++ y) = I.cell c.2.1 y

/-- The joined rows that pass the predicates of both inputs are those of the join of the filtered
inputs, where a filtered input is not padded.

**Proof sketch.** The predicates of an input read that input. Where it is padded its part is nulls,
so that they are not satisfied if there are any; and if there are none they let all rows pass. -/
theorem restrict_join_eq_join_unpad {I : Interpretation α} (hI : I.ComparesCells)
    {left right : Expression} {L R : Relation α} (h : NoCapture I left right L R)
    (kind : JoinKind) (on : Row α → Bool) :
    (L.join kind R on).restrict (I.satisfies (left.predicates ++ right.predicates)) =
      (L.restrict (I.satisfies left.predicates)).join
        (kind.unpad left.isFiltered right.isFiltered)
        (R.restrict (I.satisfies right.predicates)) on := by
  have hboth : I.satisfies (left.predicates ++ right.predicates) =
      fun row => I.satisfies left.predicates row && I.satisfies right.predicates row := by
    funext row
    exact I.satisfies_append _ _ row
  rw [hboth]
  apply Relation.restrict_join
  · intro x hx y hy
    have hy' : y ∈ R.rows ∨ y = R.nulls := hy.imp_right And.right
    exact hI.satisfies_congr (h x y (.inl hx) hy').1
  · intro y hy x hx
    have hx' : x ∈ L.rows ∨ x = L.nulls := hx.imp_right And.right
    exact hI.satisfies_congr (h x y hx' (.inl hy)).2
  · intro _
    by_cases hnone : left.predicates = []
    · simp [isFiltered, hnone]
    · have hfiltered : left.isFiltered = true := by simp [isFiltered, hnone]
      rw [if_pos hfiltered]
      intro y hy
      apply hI.satisfies_eq_false hnone
      intro p hp c hc
      rw [(h L.nulls y (.inr rfl) (.inl hy)).1 p hp c hc]
      exact hI.nulls _ _
  · intro _
    by_cases hnone : right.predicates = []
    · simp [isFiltered, hnone]
    · have hfiltered : right.isFiltered = true := by simp [isFiltered, hnone]
      rw [if_pos hfiltered]
      intro x hx
      apply hI.satisfies_eq_false hnone
      intro p hp c hc
      rw [(h x R.nulls (.inl hx) (.inr rfl)).2 p hp c hc]
      exact hI.nulls _ _

end Expression

namespace Sql

/-- The query of a join of two chains means the join of the filtered inputs that pads only an input
without selections. -/
lemma meaning_queryOn_join {I : Interpretation α} (hI : I.ComparesCells) {kind : JoinKind}
    {left right : Expression} {on : Condition} {l r : Table} (hl : left.Reaches l)
    (hr : right.Reaches r)
    (hproj : ∀ n ∈ (Expression.join kind left right on).nodes, n.isProjection = false)
    (hcapture : Expression.NoCapture I left right (I.table l) (I.table r)) :
    (queryOn (.join kind left right on) (.join kind l r on)).meaning I =
      (left.meaning I).join (kind.unpad left.isFiltered right.isFiltered) (right.meaning I)
        (I.holds on) := by
  have hleft : ∀ n ∈ left.nodes, n.isProjection = false := by
    intro n hn
    exact hproj n (List.mem_append_left _ (List.mem_append_left _ hn))
  have hright : ∀ n ∈ right.nodes, n.isProjection = false := by
    intro n hn
    exact hproj n (List.mem_append_left _ (List.mem_append_right _ hn))
  rw [hl.meaning_eq I hleft, hr.meaning_eq I hright,
    ← Expression.restrict_join_eq_join_unpad hI hcapture kind, Query.meaning, queryOn,
    Expression.predicates_join]
  rfl

/-- **The statement of a join pads no filtered input.** Let the inputs of a join be chains without
projections. Under the semantics of SQL, and without name capture between the two sides, the
statement of the join has the columns of the expression and, each the same number of times, the rows
of the filtered inputs joined in a way that pads only an input without selections. So it has the
rows of the expression exactly if every row that the join keeps without a partner lacks that partner
in an input that is not filtered. -/
theorem compile_join_unpads (I : Interpretation α) (hI : I.ComparesCells) (kind : JoinKind)
    (left right : Expression) (on : Condition) (l r : Table) (hl : left.Reaches l)
    (hr : right.Reaches r)
    (hproj : ∀ n ∈ (Expression.join kind left right on).nodes, n.isProjection = false)
    (hcapture : Expression.NoCapture I left right (I.table l) (I.table r)) :
    ∃ q : Query, statement (.join kind left right on) = .ok q.statement ∧
      compile (.join kind left right on) = .ok q.statement.render ∧
      q.terms = left.predicates ++ right.predicates ∧
      (q.meaning I).header = ((Expression.join kind left right on).meaning I).header ∧
      (q.meaning I).rows.Perm ((left.meaning I).join
        (kind.unpad left.isFiltered right.isFiltered) (right.meaning I) (I.holds on)).rows ∧
      ((q.meaning I).rows.Perm ((Expression.join kind left right on).meaning I).rows ↔
        (kind.padsRight → right.isFiltered →
          (left.meaning I).leftAlone (right.meaning I) (I.holds on) = []) ∧
        (kind.padsLeft → left.isFiltered →
          (left.meaning I).rightAlone (right.meaning I) (I.holds on) = [])) := by
  have hsource : HasSource (Expression.join kind left right on).sourceNode (.join kind l r on) :=
    .join kind on hl hr
  have hstatement := statement_queryOn (.join kind left right on) (.join kind l r on)
  have hmeaning := meaning_queryOn_join hI hl hr hproj hcapture
  refine ⟨queryOn (.join kind left right on) (.join kind l r on), ?_, ?_, ?_, ?_, ?_, ?_⟩
  · rw [statement_eq_map_sourceOf, sourceOf_eq_ok_iff.mpr hsource, hstatement]
    rfl
  · rw [hstatement]
    exact compile_eq_ok_iff_hasSource.mpr ⟨_, hsource, rfl⟩
  · exact Expression.predicates_join kind left right on
  · rw [hmeaning]
    rfl
  · rw [hmeaning]
  · rw [hmeaning, Expression.meaning]
    exact Relation.join_unpad_perm_iff _ _

/-! ## An example -/

/-- Columns that are looked up by name are compared by their cells. -/
lemma comparesCells_integers (table : Table → Relation Int) : (integers table).ComparesCells := by
  refine ⟨?_, ?_, ?_⟩
  · intro op column value row row' h
    simp only [integers] at h ⊢
    rcases hrow : row.lookup column with _ | _ | a <;>
      rcases hrow' : row'.lookup column with _ | _ | b <;>
      simp_all
  · intro op column value row h
    simp only [integers] at h ⊢
    rcases hrow : row.lookup column with _ | _ | a <;> simp_all
  · intro column header
    simp only [integers, Row.nulls]
    induction header with
    | nil => rfl
    | cons name names ih =>
      rw [List.map_cons, List.lookup_cons]
      cases column == name <;> simp [ih]

/-- Users, with those of their orders that have a number above ten. -/
def rareOrders : Expression :=
  (Expression.table ⟨"users", some "u"⟩).joinWith
    ((Expression.table ⟨"orders", some "o"⟩).select (.gt "o.id" (.int 10)))
    (.eq "u.id" (.int 1)) .left

/-- No column of one input is taken for one of the other. -/
lemma noCapture_rareOrders :
    Expression.NoCapture (integers usersAndOrders) (.table ⟨"users", some "u"⟩)
      ((Expression.table ⟨"orders", some "o"⟩).select (.gt "o.id" (.int 10)))
      (usersAndOrders ⟨"users", some "u"⟩) (usersAndOrders ⟨"orders", some "o"⟩) := by
  intro x y hx _
  refine ⟨fun p hp => absurd hp List.not_mem_nil, fun p hp c hc => ?_⟩
  obtain rfl : p = .gt "o.id" (.int 10) := List.mem_singleton.mp hp
  obtain rfl : c = (.gt, "o.id", .int 10) := List.mem_singleton.mp hc
  simp only [usersAndOrders, if_true, List.mem_cons, List.not_mem_nil, or_false] at hx
  obtain (rfl | rfl | rfl | rfl) | rfl := hx <;> rfl

/-- The filter on the orders removes the users without such an order from the statement. -/
theorem rareOrders_unpadded :
    ∃ q : Query, statement rareOrders = .ok q.statement ∧
      (q.meaning (integers usersAndOrders)).rows.Perm
        (((Expression.table ⟨"users", some "u"⟩).meaning (integers usersAndOrders)).join .inner
          (((Expression.table ⟨"orders", some "o"⟩).select (.gt "o.id" (.int 10))).meaning
            (integers usersAndOrders))
          ((integers usersAndOrders).holds (.eq "u.id" (.int 1)))).rows := by
  obtain ⟨q, hq, -, -, -, hrows, -⟩ := compile_join_unpads (integers usersAndOrders)
    (comparesCells_integers _) .left _ _ (.eq "u.id" (.int 1)) _ _ (.table ⟨"users", some "u"⟩)
    (.selection (.gt "o.id" (.int 10)) (.table ⟨"orders", some "o"⟩)) (by decide)
    noCapture_rareOrders
  exact ⟨q, hq, hrows⟩

/-- **Filters on a padded input do not keep their meaning.** Of the four users none has an order
with a number above ten, so that the expression has four rows, with nulls in place of an order; the
statement has none, although nothing else stands in the way. -/
theorem rareOrders_lost :
    (integers usersAndOrders).ComparesCells ∧
    Expression.NoCapture (integers usersAndOrders) (.table ⟨"users", some "u"⟩)
      ((Expression.table ⟨"orders", some "o"⟩).select (.gt "o.id" (.int 10)))
      (usersAndOrders ⟨"users", some "u"⟩) (usersAndOrders ⟨"orders", some "o"⟩) ∧
    (∀ n ∈ rareOrders.nodes, n.isProjection = false) ∧
    compile rareOrders =
      .ok ("SELECT *\nFROM users AS u\nLEFT JOIN orders AS o ON u.id = 1\n"
        ++ "WHERE o.id > 10") ∧
    ∃ q : Query, statement rareOrders = .ok q.statement ∧ q.terms = rareOrders.predicates ∧
      (q.meaning (integers usersAndOrders)).rows = [] ∧
      (rareOrders.meaning (integers usersAndOrders)).rows.length = 4 ∧
      ¬ (q.meaning (integers usersAndOrders)).rows.Perm
        (rareOrders.meaning (integers usersAndOrders)).rows := by
  refine ⟨comparesCells_integers _, noCapture_rareOrders, by decide, by decide +kernel,
    queryOn rareOrders (.join .left ⟨"users", some "u"⟩ ⟨"orders", some "o"⟩
      (.eq "u.id" (.int 1))), rfl, rfl, by decide, by decide, ?_⟩
  intro h
  have hlength := h.length_eq
  revert hlength
  decide

end Sql

end HintedSql
