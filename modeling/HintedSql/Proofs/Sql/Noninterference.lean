import HintedSql.Proofs.Algebra.Texts
import HintedSql.Proofs.Grammar.Literal
import HintedSql.Proofs.Sql.Acceptance
import HintedSql.Proofs.Sql.Fragment
set_option relaxedAutoImplicit false
set_option autoImplicit false

/-!
# Texts do not change the shape of a statement

The texts of an expression end up as string literals of its statement and nowhere else. The
fragments of each part of a statement can be said outright, literal by literal, as long as no name
has a quote. Read without the literals they are those of the emptied expression, and the literals
are its texts. Hence two expressions that differ only in their texts fail alike, or have statements
that differ only in what their literals hold.

## Main definitions

* `HintedSql.Sql.conditionFragments`, `HintedSql.Sql.statementFragments` — the fragments of a
  condition and of a statement.

## Main results

* `HintedSql.Sql.sourceOf_emptied` — texts play no part in what is selected from.
* `HintedSql.Sql.yields_statementOn` — a statement is cut into its fragments.
* `HintedSql.Sql.toSql_noninterference` — two expressions that differ only in their texts.
-/

namespace HintedSql.Sql

/-! ## Conditions -/

/-- The fragments of a value: a text is a literal, and no other value has one. -/
def valueFragments : Value → List Fragment
  | .text s => [.literal s]
  | v => plain (literal v)

/-- The fragments of a condition. -/
def conditionFragments : Condition → List Fragment
  | .compare op column value => plain (column ++ " " ++ op.sign ++ " ") ++ valueFragments value
  | .connect op left right =>
    plain "(" ++ (conditionFragments left ++ (plain (" " ++ op.word ++ " ") ++
      (conditionFragments right ++ plain ")")))

/-- A word has no quotes. -/
lemma IsWord.quoteless {s : String} (h : IsWord s) : Quoteless s := by
  intro hmem
  exact absurd (h.2 _ hmem) (by decide)

/-- A literal yields its fragments. -/
lemma yields_literal (v : Value) : Yields (literal v) (valueFragments v) := by
  cases v with
  | text s => exact yields_quote s
  | null | bool _ | int _ | float _ => exact yields_plain (isWord_literal (by simp)).quoteless

/-- A condition is cut into its fragments if its columns have no quotes. -/
lemma yields_condition {c : Condition} (h : ∀ column ∈ c.columns, Quoteless column) :
    Yields (condition c) (conditionFragments c) := by
  induction c with
  | compare op column value =>
    have hcolumn : Quoteless (column ++ " " ++ op.sign ++ " ") := by
      have hsign : Quoteless op.sign := by cases op <;> decide
      have hspace : Quoteless " " := by decide
      simp [h column (by simp [Condition.columns]), hsign, hspace]
    exact (yields_literal value).plain_append hcolumn
  | connect op left right ihl ihr =>
    obtain ⟨hl, hr⟩ := List.forall_mem_append.mp h
    have hword : Quoteless (" " ++ op.word ++ " ") := by cases op <;> decide
    have hne : " " ++ op.word ++ " " ≠ "" := by cases op <;> decide
    have hright := (ihr hr).append_plain (by decide) (show Quoteless ")" by decide)
    have hboth := (ihl hl).separated hne hword hright
    have hall := hboth.plain_append (show Quoteless "(" by decide)
    have hassoc : condition (.connect op left right) =
        "(" ++ (condition left ++ (" " ++ op.word ++ " " ++ (condition right ++ ")"))) := by
      simp only [condition, String.append_assoc]
    rw [hassoc]
    exact hall

/-- Emptying a value changes its fragments in no place but the literals. -/
lemma map_char?_valueFragments (v : Value) :
    (valueFragments v.emptied).map Fragment.char? = (valueFragments v).map Fragment.char? := by
  cases v <;> rfl

/-- A literal that is a text is the only literal among its fragments. -/
lemma filterMap_literal?_valueFragments (v : Value) :
    (valueFragments v).filterMap Fragment.literal? = v.text?.toList := by
  cases v with
  | text s => rfl
  | null | bool _ | int _ | float _ => exact filterMap_literal?_plain _

/-- Emptying a condition changes its fragments in no place but the literals. -/
lemma map_char?_conditionFragments (c : Condition) :
    (conditionFragments c.emptied).map Fragment.char? =
      (conditionFragments c).map Fragment.char? := by
  induction c with
  | compare op column value =>
    simp [Condition.emptied, conditionFragments, map_char?_valueFragments]
  | connect op left right ihl ihr => simp [Condition.emptied, conditionFragments, ihl, ihr]

/-- The literals of a condition are its texts. -/
lemma filterMap_literal?_conditionFragments (c : Condition) :
    (conditionFragments c).filterMap Fragment.literal? = c.texts := by
  induction c with
  | compare op column value =>
    simp [conditionFragments, filterMap_literal?_valueFragments]
  | connect op left right ihl ihr => simp [conditionFragments, ihl, ihr]

/-! ## Sources -/

namespace Source

/-- The names in a source. -/
def names : Source → List String
  | table t => (Expression.table t).names
  | join _ left right on =>
    (Expression.table left).names ++ (Expression.table right).names ++ on.columns

/-- The condition of a join. -/
def conditions : Source → List Condition
  | table _ => []
  | join _ _ _ on => [on]

/-- A source with nothing in its texts. -/
def emptied : Source → Source
  | table t => table t
  | join kind left right on => join kind left right on.emptied

/-- The fragments of a FROM clause. -/
def fragments : Source → List Fragment
  | table t => plain ("FROM " ++ tableRef t)
  | join kind left right on =>
    plain ("FROM " ++ tableRef left ++ "\n" ++ kind.word ++ " JOIN " ++ tableRef right ++ " ON ")
      ++ conditionFragments on

end Source

/-- A table with names without quotes is written without quotes. -/
lemma quoteless_tableRef {t : Table} (h : ∀ name ∈ (Expression.table t).names, Quoteless name) :
    Quoteless (tableRef t) := by
  obtain ⟨hname, has⟩ := List.forall_mem_cons.mp h
  unfold tableRef
  split
  · rename_i asName heq
    have hsep : Quoteless " AS " := by decide
    simp [hname, hsep, has asName (by simp [heq])]
  · exact hname

/-- A FROM clause is cut into its fragments if its names have no quotes. -/
lemma yields_render {source : Source} (h : ∀ name ∈ source.names, Quoteless name) :
    Yields source.render source.fragments := by
  have hfrom : Quoteless "FROM " := by decide
  cases source with
  | table t => exact yields_plain (quoteless_append.mpr ⟨hfrom, quoteless_tableRef h⟩)
  | join kind left right on =>
    obtain ⟨htables, hon⟩ := List.forall_mem_append.mp h
    obtain ⟨hl, hr⟩ := List.forall_mem_append.mp htables
    have hline : Quoteless "\n" := by decide
    have hkind : Quoteless kind.word := by cases kind <;> decide
    have hjoin : Quoteless " JOIN " := by decide
    have hcondition : Quoteless " ON " := by decide
    have hplain : Quoteless ("FROM " ++ tableRef left ++ "\n" ++ kind.word ++ " JOIN "
        ++ tableRef right ++ " ON ") := by
      simp [hfrom, quoteless_tableRef hl, hline, hkind, hjoin, quoteless_tableRef hr, hcondition]
    exact (yields_condition hon).plain_append hplain

/-- The names of what a node is selected from are among its own. -/
lemma HasSource.names_subset {e : Expression} {source : Source} (h : HasSource e source) :
    source.names ⊆ e.names := by
  cases h with
  | table h => exact h.names_subset
  | join kind on hl hr =>
    intro name hname
    simp only [Source.names, Expression.names, List.mem_append] at hname ⊢
    exact hname.imp_left (Or.imp (hl.names_subset ·) (hr.names_subset ·))

/-- The names of the source are among those of the expression. -/
lemma names_sourceNode_subset (e : Expression) : e.sourceNode.names ⊆ e.names := by
  cases e with
  | table | join => exact List.Subset.refl _
  | selection | projection => exact List.subset_append_left _ _

/-- An expression with a source has the condition of that source and no other join. -/
lemma HasSource.onConditions_eq {e : Expression} {source : Source}
    (h : HasSource e.sourceNode source) : e.onConditions = source.conditions := by
  have hfilter : e.onConditions = (e.nodes.filter Expression.isJoin).filterMap Expression.on? := by
    rw [List.filterMap_filter]
    refine congrArg (e.nodes.filterMap ·) (funext fun x => ?_)
    cases x <;> rfl
  rw [hfilter, ← e.filter_isJoin_nodes_sourceNode]
  generalize e.sourceNode = node at h
  rw [h.filter_isJoin_nodes]
  cases h with
  | table h => cases h <;> rfl
  | join kind on hl hr => rfl

/-- Emptying the texts of an expression keeps its table. -/
@[simp] lemma baseTable_emptied (e : Expression) : baseTable e.emptied = baseTable e := by
  induction e with
  | table t => rfl
  | selection input p ih => exact ih
  | projection input columns ih => exact ih
  | join kind left right on => rfl

/-- Texts play no part in what is selected from, and in whether there is such. -/
theorem sourceOf_emptied (e : Expression) :
    sourceOf e.emptied = Source.emptied <$> sourceOf e := by
  cases e with
  | table t => rfl
  | join kind left right on =>
    simp only [Expression.emptied, sourceOf, joinSource, baseTable_emptied]
    cases baseTable left <;> cases baseTable right <;> rfl
  | selection input p =>
    simp only [Expression.emptied, sourceOf, baseTable, baseTable_emptied]
    cases baseTable input <;> rfl
  | projection input columns =>
    simp only [Expression.emptied, sourceOf, baseTable, baseTable_emptied]
    cases baseTable input <;> rfl

/-- Emptying the texts of an expression empties those of its source. -/
lemma sourceNode_emptied (e : Expression) : e.emptied.sourceNode = e.sourceNode.emptied := by
  cases e <;> rfl

/-! ## Statements -/

/-- The fragments of a WHERE line with the line feed before it. -/
def whereFragments : List Condition → List Fragment
  | [] => []
  | c :: cs =>
    plain "\nWHERE " ++ (conditionFragments c ++
      cs.flatMap fun d => plain " AND " ++ conditionFragments d)

/-- The fragments of a statement on a given source. -/
def statementFragments (e : Expression) (source : Source) : List Fragment :=
  plain ("SELECT " ++ selectList e ++ "\n") ++ (source.fragments ++ whereFragments e.predicates)

/-- Columns with names without quotes are written without quotes. -/
lemma quoteless_selectList {e : Expression} (h : ∀ name ∈ e.names, Quoteless name) :
    Quoteless (selectList e) := by
  unfold selectList
  split
  · rename_i input column columns
    exact quoteless_intercalate (by decide) (List.forall_mem_append.mp h).2
  · decide

/-- A WHERE line behind a text. It begins with a line feed, so it cannot continue a literal at the
end of that text. -/
lemma Yields.append_whereText {s : String} {fs : List Fragment} (hs : Yields s fs)
    {predicates : List Condition} (h : ∀ p ∈ predicates, ∀ column ∈ p.columns, Quoteless column) :
    Yields (s ++ whereText predicates) (fs ++ whereFragments predicates) := by
  cases predicates with
  | nil => simpa [whereText, whereFragments] using hs
  | cons p predicates =>
    obtain ⟨hp, hpredicates⟩ := List.forall_mem_cons.mp h
    have hconjunction := (yields_condition hp).intercalate (f := condition)
      (show " AND " ≠ "" by decide) (by decide) fun d hd => yields_condition (hpredicates d hd)
    exact hs.separated (by decide) (by decide) hconjunction

/-- A statement is cut into its fragments if the names of its expression have no quotes. -/
theorem yields_statementOn {e : Expression} {source : Source}
    (hsource : HasSource e.sourceNode source) (h : ∀ name ∈ e.names, Quoteless name) :
    Yields (statementOn e source).render (statementFragments e source) := by
  have hfrom : Yields source.render source.fragments :=
    yields_render fun name hname =>
      h name (names_sourceNode_subset e (hsource.names_subset hname))
  have hwhere := hfrom.append_whereText fun p hp column hcolumn =>
    h column (Expression.columns_subset_names hp hcolumn)
  have hselect : Quoteless ("SELECT " ++ selectList e ++ "\n") := by
    have hword : Quoteless "SELECT " := by decide
    have hline : Quoteless "\n" := by decide
    simp [hword, quoteless_selectList h, hline]
  rw [render_statementOn, String.append_assoc]
  exact hwhere.plain_append hselect

/-- Emptying an expression changes the fragments of its statement in no place but the literals. -/
lemma map_char?_statementFragments (e : Expression) (source : Source) :
    (statementFragments e.emptied source.emptied).map Fragment.char? =
      (statementFragments e source).map Fragment.char? := by
  have hselect : selectList e.emptied = selectList e := by
    rcases e with _ | _ | ⟨_, _ | _⟩ | _ <;> rfl
  have hfrom : source.emptied.fragments.map Fragment.char? =
      source.fragments.map Fragment.char? := by
    cases source with
    | table t => rfl
    | join kind left right on =>
      simp [Source.emptied, Source.fragments, map_char?_conditionFragments]
  have hwhere : (whereFragments e.emptied.predicates).map Fragment.char? =
      (whereFragments e.predicates).map Fragment.char? := by
    rw [Expression.predicates_emptied]
    cases e.predicates with
    | nil => rfl
    | cons p predicates =>
      simp [whereFragments, List.map_flatMap, List.flatMap_map, map_char?_conditionFragments]
  simp only [statementFragments, List.map_append, hselect, hfrom, hwhere]

/-- The literals of a statement are the texts of its join condition and then of its predicates. -/
lemma filterMap_literal?_statementFragments {e : Expression} {source : Source}
    (hsource : HasSource e.sourceNode source) :
    (statementFragments e source).filterMap Fragment.literal? =
      (e.onConditions ++ e.predicates).flatMap Condition.texts := by
  have hfrom : source.fragments.filterMap Fragment.literal? =
      source.conditions.flatMap Condition.texts := by
    cases source with
    | table t => exact filterMap_literal?_plain _
    | join kind left right on =>
      simp [Source.fragments, Source.conditions, filterMap_literal?_conditionFragments]
  have hwhere : (whereFragments e.predicates).filterMap Fragment.literal? =
      e.predicates.flatMap Condition.texts := by
    cases e.predicates with
    | nil => rfl
    | cons p predicates =>
      simp [whereFragments, List.filterMap_flatMap, filterMap_literal?_conditionFragments]
  simp only [statementFragments, List.filterMap_append, filterMap_literal?_plain, hfrom, hwhere,
    hsource.onConditions_eq, List.flatMap_append, List.nil_append]

/-! ## Hints -/

/-- The hint lines with a line feed before each. -/
def hintTail (o : Options) : String :=
  if hints o = [] then "" else "\n" ++ String.intercalate "\n" (hints o)

/-- Hint lines are put behind a text. -/
lemma intercalate_hints (body : String) (o : Options) :
    String.intercalate "\n" (body :: hints o) = body ++ hintTail o := by
  unfold hintTail
  by_cases h : hints o = []
  · simp [h]
  · rw [String.intercalate_cons_of_ne_nil h, if_neg h, String.append_assoc]

/-- Hint lines behind a text do not change how the text is cut, whatever they hold. -/
lemma Yields.fragments_append_hintTail {s : String} {fs : List Fragment} (hs : Yields s fs)
    (o : Options) :
    fragments (s ++ hintTail o).toList = fs ++ fragments (hintTail o).toList := by
  rw [String.toList_append]
  refine hs _ ?_
  unfold hintTail
  split <;> simp

/-- The literals of a statement come before those of its hints. -/
lemma Yields.literals_append_hintTail {s : String} {fs : List Fragment} (hs : Yields s fs)
    (o : Options) : literals (s ++ hintTail o) = literals s ++ literals (hintTail o) := by
  rw [literals, hs.fragments_append_hintTail, List.filterMap_append, literals, hs.fragments_eq,
    literals]

/-- An expression with a source has a statement, and its hints follow. -/
lemma toSql_of_hasSource {e : Expression} {source : Source} (h : HasSource e.sourceNode source)
    (o : Options) : toSql e o = .ok ((statementOn e source).render ++ hintTail o) := by
  have hcompile := compile_eq_ok_iff_hasSource.mpr ⟨source, h, rfl⟩
  rw [toSql_eq_map_compile, hcompile, ← intercalate_hints]
  rfl

/-! ## Two expressions -/

/-- Expressions that differ only in their texts are selected from sources that do, or fail alike. -/
lemma sourceOf_cases {e e' : Expression} (h : e.emptied = e'.emptied) :
    (∃ err, sourceOf e.sourceNode = .error err ∧ sourceOf e'.sourceNode = .error err) ∨
      ∃ source source', sourceOf e.sourceNode = .ok source ∧
        sourceOf e'.sourceNode = .ok source' ∧ source.emptied = source'.emptied := by
  have hmap : Source.emptied <$> sourceOf e.sourceNode =
      Source.emptied <$> sourceOf e'.sourceNode := by
    rw [← sourceOf_emptied, ← sourceNode_emptied, h, sourceNode_emptied, sourceOf_emptied]
  cases hs : sourceOf e.sourceNode with
  | error err =>
    cases hs' : sourceOf e'.sourceNode with
    | error err' =>
      rw [hs, hs'] at hmap
      exact .inl ⟨err, rfl, congrArg Except.error (Except.error.inj hmap).symm⟩
    | ok source' =>
      rw [hs, hs'] at hmap
      cases hmap
  | ok source =>
    cases hs' : sourceOf e'.sourceNode with
    | error err' =>
      rw [hs, hs'] at hmap
      cases hmap
    | ok source' =>
      rw [hs, hs'] at hmap
      exact .inr ⟨source, source', rfl, rfl, Except.ok.inj hmap⟩

/-- **Texts do not change the shape of a statement.** Of two expressions that differ only in what
their texts hold, and whose names have no quotes, either both fail in the same way or both have a
text. Their texts are then equal once every literal is masked, and the literals of each statement
hold the texts of its join condition and then those of its predicates, in order; behind them come
the literals of the hints, which both have in common. -/
theorem toSql_noninterference (e e' : Expression) (o : Options) (hsame : e.emptied = e'.emptied)
    (hnames : ∀ name ∈ e.names, Quoteless name) :
    (∃ err, toSql e o = .error err ∧ toSql e' o = .error err) ∨
      ∃ body body', compile e = .ok body ∧ compile e' = .ok body' ∧
        toSql e o = .ok (body ++ hintTail o) ∧ toSql e' o = .ok (body' ++ hintTail o) ∧
        masked (body ++ hintTail o) = masked (body' ++ hintTail o) ∧
        literals body = (e.onConditions ++ e.predicates).flatMap Condition.texts ∧
        literals body' = (e'.onConditions ++ e'.predicates).flatMap Condition.texts ∧
        literals (body ++ hintTail o) = literals body ++ literals (hintTail o) ∧
        literals (body' ++ hintTail o) = literals body' ++ literals (hintTail o) := by
  have hnames' : ∀ name ∈ e'.names, Quoteless name := by
    rw [← Expression.names_emptied, ← hsame, Expression.names_emptied]
    exact hnames
  rcases sourceOf_cases hsame with ⟨err, herr, herr'⟩ | ⟨source, source', hs, hs', hsource⟩
  · refine .inl ⟨err, ?_, ?_⟩
    · exact toSql_eq_error_iff.mpr (compile_eq_error_iff.mpr herr)
    · exact toSql_eq_error_iff.mpr (compile_eq_error_iff.mpr herr')
  · rw [sourceOf_eq_ok_iff] at hs hs'
    have hyields := yields_statementOn hs hnames
    have hyields' := yields_statementOn hs' hnames'
    have hmask : (statementFragments e source).map Fragment.char? =
        (statementFragments e' source').map Fragment.char? := by
      rw [← map_char?_statementFragments, hsame, hsource, map_char?_statementFragments]
    refine .inr ⟨_, _, compile_eq_ok_iff_hasSource.mpr ⟨source, hs, rfl⟩,
      compile_eq_ok_iff_hasSource.mpr ⟨source', hs', rfl⟩, toSql_of_hasSource hs o,
      toSql_of_hasSource hs' o, ?_, ?_, ?_, hyields.literals_append_hintTail o,
      hyields'.literals_append_hintTail o⟩
    · rw [masked, masked, hyields.fragments_append_hintTail, hyields'.fragments_append_hintTail,
        List.map_append, hmask, List.map_append]
    · rw [literals, hyields.fragments_eq, filterMap_literal?_statementFragments hs]
    · rw [literals, hyields'.fragments_eq, filterMap_literal?_statementFragments hs']

/-- Orders with their customers, by two given texts. -/
def ordersOf (customer note : String) : Expression :=
  .selection
    (.join .left (.selection (.table ⟨"orders", some "o"⟩) (.eq "o.note" (.text note)))
      (.table ⟨"customers", none⟩)
      (.or (.eq "o.customer" (.text customer)) (.gt "o.total" (.int 3))))
    (.and (.lt "o.day" (.text note)) (.eq "o.paid" (.bool true)))

/-- Hints with an odd number of quotes in the time block. -/
def quotedHints : Options where
  timeBlock := some "it's"
  route := some ⟨.gcs, some "hot"⟩

/-- Orders of a customer whose name holds a quote, and of one without a name. -/
theorem ordersOf_noninterference :
    ((ordersOf "O'Brien" "' OR ''='").emptied = (ordersOf "" "x").emptied ∧
      ∀ name ∈ (ordersOf "O'Brien" "' OR ''='").names, Quoteless name) ∧
    ∃ body body',
      toSql (ordersOf "O'Brien" "' OR ''='") quotedHints = .ok (body ++ hintTail quotedHints) ∧
      toSql (ordersOf "" "x") quotedHints = .ok (body' ++ hintTail quotedHints) ∧
      masked (body ++ hintTail quotedHints) = masked (body' ++ hintTail quotedHints) ∧
      literals body = ["O'Brien", "' OR ''='", "' OR ''='"] ∧
      literals body' = ["", "x", "x"] := by
  have hsame : (ordersOf "O'Brien" "' OR ''='").emptied = (ordersOf "" "x").emptied := rfl
  have hnames : ∀ name ∈ (ordersOf "O'Brien" "' OR ''='").names, Quoteless name := by decide
  refine ⟨⟨hsame, hnames⟩, ?_⟩
  obtain ⟨err, herr, -⟩ | ⟨body, body', -, -, hsql, hsql', hmask, hliterals, hliterals', -⟩ :=
    toSql_noninterference _ _ quotedHints hsame hnames
  · rw [toSql_eq_error_iff, compile_eq_error_iff] at herr
    cases herr
  · exact ⟨body, body', hsql, hsql', hmask, hliterals, hliterals'⟩

end HintedSql.Sql
