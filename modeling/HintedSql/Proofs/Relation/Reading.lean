import HintedSql.Proofs.Grammar.RoundTrip
import HintedSql.Proofs.Relation.Padding
set_option relaxedAutoImplicit false
set_option autoImplicit false

/-!
# The text of a statement determines its meaning

Every clause of a statement begins with a word of its own, the columns have commas between them, and
a condition ends where its tokens say. So where the names in a statement are plain words, its text
determines its columns, its tables, the way they are joined, and all conditions up to values with
the same literal. If comparisons go by literals, the text therefore determines the meaning: whoever
reads the statement back, in whatever way, gets the relation that was compiled.

An asterisk stands for all columns, so it is no plain column.

## Main definitions

* `HintedSql.Sql.Query.Plain`, `HintedSql.Expression.Plain` — all names are plain words.
* `HintedSql.Sql.Query.Alike` — queries that differ at most in values with the same literal.
* `HintedSql.Sql.Query.tokens` — the tokens of a query.

## Main results

* `HintedSql.Sql.Query.spells` — the text of a plain query is read as its tokens.
* `HintedSql.Sql.Query.alike_of_tokens_eq` — the tokens determine the clauses.
* `HintedSql.Sql.Query.meaning_eq_of_render_eq` — plain queries with one text have one meaning.
* `HintedSql.Sql.meaning_eq_of_compile`, `HintedSql.Sql.meaning_eq_of_compile_join` — what is read
  back from a compiled expression.
-/

namespace HintedSql

variable {α : Type}

/-- A join kind is told by its word. -/
lemma JoinKind.word_injective : Function.Injective word := by
  intro kind kind' h
  cases kind <;> cases kind' <;> first | rfl | exact absurd h (by decide)

/-- A connective is told by its word. -/
lemma Connective.word_injective : Function.Injective word := by
  intro op op' h
  cases op <;> cases op' <;> first | rfl | exact absurd h (by decide)

/-! ## Plain names -/

/-- The names of a table are words. -/
def Table.Plain (t : Table) : Prop :=
  Sql.IsWord t.name ∧ ∀ asName ∈ t.asName, Sql.IsWord asName

instance (t : Table) : Decidable t.Plain :=
  inferInstanceAs (Decidable (_ ∧ ∀ asName ∈ t.asName, Sql.IsWord asName))

/-- The columns of a condition are words. -/
def Condition.Plain (c : Condition) : Prop :=
  ∀ x ∈ c.comparisons, Sql.IsWord x.2.1

instance (c : Condition) : Decidable c.Plain :=
  inferInstanceAs (Decidable (∀ x ∈ c.comparisons, Sql.IsWord x.2.1))

namespace Sql

/-- A column of a SELECT list: a word without commas, and not the one that stands for all
columns. -/
def IsColumn (column : String) : Prop :=
  IsWord column ∧ ',' ∉ column.toList ∧ column ≠ "*"

instance (column : String) : Decidable (IsColumn column) :=
  inferInstanceAs (Decidable (_ ∧ _ ∧ _))

/-- The names in a FROM clause are words. -/
def Source.Plain : Source → Prop
  | table t => t.Plain
  | join _ left right on => left.Plain ∧ right.Plain ∧ on.Plain

/-- All names in a query are words. -/
structure Query.Plain (q : Query) : Prop where
  columns : ∀ column ∈ q.columns, IsColumn column
  source : q.source.Plain
  terms : ∀ p ∈ q.terms, p.Plain

/-- FROM clauses that differ at most in values with the same literal. -/
inductive Source.Alike : Source → Source → Prop
  | table (t : Table) : Alike (.table t) (.table t)
  | join (kind : JoinKind) (left right : Table) {on on' : Condition} (h : on.Alike on') :
    Alike (.join kind left right on) (.join kind left right on')

/-- Queries that differ at most in values with the same literal. -/
structure Query.Alike (q q' : Query) : Prop where
  columns : q.columns = q'.columns
  source : q.source.Alike q'.source
  terms : List.Forall₂ Condition.Alike q.terms q'.terms

/-! ## The tokens of a query -/

/-- The tokens of a SELECT list; a comma belongs to the column in front of it. -/
def columnTokens : List String → List Token
  | [] => [.word "*"]
  | [column] => [.word column]
  | column :: next :: columns => .word (column ++ ",") :: columnTokens (next :: columns)

/-- The tokens of a table. -/
def tableTokens (t : Table) : List Token :=
  .word t.name :: t.asName.toList.flatMap fun asName => [.word "AS", .word asName]

/-- The tokens of a FROM clause. -/
def Source.tokens : Source → List Token
  | table t => .word "FROM" :: tableTokens t
  | join kind left right on =>
    .word "FROM" :: tableTokens left ++
      .word kind.word :: .word "JOIN" :: tableTokens right ++ .word "ON" :: conditionTokens on

/-- The tokens of terms behind the first one. -/
def moreTokens (terms : List Condition) : List Token :=
  terms.flatMap fun p => .word "AND" :: conditionTokens p

/-- The tokens of a WHERE clause, if there are terms. -/
def whereTokens : List Condition → List Token
  | [] => []
  | p :: terms => .word "WHERE" :: conditionTokens p ++ moreTokens terms

/-- The tokens of a query. -/
def Query.tokens (q : Query) : List Token :=
  .word "SELECT" :: columnTokens q.columns ++ q.source.tokens ++ whereTokens q.terms

/-! ## The text of a query is read as its tokens -/

/-- A word with a comma behind it is a word. -/
lemma IsWord.append_comma {s : String} (h : IsWord s) : IsWord (s ++ ",") := by
  refine ⟨by simp, ?_⟩
  intro c hc
  rw [String.toList_append, List.mem_append] at hc
  obtain hc | hc := hc
  · exact h.2 c hc
  · obtain rfl : c = ',' := by simpa using hc
    decide

/-- A SELECT list is read as its tokens. -/
lemma spells_columnList {columns : List String} (h : ∀ column ∈ columns, IsColumn column) :
    Spells (columnList columns) (columnTokens columns) := by
  have hlist : ∀ column rest, (∀ c ∈ column :: rest, IsColumn c) →
      Spells (String.intercalate ", " (column :: rest)) (columnTokens (column :: rest)) := by
    intro column rest h
    induction rest generalizing column with
    | nil => simpa [columnTokens] using spells_word (h column (by simp)).1
    | cons next rest ih =>
      have hcolumn := spells_word (h column (by simp)).1.append_comma
      have hrest := hcolumn.space (ih next fun c hc => h c (List.mem_cons_of_mem _ hc))
      simpa [columnTokens, String.append_assoc] using hrest
  cases columns with
  | nil => exact spells_word (by decide)
  | cons column rest => exact hlist column rest h

/-- A table is read as its tokens. -/
lemma spells_tableRef {t : Table} (h : t.Plain) : Spells (tableRef t) (tableTokens t) := by
  obtain ⟨name, asName⟩ := t
  obtain ⟨hname, hasName⟩ := h
  cases asName with
  | none => exact spells_word hname
  | some asName =>
    have has : Spells "AS" [.word "AS"] := spells_word (by decide)
    have h := ((spells_word hname).space has).space (spells_word (hasName asName rfl))
    simpa [tableRef, tableTokens, String.append_assoc] using h

/-- A FROM clause is read as its tokens. -/
theorem Source.spells {source : Source} (h : source.Plain) :
    Spells source.render source.tokens := by
  have hfrom : Spells "FROM" [.word "FROM"] := spells_word (by decide)
  cases source with
  | table t =>
    simpa [render, tokens] using hfrom.space (spells_tableRef h)
  | join kind left right on =>
    obtain ⟨hleft, hright, hon⟩ := h
    have hkind : Spells kind.word [.word kind.word] := spells_word (by cases kind <;> decide)
    have hjoin : Spells "JOIN" [.word "JOIN"] := spells_word (by decide)
    have hword : Spells "ON" [.word "ON"] := spells_word (by decide)
    have hfirst := hfrom.space (spells_tableRef hleft)
    have hsecond := (((hkind.space hjoin).space (spells_tableRef hright)).space hword).space
      (spells_condition hon)
    simpa [render, tokens, String.append_assoc] using hfirst.newline hsecond

/-- Terms with `AND` between them are read as their tokens. -/
lemma spells_terms {p : Condition} {terms : List Condition} (hp : p.Plain)
    (hterms : ∀ p ∈ terms, p.Plain) :
    Spells (String.intercalate " AND " ((p :: terms).map condition))
      (conditionTokens p ++ moreTokens terms) := by
  induction terms generalizing p with
  | nil => simpa [moreTokens] using spells_condition hp
  | cons next terms ih =>
    have hword : Spells "AND" [.word "AND"] := spells_word (by decide)
    have hrest := ih (hterms next (by simp)) fun p hmem => hterms p (List.mem_cons_of_mem _ hmem)
    have h := ((spells_condition hp).space hword).space hrest
    simpa [moreTokens, String.append_assoc] using h

/-- **The text of a plain query is read as its tokens.** -/
theorem Query.spells {q : Query} (h : q.Plain) : Spells q.statement.render q.tokens := by
  have hselect : Spells "SELECT" [.word "SELECT"] := spells_word (by decide)
  have hhead := (hselect.space (spells_columnList h.columns)).newline (Source.spells h.source)
  obtain ⟨columns, source, terms⟩ := q
  rw [statement, Statement.render_mk_conjunction]
  cases terms with
  | nil => simpa [whereText, tokens, whereTokens, String.append_assoc] using hhead
  | cons p terms =>
    have hwhere : Spells "WHERE" [.word "WHERE"] := spells_word (by decide)
    have hterms := spells_terms (h.terms p (by simp)) fun p hmem =>
      h.terms p (List.mem_cons_of_mem _ hmem)
    have hall := hhead.newline (hwhere.space hterms)
    have htext : whereText (p :: terms) =
        "\n" ++ ("WHERE " ++ String.intercalate " AND " ((p :: terms).map condition)) := by
      rw [whereText, if_neg (List.cons_ne_nil p terms), ← String.append_assoc]
      rfl
    simpa [htext, tokens, whereTokens, String.append_assoc] using hall

/-! ## Tokens determine the clauses -/

/-- Values with the same token have the same literal. -/
lemma literal_eq_of_literalToken_eq {v w : Value} (h : literalToken v = literalToken w) :
    literal v = literal w := by
  cases v <;> cases w <;> simp_all [literalToken]

/-- A condition ends where its tokens say, and these determine it. -/
lemma conditionTokens_append_inj {c d : Condition} {ts us : List Token}
    (h : conditionTokens c ++ ts = conditionTokens d ++ us) : c.Alike d ∧ ts = us := by
  induction c generalizing d ts us with
  | compare op column v =>
    cases d with
    | compare op' column' w =>
      simp only [conditionTokens, List.cons_append, List.nil_append, List.cons.injEq,
        Token.word.injEq, Token.sign.injEq] at h
      obtain ⟨rfl, rfl, hliteral, hrest⟩ := h
      exact ⟨.compare (literal_eq_of_literalToken_eq hliteral), hrest⟩
    | connect => simp [conditionTokens] at h
  | connect op left right ihl ihr =>
    cases d with
    | compare => simp [conditionTokens] at h
    | connect op' left' right' =>
      simp only [conditionTokens, List.cons_append, List.append_assoc, List.cons.injEq,
        true_and] at h
      obtain ⟨hleft, hsecond⟩ := ihl h
      obtain ⟨hword, hthird⟩ := List.cons.inj hsecond
      obtain ⟨hright, hclosing⟩ := ihr hthird
      obtain rfl := Connective.word_injective (Token.word.inj hword)
      exact ⟨.connect hleft hright, (List.cons.inj hclosing).2⟩

/-- Terms are determined by their tokens. -/
lemma forall₂_alike_of_moreTokens_eq {terms terms' : List Condition}
    (h : moreTokens terms = moreTokens terms') : List.Forall₂ Condition.Alike terms terms' := by
  induction terms generalizing terms' with
  | nil =>
    cases terms' with
    | nil => exact .nil
    | cons => simp [moreTokens] at h
  | cons p terms ih =>
    cases terms' with
    | nil => simp [moreTokens] at h
    | cons p' terms' =>
      simp only [moreTokens, List.flatMap_cons, List.cons_append, List.cons.injEq, true_and] at h
      obtain ⟨hp, hrest⟩ := conditionTokens_append_inj h
      exact .cons hp (ih hrest)

/-- A WHERE clause is determined by its tokens. -/
lemma forall₂_alike_of_whereTokens_eq {terms terms' : List Condition}
    (h : whereTokens terms = whereTokens terms') : List.Forall₂ Condition.Alike terms terms' := by
  cases terms with
  | nil =>
    cases terms' with
    | nil => exact .nil
    | cons => simp [whereTokens] at h
  | cons p terms =>
    cases terms' with
    | nil => simp [whereTokens] at h
    | cons p' terms' =>
      simp only [whereTokens, List.cons_append, List.cons.injEq, true_and] at h
      obtain ⟨hp, hrest⟩ := conditionTokens_append_inj h
      exact .cons hp (forall₂_alike_of_moreTokens_eq hrest)

/-- A table is determined by its tokens where no other name of it follows. -/
lemma tableTokens_append_inj {t u : Table} {ts us : List Token}
    (hts : ts.head? ≠ some (.word "AS")) (hus : us.head? ≠ some (.word "AS"))
    (h : tableTokens t ++ ts = tableTokens u ++ us) : t = u ∧ ts = us := by
  obtain ⟨name, asName⟩ := t
  obtain ⟨name', asName'⟩ := u
  cases asName with
  | none =>
    cases asName' with
    | none => simpa [tableTokens] using h
    | some asName' =>
      obtain ⟨-, rfl⟩ : name = name' ∧ ts = .word "AS" :: .word asName' :: us := by
        simpa [tableTokens] using h
      exact absurd rfl hts
  | some asName =>
    cases asName' with
    | none =>
      obtain ⟨-, rfl⟩ : name = name' ∧ .word "AS" :: .word asName :: ts = us := by
        simpa [tableTokens] using h
      exact absurd rfl hus
    | some asName' => simpa [tableTokens, and_assoc] using h

/-- A text that ends in a comma is no column, and does not stand for all columns either. -/
lemma ne_append_comma {s : String} (h : ',' ∉ s.toList) (other : String) : s ≠ other ++ "," := by
  rintro rfl
  exact h (by simp)

/-- A SELECT list is determined by its tokens, whatever follows. -/
lemma columnTokens_append_inj {columns columns' : List String} {ts us : List Token}
    (hcolumns : ∀ column ∈ columns, IsColumn column)
    (hcolumns' : ∀ column ∈ columns', IsColumn column)
    (h : columnTokens columns ++ ts = columnTokens columns' ++ us) :
    columns = columns' ∧ ts = us := by
  have hstar : ',' ∉ "*".toList := by decide
  induction columns using columnTokens.induct generalizing columns' with
  | case1 =>
    match columns' with
    | [] => simpa [columnTokens] using h
    | [column'] =>
      simp only [columnTokens, List.cons_append, List.cons.injEq, Token.word.injEq] at h
      exact absurd h.1.symm (hcolumns' column' (by simp)).2.2
    | column' :: next' :: rest' =>
      simp only [columnTokens, List.cons_append, List.cons.injEq, Token.word.injEq] at h
      exact absurd h.1 (ne_append_comma hstar column')
  | case2 column =>
    have hcolumn := hcolumns column (by simp)
    match columns' with
    | [] =>
      simp only [columnTokens, List.cons_append, List.cons.injEq, Token.word.injEq] at h
      exact absurd h.1 hcolumn.2.2
    | [column'] => simpa [columnTokens] using h
    | column' :: next' :: rest' =>
      simp only [columnTokens, List.cons_append, List.cons.injEq, Token.word.injEq] at h
      exact absurd h.1 (ne_append_comma hcolumn.2.1 column')
  | case3 column next rest ih =>
    match columns' with
    | [] =>
      simp only [columnTokens, List.cons_append, List.cons.injEq, Token.word.injEq] at h
      exact absurd h.1.symm (ne_append_comma hstar column)
    | [column'] =>
      simp only [columnTokens, List.cons_append, List.cons.injEq, Token.word.injEq] at h
      exact absurd h.1.symm (ne_append_comma (hcolumns' column' (by simp)).2.1 column)
    | column' :: next' :: rest' =>
      simp only [columnTokens, List.cons_append, List.cons.injEq, Token.word.injEq] at h
      obtain ⟨hcomma, hrest⟩ := h
      obtain ⟨hmore, htail⟩ := ih (fun c hc => hcolumns c (List.mem_cons_of_mem _ hc))
        (fun c hc => hcolumns' c (List.mem_cons_of_mem _ hc)) hrest
      exact ⟨by rw [String.append_left_inj] at hcomma; rw [hcomma, hmore], htail⟩

/-- A WHERE clause does not begin like another name of a table. -/
lemma head?_whereTokens_ne (terms : List Condition) :
    (whereTokens terms).head? ≠ some (.word "AS") := by
  cases terms <;> simp [whereTokens]

/-- The second half of a join does not begin like another name of a table. -/
lemma head?_joinTokens_ne (kind : JoinKind) (ts : List Token) :
    (Token.word kind.word :: ts).head? ≠ some (.word "AS") := by
  cases kind <;> simp [JoinKind.word]

/-- A WHERE clause does not begin like the second half of a join. -/
lemma whereTokens_ne_joinTokens (terms : List Condition) (kind : JoinKind) (ts : List Token) :
    whereTokens terms ≠ .word kind.word :: ts := by
  cases terms <;> cases kind <;> simp [whereTokens, JoinKind.word]

/-- A FROM clause is determined by its tokens where a WHERE clause or nothing follows. -/
lemma Source.tokens_append_inj {source source' : Source} {terms terms' : List Condition}
    (h : source.tokens ++ whereTokens terms = source'.tokens ++ whereTokens terms') :
    source.Alike source' ∧ whereTokens terms = whereTokens terms' := by
  have hwhere := head?_whereTokens_ne terms
  have hwhere' := head?_whereTokens_ne terms'
  cases source with
  | table t =>
    cases source' with
    | table t' =>
      simp only [tokens, List.cons_append, List.cons.injEq, true_and] at h
      obtain ⟨rfl, hrest⟩ := tableTokens_append_inj hwhere hwhere' h
      exact ⟨.table t, hrest⟩
    | join kind' left' right' on' =>
      simp only [tokens, List.cons_append, List.append_assoc, List.cons.injEq, true_and] at h
      obtain ⟨-, hrest⟩ := tableTokens_append_inj hwhere (head?_joinTokens_ne kind' _) h
      exact absurd hrest (whereTokens_ne_joinTokens terms kind' _)
  | join kind left right on =>
    cases source' with
    | table t' =>
      simp only [tokens, List.cons_append, List.append_assoc, List.cons.injEq, true_and] at h
      obtain ⟨-, hrest⟩ := tableTokens_append_inj (head?_joinTokens_ne kind _) hwhere' h
      exact absurd hrest.symm (whereTokens_ne_joinTokens terms' kind _)
    | join kind' left' right' on' =>
      simp only [tokens, List.cons_append, List.append_assoc, List.cons.injEq, true_and] at h
      obtain ⟨rfl, hjoin⟩ := tableTokens_append_inj (head?_joinTokens_ne kind _)
        (head?_joinTokens_ne kind' _) h
      simp only [List.cons.injEq, Token.word.injEq, true_and] at hjoin
      obtain ⟨hkind, hright⟩ := hjoin
      obtain ⟨rfl, hon⟩ := tableTokens_append_inj (by simp) (by simp) hright
      obtain ⟨halike, hrest⟩ := conditionTokens_append_inj (List.cons.inj hon).2
      obtain rfl := JoinKind.word_injective hkind
      exact ⟨.join kind left right halike, hrest⟩

/-- **The tokens of a query determine its clauses**, up to values with the same literal. -/
theorem Query.alike_of_tokens_eq {q q' : Query} (hq : q.Plain) (hq' : q'.Plain)
    (h : q.tokens = q'.tokens) : q.Alike q' := by
  simp only [tokens, List.cons_append, List.append_assoc, List.cons.injEq, true_and] at h
  obtain ⟨hcolumns, hrest⟩ := columnTokens_append_inj hq.columns hq'.columns h
  obtain ⟨hsource, hwhere⟩ := Source.tokens_append_inj hrest
  exact ⟨hcolumns, hsource, forall₂_alike_of_whereTokens_eq hwhere⟩

/-- **The text of a plain query determines its clauses**, up to values with the same literal. -/
theorem Query.alike_of_render_eq {q q' : Query} (hq : q.Plain) (hq' : q'.Plain)
    (h : q.statement.render = q'.statement.render) : q.Alike q' := by
  have htokens := (Query.spells hq).tokens_eq
  rw [h, (Query.spells hq').tokens_eq] at htokens
  exact alike_of_tokens_eq hq hq' (Option.some.inj htokens).symm

end Sql

/-! ## The text determines the meaning -/

/-- Values with the same literal are compared alike on every row. -/
def Interpretation.ReadsLiterals (I : Interpretation α) : Prop :=
  ∀ row, (I.assignment row).ReadsLiterals

namespace Sql

variable {I : Interpretation α}

/-- FROM clauses that are alike stand for one relation. -/
lemma Source.Alike.meaning_eq {source source' : Source} (h : source.Alike source')
    (hI : I.ReadsLiterals) : source.meaning I = source'.meaning I := by
  cases h with
  | table t => rfl
  | @join kind left right on on' h =>
    have hholds : I.holds on = I.holds on' := by
      funext row
      exact congrArg Truth.holds (h.truth_eq (hI row))
    rw [Source.meaning, Source.meaning, hholds]

/-- Queries that are alike stand for one relation. -/
lemma Query.Alike.meaning_eq {q q' : Query} (h : q.Alike q') (hI : I.ReadsLiterals) :
    q.meaning I = q'.meaning I := by
  have hterms : I.satisfies q.terms = I.satisfies q'.terms := by
    funext row
    rw [Interpretation.satisfies, Interpretation.satisfies,
      Condition.map_truth_eq_of_alike h.terms (hI row)]
  rw [Query.meaning, Query.meaning, h.source.meaning_eq hI, hterms, h.columns]

/-- **Plain queries with one text have one meaning.** -/
theorem Query.meaning_eq_of_render_eq {q q' : Query} (hq : q.Plain) (hq' : q'.Plain)
    (h : q.statement.render = q'.statement.render) (hI : I.ReadsLiterals) :
    q.meaning I = q'.meaning I :=
  (alike_of_render_eq hq hq' h).meaning_eq hI

end Sql

/-! ## Compiled expressions -/

namespace Expression

/-- All names in an expression are plain. -/
def Plain : Expression → Prop
  | table t => t.Plain
  | selection input p => input.Plain ∧ p.Plain
  | projection input columns => input.Plain ∧ ∀ column ∈ columns, Sql.IsColumn column
  | join _ left right on => left.Plain ∧ right.Plain ∧ on.Plain

instance decidablePlain : (e : Expression) → Decidable e.Plain
  | table t => inferInstanceAs (Decidable t.Plain)
  | selection input p =>
    have := decidablePlain input
    inferInstanceAs (Decidable (input.Plain ∧ p.Plain))
  | projection input columns =>
    have := decidablePlain input
    inferInstanceAs (Decidable (input.Plain ∧ ∀ column ∈ columns, Sql.IsColumn column))
  | join _ left right on =>
    have := decidablePlain left
    have := decidablePlain right
    inferInstanceAs (Decidable (left.Plain ∧ right.Plain ∧ on.Plain))

/-- The table that a plain expression reaches is plain. -/
lemma Reaches.plain {e : Expression} {t : Table} (h : e.Reaches t) (he : e.Plain) : t.Plain := by
  induction h with
  | table t => exact he
  | selection p _ ih => exact ih he.1
  | projection columns _ ih => exact ih he.1

/-- The predicates of a plain expression are plain. -/
lemma Plain.predicates {e : Expression} (he : e.Plain) : ∀ p ∈ e.predicates, p.Plain := by
  induction e with
  | table t => simp
  | selection input p ih =>
    simp only [predicates_selection, List.mem_append, List.mem_singleton]
    rintro q (hq | rfl)
    · exact ih he.1 q hq
    · exact he.2
  | projection input columns ih => simpa using ih he.1
  | join kind left right on ihl ihr =>
    simp only [predicates_join, List.mem_append]
    rintro q (hq | hq)
    · exact ihl he.1 q hq
    · exact ihr he.2.1 q hq

/-- The source node of a plain expression is plain. -/
lemma Plain.sourceNode {e : Expression} (he : e.Plain) : e.sourceNode.Plain := by
  cases e with
  | table | join => exact he
  | selection | projection => exact he.1

/-- The columns at the root of a plain expression are plain. -/
lemma Plain.rootColumns {e : Expression} (he : e.Plain) :
    ∀ column ∈ e.rootColumns, Sql.IsColumn column := by
  cases e with
  | projection input columns => exact he.2
  | table | selection | join => simp [Expression.rootColumns]

end Expression

namespace Sql

/-- The query of a plain expression is plain. -/
lemma HasSource.plain_queryOn {e : Expression} {source : Source}
    (h : HasSource e.sourceNode source) (he : e.Plain) : (queryOn e source).Plain := by
  refine ⟨he.rootColumns, ?_, he.predicates⟩
  have hnode := he.sourceNode
  generalize e.sourceNode = node at h hnode
  cases h with
  | table h => exact h.plain hnode
  | join kind on hl hr => exact ⟨hl.plain hnode.1, hr.plain hnode.2.1, hnode.2.2⟩

/-- A plain query with the text of a plain expression means what the query of the expression
does. -/
theorem HasSource.meaning_eq_of_render_eq {e : Expression} {source : Source}
    (h : HasSource e.sourceNode source) (he : e.Plain) {q : Query} (hq : q.Plain)
    (hrender : q.statement.render = (statementOn e source).render) {I : Interpretation α}
    (hI : I.ReadsLiterals) : q.meaning I = (queryOn e source).meaning I := by
  rw [← statement_queryOn] at hrender
  exact Query.meaning_eq_of_render_eq hq (h.plain_queryOn he) hrender hI

/-- **What is read back means what was compiled.** Under the conditions on which compiling preserves
meaning, every plain query with the text of a plain expression has the meaning of the expression. -/
theorem meaning_eq_of_compile {I : Interpretation α} (hI : I.ReadsLiterals) {e : Expression}
    (he : e.Plain) {s : String} (hs : compile e = .ok s)
    (hproj : ∀ n ∈ e.properNodes, n.isProjection = false) (hpad : e.FiltersUnpadded)
    (hside : e.FiltersOneSided I) {q : Query} (hq : q.Plain) (hrender : q.statement.render = s) :
    q.meaning I = e.meaning I := by
  obtain ⟨source, hsource, rfl⟩ := compile_eq_ok_iff_hasSource.mp hs
  rw [hsource.meaning_eq_of_render_eq he hq hrender hI]
  exact hsource.meaning_queryOn hproj hpad hside

/-- The names in an expression need not be letters only. -/
example : grownUsers.Plain := by decide

/-- **What is read back from a join pads no filtered input**, either: every plain query with the
text of a plain join means the join of the filtered inputs that pads only an input without
selections. -/
theorem meaning_eq_of_compile_join {I : Interpretation α} (hI : I.ReadsLiterals)
    (hcells : I.ComparesCells) {kind : JoinKind} {left right : Expression} {on : Condition}
    {l r : Table} (hl : left.Reaches l) (hr : right.Reaches r)
    (hproj : ∀ n ∈ (Expression.join kind left right on).nodes, n.isProjection = false)
    (hcapture : Expression.NoCapture I left right (I.table l) (I.table r))
    (he : (Expression.join kind left right on).Plain) {q : Query} (hq : q.Plain)
    (hrender : compile (.join kind left right on) = .ok q.statement.render) :
    q.meaning I = (left.meaning I).join (kind.unpad left.isFiltered right.isFiltered)
      (right.meaning I) (I.holds on) := by
  have hsource : HasSource (Expression.join kind left right on).sourceNode (.join kind l r on) :=
    .join kind on hl hr
  have htext : compile (.join kind left right on) = .ok (statementOn (.join kind left right on)
      (.join kind l r on)).render :=
    compile_eq_ok_iff_hasSource.mpr ⟨_, hsource, rfl⟩
  rw [hsource.meaning_eq_of_render_eq he hq (Except.ok.inj (hrender.symm.trans htext)) hI]
  exact meaning_queryOn_join hcells hl hr hproj hcapture

end Sql

end HintedSql
