import HintedSql.Proofs.Grammar.Phrase
import HintedSql.Proofs.Sql.Clause
import Mathlib.Data.List.Forall2
set_option relaxedAutoImplicit false
set_option autoImplicit false

/-!
# Written conditions are read back

Every written connective stands in parentheses and every written text inside its quotes, so the
text of a condition is a primary of the grammar whatever its values hold. Clauses are conjoined
without further parentheses: the body is a conjunction, one operand for each condition. It has no
other reading, because the grammar is unambiguous.

## Main definitions

* `HintedSql.Sql.Parses` — the grammar reads a text as a disjunction.
* `HintedSql.Sql.conditionTokens` — the tokens of a written condition.
* `HintedSql.Condition.Alike` — conditions that differ at most in values with the same literal.
* `HintedSql.Assignment.byLiteral`, `HintedSql.Assignment.ReadsLiterals` — truth values that depend
  on a value through its literal.
* `HintedSql.Sql.WhereClause.Demands` — the body of a clause is a conjunction of given conditions.

## Main results

* `HintedSql.Sql.exists_isPrimary` — a written condition is a primary.
* `HintedSql.Sql.WhereClause.Demands.and`, `HintedSql.Sql.WhereClause.Demands.foldl` — conjoining
  one clause, and a list of them.
* `HintedSql.Sql.conjoined_parses_iff` — conjoined conditions are read back, and only they.
-/

namespace HintedSql

/-- The assignment that goes by the literals of values. -/
def Assignment.byLiteral (f : Comparison → String → String → Truth) : Assignment :=
  fun op column v => f op column (Sql.literal v)

/-- Values with the same literal are compared alike. -/
def Assignment.ReadsLiterals (assign : Assignment) : Prop :=
  ∀ op column v w, Sql.literal v = Sql.literal w → assign op column v = assign op column w

/-- An assignment that goes by literals compares values with the same literal alike. -/
lemma Assignment.readsLiterals_byLiteral (f : Comparison → String → String → Truth) :
    (byLiteral f).ReadsLiterals := by
  intro op column v w h
  rw [byLiteral, byLiteral, h]

namespace Condition

/-- The same comparisons in the same tree, up to values with the same literal. -/
inductive Alike : Condition → Condition → Prop where
  | compare {op : Comparison} {column : String} {v w : Value} (h : Sql.literal v = Sql.literal w) :
    Alike (.compare op column v) (.compare op column w)
  | connect {op : Connective} {l r l' r' : Condition} (hl : Alike l l') (hr : Alike r r') :
    Alike (.connect op l r) (.connect op l' r')

/-- Where truth values go by literals, conditions that are alike have the same one. -/
lemma Alike.truth_eq {c d : Condition} (h : Alike c d) {assign : Assignment}
    (hassign : assign.ReadsLiterals) : c.truth assign = d.truth assign := by
  induction h with
  | compare h => exact hassign _ _ _ _ h
  | connect hl hr ihl ihr => rw [truth, truth, ihl, ihr]

/-- The same for conditions one by one. -/
lemma map_truth_eq_of_alike {cs ds : List Condition} (h : List.Forall₂ Alike cs ds)
    {assign : Assignment} (hassign : assign.ReadsLiterals) :
    cs.map (·.truth assign) = ds.map (·.truth assign) := by
  induction h with
  | nil => rfl
  | cons h _ ih => rw [List.map_cons, List.map_cons, h.truth_eq hassign, ih]

/-- A conjunction that associates to the left is as true as its least true operand. -/
lemma truth_foldl_and (assign : Assignment) (c : Condition) (cs : List Condition) :
    (cs.foldl (.connect .and) c).truth assign = Truth.all ((c :: cs).map (·.truth assign)) := by
  induction cs generalizing c with
  | nil => simp
  | cons c' cs ih =>
    rw [List.foldl_cons, ih]
    exact Truth.and_assoc _ _ _

end Condition

namespace Sql

/-- The text is read completely, as the given disjunction. -/
def Parses (s : String) (d : Operands (Operands Condition)) : Prop :=
  ∃ ts, tokens s.toList = some ts ∧ IsDisjunction ts d

/-! ## One condition -/

/-- The tokens of a written condition. -/
def conditionTokens : Condition → List Token
  | .compare op column v => [.word column, .sign op, literalToken v]
  | .connect op left right =>
    .opening :: (conditionTokens left ++ .word op.word :: conditionTokens right) ++ [.closing]

/-- Two texts with the word of a connective between them. -/
lemma Spells.connective {s t : String} {ts us : List Token} (hs : Spells s ts)
    (op : Connective) (ht : Spells t us) :
    Spells (s ++ " " ++ op.word ++ " " ++ t) (ts ++ .word op.word :: us) := by
  have hword : Spells op.word [.word op.word] := spells_word (by cases op <;> decide)
  have h := (hs.space hword).space ht
  rwa [List.append_assoc, List.singleton_append] at h

/-- The text of a condition is read as its tokens. -/
lemma spells_condition {c : Condition} (h : ∀ x ∈ c.comparisons, IsWord x.2.1) :
    Spells (condition c) (conditionTokens c) := by
  induction c with
  | compare op column v =>
    have hcolumn : Spells column [.word column] := spells_word (h _ (List.mem_singleton.mpr rfl))
    exact (hcolumn.space (spells_sign op)).space (spells_literal v)
  | connect op left right ihl ihr =>
    have hl := ihl fun x hx => h x (List.mem_append_left _ hx)
    have hr := ihr fun x hx => h x (List.mem_append_right _ hx)
    have hgroup := (hl.connective op hr).group
    simpa only [condition, conditionTokens, String.append_assoc] using hgroup

/-- A written condition is a primary, whose condition is the one that was written up to values with
the same literal.

**Proof sketch.** By induction on the condition. A comparison is read because its literal is. The
parentheses around a connective hold two primaries, which are the operands of one conjunction for
`AND` and two conjunctions for `OR`. -/
theorem exists_isPrimary (c : Condition) :
    ∃ d, IsPrimary (conditionTokens c) d ∧ d.Alike c := by
  induction c with
  | compare op column v =>
    obtain ⟨v', hv', hliteral⟩ := exists_value?_literalToken v
    exact ⟨.compare op column v', .compare hv', .compare hliteral⟩
  | connect op left right ihl ihr =>
    obtain ⟨l, hl, hleft⟩ := ihl
    obtain ⟨r, hr, hright⟩ := ihr
    refine ⟨.connect op l r, ?_, .connect hleft hright⟩
    -- Of two operands in parentheses `tree` makes one connective, so the derivations below end in
    -- the condition itself.
    cases op with
    | and =>
      have ht : (Token.word Connective.and.word).connective? = some .and := by decide
      exact .group (.one (.and (.one hl) ht hr))
    | or =>
      have ht : (Token.word Connective.or.word).connective? = some .or := by decide
      exact .group (.or (.one (.one hl)) ht (.one hr))

/-! ## Conjoined conditions -/

/-- The operands of a conjunction are combined from the left. -/
lemma Operands.combine_eq_foldl {α : Type} {f : α → α → α} {p : Operands α} {a : α}
    {as : List α} (h : p.toList = a :: as) : p.combine f = as.foldl f a := by
  obtain ⟨init, last⟩ := p
  cases init with
  | nil =>
    obtain ⟨rfl, rfl⟩ := List.cons.inj h
    rfl
  | cons b bs =>
    obtain ⟨rfl, rfl⟩ := List.cons.inj h
    simp [combine]

/-- A conjunction is as true as its least true operand. -/
lemma truth_tree_one (assign : Assignment) (p : Operands Condition) :
    (tree (.one p)).truth assign = Truth.all (p.toList.map (·.truth assign)) := by
  obtain ⟨c, cs, hp⟩ : ∃ c cs, p.toList = c :: cs :=
    List.exists_cons_of_ne_nil (by simp [Operands.toList])
  have htree : tree (.one p) = cs.foldl (.connect .and) c := Operands.combine_eq_foldl hp
  rw [htree, hp, Condition.truth_foldl_and]

namespace WhereClause

/-- The body of the clause is read as a conjunction of conditions like the given ones, in this
order. -/
def Demands (w : WhereClause) (cs : List Condition) : Prop :=
  ∃ body ts p, w.body = some body ∧ Spells body ts ∧ IsConjunction ts p ∧
    List.Forall₂ Condition.Alike p.toList cs

/-- The clause of a single condition demands that condition. -/
lemma demands_ofCondition {c : Condition} (h : ∀ x ∈ c.comparisons, IsWord x.2.1) :
    (ofCondition c).Demands [c] := by
  obtain ⟨d, hd, halike⟩ := exists_isPrimary c
  exact ⟨condition c, conditionTokens c, .one d, rfl, spells_condition h, .one hd,
    .cons halike .nil⟩

/-- One more condition is one more operand. -/
theorem Demands.and {w : WhereClause} {cs : List Condition} (hw : w.Demands cs) {c : Condition}
    (h : ∀ x ∈ c.comparisons, IsWord x.2.1) : (w.and (ofCondition c)).Demands (cs ++ [c]) := by
  obtain ⟨body, ts, p, hbody, hspells, hp, hcs⟩ := hw
  obtain ⟨d, hd, halike⟩ := exists_isPrimary c
  have hbody' : (w.and (ofCondition c)).body =
      some (body ++ " " ++ Connective.and.word ++ " " ++ condition c) := by
    -- Clauses are joined by the same word as conditions, but without parentheses.
    have hseparator : " AND " = " " ++ Connective.and.word ++ " " := by decide
    rw [WhereClause.and, hbody]
    simp only [ofCondition, ofText, hseparator, String.append_assoc]
  have ht : (Token.word Connective.and.word).connective? = some .and := by decide
  exact ⟨_, _, p.push d, hbody', hspells.connective .and (spells_condition h), hp.and ht hd,
    List.rel_append hcs (.cons halike .nil)⟩

/-- Conditions conjoined one by one are operands in their order. -/
theorem Demands.foldl {w : WhereClause} {cs ds : List Condition} (hw : w.Demands cs)
    (h : ∀ c ∈ ds, ∀ x ∈ c.comparisons, IsWord x.2.1) :
    (ds.foldl (fun w c => w.and (ofCondition c)) w).Demands (cs ++ ds) := by
  induction ds generalizing w cs with
  | nil => simpa using hw
  | cons c ds ih =>
    have hc := h c (List.mem_cons_self)
    have hstep := ih (hw.and hc) fun d hd => h d (List.mem_cons_of_mem _ hd)
    simpa using hstep

end WhereClause

/-- **Conjoined conditions are read back, and only they.** The body of the clause has exactly one
reading: a conjunction whose operands are the conditions in order, with the same trees and with
values that have the same literals. So it is as true as the least true of the conditions, whatever
the comparisons stand for. -/
theorem conjoined_parses_iff {cs : List Condition} (hne : cs ≠ [])
    (hwords : ∀ c ∈ cs, ∀ x ∈ c.comparisons, IsWord x.2.1) :
    ∃ body p, (cs.foldl (fun w c => w.and (.ofCondition c)) WhereClause.empty).body = some body ∧
      (∀ d, Parses body d ↔ d = .one p) ∧ List.Forall₂ Condition.Alike p.toList cs ∧
      ∀ f : Comparison → String → String → Truth,
        (tree (.one p)).truth (.byLiteral f) = Truth.all (cs.map (·.truth (.byLiteral f))) := by
  obtain ⟨c, cs, rfl⟩ := List.exists_cons_of_ne_nil hne
  have hc := hwords c List.mem_cons_self
  have hdemands := (WhereClause.demands_ofCondition hc).foldl
    fun d hd => hwords d (List.mem_cons_of_mem _ hd)
  obtain ⟨body, ts, p, hbody, hspells, hp, halike⟩ := hdemands
  have hparse : Parses body (.one p) := ⟨ts, hspells.tokens_eq, .one hp⟩
  refine ⟨body, p, ?_, ?_, halike, ?_⟩
  · -- The first clause is conjoined with no clause at all.
    rw [List.foldl_cons, WhereClause.empty_and, hbody]
  · intro d
    constructor
    · rintro ⟨us, hus, hd⟩
      obtain rfl : ts = us := Option.some.inj (hspells.tokens_eq.symm.trans hus)
      exact hd.unique (.one hp)
    · rintro rfl
      exact hparse
  · intro f
    rw [truth_tree_one,
      Condition.map_truth_eq_of_alike halike (Assignment.readsLiterals_byLiteral f)]
    rfl

/-- Conditions whose texts hold quotes, parentheses, connectives and a line end. -/
def trickyConditions : List Condition :=
  [.or (.eq "name" (.text "x') OR ('a' = 'a"))
      (.and (.gt "age" (.int 17)) (.lt "note" (.text "it's \nAND ("))),
    .eq "AND" (.float .nan)]

/-- Conditions whose texts and columns look like connectives and quotes, and how their clause is
read. -/
theorem trickyConditions_parse :
    (trickyConditions ≠ [] ∧ ∀ c ∈ trickyConditions, ∀ x ∈ c.comparisons, IsWord x.2.1) ∧
      ∃ p, List.Forall₂ Condition.Alike p.toList trickyConditions ∧
        ∀ d, Parses ("(name = 'x'') OR (''a'' = ''a' OR (age > 17 AND note < 'it''s \nAND ('))" ++
          " AND AND = NULL") d ↔ d = .one p := by
  have hne : trickyConditions ≠ [] := by decide
  have hwords : ∀ c ∈ trickyConditions, ∀ x ∈ c.comparisons, IsWord x.2.1 := by decide
  obtain ⟨body, p, hbody, hparses, halike, -⟩ := conjoined_parses_iff hne hwords
  obtain rfl := Option.some.inj hbody
  exact ⟨⟨hne, hwords⟩, p, halike, hparses⟩

end Sql

end HintedSql
