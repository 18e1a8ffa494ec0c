import HintedSql.Proofs.Algebra.Truth
import HintedSql.Proofs.Grammar.Literal
set_option relaxedAutoImplicit false
set_option autoImplicit false

/-!
# The grammar of conditions

Conditions follow the usual grammar of search conditions. A disjunction is a sequence of
conjunctions with `OR` between them, a conjunction a sequence of primaries with `AND` between them,
and a primary is a comparison or a disjunction in parentheses:

    disjunction  ::=  conjunction  |  disjunction OR conjunction
    conjunction  ::=  primary  |  conjunction AND primary
    primary      ::=  column sign literal  |  ( disjunction )

So `AND` binds tighter than `OR`, and a parenthesised disjunction is one operand. `AND` and `OR` are
recognised by their place behind an operand; elsewhere the same words may name columns.

The grammar is unambiguous. A reader that goes through the tokens once, with a stack of the open
parentheses, follows every derivation, so two derivations of the same tokens yield the same result.

## Main definitions

* `HintedSql.Sql.Operands` — the operands of a sequence of equal connectives.
* `HintedSql.Sql.IsDisjunction`, `HintedSql.Sql.IsConjunction`, `HintedSql.Sql.IsPrimary`.
* `HintedSql.Sql.tree` — the condition that a disjunction is, connectives associating to the left.
* `HintedSql.Sql.Reader`, `HintedSql.Sql.Reader.step` — the deterministic reader.

## Main results

* `HintedSql.Sql.IsDisjunction.read` — the reader follows every derivation.
* `HintedSql.Sql.IsDisjunction.unique` — the grammar is unambiguous.
-/

namespace HintedSql.Sql

/-! ## Operands -/

/-- One or more operands of a connective, from left to right. -/
structure Operands (α : Type) where
  init : List α
  last : α
deriving DecidableEq, Repr

namespace Operands

variable {α β : Type}

/-- The operands as a list. -/
def toList (p : Operands α) : List α :=
  p.init ++ [p.last]

/-- A single operand. -/
def one (a : α) : Operands α :=
  ⟨[], a⟩

/-- One more operand at the end. -/
def push (p : Operands α) (a : α) : Operands α :=
  ⟨p.toList, a⟩

/-- Apply a function to every operand. -/
def map (f : α → β) (p : Operands α) : Operands β :=
  ⟨p.init.map f, f p.last⟩

/-- Combine the operands, from the left. -/
def combine (f : α → α → α) (p : Operands α) : α :=
  match p.init with
  | [] => p.last
  | a :: as => f (as.foldl f a) p.last

end Operands

/-- The condition that a disjunction of conjunctions is. -/
def tree (d : Operands (Operands Condition)) : Condition :=
  (d.map (·.combine (.connect .and))).combine (.connect .or)

/-! ## The grammar -/

/-- The connective that a token behind an operand is. -/
def Token.connective? : Token → Option Connective
  | word w =>
    if Text.sameIgnoringCase w "AND" then some .and
    else if Text.sameIgnoringCase w "OR" then some .or
    else none
  | _ => none

mutual
/-- The tokens are conjunctions with `OR` between them. -/
inductive IsDisjunction : List Token → Operands (Operands Condition) → Prop where
  | one {ts : List Token} {p : Operands Condition} (h : IsConjunction ts p) :
    IsDisjunction ts (.one p)
  | or {ts us : List Token} {t : Token} {d : Operands (Operands Condition)}
    {p : Operands Condition} (hd : IsDisjunction ts d) (ht : t.connective? = some .or)
    (hp : IsConjunction us p) : IsDisjunction (ts ++ t :: us) (d.push p)

/-- The tokens are primaries with `AND` between them. -/
inductive IsConjunction : List Token → Operands Condition → Prop where
  | one {ts : List Token} {c : Condition} (h : IsPrimary ts c) : IsConjunction ts (.one c)
  | and {ts us : List Token} {t : Token} {p : Operands Condition} {c : Condition}
    (hp : IsConjunction ts p) (ht : t.connective? = some .and) (hc : IsPrimary us c) :
    IsConjunction (ts ++ t :: us) (p.push c)

/-- The tokens are a comparison, or a disjunction in parentheses. -/
inductive IsPrimary : List Token → Condition → Prop where
  | compare {column : String} {op : Comparison} {t : Token} {v : Value} (h : t.value? = some v) :
    IsPrimary [.word column, .sign op, t] (.compare op column v)
  | group {ts : List Token} {d : Operands (Operands Condition)} (h : IsDisjunction ts d) :
    IsPrimary (.opening :: ts ++ [.closing]) (tree d)
end

/-! ## A deterministic reader -/

/-- What has been read of a disjunction whose next operand is still to come: the finished
conjunctions, and the operands of the conjunction that has begun. -/
structure Frame where
  conjunctions : List (Operands Condition)
  conjuncts : List Condition

/-- Nothing has been read yet. -/
def Frame.empty : Frame :=
  ⟨[], []⟩

/-- The disjunction once the operand is there. -/
def Frame.fill (f : Frame) (c : Condition) : Operands (Operands Condition) :=
  ⟨f.conjunctions, ⟨f.conjuncts, c⟩⟩

/-- How far reading has come. Around each state stand the frames of the open parentheses, the
innermost first. -/
inductive Reader where
  /-- An operand has to follow. -/
  | operand (outer : List Frame) (frame : Frame)
  /-- The sign of a comparison has to follow. -/
  | column (outer : List Frame) (frame : Frame) (column : String)
  /-- The literal of a comparison has to follow. -/
  | sign (outer : List Frame) (frame : Frame) (column : String) (op : Comparison)
  /-- A disjunction has been read, which may go on. -/
  | disjunction (outer : List Frame) (d : Operands (Operands Condition))

namespace Reader

/-- Behind an operand, `AND` continues the last conjunction and `OR` begins a new one. -/
def resume (outer : List Frame) (d : Operands (Operands Condition)) : Connective → Reader
  | .and => operand outer ⟨d.init, d.last.toList⟩
  | .or => operand outer ⟨d.toList, []⟩

/-- Read one token. -/
def step : Reader → Token → Option Reader
  | operand outer f, .opening => some (operand (f :: outer) .empty)
  | operand outer f, .word s => some (column outer f s)
  | column outer f s, .sign op => some (sign outer f s op)
  | sign outer f s op, t => t.value?.map fun v => disjunction outer (f.fill (.compare op s v))
  | disjunction (f :: outer) d, .closing => some (disjunction outer (f.fill (tree d)))
  | disjunction outer d, t => t.connective?.map (resume outer d)
  | _, _ => none

/-- Once a disjunction has been read, a connective and what follows continue it. -/
lemma foldlM_connective {r : Reader} {ts us : List Token} {t : Token} {op : Connective}
    {outer : List Frame} {d : Operands (Operands Condition)}
    (h : ts.foldlM step r = some (disjunction outer d)) (ht : t.connective? = some op) :
    (ts ++ t :: us).foldlM step r = us.foldlM step (resume outer d op) := by
  have hstep : step (disjunction outer d) t = some (resume outer d op) := by
    cases t with
    | word w => cases outer <;> simp [step, ht]
    | opening | closing | sign | text => simp [Token.connective?] at ht
  simp [h, hstep]

end Reader

open Reader

-- The three statements go by induction on derivations that call each other. Each is general in
-- what surrounds the tokens: parentheses, earlier conjunctions, earlier operands.
mutual
/-- A derived primary is read as an operand of any frame. -/
theorem IsPrimary.read {ts : List Token} {c : Condition} (h : IsPrimary ts c) (outer : List Frame)
    (f : Frame) : ts.foldlM step (operand outer f) = some (disjunction outer (f.fill c)) :=
  match h with
  | .compare h => by simp [step, h]
  | .group h => by
    have hbody := IsDisjunction.read h (f :: outer)
    simp [step, hbody]

/-- A derived conjunction is read behind any conjunctions. -/
theorem IsConjunction.read {ts : List Token} {p : Operands Condition} (h : IsConjunction ts p)
    (outer : List Frame) (ps : List (Operands Condition)) :
    ts.foldlM step (operand outer ⟨ps, []⟩) = some (disjunction outer ⟨ps, p⟩) :=
  match h with
  | .one h => IsPrimary.read h outer _
  | .and hp ht hc => by
    rw [foldlM_connective (IsConjunction.read hp outer ps) ht]
    exact IsPrimary.read hc outer _

/-- A derived disjunction is read inside any parentheses. -/
theorem IsDisjunction.read {ts : List Token} {d : Operands (Operands Condition)}
    (h : IsDisjunction ts d) (outer : List Frame) :
    ts.foldlM step (operand outer .empty) = some (disjunction outer d) :=
  match h with
  | .one h => IsConjunction.read h outer _
  | .or hd ht hp => by
    rw [foldlM_connective (IsDisjunction.read hd outer) ht]
    exact IsConjunction.read hp outer _
end

/-- **The grammar is unambiguous.** The reader ends in one state, and both derivations lead
there. -/
theorem IsDisjunction.unique {ts : List Token} {d d' : Operands (Operands Condition)}
    (h : IsDisjunction ts d) (h' : IsDisjunction ts d') : d = d' := by
  have hread := h.read []
  rw [h'.read []] at hread
  simpa using hread.symm

end HintedSql.Sql
