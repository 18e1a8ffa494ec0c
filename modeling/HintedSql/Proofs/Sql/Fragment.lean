import HintedSql.Proofs.Sql.Quoted
import Mathlib.Tactic.Lemma
set_option relaxedAutoImplicit false
set_option autoImplicit false

/-!
# Literals in a text

A text is cut from left to right into string literals and the characters between them. A quote
begins a literal, which ends at the next quote that is not doubled; if there is none, the quote and
all that follows it are plain characters.

Where a literal ends depends on what follows it, so a text says what its fragments are only together
with its continuation. `Yields` is the notion that composes: a text yields some fragments if it is
cut into these before everything that does not begin with a quote.

## Main definitions

* `HintedSql.Sql.Fragment`, `HintedSql.Sql.fragments` — a text cut into fragments.
* `HintedSql.Sql.masked` — a text with a placeholder for every literal.
* `HintedSql.Sql.literals` — what the literals of a text hold.
* `HintedSql.Sql.Yields` — a text is cut into the given fragments before every continuation.

## Main results

* `HintedSql.Sql.yields_plain`, `HintedSql.Sql.yields_quote` — texts without quotes, and quoted
  ones.
* `HintedSql.Sql.Yields.separated`, `HintedSql.Sql.Yields.intercalate` — texts with a separator
  between them.
-/

namespace HintedSql.Sql

/-- A piece of a text: a character outside of literals, or a literal. -/
inductive Fragment where
  | char (c : Char)
  | literal (s : String)
deriving DecidableEq, Repr

namespace Fragment

/-- A character, or nothing in the place of a literal. -/
def char? : Fragment → Option Char
  | char c => some c
  | literal _ => none

/-- What a literal holds. -/
def literal? : Fragment → Option String
  | char _ => none
  | literal s => some s

end Fragment

/-! ## Cutting a text -/

/-- A text cut into fragments. A quote that is never closed begins no literal. -/
def fragments (cs : List Char) : List Fragment :=
  match cs with
  | [] => []
  | c :: cs =>
    if c = '\'' then
      match h : scanQuoted cs with
      | none => (c :: cs).map .char
      | some (s, rest) =>
        have := length_scanQuoted h
        .literal (String.ofList s) :: fragments rest
    else .char c :: fragments cs
termination_by cs.length

/-- A text with the placeholder `none` for every literal. -/
def masked (s : String) : List (Option Char) :=
  (fragments s.toList).map Fragment.char?

/-- What the literals of a text hold, in order of occurrence. -/
def literals (s : String) : List String :=
  (fragments s.toList).filterMap Fragment.literal?

/-- An empty text has no fragments. -/
@[simp] lemma fragments_nil : fragments [] = [] := by
  unfold fragments
  rfl

/-- A character that is no quote is a fragment of its own. -/
lemma fragments_cons_of_ne {c : Char} (hc : c ≠ '\'') (cs : List Char) :
    fragments (c :: cs) = .char c :: fragments cs := by
  rw [fragments.eq_def]
  exact if_neg hc

/-- A literal is one fragment. -/
lemma fragments_cons_quote {cs s rest : List Char} (h : scanQuoted cs = some (s, rest)) :
    fragments ('\'' :: cs) = .literal (String.ofList s) :: fragments rest := by
  rw [fragments.eq_def]
  dsimp only
  -- The match keeps the equation for termination, so `h` cannot be rewritten into it.
  rw [if_pos rfl]
  split
  · rename_i hnone
    rw [h] at hnone
    cases hnone
  · rename_i s' rest' hsome
    rw [h] at hsome
    obtain ⟨rfl, rfl⟩ := Prod.mk.inj (Option.some.inj hsome)
    rfl

/-- The fragments of a text in which no quote stands. -/
def plain (s : String) : List Fragment :=
  s.toList.map .char

/-- A text without literals shows all its characters. -/
@[simp] lemma map_char?_plain (s : String) :
    (plain s).map Fragment.char? = s.toList.map some := by
  rw [plain, List.map_map]
  rfl

/-- A text without literals has none. -/
@[simp] lemma filterMap_literal?_plain (s : String) :
    (plain s).filterMap Fragment.literal? = [] := by
  rw [plain, List.filterMap_map]
  exact List.filterMap_eq_nil_iff.mpr fun _ _ => rfl

/-! ## Texts before a continuation -/

/-- No quote stands in the text. -/
def Quoteless (s : String) : Prop :=
  '\'' ∉ s.toList

instance (s : String) : Decidable (Quoteless s) :=
  inferInstanceAs (Decidable ('\'' ∉ s.toList))

/-- Joined texts are without quotes if both are. -/
@[simp] lemma quoteless_append {s t : String} :
    Quoteless (s ++ t) ↔ Quoteless s ∧ Quoteless t := by
  simp [Quoteless]

/-- A text is quoteless if the texts that it is joined from are. -/
lemma quoteless_intercalate {sep : String} (hsep : Quoteless sep) {ss : List String}
    (h : ∀ s ∈ ss, Quoteless s) : Quoteless (sep.intercalate ss) := by
  induction ss with
  | nil => simp [Quoteless]
  | cons s ss ih =>
    obtain ⟨hs, hss⟩ := List.forall_mem_cons.mp h
    cases ss with
    | nil => simpa using hs
    | cons t ss =>
      rw [String.intercalate_cons_cons]
      simpa [hs, hsep] using ih hss

/-- The text is cut into the given fragments before everything that does not begin with a quote. -/
def Yields (s : String) (fs : List Fragment) : Prop :=
  ∀ rest, rest.head? ≠ some '\'' → fragments (s.toList ++ rest) = fs ++ fragments rest

/-- The fragments of a text that is followed by nothing. -/
lemma Yields.fragments_eq {s : String} {fs : List Fragment} (h : Yields s fs) :
    fragments s.toList = fs := by
  simpa using h [] (by simp)

/-- Characters other than quotes are fragments by themselves, whatever follows them. -/
lemma fragments_plain_append {s : String} (h : Quoteless s) (rest : List Char) :
    fragments (s.toList ++ rest) = plain s ++ fragments rest := by
  unfold Quoteless at h
  unfold plain
  generalize s.toList = cs at h
  induction cs with
  | nil => rfl
  | cons c cs ih =>
    obtain ⟨hc, hcs⟩ := not_or.mp (mt List.mem_cons.mpr h)
    rw [List.cons_append, fragments_cons_of_ne (Ne.symm hc), ih hcs]
    rfl

/-- A text without quotes yields its characters. -/
theorem yields_plain {s : String} (h : Quoteless s) : Yields s (plain s) :=
  fun rest _ => fragments_plain_append h rest

/-- A quoted text is one literal, and it holds the text. -/
theorem yields_quote (s : String) : Yields (quote s) [.literal s] := by
  intro rest hrest
  have hscan := scanQuoted_escape s.toList rest hrest
  have htoList : (quote s).toList ++ rest = '\'' :: (escape s.toList ++ '\'' :: rest) := by
    simp [quote]
  rw [htoList, fragments_cons_quote hscan, String.ofList_toList]
  rfl

namespace Yields

variable {s t sep : String} {fs gs : List Fragment}

/-- A text without quotes in front. -/
lemma plain_append (hs : Quoteless s) (ht : Yields t gs) : Yields (s ++ t) (plain s ++ gs) := by
  intro rest hrest
  rw [String.toList_append, List.append_assoc, fragments_plain_append hs, ht rest hrest,
    List.append_assoc]

/-- Two texts with a separator between them. The separator keeps a literal at the end of the first
text apart from one at the beginning of the second. -/
theorem separated (hs : Yields s fs) (hne : sep ≠ "") (hsep : Quoteless sep) (ht : Yields t gs) :
    Yields (s ++ (sep ++ t)) (fs ++ (plain sep ++ gs)) := by
  intro rest hrest
  have hhead : ((sep ++ t).toList ++ rest).head? ≠ some '\'' := by
    cases hcs : sep.toList with
    | nil => exact absurd (String.toList_eq_nil_iff.mp hcs) hne
    | cons c cs =>
      have hc : c ≠ '\'' := by
        rintro rfl
        exact hsep (by simp [hcs])
      simpa [hcs] using hc
  rw [String.toList_append, List.append_assoc, hs _ hhead, ht.plain_append hsep rest hrest]
  simp only [List.append_assoc]

/-- A text without quotes behind. -/
lemma append_plain (hs : Yields s fs) (hne : sep ≠ "") (hsep : Quoteless sep) :
    Yields (s ++ sep) (fs ++ plain sep) := by
  have hempty : Yields "" [] := fun _ _ => rfl
  simpa using hs.separated hne hsep hempty

/-- Any number of texts with a separator before each but the first. -/
theorem intercalate {α : Type} {f : α → String} {g : α → List Fragment} (hs : Yields s fs)
    (hne : sep ≠ "") (hsep : Quoteless sep) {xs : List α} (h : ∀ x ∈ xs, Yields (f x) (g x)) :
    Yields (sep.intercalate (s :: xs.map f)) (fs ++ xs.flatMap fun x => Sql.plain sep ++ g x) := by
  induction xs generalizing s fs with
  | nil => simpa using hs
  | cons x xs ih =>
    obtain ⟨hx, hxs⟩ := List.forall_mem_cons.mp h
    have hstep := ih (hs.separated hne hsep hx) hxs
    simpa [String.append_assoc] using hstep

end Yields

end HintedSql.Sql
