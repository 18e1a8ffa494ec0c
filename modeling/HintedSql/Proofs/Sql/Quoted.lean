import HintedSql.Sql.Literal
import Mathlib.Tactic.Lemma
set_option relaxedAutoImplicit false
set_option autoImplicit false

/-!
# Scanning quoted texts

The inside of a quoted text is scanned from left to right: a doubled quote stands for one, and a
quote that is not doubled ends the text. Scanning undoes quoting, whatever the text holds, and it
gives nothing else: what has been scanned is the escaped form of what it is scanned as.

## Main definitions

* `HintedSql.Sql.scanQuoted` — the text behind an opening quote, and what follows it.

## Main results

* `HintedSql.Sql.scanQuoted_escape` — an escaped text is scanned as itself.
* `HintedSql.Sql.scanQuoted_eq_some_iff`, `HintedSql.Sql.scanQuoted_eq_none_iff` — which texts are
  scanned as what, and which are never closed.
-/

namespace HintedSql.Sql

/-! ## Escaped texts -/

/-- Joined texts are escaped one after the other. -/
lemma escape_append (s t : List Char) : escape (s ++ t) = escape s ++ escape t := by
  induction s with
  | nil => rfl
  | cons c s ih =>
    rw [List.cons_append, escape, escape, ih]
    split <;> rfl

/-- A quote is written twice, everything else once. -/
lemma length_escape (s : List Char) : (escape s).length = s.length + s.count '\'' := by
  induction s with
  | nil => rfl
  | cons c s ih =>
    by_cases hc : c = '\''
    · simp only [escape, hc, if_true, List.length_cons, List.count_cons_self, ih]
      omega
    · simp only [escape, if_neg hc, List.length_cons, List.count_cons_of_ne hc, ih]
      omega

/-- A text is its own escaped form if it has no quotes, and only then. -/
lemma escape_eq_self_iff {s : List Char} : escape s = s ↔ '\'' ∉ s := by
  constructor
  · intro h
    have hlength := length_escape s
    rw [h] at hlength
    exact List.count_eq_zero.mp (by omega)
  · intro h
    induction s with
    | nil => rfl
    | cons c s ih =>
      obtain ⟨hc, hs⟩ := not_or.mp (mt List.mem_cons.mpr h)
      rw [escape, if_neg (Ne.symm hc), ih hs]

/-! ## Scanning -/

/-- Scan a text whose opening quote has been read, up to its closing quote. -/
def scanQuoted : List Char → Option (List Char × List Char)
  | [] => none
  | '\'' :: '\'' :: cs => (scanQuoted cs).map fun p => ('\'' :: p.1, p.2)
  | '\'' :: cs => some ([], cs)
  | c :: cs => (scanQuoted cs).map fun p => (c :: p.1, p.2)

/-- A character that is no quote belongs to the literal. -/
lemma scanQuoted_cons_of_ne {c : Char} (hc : c ≠ '\'') (cs : List Char) :
    scanQuoted (c :: cs) = (scanQuoted cs).map fun p => (c :: p.1, p.2) := by
  simp [scanQuoted, hc]

/-- Behind an escaped text the first quote that is not doubled is its closing quote, if no quote
follows that one. -/
theorem scanQuoted_escape (s rest : List Char) (h : rest.head? ≠ some '\'') :
    scanQuoted (escape s ++ '\'' :: rest) = some (s, rest) := by
  induction s with
  | nil =>
    cases rest with
    | nil => rfl
    | cons c cs =>
      have hc : c ≠ '\'' := by simpa using h
      simp [escape, scanQuoted, hc]
  | cons c s ih =>
    by_cases hc : c = '\''
    · simp [escape, hc, scanQuoted, ih]
    · simp [escape, hc, scanQuoted_cons_of_ne hc, ih]

/-- What has been scanned is the escaped form of the text that was found, with its closing quote. -/
lemma eq_escape_of_scanQuoted {cs s rest : List Char} (h : scanQuoted cs = some (s, rest)) :
    cs = escape s ++ '\'' :: rest ∧ rest.head? ≠ some '\'' := by
  induction cs using scanQuoted.induct generalizing s with
  | case1 => simp [scanQuoted] at h
  | case2 cs ih =>
    rw [scanQuoted, Option.map_eq_some_iff] at h
    obtain ⟨p, hp, heq⟩ := h
    obtain ⟨rfl, rfl⟩ := Prod.mk.inj heq
    obtain ⟨hcs, hrest⟩ := ih hp
    exact ⟨by rw [hcs]; rfl, hrest⟩
  | case3 cs hcs =>
    have heq : ([], cs) = (s, rest) := by simpa [scanQuoted, hcs] using h
    obtain ⟨rfl, rfl⟩ := Prod.mk.inj heq
    refine ⟨rfl, fun hhead => ?_⟩
    obtain ⟨tail, rfl⟩ := List.head?_eq_some_iff.mp hhead
    exact hcs tail rfl
  | case4 c cs _ hc ih =>
    rw [scanQuoted_cons_of_ne hc, Option.map_eq_some_iff] at h
    obtain ⟨p, hp, heq⟩ := h
    obtain ⟨rfl, rfl⟩ := Prod.mk.inj heq
    obtain ⟨hcs, hrest⟩ := ih hp
    exact ⟨by rw [hcs, escape, if_neg hc]; rfl, hrest⟩

/-- **Which texts are scanned as what**: escaped ones, up to a closing quote that is not doubled. -/
theorem scanQuoted_eq_some_iff {cs s rest : List Char} :
    scanQuoted cs = some (s, rest) ↔ cs = escape s ++ '\'' :: rest ∧ rest.head? ≠ some '\'' := by
  refine ⟨eq_escape_of_scanQuoted, ?_⟩
  rintro ⟨rfl, hrest⟩
  exact scanQuoted_escape s rest hrest

/-- The rest is shorter than what was scanned: at least the closing quote is gone. -/
lemma length_scanQuoted {cs s rest : List Char} (h : scanQuoted cs = some (s, rest)) :
    rest.length < cs.length := by
  rw [(eq_escape_of_scanQuoted h).1, List.length_append, List.length_cons]
  omega

/-- An escaped text is never closed from within. -/
lemma scanQuoted_escape_eq_none (s : List Char) : scanQuoted (escape s) = none := by
  induction s with
  | nil => rfl
  | cons c s ih =>
    by_cases hc : c = '\''
    · simp [escape, hc, scanQuoted, ih]
    · simp [escape, hc, scanQuoted_cons_of_ne hc, ih]

/-- **Which texts are never closed**: those in which every quote is doubled. -/
theorem scanQuoted_eq_none_iff {cs : List Char} :
    scanQuoted cs = none ↔ ∃ s, cs = escape s := by
  constructor
  · intro h
    induction cs using scanQuoted.induct with
    | case1 => exact ⟨[], rfl⟩
    | case2 cs ih =>
      rw [scanQuoted, Option.map_eq_none_iff] at h
      obtain ⟨s, rfl⟩ := ih h
      exact ⟨'\'' :: s, rfl⟩
    | case3 cs hcs => simp [scanQuoted] at h
    | case4 c cs _ hc ih =>
      rw [scanQuoted_cons_of_ne hc, Option.map_eq_none_iff] at h
      obtain ⟨s, rfl⟩ := ih h
      exact ⟨c :: s, by rw [escape, if_neg hc]⟩
  · rintro ⟨s, rfl⟩
    exact scanQuoted_escape_eq_none s

end HintedSql.Sql
