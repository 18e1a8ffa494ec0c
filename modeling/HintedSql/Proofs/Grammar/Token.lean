import HintedSql.Algebra.Condition
import HintedSql.Proofs.Sql.Quoted
import HintedSql.Text.Space
import Mathlib.Tactic.Lemma
set_option relaxedAutoImplicit false
set_option autoImplicit false

/-!
# Tokens of a condition

The text of a condition is read as a list of tokens: parentheses, signs of comparison, quoted texts
and words. White space separates tokens and is not one. A word runs to the next character that
cannot stand in it, and a quoted text to its closing quote.

Tokens are read from left to right, so a text says what its tokens are only together with what
follows it. `Spells` is the notion that composes: a text spells some tokens if it is read as these
before every boundary, that is before the end, white space or a closing parenthesis.

## Main definitions

* `HintedSql.Sql.Token`, `HintedSql.Sql.tokens`.
* `HintedSql.Sql.IsWord` — texts that are read as one word.
* `HintedSql.Sql.Spells` — a text is read as the given tokens before every boundary.

## Main results

* `HintedSql.Sql.spells_word`, `HintedSql.Sql.spells_quote`, `HintedSql.Sql.spells_sign`.
* `HintedSql.Sql.Spells.separated`, `HintedSql.Sql.Spells.group` — texts side by side, and in
  parentheses.
-/

namespace HintedSql.Sql

/-- A token of a condition. -/
inductive Token where
  | opening
  | closing
  | sign (op : Comparison)
  | word (s : String)
  | text (s : String)
deriving DecidableEq, Repr

/-- The token that a character is by itself. -/
def symbol? : Char → Option Token
  | '(' => some .opening
  | ')' => some .closing
  | '=' => some (.sign .eq)
  | '>' => some (.sign .gt)
  | '<' => some (.sign .lt)
  | _ => none

/-- Whether a character can stand in a word. -/
def isWordChar (c : Char) : Bool :=
  !Text.isSpace c && c != '\'' && (symbol? c).isNone

/-- A non-empty text without white space, quotes, parentheses and signs of comparison. -/
def IsWord (s : String) : Prop :=
  s ≠ "" ∧ ∀ c ∈ s.toList, isWordChar c = true

instance (s : String) : Decidable (IsWord s) :=
  decidable_of_iff (s ≠ "" ∧ s.toList.all isWordChar = true) (by simp [IsWord])

/-! ## Reading tokens -/

/-- The token that begins with `c`, which is not white space, and what follows it. -/
def lexeme (c : Char) (cs : List Char) : Option (Token × List Char) :=
  match symbol? c with
  | some t => some (t, cs)
  | none =>
    if c = '\'' then (scanQuoted cs).map fun p => (.text (String.ofList p.1), p.2)
    else some (.word (String.ofList (c :: cs.takeWhile isWordChar)), cs.dropWhile isWordChar)

/-- What is left after a token is no longer than what was there. -/
lemma length_lexeme {c : Char} {cs rest : List Char} {t : Token}
    (h : lexeme c cs = some (t, rest)) : rest.length ≤ cs.length := by
  rw [lexeme] at h
  split at h
  · obtain ⟨-, rfl⟩ := Prod.mk.inj (Option.some.inj h)
    exact Nat.le_refl _
  · split at h
    · obtain ⟨⟨s, cs'⟩, hp, heq⟩ := Option.map_eq_some_iff.mp h
      obtain ⟨-, rfl⟩ := Prod.mk.inj heq
      exact Nat.le_of_lt (length_scanQuoted hp)
    · obtain ⟨-, rfl⟩ := Prod.mk.inj (Option.some.inj h)
      exact (List.dropWhile_suffix _).length_le

/-- The tokens of a text; there are none if a quoted text is not closed. -/
def tokens (cs : List Char) : Option (List Token) :=
  match cs with
  | [] => some []
  | c :: cs =>
    if Text.isSpace c then tokens cs
    else
      match h : lexeme c cs with
      | none => none
      | some (t, rest) =>
        have := length_lexeme h
        (tokens rest).map (t :: ·)
termination_by cs.length

/-- An empty text has no tokens. -/
@[simp] lemma tokens_nil : tokens [] = some [] := by
  unfold tokens
  rfl

/-- White space in front of a text is no token. -/
lemma tokens_cons_space {c : Char} (h : Text.isSpace c = true) (cs : List Char) :
    tokens (c :: cs) = tokens cs := by
  rw [tokens.eq_def]
  exact if_pos h

/-- The first token of a text stands in front of the tokens of what is left. -/
lemma tokens_cons_of_lexeme {c : Char} {cs rest : List Char} {t : Token}
    (hc : Text.isSpace c = false) (h : lexeme c cs = some (t, rest)) :
    tokens (c :: cs) = (tokens rest).map (t :: ·) := by
  rw [tokens.eq_def]
  dsimp only
  -- The match keeps the equation for termination, so `h` cannot be rewritten into it.
  rw [if_neg (by simp [hc])]
  split
  · rename_i hnone
    rw [h] at hnone
    cases hnone
  · rename_i t' rest' hsome
    rw [h] at hsome
    obtain ⟨rfl, rfl⟩ := Prod.mk.inj (Option.some.inj hsome)
    rfl

/-- A character that is a token by itself. -/
lemma tokens_cons_symbol {c : Char} {t : Token} (hc : Text.isSpace c = false)
    (h : symbol? c = some t) (cs : List Char) : tokens (c :: cs) = (tokens cs).map (t :: ·) :=
  tokens_cons_of_lexeme hc (by rw [lexeme, h])

/-! ## Texts before a boundary -/

/-- What follows a finished text: nothing, white space or a closing parenthesis. -/
def Boundary (rest : List Char) : Prop :=
  ∀ c ∈ rest.head?, Text.isSpace c = true ∨ c = ')'

/-- The text is read as the given tokens before every boundary. -/
def Spells (s : String) (ts : List Token) : Prop :=
  ∀ rest, Boundary rest → tokens (s.toList ++ rest) = (tokens rest).map (ts ++ ·)

/-- The tokens of a text that is followed by nothing. -/
lemma Spells.tokens_eq {s : String} {ts : List Token} (h : Spells s ts) :
    tokens s.toList = some ts := by
  simpa using h [] (by simp [Boundary])

/-- Two texts with one character of white space between them. -/
theorem Spells.separated {s t gap : String} {c : Char} {ts us : List Token} (hs : Spells s ts)
    (hgap : gap.toList = [c]) (hc : Text.isSpace c = true) (ht : Spells t us) :
    Spells (s ++ gap ++ t) (ts ++ us) := by
  intro rest hrest
  have hspace : Boundary (c :: (t.toList ++ rest)) := by simp [Boundary, hc]
  have h := hs _ hspace
  rw [tokens_cons_space hc, ht rest hrest] at h
  simpa [hgap, Function.comp_def] using h

/-- Two texts with a space between them. -/
lemma Spells.space {s t : String} {ts us : List Token} (hs : Spells s ts) (ht : Spells t us) :
    Spells (s ++ " " ++ t) (ts ++ us) :=
  hs.separated rfl (by decide) ht

/-- Two texts on lines of their own. -/
lemma Spells.newline {s t : String} {ts us : List Token} (hs : Spells s ts) (ht : Spells t us) :
    Spells (s ++ "\n" ++ t) (ts ++ us) :=
  hs.separated rfl (by decide) ht

/-- A text in parentheses. -/
theorem Spells.group {s : String} {ts : List Token} (h : Spells s ts) :
    Spells ("(" ++ s ++ ")") (.opening :: ts ++ [.closing]) := by
  intro rest _
  have hclosing : Boundary (')' :: rest) := by simp [Boundary]
  have hopening : symbol? '(' = some .opening := rfl
  have hsymbol : symbol? ')' = some .closing := rfl
  have hbody := h _ hclosing
  rw [tokens_cons_symbol (by decide) hsymbol] at hbody
  have hgroup := tokens_cons_symbol (by decide) hopening (s.toList ++ ')' :: rest)
  rw [hbody] at hgroup
  simpa [Function.comp_def] using hgroup

/-- A sign of comparison is a token. -/
theorem spells_sign (op : Comparison) : Spells op.sign [.sign op] := by
  intro rest _
  cases op with
  | eq => exact tokens_cons_symbol (by decide) rfl rest
  | gt => exact tokens_cons_symbol (by decide) rfl rest
  | lt => exact tokens_cons_symbol (by decide) rfl rest

/-- No character of a word stands at a boundary. -/
lemma Boundary.takeWhile_isWordChar {rest : List Char} (h : Boundary rest) :
    rest.takeWhile isWordChar = [] := by
  cases rest with
  | nil => rfl
  | cons c cs =>
    have hc : isWordChar c = false := by
      obtain hspace | rfl := h c rfl
      · simp [isWordChar, hspace]
      · decide
    simp [hc]

/-- A word is one token: it runs exactly to the boundary. -/
theorem spells_word {s : String} (h : IsWord s) : Spells s [.word s] := by
  intro rest hrest
  obtain ⟨hne, hchars⟩ := h
  obtain ⟨c, cs, hs⟩ : ∃ c cs, s.toList = c :: cs :=
    List.exists_cons_of_ne_nil (by simpa using hne)
  have hcs : ∀ d ∈ cs, isWordChar d = true := fun d hd => hchars d (by simp [hs, hd])
  have hc := hchars c (by simp [hs])
  simp only [isWordChar, Bool.and_eq_true, Bool.not_eq_true', bne_iff_ne,
    Option.isNone_iff_eq_none] at hc
  obtain ⟨⟨hspace, hquote⟩, hsymbol⟩ := hc
  have hlexeme : lexeme c (cs ++ rest) = some (.word s, rest) := by
    have htake : (cs ++ rest).takeWhile isWordChar = cs := by
      rw [List.takeWhile_append_of_pos hcs, hrest.takeWhile_isWordChar, List.append_nil]
    have hdrop : (cs ++ rest).dropWhile isWordChar = rest := by
      have := List.takeWhile_append_dropWhile (p := isWordChar) (l := cs ++ rest)
      rw [htake] at this
      exact List.append_cancel_left this
    simp [lexeme, hsymbol, hquote, htake, hdrop, ← hs]
  rw [hs, List.cons_append, tokens_cons_of_lexeme hspace hlexeme]
  rfl

/-- A quoted text is one token, whatever it holds. -/
theorem spells_quote (s : String) : Spells (quote s) [.text s] := by
  intro rest hrest
  have hhead : rest.head? ≠ some '\'' := by
    intro h
    obtain h | h := hrest _ h
    · exact absurd h (by decide)
    · exact absurd h (by decide)
  have hlexeme : lexeme '\'' (escape s.toList ++ '\'' :: rest) = some (.text s, rest) := by
    simp [lexeme, symbol?, scanQuoted_escape _ _ hhead]
  have h := tokens_cons_of_lexeme (by decide) hlexeme
  simpa [quote] using h

end HintedSql.Sql
