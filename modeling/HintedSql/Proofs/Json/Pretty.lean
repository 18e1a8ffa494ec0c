import HintedSql.Proofs.Json.Written
set_option relaxedAutoImplicit false
set_option autoImplicit false

/-!
# Indented data are JSON

The indented text of data has line feeds and spaces where the compact text has nothing: before every
item and member, before the bracket that closes them, and behind every colon. So it lays out the
same tokens, at every level of indentation, and spells the same outline.

## Main results

* `HintedSql.Datum.layout_prettyAt` — indented data lay out the tokens of their outline.
* `HintedSql.Datum.spells_pretty` — the indented text of data spells their outline.
-/

namespace HintedSql.Datum

open Json (Outline Layout)

/-- A new line is white space, however deep it is indented. -/
lemma blanks_newLine (level : Nat) : Json.Blanks (newLine level).toList := by
  intro c hc
  have hmem : c = '\n' ∨ c ∈ List.replicate (2 * level) ' ' := by simpa [newLine] using hc
  obtain rfl | hspace := hmem
  · simp
  · rw [List.eq_of_mem_replicate hspace]
    simp

variable {level : Nat}

/-- Items stand on lines of their own, with commas between them. -/
lemma layout_prettyItems {items : List Datum}
    (ih : ∀ d ∈ items, Layout d.outline.tokens (d.prettyAt (level + 1)).toList) :
    Layout (Outline.itemTokens (itemOutlines items)) (prettyItems level items).toList := by
  induction items with
  | nil => exact .done (by simp [Json.Blanks, prettyItems])
  | cons d ds ihs =>
    have hd := (ih d (by simp)).blanks (blanks_newLine (level + 1))
    cases ds with
    | nil => simpa [itemOutlines, Outline.itemTokens, prettyItems] using hd
    | cons e es =>
      have htail := ihs fun f hf => ih f (List.mem_cons_of_mem _ hf)
      have hcomma : Layout [.comma] [','] := Json.layout_mark (by decide)
      simpa [itemOutlines, Outline.itemTokens, prettyItems] using hd.append (hcomma.append htail)

/-- Fields stand on lines of their own, with a colon and a space behind each key. -/
lemma layout_prettyFields {fields : List (String × Datum)}
    (ih : ∀ f ∈ fields, Layout f.2.outline.tokens (f.2.prettyAt (level + 1)).toList) :
    Layout (Outline.memberTokens (fieldOutlines fields)) (prettyFields level fields).toList := by
  induction fields with
  | nil => exact .done (by simp [Json.Blanks, prettyFields])
  | cons f fs ihs =>
    have hcolon : Layout [.colon] [':'] := Json.layout_mark (by decide)
    have hspace : Json.Blanks [' '] := by simp [Json.Blanks]
    have hvalue := (ih f (by simp)).blanks hspace
    have hf := ((Json.layout_quote f.1).append (hcolon.append hvalue)).blanks
      (blanks_newLine (level + 1))
    cases fs with
    | nil => simpa [fieldOutlines, Outline.memberTokens, prettyFields] using hf
    | cons g gs =>
      have htail := ihs fun h hh => ih h (List.mem_cons_of_mem _ hh)
      have hcomma : Layout [.comma] [','] := Json.layout_mark (by decide)
      simpa [fieldOutlines, Outline.memberTokens, prettyFields] using
        hf.append (hcomma.append htail)

/-- **Indented data lay out the tokens of their outline.**

**Proof sketch.** By induction on the data, for all levels at once, since items and fields are
indented one level deeper. Scalars are written as in compact text, and so are an empty list and an
empty record; otherwise the closing bracket stands on a line of its own. -/
theorem layout_prettyAt (d : Datum) (level : Nat) :
    Layout d.outline.tokens (d.prettyAt level).toList := by
  induction d using induct generalizing level with
  | null => exact layout_compact null
  | bool b => exact layout_compact (bool b)
  | int i => exact layout_compact (int i)
  | float x => exact layout_compact (float x)
  | text s => exact layout_compact (text s)
  | list items ih =>
    cases items with
    | nil => exact layout_compact (list [])
    | cons d ds =>
      have hopen : Layout [.openList] ['['] := Json.layout_mark (by decide)
      have hclose : Layout [.closeList] [']'] := Json.layout_mark (by decide)
      have hitems := layout_prettyItems fun e he => ih e he (level + 1)
      simpa [outline, Outline.tokens, prettyAt] using
        hopen.append (hitems.append (hclose.blanks (blanks_newLine level)))
  | record fields ih =>
    cases fields with
    | nil => exact layout_compact (record [])
    | cons f fs =>
      have hopen : Layout [.openRecord] ['\x7b'] := Json.layout_mark (by decide)
      have hclose : Layout [.closeRecord] ['\x7d'] := Json.layout_mark (by decide)
      have hfields := layout_prettyFields fun g hg => ih g hg (level + 1)
      simpa [outline, Outline.tokens, prettyAt] using
        hopen.append (hfields.append (hclose.blanks (blanks_newLine level)))

/-- **The indented text of data spells their outline.** -/
theorem spells_pretty (d : Datum) : Json.Spells d.pretty d.outline :=
  ⟨d.complete_outline, d.layout_prettyAt 0⟩

end HintedSql.Datum
