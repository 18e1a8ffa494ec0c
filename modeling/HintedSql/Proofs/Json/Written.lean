import HintedSql.Proofs.Json.Content
import HintedSql.Proofs.Json.Numeral
set_option relaxedAutoImplicit false
set_option autoImplicit false

/-!
# Written data are JSON

The compact text of data spells an outline of the same shape, in which every character of a text
stands for itself and every number has its written digits. So the compact text determines that
outline, however deep the data are nested.

## Main definitions

* `HintedSql.Json.Quoted.ofText` — a text as a string.
* `HintedSql.Datum.outline` — the outline of written data.

## Main results

* `HintedSql.Datum.spells_compact` — the compact text of data spells their outline.
* `HintedSql.Datum.depth_outline` — the outline is nested as deep as the data.
-/

namespace HintedSql

namespace Json

/-! ## Layouts side by side -/

/-- Blanks may stand in front of tokens. -/
lemma Layout.blanks {ws : List Char} (hws : Blanks ws) {ts : List Token} {cs : List Char}
    (h : Layout ts cs) : Layout ts (ws ++ cs) := by
  have happend {vs : List Char} (hvs : Blanks vs) : Blanks (ws ++ vs) := fun c hc =>
    (List.mem_append.mp hc).elim (hws c) (hvs c)
  cases h with
  | done hvs => exact .done (happend hvs)
  | token hvs ht hrest =>
    rw [← List.append_assoc]
    exact .token (happend hvs) ht hrest

/-- Texts side by side lay out their tokens one after the other. -/
lemma Layout.append {ts us : List Token} {cs ds : List Char} (h : Layout ts cs)
    (h' : Layout us ds) : Layout (ts ++ us) (cs ++ ds) := by
  induction h with
  | done hws => exact h'.blanks hws
  | token hws ht _ ih =>
    rw [List.append_assoc, List.append_assoc]
    exact .token hws ht ih

/-- A token is laid out as one of its spellings. -/
lemma Lexeme.layout {t : Token} {cs : List Char} (h : Lexeme t cs) : Layout [t] cs := by
  have hempty : Blanks [] := by simp [Blanks]
  simpa using Layout.token hempty h (.done hempty)

/-- A mark is laid out as its character. -/
lemma layout_mark {t : Token} {c : Char} (h : (t, c) ∈ marks) : Layout [t] [c] :=
  (Lexeme.mark h).layout

/-! ## Strings -/

/-- A text as a string in which every character stands for itself. -/
def Quoted.ofText (s : String) : Quoted :=
  ⟨s.toList.map .char, none⟩

/-- A written text says the text. -/
lemma Quoted.says_ofText (s : String) : (Quoted.ofText s).Says s := by
  refine ⟨rfl, ?_⟩
  rw [Quoted.ofText]
  induction s.toList with
  | nil => exact .nil
  | cons c cs ih => exact .char c ih

/-- Different texts are written differently. -/
@[simp] lemma Quoted.ofText_inj {s t : String} :
    Quoted.ofText s = Quoted.ofText t ↔ s = t := by
  refine ⟨fun h => ?_, congrArg _⟩
  have hmap : s.toList.map Glyph.char = t.toList.map Glyph.char := (Quoted.mk.inj h).1
  have hinj : Function.Injective Glyph.char := fun _ _ hc => Glyph.char.inj hc
  exact String.toList_inj.mp (List.map_injective_iff.mpr hinj hmap)

/-- The written form of a character spells it. -/
lemma spelling_escape (c : Char) : (Glyph.char c).Spelling (escape c) := by
  by_cases hquote : c = '"'
  · subst hquote
    exact .short (by decide)
  by_cases hbackslash : c = '\\'
  · subst hbackslash
    exact .short (by decide)
  by_cases hshort : c ∈ ['\x08', '\t', '\n', '\x0c', '\r']
  · simp only [List.mem_cons, List.not_mem_nil, or_false] at hshort
    rcases hshort with rfl | rfl | rfl | rfl | rfl <;> exact .short (by decide)
  · simp only [List.mem_cons, List.not_mem_nil, or_false, not_or] at hshort
    obtain ⟨hb, ht, hn, hf, hr⟩ := hshort
    by_cases hcontrol : c.toNat < 0x20
    · have hspelling : HexSpelling c.toNat
          ['0', '0', hexDigit (c.toNat / 16), hexDigit (c.toNat % 16)] := by
        have hzero : IsHexDigit '0' 0 := ⟨by decide, .inl (by decide)⟩
        refine .digits ?_ ?_ ⟨by omega, .inl ?_⟩ ⟨by omega, .inl rfl⟩
        · rwa [show c.toNat / 0x1000 = 0 by omega]
        · rwa [show c.toNat / 0x100 % 0x10 = 0 by omega]
        · rw [show c.toNat / 0x10 % 0x10 = c.toNat / 16 by omega]
      simpa [escape, hquote, hbackslash, hb, ht, hn, hf, hr, hcontrol] using
        Glyph.Spelling.unit hspelling
    · simpa [escape, hquote, hbackslash, hb, ht, hn, hf, hr, hcontrol] using
        Glyph.Spelling.plain (Nat.le_of_not_lt hcontrol) hquote hbackslash

/-- Characters are spelled by their escapes. -/
lemma glyphsSpelling_escape (cs : List Char) :
    GlyphsSpelling (cs.map .char) (cs.flatMap escape) := by
  induction cs with
  | nil => exact .nil
  | cons c cs ih => exact .cons (spelling_escape c) ih

/-- A written text is a string. -/
lemma layout_quote (s : String) : Layout [.string (.ofText s)] (quote s).toList := by
  have := (Lexeme.string (glyphsSpelling_escape s.toList)).layout
  simpa [quote, Quoted.ofText] using this

end Json

/-! ## Outlines of data -/

/-- The outline of a written double; what is not finite is null. -/
def Double.outline : Double → Json.Outline
  | finite negative m => .number ((m.numeral .even).number negative)
  | _ => .null

namespace Datum

open Json (Outline Quoted Layout Token)

mutual
/-- The outline of written data. -/
def outline : Datum → Outline
  | null => .null
  | bool b => .bool b
  | int i => .number (.ofInt i)
  | float x => x.outline
  | text s => .string (.ofText s)
  | list items => .list (itemOutlines items) none
  | record fields => .record (fieldOutlines fields) none false

/-- The outlines of items. -/
def itemOutlines : List Datum → List Outline
  | [] => []
  | d :: ds => d.outline :: itemOutlines ds

/-- The outlines of fields. -/
def fieldOutlines : List (String × Datum) → List (Quoted × Outline)
  | [] => []
  | (k, d) :: fs => (.ofText k, d.outline) :: fieldOutlines fs
end

/-- The outlines of items, one by one. -/
lemma itemOutlines_eq_map (items : List Datum) : itemOutlines items = items.map outline := by
  induction items with
  | nil => rfl
  | cons d ds ih => rw [itemOutlines, ih, List.map_cons]

/-- The outlines of fields, one by one. -/
lemma fieldOutlines_eq_map (fields : List (String × Datum)) :
    fieldOutlines fields = fields.map fun f => (.ofText f.1, f.2.outline) := by
  induction fields with
  | nil => rfl
  | cons f fs ih => rw [fieldOutlines, ih, List.map_cons]

/-- Induction over data: what holds of the items of a list and of the fields of a record holds of
the whole. -/
@[elab_as_elim] lemma induct {motive : Datum → Prop} (null : motive null)
    (bool : ∀ b, motive (bool b)) (int : ∀ i, motive (int i)) (float : ∀ x, motive (float x))
    (text : ∀ s, motive (text s)) (list : ∀ items, (∀ d ∈ items, motive d) → motive (list items))
    (record : ∀ fields, (∀ f ∈ fields, motive f.2) → motive (record fields)) :
    ∀ d, motive d
  | .null => null
  | .bool b => bool b
  | .int i => int i
  | .float x => float x
  | .text s => text s
  | .list items => list items fun d _ => induct null bool int float text list record d
  | .record fields =>
    record fields fun f _ => induct null bool int float text list record f.2
termination_by d => sizeOf d
decreasing_by
  · rename_i hd
    have := List.sizeOf_lt_of_mem hd
    simp only [Datum.list.sizeOf_spec]
    omega
  · rename_i hf
    have := List.sizeOf_lt_of_mem hf
    obtain ⟨k, d⟩ := f
    simp only [Datum.record.sizeOf_spec, Prod.mk.sizeOf_spec] at this ⊢
    omega

/-- Data are written completely. -/
lemma complete_outline (d : Datum) : d.outline.Complete := by
  induction d using induct with
  | null => exact .null
  | bool b => exact .bool b
  | int i => exact .number _
  | float x => cases x <;> constructor
  | text s => exact .string _
  | list items ih =>
    rw [outline, itemOutlines_eq_map]
    exact .list (by simpa using ih)
  | record fields ih =>
    rw [outline, fieldOutlines_eq_map]
    refine .record ?_ ?_
    · intro m hm
      obtain ⟨f, -, rfl⟩ := List.mem_map.mp hm
      rfl
    · intro m hm
      obtain ⟨f, hf, rfl⟩ := List.mem_map.mp hm
      exact ih f hf

/-- Data are written with as many levels as they have. -/
theorem depth_outline (d : Datum) : d.outline.depth = d.depth := by
  induction d using induct with
  | null | bool _ | int _ | text _ => rfl
  | float x => cases x <;> rfl
  | list items ih =>
    have hitems : Outline.itemsDepth (itemOutlines items) = itemsDepth items := by
      induction items with
      | nil => rfl
      | cons d ds ihs =>
        rw [itemOutlines, Outline.itemsDepth, itemsDepth, ih d (by simp),
          ihs fun e he => ih e (List.mem_cons_of_mem _ he)]
    rw [outline, Outline.depth, depth, hitems]
  | record fields ih =>
    have hfields : Outline.membersDepth (fieldOutlines fields) = fieldsDepth fields := by
      induction fields with
      | nil => rfl
      | cons f fs ihs =>
        rw [fieldOutlines, Outline.membersDepth, fieldsDepth, ih f (by simp),
          ihs fun g hg => ih g (List.mem_cons_of_mem _ hg)]
    rw [outline, Outline.depth, depth, hfields]

/-! ## Compact text -/

/-- A written double is a number or null. -/
lemma layout_float (x : Double) : Layout x.outline.tokens (Json.float x).toList := by
  have hnull : Layout [.null] "null".toList := (Json.Lexeme.word (by decide)).layout
  cases x with
  | finite negative m =>
    have := (Json.Lexeme.number (m.numberSpelling_numeral .even negative)).layout
    simpa [Double.outline, Outline.tokens, Json.float] using this
  | infinite negative => exact hnull
  | nan => exact hnull

/-- The items of a list are laid out if each item is. -/
lemma layout_items {items : List Datum}
    (ih : ∀ d ∈ items, Layout d.outline.tokens d.compact.toList) :
    Layout (Outline.itemTokens (itemOutlines items)) (compactItems items).toList := by
  induction items with
  | nil => exact .done (by simp [Json.Blanks, compactItems])
  | cons d ds ihs =>
    have hd := ih d (by simp)
    cases ds with
    | nil => simpa [itemOutlines, Outline.itemTokens, compactItems] using hd
    | cons e es =>
      have htail := ihs fun f hf => ih f (List.mem_cons_of_mem _ hf)
      have hcomma : Layout [.comma] [','] := Json.layout_mark (by decide)
      simpa [itemOutlines, Outline.itemTokens, compactItems] using
        hd.append (hcomma.append htail)

/-- The fields of a record are laid out if each value is. -/
lemma layout_fields {fields : List (String × Datum)}
    (ih : ∀ f ∈ fields, Layout f.2.outline.tokens f.2.compact.toList) :
    Layout (Outline.memberTokens (fieldOutlines fields)) (compactFields fields).toList := by
  induction fields with
  | nil => exact .done (by simp [Json.Blanks, compactFields])
  | cons f fs ihs =>
    have hcolon : Layout [.colon] [':'] := Json.layout_mark (by decide)
    have hf := (Json.layout_quote f.1).append (hcolon.append (ih f (by simp)))
    cases fs with
    | nil => simpa [fieldOutlines, Outline.memberTokens, compactFields] using hf
    | cons g gs =>
      have htail := ihs fun h hh => ih h (List.mem_cons_of_mem _ hh)
      have hcomma : Layout [.comma] [','] := Json.layout_mark (by decide)
      simpa [fieldOutlines, Outline.memberTokens, compactFields] using
        hf.append (hcomma.append htail)

/-- The compact text of data lays out the tokens of their outline. -/
lemma layout_compact (d : Datum) : Layout d.outline.tokens d.compact.toList := by
  induction d using induct with
  | null => exact (Json.Lexeme.word (by decide)).layout
  | bool b => cases b <;> exact (Json.Lexeme.word (by decide)).layout
  | int i => exact (Json.Lexeme.number (Json.numberSpelling_ofInt i)).layout
  | float x => exact layout_float x
  | text s => exact Json.layout_quote s
  | list items ih =>
    have hopen : Layout [.openList] ['['] := Json.layout_mark (by decide)
    have hclose : Layout [.closeList] [']'] := Json.layout_mark (by decide)
    simpa [outline, Outline.tokens, compact] using
      hopen.append ((layout_items ih).append hclose)
  | record fields ih =>
    have hopen : Layout [.openRecord] ['\x7b'] := Json.layout_mark (by decide)
    have hclose : Layout [.closeRecord] ['\x7d'] := Json.layout_mark (by decide)
    simpa [outline, Outline.tokens, compact] using
      hopen.append ((layout_fields ih).append hclose)

/-- **The compact text of data spells their outline.** -/
theorem spells_compact (d : Datum) : Json.Spells d.compact d.outline :=
  ⟨d.complete_outline, d.layout_compact⟩

end Datum

end HintedSql
