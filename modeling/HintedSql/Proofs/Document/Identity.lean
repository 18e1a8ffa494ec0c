import HintedSql.Document.Encode
import HintedSql.Proofs.Algebra.Literals
import HintedSql.Proofs.Json.Written
import HintedSql.Proofs.Routing.Target
set_option relaxedAutoImplicit false
set_option autoImplicit false

/-!
# The canonical text identifies what is written

Equal compact texts spell equal outlines, and the outline of a canonical document determines the
request up to settling: the kind of a node tells which fields follow, no kind of condition is named
like another, and the outline of a value tells a number with a fraction or an exponent from one
without. None of this goes through the reader, so that no bound on the depth is needed.

## Main results

* `HintedSql.Datum.outline_eq_of_compact_eq` — the compact text determines the outline.
* `HintedSql.Expression.settled_eq_of_outline_eq`, `HintedSql.Request.settled_eq_of_outline_eq` —
  the outline determines the settled expression and the settled request.
* `HintedSql.Request.canonical_eq_iff` — canonical texts are equal exactly if the settled requests
  are, and likewise for expressions.
-/

namespace HintedSql

/-- The compact text of data determines their outline. -/
theorem Datum.outline_eq_of_compact_eq {d d' : Datum} (h : d.compact = d'.compact) :
    d.outline = d'.outline := by
  have hd : Json.outline d.compact = ⟨d.outline, false⟩ := d.spells_compact.outline_eq
  have hd' : Json.outline d'.compact = ⟨d'.outline, false⟩ := d'.spells_compact.outline_eq
  rw [h, hd'] at hd
  exact (Json.Document.mk.inj hd).1.symm

/-! ## Settling does not change the text -/

/-- A value and what it is settled to have the same text. -/
lemma Value.compact_settled (v : Value) : v.settled.toDatum.compact = v.toDatum.compact := by
  cases v with
  | float x => cases x <;> rfl
  | null | bool _ | int _ | text _ => rfl

/-- A condition and what it is settled to have the same text. -/
lemma Condition.compact_settled (c : Condition) :
    c.settled.toDatum.compact = c.toDatum.compact := by
  induction c with
  | compare op column value =>
    simp only [settled, toDatum, Datum.compact, Datum.compactFields, value.compact_settled]
  | connect op left right ihl ihr =>
    simp only [settled, toDatum, Datum.compact, Datum.compactFields, ihl, ihr]

/-- An expression and what it is settled to have the same text. -/
lemma Expression.compact_settled (e : Expression) :
    e.settled.toDatum.compact = e.toDatum.compact := by
  induction e with
  | table t => rfl
  | selection input predicate ih =>
    simp only [settled, toDatum, Datum.compact, Datum.compactFields, ih,
      predicate.compact_settled]
  | projection input columns ih =>
    simp only [settled, toDatum, Datum.compact, Datum.compactFields, ih]
  | join kind left right on ihl ihr =>
    simp only [settled, toDatum, Datum.compact, Datum.compactFields, ihl, ihr,
      on.compact_settled]

/-- A request and what it is settled to have the same text. -/
lemma Request.compact_settled (r : Request) :
    r.settled.toDatum.compact = r.toDatum.compact := by
  simp only [settled, toDatum, Datum.compact, Datum.compactFields,
    r.expression.compact_settled]

/-! ## The outline determines what is written -/

/-- Comparisons with the same name are equal. -/
lemma Comparison.name_injective {op op' : Comparison} (h : op.name = op'.name) : op = op' := by
  revert h
  cases op <;> cases op' <;> decide

/-- Connectives with the same name are equal. -/
lemma Connective.name_injective {op op' : Connective} (h : op.name = op'.name) : op = op' := by
  revert h
  cases op <;> cases op' <;> decide

/-- Kinds of joins with the same name are equal. -/
lemma JoinKind.name_injective {k k' : JoinKind} (h : k.name = k'.name) : k = k' := by
  revert h
  cases k <;> cases k' <;> decide

/-- The outline of a number written with a fraction or an exponent is not that of an integer. -/
lemma Double.outline_ne_ofInt (x : Double) (i : Int) :
    x.outline ≠ .number (.ofInt i) := by
  cases x with
  | finite negative m =>
    intro h
    have hinteger := congrArg Json.Number.isInteger (Json.Outline.number.inj h)
    rw [Numeral.isInteger_number] at hinteger
    exact Bool.noConfusion hinteger
  | infinite negative => exact fun h => Json.Outline.noConfusion h
  | nan => exact fun h => Json.Outline.noConfusion h

/-- A finite double can be told from its outline; the two zeros have different ones. -/
theorem Double.settled_eq_of_outline_eq {x y : Double} (h : x.outline = y.outline) :
    (Value.float x).settled = (Value.float y).settled := by
  cases x with
  | finite negative m =>
    cases y with
    | finite negative' m' =>
      obtain ⟨rfl, rfl⟩ := Magnitude.number_inj (Json.Outline.number.inj h)
      rfl
    | infinite negative' => exact Json.Outline.noConfusion h
    | nan => exact Json.Outline.noConfusion h
  | infinite negative =>
    cases y with
    | finite negative' m' => exact Json.Outline.noConfusion h
    | infinite negative' => rfl
    | nan => rfl
  | nan =>
    cases y with
    | finite negative' m' => exact Json.Outline.noConfusion h
    | infinite negative' => rfl
    | nan => rfl

/-- What is neither null nor a double has an outline that no double has. -/
lemma Value.settled_eq_of_float_outline {x : Double} {v : Value}
    (h : x.outline = v.toDatum.outline) : (Value.float x).settled = v.settled := by
  cases v with
  | float y => exact Double.settled_eq_of_outline_eq h
  | int i => exact absurd h (x.outline_ne_ofInt i.toInt)
  | null =>
    cases x with
    | finite negative m => exact Json.Outline.noConfusion h
    | infinite negative => rfl
    | nan => rfl
  | bool b => cases x <;> exact Json.Outline.noConfusion h
  | text s => cases x <;> exact Json.Outline.noConfusion h

/-- Values that are written alike are settled to the same value. -/
theorem Value.settled_eq_of_outline_eq {v w : Value}
    (h : v.toDatum.outline = w.toDatum.outline) : v.settled = w.settled := by
  cases v with
  | float x => exact settled_eq_of_float_outline h
  | null | bool _ | int _ | text _ =>
    cases w with
    | float y => exact (settled_eq_of_float_outline h.symm).symm
    | null | bool _ | int _ | text _ =>
      simp_all [toDatum, Datum.outline, settled, Int64.toInt_inj]

/-- Conditions that are written alike are settled to the same condition. -/
theorem Condition.settled_eq_of_outline_eq {c c' : Condition}
    (h : c.toDatum.outline = c'.toDatum.outline) : c.settled = c'.settled := by
  induction c generalizing c' with
  | compare op column value =>
    cases c' with
    | compare op' column' value' =>
      obtain ⟨hop, hcolumn, hvalue⟩ : op.name = op'.name ∧ column = column' ∧
          value.toDatum.outline = value'.toDatum.outline := by
        simpa [toDatum, Datum.outline, Datum.fieldOutlines] using h
      rw [settled, settled, Comparison.name_injective hop, hcolumn,
        Value.settled_eq_of_outline_eq hvalue]
    | connect op' left' right' =>
      simp [toDatum, Datum.outline, Datum.fieldOutlines] at h
  | connect op left right ihl ihr =>
    cases c' with
    | compare op' column' value' =>
      simp [toDatum, Datum.outline, Datum.fieldOutlines] at h
    | connect op' left' right' =>
      obtain ⟨hop, hl, hr⟩ : op.name = op'.name ∧
          left.toDatum.outline = left'.toDatum.outline ∧
          right.toDatum.outline = right'.toDatum.outline := by
        simpa [toDatum, Datum.outline, Datum.fieldOutlines] using h
      rw [settled, settled, Connective.name_injective hop, ihl hl, ihr hr]

/-- A text that need not be given can be read off its field. -/
lemma optionalField_outlines_inj {name : String} {s s' : Option String}
    (h : Datum.fieldOutlines (optionalField name (s.map .text)) =
      Datum.fieldOutlines (optionalField name (s'.map .text))) : s = s' := by
  cases s <;> cases s' <;> simp_all [optionalField, Datum.fieldOutlines, Datum.outline]

/-- A list of texts can be read off its items. -/
lemma texts_eq_of_outlines_eq {columns columns' : List String}
    (h : Datum.itemOutlines (columns.map .text) = Datum.itemOutlines (columns'.map .text)) :
    columns = columns' := by
  rw [Datum.itemOutlines_eq_map, Datum.itemOutlines_eq_map, List.map_map, List.map_map] at h
  refine List.map_injective_iff.mpr (fun s t hst => ?_) h
  simpa [Datum.outline] using hst

/-- **The outline of a written expression determines the settled expression.** -/
theorem Expression.settled_eq_of_outline_eq {e e' : Expression}
    (h : e.toDatum.outline = e'.toDatum.outline) : e.settled = e'.settled := by
  induction e generalizing e' with
  | table t =>
    cases e' with
    | table t' =>
      obtain ⟨name, asName⟩ := t
      obtain ⟨name', asName'⟩ := t'
      obtain ⟨hname, hasName⟩ : name = name' ∧
          Datum.fieldOutlines (optionalField "alias" (asName.map .text)) =
            Datum.fieldOutlines (optionalField "alias" (asName'.map .text)) := by
        simpa [toDatum, Datum.outline, Datum.fieldOutlines] using h
      rw [settled, settled, hname, optionalField_outlines_inj hasName]
    | _ => simp [toDatum, Datum.outline, Datum.fieldOutlines] at h
  | selection input predicate ih =>
    cases e' with
    | selection input' predicate' =>
      obtain ⟨hinput, hpredicate⟩ : input.toDatum.outline = input'.toDatum.outline ∧
          predicate.toDatum.outline = predicate'.toDatum.outline := by
        simpa [toDatum, Datum.outline, Datum.fieldOutlines] using h
      rw [settled, settled, ih hinput, Condition.settled_eq_of_outline_eq hpredicate]
    | _ => simp [toDatum, Datum.outline, Datum.fieldOutlines] at h
  | projection input columns ih =>
    cases e' with
    | projection input' columns' =>
      obtain ⟨hinput, hcolumns⟩ : input.toDatum.outline = input'.toDatum.outline ∧
          Datum.itemOutlines (columns.map .text) = Datum.itemOutlines (columns'.map .text) := by
        simpa [toDatum, Datum.outline, Datum.fieldOutlines] using h
      rw [settled, settled, ih hinput, texts_eq_of_outlines_eq hcolumns]
    | _ => simp [toDatum, Datum.outline, Datum.fieldOutlines] at h
  | join kind left right on ihl ihr =>
    cases e' with
    | join kind' left' right' on' =>
      obtain ⟨hl, hr, hon, hkind⟩ : left.toDatum.outline = left'.toDatum.outline ∧
          right.toDatum.outline = right'.toDatum.outline ∧
          on.toDatum.outline = on'.toDatum.outline ∧ kind.name = kind'.name := by
        simpa [toDatum, Datum.outline, Datum.fieldOutlines] using h
      rw [settled, settled, ihl hl, ihr hr, Condition.settled_eq_of_outline_eq hon,
        JoinKind.name_injective hkind]
    | _ => simp [toDatum, Datum.outline, Datum.fieldOutlines] at h

/-- Routes that are written alike are equal. -/
lemma Route.outline_inj {r r' : Route} :
    r.toDatum.outline = r'.toDatum.outline ↔ r = r' := by
  refine ⟨fun h => ?_, fun h => by rw [h]⟩
  obtain ⟨target, lane⟩ := r
  obtain ⟨target', lane'⟩ := r'
  obtain ⟨htarget, hlane⟩ : target.name = target'.name ∧
      Datum.fieldOutlines (optionalField "lane" (lane.map .text)) =
        Datum.fieldOutlines (optionalField "lane" (lane'.map .text)) := by
    simpa [toDatum, Datum.outline, Datum.fieldOutlines] using h
  rw [Target.name_injective htarget, optionalField_outlines_inj hlane]

/-- Which hints are present can be told from their names. -/
lemma Options.eq_of_outline_eq {o o' : Options} (h : o.toDatum.outline = o'.toDatum.outline) :
    o = o' := by
  obtain ⟨timeBlock, route⟩ := o
  obtain ⟨timeBlock', route'⟩ := o'
  cases timeBlock <;> cases timeBlock' <;> cases route <;> cases route' <;>
    simp_all [toDatum, optionalField, timeBlockDatum, Datum.outline, Datum.fieldOutlines,
      Route.outline_inj]

/-- **The outline of a written request determines the settled request.** -/
theorem Request.settled_eq_of_outline_eq {r r' : Request}
    (h : r.toDatum.outline = r'.toDatum.outline) : r.settled = r'.settled := by
  obtain ⟨hexpression, hoptions⟩ :
      r.expression.toDatum.outline = r'.expression.toDatum.outline ∧
        r.options.toDatum.outline = r'.options.toDatum.outline := by
    simpa [toDatum, Datum.outline, Datum.fieldOutlines] using h
  rw [settled, settled, Expression.settled_eq_of_outline_eq hexpression,
    Options.eq_of_outline_eq hoptions]

/-! ## Canonical texts -/

/-- **The canonical text identifies a request**, whatever its depth: two requests have the same
canonical text exactly if they are identical once every double that is not finite is replaced by
null. Likewise for expressions.

**Proof sketch.** Equal texts spell equal outlines, from which the settled requests can be read off.
Conversely, settling changes nothing in the text. -/
theorem Request.canonical_eq_iff :
    (∀ r r' : Request, r.canonical = r'.canonical ↔ r.settled = r'.settled) ∧
      ∀ e e' : Expression, e.canonical = e'.canonical ↔ e.settled = e'.settled := by
  refine ⟨fun r r' => ⟨fun h => ?_, fun h => ?_⟩, fun e e' => ⟨fun h => ?_, fun h => ?_⟩⟩
  · exact settled_eq_of_outline_eq (Datum.outline_eq_of_compact_eq h)
  · rw [canonical, canonical, ← r.compact_settled, ← r'.compact_settled, h]
  · exact Expression.settled_eq_of_outline_eq (Datum.outline_eq_of_compact_eq h)
  · rw [Expression.canonical, Expression.canonical, ← e.compact_settled, ← e'.compact_settled, h]

end HintedSql
