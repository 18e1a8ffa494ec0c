import HintedSql.Yaml.Block
import HintedSql.Proofs.Json.Written
import HintedSql.Proofs.Yaml.Scalar
set_option relaxedAutoImplicit false
set_option autoImplicit false

/-!
# JSON text as YAML in brackets

The JSON text of a record is YAML as well: a mapping in brackets whose texts are double-quoted
scalars and whose other scalars are plain. The two notations part where a text holds characters that
YAML does not allow or folds, and where a key is too long, so texts are printable ASCII here and
keys are short.

The text has no white space outside of its texts, so every gap that the reader skips is empty. The
readers are given a bound on their calls; the length of the text that is left to read is enough.

## Main definitions

* `HintedSql.Datum.Portable` — data whose JSON text says the same in YAML.
* `HintedSql.Datum.node` — the node that is read from it.
* `HintedSql.Yaml.ReadsAs` — a text is read as a node inside brackets.

## Main results

* `HintedSql.Yaml.flowItems_compact`, `HintedSql.Yaml.flowEntries_compact` — lists and records.
* `HintedSql.Yaml.flowNode_compact` — every node inside brackets.
* `HintedSql.Yaml.parse_compact` — the text of a record.
-/

namespace HintedSql

/-! ## Nodes -/

namespace Datum

/-- Data whose JSON text says the same in YAML: texts and keys are printable ASCII, no key with its
quotes is longer than a key may be, whole numbers fit in 64 bits, and doubles are finite. -/
inductive Portable : Datum → Prop
  | null : Portable null
  | bool (b : Bool) : Portable (bool b)
  | int {i : Int} (h : -9223372036854775808 ≤ i ∧ i < 18446744073709551616) : Portable (int i)
  | float {x : Double} (h : x.isFinite = true) : Portable (float x)
  | text {s : String} (h : Text.IsPrintable s.toList) : Portable (text s)
  | list {items : List Datum} (h : ∀ d ∈ items, Portable d) : Portable (list items)
  | record {fields : List (String × Datum)}
      (hkeys : ∀ f ∈ fields, Text.IsPrintable f.1.toList ∧
        (Json.quote f.1).toList.length ≤ Yaml.Cursor.keyLimit)
      (h : ∀ f ∈ fields, Portable f.2) : Portable (record fields)

mutual
/-- The YAML node that the JSON text of data is. -/
def node : Datum → Yaml.Node
  | text s => .quoted s
  | list items => .list (itemNodes items)
  | record fields => .map (fieldNodes fields)
  | d => .plain d.scalar

/-- The nodes of items. -/
def itemNodes : List Datum → List Yaml.Node
  | [] => []
  | d :: ds => d.node :: itemNodes ds

/-- The nodes of fields, with quoted keys. -/
def fieldNodes : List (String × Datum) → List (Yaml.Node × Yaml.Node)
  | [] => []
  | (k, d) :: fs => (.quoted k, d.node) :: fieldNodes fs
end

mutual
/-- Nothing is linked in the JSON text of data. -/
lemma link_node (directives : Yaml.Directives) (anchors : Yaml.Anchors) :
    (d : Datum) → d.node.link directives anchors = .ok (d.node, anchors)
  | list items => by
    simp [node, Yaml.Node.link, link_itemNodes directives anchors items, bind, Except.bind, pure,
      Except.pure]
  | record fields => by
    simp [node, Yaml.Node.link, link_fieldNodes directives anchors fields, bind, Except.bind, pure,
      Except.pure]
  | null | bool _ | int _ | float _ | text _ => rfl

/-- Nothing is linked in items. -/
lemma link_itemNodes (directives : Yaml.Directives) (anchors : Yaml.Anchors) :
    (items : List Datum) →
      Yaml.Node.linkItems directives anchors (itemNodes items) = .ok (itemNodes items, anchors)
  | [] => rfl
  | d :: ds => by
    simp [itemNodes, Yaml.Node.linkItems, link_node directives anchors d,
      link_itemNodes directives anchors ds, bind, Except.bind, pure, Except.pure]

/-- Nothing is linked in fields. -/
lemma link_fieldNodes (directives : Yaml.Directives) (anchors : Yaml.Anchors) :
    (fields : List (String × Datum)) →
      Yaml.Node.linkEntries directives anchors (fieldNodes fields) =
        .ok (fieldNodes fields, anchors)
  | [] => rfl
  | (k, d) :: fs => by
    simp [fieldNodes, Yaml.Node.linkEntries, Yaml.Node.link, link_node directives anchors d,
      link_fieldNodes directives anchors fs, bind, Except.bind, pure, Except.pure]
end

mutual
/-- No references are followed in the JSON text of data. -/
lemma spend_node (budget : Nat) : (d : Datum) → d.node.spend budget = some budget
  | list items => by rw [node, Yaml.Node.spend, spend_itemNodes budget items]
  | record fields => by rw [node, Yaml.Node.spend, spend_fieldNodes budget fields]
  | null | bool _ | int _ | float _ | text _ => rfl

/-- No references are followed in items. -/
lemma spend_itemNodes (budget : Nat) :
    (items : List Datum) → Yaml.Node.spendItems budget (itemNodes items) = some budget
  | [] => rfl
  | d :: ds => by
    rw [itemNodes, Yaml.Node.spendItems, spend_node budget d, Option.bind_eq_bind,
      Option.bind_some, spend_itemNodes budget ds]

/-- No references are followed in fields. -/
lemma spend_fieldNodes (budget : Nat) :
    (fields : List (String × Datum)) →
      Yaml.Node.spendEntries budget (fieldNodes fields) = some budget
  | [] => rfl
  | (k, d) :: fs => by
    simp [fieldNodes, Yaml.Node.spendEntries, Yaml.Node.spend, spend_node budget d,
      spend_fieldNodes budget fs]
end

/-- The characters of a written text. -/
lemma toList_quote (s : String) :
    (Json.quote s).toList = '"' :: (s.toList.flatMap Json.escape ++ ['"']) := by
  simp [Json.quote]

/-- The characters of a written list. -/
lemma toList_compact_list (items : List Datum) :
    (list items).compact.toList = '[' :: ((compactItems items).toList ++ [']']) := by
  simp [compact]

/-- The characters of a written record. -/
lemma toList_compact_record (fields : List (String × Datum)) :
    (record fields).compact.toList = '\x7b' :: ((compactFields fields).toList ++ ['\x7d']) := by
  simp [compact]

/-- Items are written with commas between them. -/
lemma toList_compactItems_cons (d e : Datum) (es : List Datum) :
    (compactItems (d :: e :: es)).toList =
      d.compact.toList ++ ',' :: (compactItems (e :: es)).toList := by
  simp [compactItems]

/-- A field is written with a colon behind its key. -/
lemma toList_compactFields_singleton (k : String) (d : Datum) :
    (compactFields [(k, d)]).toList = (Json.quote k).toList ++ ':' :: d.compact.toList := by
  simp [compactFields]

/-- Fields are written with commas between them. -/
lemma toList_compactFields_cons (k : String) (d : Datum) (g : String × Datum)
    (gs : List (String × Datum)) :
    (compactFields ((k, d) :: g :: gs)).toList =
      (Json.quote k).toList ++ ':' :: (d.compact.toList ++
        ',' :: (compactFields (g :: gs)).toList) := by
  simp [compactFields]

/-- The text of a scalar that is no text: `null`, a truth value or a number. -/
lemma exists_numberSpelling_float (x : Double) :
    Json.float x = "null" ∨ ∃ n, Json.NumberSpelling n (Json.float x).toList := by
  cases x with
  | finite negative m =>
    have h := m.numberSpelling_numeral .even negative
    rw [← String.toList_ofList (l := signed negative _)] at h
    exact .inr ⟨_, h⟩
  | infinite negative => exact .inl rfl
  | nan => exact .inl rfl

/-- JSON text begins with one of a few characters. -/
lemma exists_opener (d : Datum) :
    ∃ c cs, d.compact.toList = c :: cs ∧ c ∈ Yaml.openers := by
  have hnull : ∃ c cs, "null".toList = c :: cs ∧ c ∈ Yaml.openers := ⟨'n', _, rfl, by decide⟩
  have hnumber {n : Json.Number} {w : List Char} (h : Json.NumberSpelling n w) :
      ∃ c cs, w = c :: cs ∧ c ∈ Yaml.openers := by
    obtain ⟨e, es, he, rfl⟩ := Yaml.exists_digit_of_numberSpelling h
    cases n.negative with
    | false => exact ⟨e, es, rfl, Yaml.of_isDigit he (by decide)⟩
    | true => exact ⟨'-', e :: es, rfl, by decide⟩
  cases d with
  | null => exact hnull
  | bool b => cases b <;> exact ⟨_, _, rfl, by decide⟩
  | int i => exact hnumber (Json.numberSpelling_ofInt i)
  | float x =>
    show ∃ c cs, (Json.float x).toList = c :: cs ∧ c ∈ Yaml.openers
    rcases exists_numberSpelling_float x with h | ⟨n, h⟩
    · rw [h]
      exact hnull
    · exact hnumber h
  | text s => exact ⟨'"', _, toList_quote s, by decide⟩
  | list items => exact ⟨'[', _, toList_compact_list items, by decide⟩
  | record fields => exact ⟨'\x7b', _, toList_compact_record fields, by decide⟩

end Datum

namespace Yaml

open Text (IsPrintable)
open Datum (toList_quote toList_compact_list toList_compact_record)

/-- The characters in front of nodes that are no scalars. -/
def nodeSigns : List Char :=
  ['[', '\x7b', '*', '&', '!']

/-- A plain scalar begins neither with a quote nor with the sign of another node. -/
lemma notMem_of_startsPlain {c : Char} {cs : List Char}
    (h : startsPlain true (c :: cs) = true) : c ∉ '\'' :: '"' :: nodeSigns := by
  intro hc
  have hfacts : isIndicator c = true ∧ c ≠ '-' ∧ c ≠ '?' ∧ c ≠ ':' := by
    simp only [nodeSigns, List.mem_cons, List.not_mem_nil, or_false] at hc
    rcases hc with rfl | rfl | rfl | rfl | rfl | rfl | rfl <;> decide
  simp [startsPlain, hfacts] at h

/-- A text is read as a node inside brackets, in front of what goes on or ends there. -/
def ReadsAs (cs : List Char) (node : Node) : Prop :=
  ∀ ⦃bound least : Nat⦄ ⦃p : Position⦄ ⦃fresh : Bool⦄ ⦃rest : List Char⦄, cs.length ≤ bound →
    0 < p.column → Closes rest →
    flowNode bound least ⟨cs ++ rest, p, fresh⟩ = .ok (node, ⟨rest, p.past cs.length, false⟩)

/-- A node inside brackets that has no sign of its own is a scalar. -/
lemma flowNode_of_scalar {c : Char} (hc : c ∉ nodeSigns) {p : Position}
    (hcolumn : 0 < p.column) (bound least : Nat) (cs : List Char) (fresh : Bool) :
    flowNode (bound + 1) least ⟨c :: cs, p, fresh⟩ = scalar true least ⟨c :: cs, p, fresh⟩ := by
  simp only [nodeSigns, List.mem_cons, List.not_mem_nil, or_false, not_or] at hc
  rw [flowNode, if_neg (by simp [Cursor.atMarker_of_column_pos hcolumn])]
  split <;> simp_all

/-- A word is read as a plain scalar. -/
lemma readsAs_word {w : List Char} (hw : IsWord w) : ReadsAs w (.plain (String.ofList w)) := by
  intro bound least p fresh rest hbound hcolumn hrest
  have hplain : plain true least ⟨w ++ rest, p, fresh⟩ =
      .ok (String.ofList w, ⟨rest, p.past w.length, false⟩) := by
    rw [plain, if_pos (hw.starts rest)]
    exact plainFrom_word hw.inner hrest least ⟨rfl, rfl⟩ rfl p
  cases w with
  | nil => simpa [startsPlain] using hw.starts []
  | cons c cs =>
    obtain ⟨bound, rfl⟩ : ∃ n, bound = n + 1 := ⟨bound - 1, by simp at hbound; omega⟩
    have hc := notMem_of_startsPlain (hw.starts rest)
    simp only [List.mem_cons, not_or] at hc
    rw [List.cons_append] at hplain ⊢
    rw [flowNode_of_scalar hc.2.2 hcolumn, scalar]
    split
    · simp_all
    · simp_all
    · rw [hplain]
      rfl

/-- A written text is read as a quoted scalar, whatever follows. -/
lemma flowNode_quote {s : String} (hs : IsPrintable s.toList) {bound : Nat} (hbound : 0 < bound)
    {p : Position} (hcolumn : 0 < p.column) (least : Nat) (fresh : Bool) (rest : List Char) :
    flowNode bound least ⟨(Json.quote s).toList ++ rest, p, fresh⟩ =
      .ok (.quoted s, ⟨rest, p.past (Json.quote s).toList.length, false⟩) := by
  obtain ⟨bound, rfl⟩ : ∃ n, bound = n + 1 := ⟨bound - 1, by omega⟩
  have hread := doubleFrom_quoted hs (f := {}) ⟨rfl, rfl⟩ (p.past 1) rest
  rw [toList_quote, List.cons_append, flowNode_of_scalar (by decide) hcolumn, scalar]
  simp only [List.append_assoc, List.singleton_append, Cursor.past_one]
  rw [hread]
  simp [bind, Except.bind, pure, Except.pure, Fold.text, Nat.add_comm]

/-! ## Lists and records -/

/-- The text of a value: what it begins with tells it from what stands around values. -/
def IsValueText (cs : List Char) : Prop :=
  ∃ c rest, cs = c :: rest ∧ c ∈ openers

/-- A written text is the text of a value. -/
lemma isValueText_quote (s : String) : IsValueText (Json.quote s).toList :=
  ⟨'"', _, toList_quote s, by decide⟩

/-- The text of a value may go on. -/
lemma IsValueText.append {cs : List Char} (h : IsValueText cs) (rest : List Char) :
    IsValueText (cs ++ rest) := by
  obtain ⟨c, cs, rfl, hc⟩ := h
  exact ⟨c, cs ++ rest, rfl, hc⟩

/-- No gap begins in front of a value. -/
lemma gap_of_isValueText {cs : List Char} (h : IsValueText cs) (rest : List Char) (flow : Bool)
    (p : Position) (fresh : Bool) :
    Cursor.gap flow ⟨cs ++ rest, p, fresh⟩ = ⟨cs ++ rest, p, fresh⟩ := by
  obtain ⟨c, cs, rfl, hc⟩ := h
  exact Cursor.gap_of_isSolid (isSolid_of_mem_openers c hc) _ _ _ _

/-- The text of a value begins with none of the other characters. -/
lemma IsValueText.append_ne {cs : List Char} (h : IsValueText cs) {d : Char} (hd : d ∉ openers)
    (rest tail : List Char) : cs ++ rest ≠ d :: tail := by
  obtain ⟨c, cs, rfl, hc⟩ := h
  intro heq
  obtain ⟨rfl, -⟩ := List.cons.inj heq
  exact hd hc

/-- A value begins with none of the characters that stand in the place of an absent one. -/
lemma IsValueText.atAny_eq_false {cs : List Char} (h : IsValueText cs) (rest : List Char)
    (p : Position) (fresh : Bool) :
    Cursor.atAny [',', ']', '\x7d', ':'] ⟨cs ++ rest, p, fresh⟩ = false := by
  obtain ⟨c, cs, rfl, hc⟩ := h
  have hne (d : Char) (hd : d ∉ openers) : c ≠ d := fun heq => hd (heq ▸ hc)
  simp [Cursor.atAny, hne ',' (by decide), hne ']' (by decide), hne '\x7d' (by decide),
    hne ':' (by decide)]

/-- Without a colon there is no value. -/
lemma flowRest_of_ne {d : Char} (hd : d ≠ ':') (value : Cursor → Except Fault (Node × Cursor))
    (isKey : Bool) (rest : List Char) (p : Position) (fresh : Bool) :
    flowRest value isKey ⟨d :: rest, p, fresh⟩ = .ok (none, ⟨d :: rest, p, fresh⟩) := by
  rw [flowRest]
  split
  · simp_all
  · rfl

section Parts

variable {read value : Cursor → Except Fault (Node × Cursor)} {cs : List Char} {node : Node}
variable {d : Char} {rest : List Char} {p q : Position} {fresh : Bool}

/-- An item that no colon follows is the node itself. -/
lemma flowItem_node (htext : IsValueText cs) (hd : d = ',' ∨ d = ']')
    (hread : read ⟨cs ++ d :: rest, p, fresh⟩ = .ok (node, ⟨d :: rest, q, false⟩)) :
    flowItem read value ⟨cs ++ d :: rest, p, fresh⟩ = .ok (node, ⟨d :: rest, q, false⟩) := by
  have hgap : Cursor.gap true ⟨d :: rest, q, false⟩ = ⟨d :: rest, q, false⟩ := by
    rcases hd with rfl | rfl <;> exact Cursor.gap_separator (by decide) _ _ _ _
  have hcolon : d ≠ ':' := by rcases hd with rfl | rfl <;> decide
  rw [flowItem]
  split
  · rename_i heq
    exact absurd heq (htext.append_ne (by decide) _ _)
  · simp [hread, hgap, flowRest_of_ne hcolon, bind, Except.bind, pure, Except.pure]

/-- An entry is a key, a colon and a value. -/
lemma flowEntry_pair {key : Node} {keyText : List Char} (hkeyText : IsValueText keyText)
    (htext : IsValueText cs) (hd : d = ',' ∨ d = '\x7d') {r : Position}
    (hisKey : Cursor.isKey ⟨keyText ++ ':' :: (cs ++ d :: rest), p, fresh⟩
      ⟨':' :: (cs ++ d :: rest), q, false⟩ = true)
    (hkey : read ⟨keyText ++ ':' :: (cs ++ d :: rest), p, fresh⟩ =
      .ok (key, ⟨':' :: (cs ++ d :: rest), q, false⟩))
    (hvalue : value ⟨cs ++ d :: rest, q.past 1, false⟩ = .ok (node, ⟨d :: rest, r, false⟩)) :
    flowEntry read value ⟨keyText ++ ':' :: (cs ++ d :: rest), p, fresh⟩ =
      .ok ((key, node), ⟨d :: rest, r, false⟩) := by
  have hgap : Cursor.gap true ⟨d :: rest, r, false⟩ = ⟨d :: rest, r, false⟩ := by
    rcases hd with rfl | rfl <;> exact Cursor.gap_separator (by decide) _ _ _ _
  rw [flowEntry]
  split
  · rename_i heq
    exact absurd heq (hkeyText.append_ne (by decide) _ _)
  · simp [hkey, Cursor.gap_separator, hisKey, flowRest, gap_of_isValueText htext, hvalue, hgap,
      bind, Except.bind, pure, Except.pure]

end Parts

/-- One item of a list, with the comma or the bracket behind it. -/
lemma flowItems_item {cs : List Char} {node : Node} (htext : IsValueText cs)
    (h : ReadsAs cs node) {d : Char} (hd : d = ',' ∨ d = ']') {bound : Nat}
    (hbound : cs.length ≤ bound) {p : Position} (hcolumn : 0 < p.column) (least : Nat)
    (items : List Node) (fresh : Bool) (rest : List Char) :
    flowItems (bound + 1) least items ⟨cs ++ d :: rest, p, fresh⟩ =
      if d = ',' then
        flowItems bound least (node :: items)
          (Cursor.gap true ⟨rest, p.past (cs.length + 1), false⟩)
      else .ok (.list (node :: items).reverse, ⟨rest, p.past (cs.length + 1), false⟩) := by
  have hcloses : Closes (d :: rest) := ⟨d, rest, rfl, by rcases hd with rfl | rfl <;> rfl⟩
  have hread : flowNode bound least ⟨cs ++ d :: rest, p, fresh⟩ =
      .ok (node, ⟨d :: rest, p.past cs.length, false⟩) := h hbound hcolumn hcloses
  rw [flowItems]
  split
  · rename_i heq
    exact absurd heq (htext.append_ne (by decide) _ _)
  · rw [flowItem_node htext hd hread]
    rcases hd with rfl | rfl <;> simp [bind, Except.bind]

/-- One entry of a mapping, with the comma or the bracket behind it. -/
lemma flowEntries_entry {key : String} (hkey : IsPrintable key.toList)
    (hshort : (Json.quote key).toList.length ≤ Cursor.keyLimit) {cs : List Char} {node : Node}
    (htext : IsValueText cs) (h : ReadsAs cs node) {d : Char} (hd : d = ',' ∨ d = '\x7d')
    {bound : Nat} (hbound : cs.length + 1 ≤ bound) {p : Position} (hcolumn : 0 < p.column)
    (least : Nat) (entries : List (Node × Node)) (fresh : Bool) (rest : List Char) :
    flowEntries (bound + 1) least entries
        ⟨(Json.quote key).toList ++ ':' :: (cs ++ d :: rest), p, fresh⟩ =
      if d = ',' then
        flowEntries bound least ((.quoted key, node) :: entries) (Cursor.gap true
          ⟨rest, p.past ((Json.quote key).toList.length + 1 + cs.length + 1), false⟩)
      else .ok (.map ((.quoted key, node) :: entries).reverse,
        ⟨rest, p.past ((Json.quote key).toList.length + 1 + cs.length + 1), false⟩) := by
  obtain ⟨bound, rfl⟩ : ∃ n, bound = n + 1 := ⟨bound - 1, by omega⟩
  have hcloses : Closes (d :: rest) := ⟨d, rest, rfl, by rcases hd with rfl | rfl <;> rfl⟩
  have hkeyRead := flowNode_quote hkey (Nat.succ_pos bound) hcolumn least fresh
    (':' :: (cs ++ d :: rest))
  have hvalue : flowValue (bound + 1) least
      ⟨cs ++ d :: rest, p.past ((Json.quote key).toList.length + 1), false⟩ =
      .ok (node, ⟨d :: rest, p.past ((Json.quote key).toList.length + 1 + cs.length), false⟩) := by
    rw [flowValue, if_neg (by simp [htext.atAny_eq_false])]
    rw [h (by omega) (by simp) hcloses, Position.past_past]
  have hisKey : Cursor.isKey ⟨(Json.quote key).toList ++ ':' :: (cs ++ d :: rest), p, fresh⟩
      ⟨':' :: (cs ++ d :: rest), p.past (Json.quote key).toList.length, false⟩ = true := by
    simpa [Cursor.isKey, Cursor.sameLine, Position.past] using hshort
  rw [flowEntries]
  split
  · rename_i heq
    exact absurd heq ((isValueText_quote key).append_ne (by decide) _ _)
  · rw [flowEntry_pair (isValueText_quote key) htext hd hisKey hkeyRead
      (by rw [Position.past_past]; exact hvalue)]
    rcases hd with rfl | rfl <;> simp [bind, Except.bind]

/-- The text of items begins like a value. -/
lemma isValueText_items (d : Datum) (ds : List Datum) :
    IsValueText (Datum.compactItems (d :: ds)).toList := by
  have hd : IsValueText d.compact.toList := d.exists_opener
  cases ds with
  | nil => exact hd
  | cons e es =>
    rw [Datum.toList_compactItems_cons]
    exact hd.append _

/-- The text of fields begins like a value. -/
lemma isValueText_fields (f : String × Datum) (fs : List (String × Datum)) :
    IsValueText (Datum.compactFields (f :: fs)).toList := by
  obtain ⟨k, d⟩ := f
  cases fs with
  | nil =>
    rw [Datum.toList_compactFields_singleton]
    exact (isValueText_quote k).append _
  | cons g gs =>
    rw [Datum.toList_compactFields_cons]
    exact (isValueText_quote k).append _

/-- No gap begins in front of the items of a list. -/
lemma gap_items (items : List Datum) (rest : List Char) (p : Position) (fresh : Bool) :
    Cursor.gap true ⟨(Datum.compactItems items).toList ++ ']' :: rest, p, fresh⟩ =
      ⟨(Datum.compactItems items).toList ++ ']' :: rest, p, fresh⟩ := by
  cases items with
  | nil => exact Cursor.gap_separator (by decide) _ _ _ _
  | cons d ds => exact gap_of_isValueText (isValueText_items d ds) _ _ _ _

/-- No gap begins in front of the fields of a record. -/
lemma gap_fields (fields : List (String × Datum)) (rest : List Char) (p : Position)
    (fresh : Bool) :
    Cursor.gap true ⟨(Datum.compactFields fields).toList ++ '\x7d' :: rest, p, fresh⟩ =
      ⟨(Datum.compactFields fields).toList ++ '\x7d' :: rest, p, fresh⟩ := by
  cases fields with
  | nil => exact Cursor.gap_separator (by decide) _ _ _ _
  | cons f fs => exact gap_of_isValueText (isValueText_fields f fs) _ _ _ _

/-- The items of a list are read one after the other. -/
theorem flowItems_compact {items : List Datum}
    (h : ∀ d ∈ items, ReadsAs d.compact.toList d.node) (acc : List Node) {bound : Nat}
    (hbound : (Datum.compactItems items).toList.length < bound) {p : Position}
    (hcolumn : 0 < p.column) (least : Nat) (fresh : Bool) (rest : List Char) :
    flowItems bound least acc ⟨(Datum.compactItems items).toList ++ ']' :: rest, p, fresh⟩ =
      .ok (.list (acc.reverse ++ Datum.itemNodes items),
        ⟨rest, p.past ((Datum.compactItems items).toList.length + 1), false⟩) := by
  obtain ⟨bound, rfl⟩ : ∃ n, bound = n + 1 := ⟨bound - 1, by omega⟩
  induction items generalizing acc bound p fresh with
  | nil => simp [Datum.compactItems, Datum.itemNodes, flowItems]
  | cons d ds ih =>
    obtain ⟨hd, hds⟩ := List.forall_mem_cons.mp h
    cases ds with
    | nil =>
      rw [Datum.compactItems] at hbound ⊢
      rw [flowItems_item d.exists_opener hd (.inr rfl) (by omega) hcolumn, if_neg (by decide)]
      simp [Datum.itemNodes]
    | cons e es =>
      have hcs := Datum.toList_compactItems_cons d e es
      rw [hcs, List.length_append, List.length_cons] at hbound
      obtain ⟨bound, rfl⟩ : ∃ n, bound = n + 1 := ⟨bound - 1, by omega⟩
      rw [hcs, List.append_assoc, List.cons_append,
        flowItems_item d.exists_opener hd (.inl rfl) (by omega) hcolumn, if_pos rfl, gap_items]
      refine (ih hds _ (by simp) _ _ (by omega)).trans ?_
      simp [Datum.itemNodes, Nat.add_assoc, Nat.add_comm, Nat.add_left_comm]

/-- The fields of a record are read one after the other. -/
theorem flowEntries_compact {fields : List (String × Datum)}
    (hkeys : ∀ f ∈ fields, IsPrintable f.1.toList ∧
      (Json.quote f.1).toList.length ≤ Cursor.keyLimit)
    (h : ∀ f ∈ fields, ReadsAs f.2.compact.toList f.2.node) (acc : List (Node × Node))
    {bound : Nat} (hbound : (Datum.compactFields fields).toList.length < bound) {p : Position}
    (hcolumn : 0 < p.column) (least : Nat) (fresh : Bool) (rest : List Char) :
    flowEntries bound least acc
        ⟨(Datum.compactFields fields).toList ++ '\x7d' :: rest, p, fresh⟩ =
      .ok (.map (acc.reverse ++ Datum.fieldNodes fields),
        ⟨rest, p.past ((Datum.compactFields fields).toList.length + 1), false⟩) := by
  obtain ⟨bound, rfl⟩ : ∃ n, bound = n + 1 := ⟨bound - 1, by omega⟩
  induction fields generalizing acc bound p fresh with
  | nil => simp [Datum.compactFields, Datum.fieldNodes, flowEntries]
  | cons f fs ih =>
    obtain ⟨k, d⟩ := f
    obtain ⟨⟨hkey, hshort⟩, hkeys⟩ := List.forall_mem_cons.mp hkeys
    obtain ⟨hd, hfs⟩ := List.forall_mem_cons.mp h
    cases fs with
    | nil =>
      have hcs := Datum.toList_compactFields_singleton k d
      rw [hcs, List.length_append, List.length_cons] at hbound
      rw [hcs, List.append_assoc, List.cons_append,
        flowEntries_entry hkey hshort d.exists_opener hd (.inr rfl) (by omega) hcolumn,
        if_neg (by decide)]
      simp [Datum.fieldNodes, Nat.add_assoc, Nat.add_comm, Nat.add_left_comm]
    | cons g gs =>
      have hcs := Datum.toList_compactFields_cons k d g gs
      rw [hcs] at hbound
      simp only [List.length_append, List.length_cons] at hbound
      obtain ⟨bound, rfl⟩ : ∃ n, bound = n + 1 := ⟨bound - 1, by omega⟩
      rw [hcs, List.append_assoc, List.cons_append, List.append_assoc, List.cons_append,
        flowEntries_entry hkey hshort d.exists_opener hd (.inl rfl) (by omega) hcolumn, if_pos rfl,
        gap_fields]
      refine (ih hkeys hfs _ (by simp) _ _ (by omega)).trans ?_
      simp [Datum.fieldNodes, Nat.add_assoc, Nat.add_comm, Nat.add_left_comm]

/-! ## Nodes and documents -/

/-- A record is read wherever it stands. -/
lemma flowNode_record {fields : List (String × Datum)}
    (hkeys : ∀ f ∈ fields, IsPrintable f.1.toList ∧
      (Json.quote f.1).toList.length ≤ Cursor.keyLimit)
    (h : ∀ f ∈ fields, ReadsAs f.2.compact.toList f.2.node) {bound : Nat}
    (hbound : (Datum.record fields).compact.toList.length ≤ bound) (least : Nat) (p : Position)
    (fresh : Bool) (rest : List Char) :
    flowNode bound least ⟨(Datum.record fields).compact.toList ++ rest, p, fresh⟩ =
      .ok ((Datum.record fields).node,
        ⟨rest, p.past (Datum.record fields).compact.toList.length, false⟩) := by
  rw [toList_compact_record] at hbound ⊢
  simp only [List.length_cons, List.length_append, List.length_nil] at hbound
  obtain ⟨bound, rfl⟩ : ∃ n, bound = n + 1 := ⟨bound - 1, by omega⟩
  have hmarker (cs : List Char) : Cursor.atMarker ⟨'\x7b' :: cs, p, fresh⟩ = false := by
    rcases cs with _ | ⟨a, _ | ⟨b, cs⟩⟩ <;>
      simp [Cursor.atMarker, Cursor.atOpening, Cursor.atClosing, Cursor.isMarker]
  rw [List.cons_append, List.append_assoc, List.singleton_append, flowNode,
    if_neg (by simp [hmarker])]
  rw [Cursor.past_one, gap_fields]
  refine (flowEntries_compact hkeys h [] (by omega) (by simp) _ _ _).trans ?_
  simp [Datum.node, Nat.add_comm]

/-- A list is read inside brackets. -/
lemma readsAs_list {items : List Datum} (h : ∀ d ∈ items, ReadsAs d.compact.toList d.node) :
    ReadsAs (Datum.list items).compact.toList (Datum.list items).node := by
  intro bound least p fresh rest hbound hcolumn _
  rw [toList_compact_list] at hbound ⊢
  simp only [List.length_cons, List.length_append, List.length_nil] at hbound
  obtain ⟨bound, rfl⟩ : ∃ n, bound = n + 1 := ⟨bound - 1, by omega⟩
  rw [List.cons_append, List.append_assoc, List.singleton_append, flowNode,
    if_neg (by simp [Cursor.atMarker_of_column_pos hcolumn])]
  rw [Cursor.past_one, gap_items]
  refine (flowItems_compact h [] (by omega) (by simp) _ _ _).trans ?_
  simp [Datum.node, Nat.add_comm]

/-- **The text of portable data** is read as their node. -/
theorem flowNode_compact {d : Datum} (h : d.Portable) : ReadsAs d.compact.toList d.node := by
  have hword {w : String} (hw : IsWord w.toList) : ReadsAs w.toList (.plain w) := by
    have hread := readsAs_word hw
    rwa [String.ofList_toList] at hread
  have hnull : IsWord "null".toList := ⟨fun rest => rfl, List.all_eq_true.mp (by decide)⟩
  induction h with
  | null => exact hword hnull
  | bool b =>
    cases b with
    | false => exact hword (w := "false") ⟨fun rest => rfl, List.all_eq_true.mp (by decide)⟩
    | true => exact hword (w := "true") ⟨fun rest => rfl, List.all_eq_true.mp (by decide)⟩
  | @int i _ => exact hword (isWord_of_numberSpelling (Json.numberSpelling_ofInt i))
  | @float x _ =>
    rcases Datum.exists_numberSpelling_float x with hx | ⟨n, hx⟩
    · exact hword (w := Json.float x) (by rw [hx]; exact hnull)
    · exact hword (w := Json.float x) (isWord_of_numberSpelling hx)
  | @text s hs =>
    intro bound least p fresh rest hbound hcolumn _
    have hpositive : 0 < (Json.quote s).toList.length := by simp [toList_quote]
    exact flowNode_quote hs (Nat.lt_of_lt_of_le hpositive hbound) hcolumn _ _ _
  | list _ ih => exact readsAs_list ih
  | record hkeys _ ih =>
    intro bound least p fresh rest hbound _ _
    exact flowNode_record hkeys ih hbound _ _ _ _

/-- Joined texts are printable if both are. -/
lemma isPrintable_append {cs ds : List Char} :
    IsPrintable (cs ++ ds) ↔ IsPrintable cs ∧ IsPrintable ds :=
  List.forall_mem_append

/-- A text is printable if its first character and the others are. -/
lemma isPrintable_cons {c : Char} {cs : List Char} :
    IsPrintable (c :: cs) ↔ (0x20 ≤ c.toNat ∧ c.toNat ≤ 0x7E) ∧ IsPrintable cs :=
  List.forall_mem_cons

/-- Numbers are printable. -/
lemma isPrintable_numberSpelling {n : Json.Number} {w : List Char}
    (h : Json.NumberSpelling n w) : IsPrintable w := by
  have hall : IsPrintable numberChars := by decide
  exact fun c hc => hall c (mem_numberChars_of_numberSpelling h c hc)

/-- A printable text is written in printable characters. -/
lemma isPrintable_quote {s : String} (h : IsPrintable s.toList) :
    IsPrintable (Json.quote s).toList := by
  rw [toList_quote, isPrintable_cons, isPrintable_append]
  refine ⟨by decide, fun d hd => ?_, by decide⟩
  obtain ⟨c, hc, hd⟩ := List.mem_flatMap.mp hd
  rw [escape_of_printable (h c hc)] at hd
  have hspecial : IsPrintable ['\\', '"'] := by decide
  split at hd
  · exact hspecial d hd
  · split at hd
    · exact hspecial d (by simp_all)
    · rw [List.mem_singleton.mp hd]
      exact h c hc

/-- Items are printable if each of them is. -/
lemma isPrintable_items {items : List Datum}
    (h : ∀ d ∈ items, IsPrintable d.compact.toList) :
    IsPrintable (Datum.compactItems items).toList := by
  induction items with
  | nil => decide
  | cons d ds ih =>
    obtain ⟨hd, hds⟩ := List.forall_mem_cons.mp h
    cases ds with
    | nil => exact hd
    | cons e es =>
      rw [Datum.toList_compactItems_cons, isPrintable_append, isPrintable_cons]
      exact ⟨hd, by decide, ih hds⟩

/-- Fields are printable if their keys and values are. -/
lemma isPrintable_fields {fields : List (String × Datum)}
    (hkeys : ∀ f ∈ fields, IsPrintable f.1.toList)
    (h : ∀ f ∈ fields, IsPrintable f.2.compact.toList) :
    IsPrintable (Datum.compactFields fields).toList := by
  induction fields with
  | nil => decide
  | cons f fs ih =>
    obtain ⟨k, d⟩ := f
    obtain ⟨hk, hks⟩ := List.forall_mem_cons.mp hkeys
    obtain ⟨hd, hfs⟩ := List.forall_mem_cons.mp h
    cases fs with
    | nil =>
      rw [Datum.toList_compactFields_singleton, isPrintable_append, isPrintable_cons]
      exact ⟨isPrintable_quote hk, by decide, hd⟩
    | cons g gs =>
      rw [Datum.toList_compactFields_cons, isPrintable_append, isPrintable_cons,
        isPrintable_append, isPrintable_cons]
      exact ⟨isPrintable_quote hk, by decide, hd, by decide, ih hks hfs⟩

/-- The text of portable data is printable. -/
lemma isPrintable_compact {d : Datum} (h : d.Portable) : IsPrintable d.compact.toList := by
  induction h with
  | null => decide
  | bool b => cases b <;> decide
  | @int i _ => exact isPrintable_numberSpelling (Json.numberSpelling_ofInt i)
  | @float x _ =>
    show IsPrintable (Json.float x).toList
    rcases Datum.exists_numberSpelling_float x with hx | ⟨n, hx⟩
    · rw [hx]
      decide
    · exact isPrintable_numberSpelling hx
  | text hs => exact isPrintable_quote hs
  | list _ ih =>
    rw [toList_compact_list, isPrintable_cons, isPrintable_append]
    exact ⟨by decide, isPrintable_items ih, by decide⟩
  | record hkeys _ ih =>
    rw [toList_compact_record, isPrintable_cons, isPrintable_append]
    exact ⟨by decide, isPrintable_fields (fun f hf => (hkeys f hf).1) ih, by decide⟩

/-- A document that is one mapping in brackets, up to the end of the text. -/
lemma document_of_flowNode {bound : Nat} {cs : List Char} {node : Node} {p : Position}
    (h : flowNode bound 0 ⟨'\x7b' :: cs, .start, true⟩ = .ok (node, ⟨[], p, false⟩))
    (hlink : node.link {} [] = .ok (node, [])) :
    document (bound + 1) ⟨'\x7b' :: cs, .start, true⟩ = .ok node := by
  have hmarker (m : Char) (hm : m ≠ '\x7b') : Cursor.isMarker m ('\x7b' :: cs) = false := by
    rcases cs with _ | ⟨a, _ | ⟨b, cs⟩⟩ <;> simp [Cursor.isMarker, Ne.symm hm]
  have hopening : Cursor.atOpening ⟨'\x7b' :: cs, .start, true⟩ = false := by
    simp [Cursor.atOpening, hmarker]
  have hclosing : Cursor.atClosing ⟨'\x7b' :: cs, .start, true⟩ = false := by
    simp [Cursor.atClosing, hmarker]
  have hleaf : leaf bound 0 ⟨'\x7b' :: cs, .start, true⟩ = .ok (node, ⟨[], p, false⟩) := by
    simp [leaf, h, bind, Except.bind, pure, Except.pure, Cursor.gap, Cursor.gapFrom]
  have hsign (sign : Char) (hsign : '\x7b' ≠ sign) :
      Cursor.atSign sign ⟨'\x7b' :: cs, .start, true⟩ = false := by
    simp [Cursor.atSign, hsign]
  have hproperties : properties ⟨'\x7b' :: cs, .start, true⟩ =
      .ok ([], ⟨'\x7b' :: cs, .start, true⟩) := rfl
  have hdecorated : decorated bound 0 [] ⟨'\x7b' :: cs, .start, true⟩ =
      .ok (node, ⟨[], p, false⟩) := by
    simp [decorated, hleaf, bind, Except.bind, pure, Except.pure]
  have hblock : blockNode (bound + 1) 0 false ⟨'\x7b' :: cs, .start, true⟩ =
      .ok (node, ⟨[], p, false⟩) := by
    rw [blockNode, if_neg (by simp [Cursor.atEnd, Cursor.atMarker, hopening, hclosing]),
      if_neg (by simp [Cursor.depth]), if_neg (by simp [Cursor.atDash, hsign]),
      if_neg (by simp [Cursor.atQuestion, hsign]), hproperties]
    simp [Cursor.sameLine, hdecorated, Cursor.atValue, Cursor.atSign, bind, Except.bind, pure,
      Except.pure]
  have hdirectives : directives (bound + 1) {} ⟨'\x7b' :: cs, .start, true⟩ =
      .ok ({}, ⟨'\x7b' :: cs, .start, true⟩) := rfl
  simp [document, hdirectives, hopening, hclosing, hblock, hlink, bind, Except.bind, checkClosed,
    pure, Except.pure]

/-- **The text of a record** is a YAML document with one node. -/
theorem parse_compact {fields : List (String × Datum)} (h : (Datum.record fields).Portable) :
    parse (Datum.record fields).compact = .ok (Datum.record fields).node := by
  have hallowed : (Datum.record fields).compact.toList.all isAllowed = true :=
    List.all_eq_true.mpr fun c hc => isAllowed_of_printable (isPrintable_compact h c hc)
  cases h with
  | record hkeys hfields =>
    have hread (bound : Nat) (hbound : (Datum.record fields).compact.toList.length ≤ bound) :=
      flowNode_record hkeys (fun f hf => flowNode_compact (hfields f hf)) hbound 0 .start true []
    rw [parse, if_pos hallowed, Cursor.start]
    simp only [List.append_nil] at hread
    rw [toList_compact_record] at hread ⊢
    rw [Cursor.gap_of_isSolid (by decide)]
    exact document_of_flowNode (hread _ (by omega)) (Datum.link_node _ _ _)

end Yaml

end HintedSql
