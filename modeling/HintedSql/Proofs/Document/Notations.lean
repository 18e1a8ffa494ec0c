import HintedSql.Command.Basic
import HintedSql.Proofs.Algebra.Texts
import HintedSql.Proofs.Document.RoundTrip
import HintedSql.Proofs.Yaml.Content
set_option relaxedAutoImplicit false
set_option autoImplicit false

/-!
# Canonical requests in both notations

The canonical text of a request is JSON, and if its strings are printable ASCII and its doubles are
finite it is YAML as well. Read as either it gives back the request, so the extension of a path
makes no difference to what a command writes.

No assumption about doubles is needed for YAML, whose numbers are rounded once. In JSON a number may
be rounded more than once, so that there the doubles have to read back.

## Main definitions

* `HintedSql.Request.strings` — the names and texts of a request.

## Main results

* `HintedSql.Request.portable_toDatum` — canonical documents say the same in YAML.
* `HintedSql.Expression.ofContent_content` — what a canonical document says is the expression.
* `HintedSql.Request.ofYaml_canonical` — canonical texts read as YAML.
* `HintedSql.Request.read_canonical` — canonical texts read in both notations.
-/

namespace HintedSql

open Text (IsPrintable)

/-! ## Strings of a request -/

/-- The texts in an expression. -/
def Expression.texts (e : Expression) : List String :=
  e.values.filterMap Value.text?

/-- The texts among hints. -/
def Options.strings (o : Options) : List String :=
  o.timeBlock.toList ++ (o.route.bind Route.lane).toList

/-- The names and texts in a request. -/
def Request.strings (r : Request) : List String :=
  r.expression.names ++ r.expression.texts ++ r.options.strings

/-- Every one of some strings is printable. -/
def AllPrintable (strings : List String) : Prop :=
  ∀ s ∈ strings, IsPrintable s.toList

instance (strings : List String) : Decidable (AllPrintable strings) :=
  List.decidableBAll (fun s : String => IsPrintable s.toList) strings

/-- Joined lists of strings are printable if both are. -/
@[simp] lemma allPrintable_append {ss ts : List String} :
    AllPrintable (ss ++ ts) ↔ AllPrintable ss ∧ AllPrintable ts :=
  List.forall_mem_append

/-- A list of strings is printable if its first string and the others are. -/
@[simp] lemma allPrintable_cons {s : String} {ss : List String} :
    AllPrintable (s :: ss) ↔ IsPrintable s.toList ∧ AllPrintable ss :=
  List.forall_mem_cons

/-- A string that need not be given is printable if it is whenever it is given. -/
@[simp] lemma allPrintable_toList {s : Option String} :
    AllPrintable s.toList ↔ ∀ t ∈ s, IsPrintable t.toList := by
  simp [AllPrintable]

/-- The texts of a selection are those of its input and then those of its condition. -/
lemma Expression.texts_selection (input : Expression) (predicate : Condition) :
    (selection input predicate).texts = input.texts ++ predicate.texts := by
  simp [texts, Condition.texts, values]

/-- The texts of a join are those of its inputs and then those of its condition. -/
lemma Expression.texts_join (kind : JoinKind) (left right : Expression) (on : Condition) :
    (join kind left right on).texts = left.texts ++ (right.texts ++ on.texts) := by
  simp [texts, Condition.texts, values]

/-! ## Portable documents -/

namespace Datum

/-- The keys of canonical documents. -/
def documentKeys : List String :=
  ["expression", "options", "kind", "name", "alias", "from", "predicate", "columns", "left",
   "right", "on", "join_type", "column", "value", "time_block", "route", "target", "lane"]

/-- Fields of portable data with keys of canonical documents. -/
def PortableFields (fields : List (String × Datum)) : Prop :=
  ∀ f ∈ fields, f.1 ∈ documentKeys ∧ f.2.Portable

/-- No fields are portable. -/
@[simp] lemma portableFields_nil : PortableFields [] := by
  simp [PortableFields]

/-- Fields are portable if the first has a known key and portable data, and the others are
portable. -/
@[simp] lemma portableFields_cons {k : String} {d : Datum} {fs : List (String × Datum)} :
    PortableFields ((k, d) :: fs) ↔ (k ∈ documentKeys ∧ d.Portable) ∧ PortableFields fs :=
  List.forall_mem_cons

/-- Joined fields are portable if both parts are. -/
@[simp] lemma portableFields_append {fs gs : List (String × Datum)} :
    PortableFields (fs ++ gs) ↔ PortableFields fs ∧ PortableFields gs :=
  List.forall_mem_append

/-- A field that need not be given is portable if it is whenever it is given. -/
@[simp] lemma portableFields_optionalField {k : String} {d : Option Datum} :
    PortableFields (optionalField k d) ↔ ∀ e ∈ d, k ∈ documentKeys ∧ e.Portable := by
  cases d <;> simp [optionalField]

/-- A printable text that need not be given is portable under a known key. -/
lemma portableFields_optionalText {k : String} (hk : k ∈ documentKeys) {s : Option String}
    (h : ∀ t ∈ s, IsPrintable t.toList) : PortableFields (optionalField k (s.map text)) := by
  rw [portableFields_optionalField]
  intro d hd
  obtain ⟨t, ht, rfl⟩ := Option.map_eq_some_iff.mp hd
  exact ⟨hk, .text (h t ht)⟩

/-- A record of portable fields is portable, since no known key is too long. -/
lemma PortableFields.record {fields : List (String × Datum)} (h : PortableFields fields) :
    (record fields).Portable := by
  have hall : ∀ k ∈ documentKeys, IsPrintable k.toList ∧
      (Json.quote k).toList.length ≤ Yaml.Cursor.keyLimit := by decide
  exact .record (fun f hf => hall f.1 (h f hf).1) fun f hf => (h f hf).2

end Datum

/-- A finite value with a printable text is portable. -/
theorem Value.portable_toDatum {v : Value} (htext : ∀ s ∈ v.text?, IsPrintable s.toList)
    (hfinite : v.IsFinite) : v.toDatum.Portable := by
  cases v with
  | null => exact .null
  | bool b => exact .bool b
  | int i =>
    have hlt := i.toInt_lt
    have hle := i.le_toInt
    exact .int ⟨by omega, by omega⟩
  | float x => exact .float hfinite
  | text s => exact .text (htext s rfl)

/-- A condition with printable strings and finite literals is portable. -/
theorem Condition.portable_toDatum {c : Condition} (hcolumns : AllPrintable c.columns)
    (htexts : AllPrintable c.texts) (hfinite : c.IsFinite) : c.toDatum.Portable := by
  induction c with
  | compare op column value =>
    have hname : (Datum.text op.name).Portable := .text (by cases op <;> decide)
    have hcolumn := Datum.Portable.text (allPrintable_cons.mp hcolumns).1
    have hvalue := Value.portable_toDatum (allPrintable_toList.mp (texts_compare .. ▸ htexts))
      ((isFinite_compare ..).mp hfinite)
    exact Datum.PortableFields.record (by simp [Datum.documentKeys, hname, hcolumn, hvalue])
  | connect op left right ihl ihr =>
    have hname : (Datum.text op.name).Portable := .text (by cases op <;> decide)
    obtain ⟨hcl, hcr⟩ := allPrintable_append.mp hcolumns
    obtain ⟨htl, htr⟩ := allPrintable_append.mp (texts_connect op left right ▸ htexts)
    obtain ⟨hfl, hfr⟩ := (isFinite_connect op left right).mp hfinite
    have hl := ihl hcl htl hfl
    have hr := ihr hcr htr hfr
    exact Datum.PortableFields.record (by simp [Datum.documentKeys, hname, hl, hr])

/-- An expression with printable strings and finite literals is portable. -/
theorem Expression.portable_toDatum {e : Expression} (hnames : AllPrintable e.names)
    (htexts : AllPrintable e.texts) (hfinite : e.IsFinite) : e.toDatum.Portable := by
  have hkind : ∀ k ∈ ["table", "selection", "projection", "join"], (Datum.text k).Portable := by
    have hall : AllPrintable ["table", "selection", "projection", "join"] := by decide
    exact fun k hk => .text (hall k hk)
  induction e with
  | table t =>
    obtain ⟨hname, halias⟩ := allPrintable_cons.mp hnames
    have hnamed : (Datum.text t.name).Portable := .text hname
    have halias := Datum.portableFields_optionalText (k := "alias") (by decide)
      (allPrintable_toList.mp halias)
    refine Datum.PortableFields.record (Datum.portableFields_append.mpr ⟨?_, halias⟩)
    simp [Datum.documentKeys, hkind, hnamed]
  | selection input predicate ih =>
    obtain ⟨hni, hnp⟩ := allPrintable_append.mp hnames
    obtain ⟨hti, htp⟩ := allPrintable_append.mp (texts_selection .. ▸ htexts)
    obtain ⟨hfi, hfp⟩ := (isFinite_selection input predicate).mp hfinite
    have hi := ih hni hti hfi
    have hp := Condition.portable_toDatum hnp htp hfp
    exact Datum.PortableFields.record (by simp [Datum.documentKeys, hkind, hi, hp])
  | projection input columns ih =>
    obtain ⟨hni, hnc⟩ := allPrintable_append.mp hnames
    have hi := ih hni htexts hfinite
    have hcolumns : (Datum.list (columns.map Datum.text)).Portable := by
      refine .list fun d hd => ?_
      obtain ⟨s, hs, rfl⟩ := List.mem_map.mp hd
      exact .text (hnc s hs)
    exact Datum.PortableFields.record (by simp [Datum.documentKeys, hkind, hi, hcolumns])
  | join kind left right on ihl ihr =>
    have hname : (Datum.text kind.name).Portable := .text (by cases kind <;> decide)
    obtain ⟨hnlr, hnon⟩ := allPrintable_append.mp hnames
    obtain ⟨hnl, hnr⟩ := allPrintable_append.mp hnlr
    obtain ⟨htl, htron⟩ := allPrintable_append.mp (texts_join .. ▸ htexts)
    obtain ⟨htr, hton⟩ := allPrintable_append.mp htron
    obtain ⟨hfl, hfr, hfon⟩ := (isFinite_join kind left right on).mp hfinite
    have hl := ihl hnl htl hfl
    have hr := ihr hnr htr hfr
    have hon := Condition.portable_toDatum hnon hton hfon
    exact Datum.PortableFields.record (by simp [Datum.documentKeys, hkind, hname, hl, hr, hon])

/-- Hints with printable strings are portable. -/
theorem Options.portable_toDatum {o : Options} (h : AllPrintable o.strings) :
    o.toDatum.Portable := by
  obtain ⟨timeBlock, route⟩ := o
  obtain ⟨htime, hlane⟩ := allPrintable_append.mp h
  rw [allPrintable_toList] at htime hlane
  have hblock : ∀ value ∈ timeBlock, (timeBlockDatum value).Portable := by
    intro value hvalue
    have htext : (Datum.text value).Portable := .text (htime value hvalue)
    exact Datum.PortableFields.record (by simp [Datum.documentKeys, htext])
  have hroute : ∀ r ∈ route, r.toDatum.Portable := by
    intro r hr
    have hname : (Datum.text r.target.name).Portable := .text (by cases r.target <;> decide)
    have hlanes := Datum.portableFields_optionalText (k := "lane") (s := r.lane) (by decide)
      fun t ht => hlane t (by simp_all)
    refine Datum.PortableFields.record (Datum.portableFields_append.mpr ⟨?_, hlanes⟩)
    simp [Datum.documentKeys, hname]
  refine Datum.PortableFields.record ?_
  simp only [Datum.portableFields_append, Datum.portableFields_optionalField]
  constructor
  · simpa [Datum.documentKeys] using hblock
  · simpa [Datum.documentKeys] using hroute

/-- **The canonical document of a request says the same in YAML**, if its strings are printable and
its doubles are finite. -/
theorem Request.portable_toDatum {r : Request} (hstrings : AllPrintable r.strings)
    (hfinite : r.expression.IsFinite) : r.toDatum.Portable := by
  obtain ⟨hexpression, hoptions⟩ := allPrintable_append.mp hstrings
  obtain ⟨hnames, htexts⟩ := allPrintable_append.mp hexpression
  have he := Expression.portable_toDatum hnames htexts hfinite
  have ho := Options.portable_toDatum hoptions
  exact Datum.PortableFields.record (by simp [Datum.documentKeys, he, ho])

/-! ## What canonical documents say -/

/-- Once the kind is found, entries under other keys do not matter. -/
lemma Tag.search_fieldContents {α : Type} (tags : List (String × α)) (a : α)
    {data : List (String × Datum)} (hnames : ∀ f ∈ data, f.1 ≠ "kind") :
    search tags (some a) (Datum.fieldContents data) = .ok a := by
  induction data with
  | nil => rfl
  | cons f fs ih =>
    obtain ⟨k, d⟩ := f
    obtain ⟨hk, hfs⟩ := List.forall_mem_cons.mp hnames
    rw [Datum.fieldContents, search]
    · exact ih hfs
    · intro c h
      exact hk (Content.text.inj (Prod.mk.inj h).1)

namespace NodeReader

variable {κ σ α : Type} {r : NodeReader κ σ α} {kind : κ}

/-- The fields of a document, in order and under their proper names, are kept one after the
other. -/
lemma ofPayload_fields {data : List (String × Datum)}
    (fillings : List (Filling σ (FieldContent α) Mismatch))
    (hfields : (fillings.map Filling.field).Sublist (r.record kind).fields)
    (h : List.Forall₂ Filling.GivenBy (data.map fun f => (f.1, r.fieldContent f.2.content))
      fillings) :
    r.ofPayload kind (.entries (Datum.fieldContents data)) =
      r.finish kind .missingField (Filling.keepAll (r.record kind).start fillings) := by
  have hentries (s : σ) : r.readEntries kind s (Datum.fieldContents data) =
      (data.map fun f => (f.1, r.fieldContent f.2.content)).foldlM
        (fun s m => r.put kind s m.1 m.2) s := by
    clear h
    induction data generalizing s with
    | nil => rfl
    | cons f fs ih =>
      rw [Datum.fieldContents, readEntries_text, List.map_cons, List.foldlM_cons]
      exact congrArg _ (funext ih)
  have hrun : _ = Except.ok _ := RecordReader.foldlM_put_eq id (fun _ => .ok ()) hfields h
  rw [ofPayload, hentries]
  exact congrArg (· >>= r.finish kind .missingField) hrun

/-- A tagged record is read by its kind and its other fields. -/
lemma ofContent_record {name : String} (htag : Tag.ofName r.tags name = .ok kind)
    (hput : ∀ s c, r.put kind s "kind" (r.fieldContent c) = .ok s) {data : List (String × Datum)}
    (hnames : ∀ f ∈ data, f.1 ≠ "kind") :
    r.ofContent (Datum.record (("kind", .text name) :: data)).content =
      r.ofPayload kind (.entries (Datum.fieldContents data)) := by
  have hkind : Tag.inRecord r.tags ((.text "kind", .text name) :: Datum.fieldContents data) =
      .ok kind := by
    rw [Tag.inRecord, Tag.search, Tag.ofContent, htag]
    exact Tag.search_fieldContents r.tags kind hnames
  rw [Datum.content, Datum.fieldContents, ofContent_map, Datum.content, hkind]
  simp [ofPayload, readEntries_text, hput, bind, Except.bind]

end NodeReader

/-- A value is read back from the content of its document. -/
theorem Value.ofContent_content (v : Value) : ofContent v.toDatum.content = .ok v := by
  cases v with
  | int i =>
    rw [toDatum, Datum.content]
    split
    · rw [ofContent, show -(i.toInt.natAbs : Int) = i.toInt by omega, Sql.ofInt_toInt]
    · rw [ofContent, show (i.toInt.natAbs : Int) = i.toInt by omega, Sql.ofInt_toInt]
  | null | bool _ | float _ | text _ => rfl

/-- The fields of a condition, as its document has them behind the kind, make the condition. -/
lemma Condition.ofPayload_fields {c : Condition} {data : List (String × Datum)}
    (h : c.toDatum = .record (("kind", .text c.kind) :: data))
    (hparts : ∀ p ∈ c.parts, ofContent p.toDatum.content = .ok p) :
    reader.ofPayload c.node (.entries (Datum.fieldContents data)) = .ok c := by
  cases c with
  | compare op column value =>
    obtain rfl := (List.cons.inj (Datum.record.inj h)).2
    exact NodeReader.ofPayload_fields (fillings (.compare op column value)) (.refl _)
      (.cons ⟨rfl, rfl⟩ (.cons ⟨rfl, value.ofContent_content⟩ .nil))
  | connect op left right =>
    obtain rfl := (List.cons.inj (Datum.record.inj h)).2
    exact NodeReader.ofPayload_fields (fillings (.connect op left right)) (.refl _)
      (.cons ⟨rfl, hparts left (by simp [parts])⟩
        (.cons ⟨rfl, hparts right (by simp [parts])⟩ .nil))

/-- What the canonical document of a condition says is the condition. -/
theorem Condition.ofContent_content (c : Condition) : ofContent c.toDatum.content = .ok c := by
  have hread {c : Condition} (hparts : ∀ p ∈ c.parts, ofContent p.toDatum.content = .ok p) :
      ofContent c.toDatum.content = .ok c := by
    obtain ⟨data, heq, hnames⟩ := c.exists_toDatum_eq
    have hput (s : Draft) (x : Content) :
        reader.put c.node s "kind" (reader.fieldContent x) = .ok s := by
      cases c <;> rfl
    rw [ofContent, heq, NodeReader.ofContent_record c.ofName_kind hput hnames]
    exact ofPayload_fields heq hparts
  induction c with
  | compare op column value => exact hread (by simp [parts])
  | connect op left right ihl ihr => exact hread (by simp [parts, ihl, ihr])

/-- Texts are read back from the content of their list. -/
lemma asTexts_content (columns : List String) :
    (Datum.list (columns.map Datum.text)).content.asTexts = .ok columns := by
  rw [Datum.content, Content.asTexts]
  induction columns with
  | nil => rfl
  | cons s ss ih =>
    rw [List.map_cons, Datum.itemContents, List.mapM_cons, ih]
    rfl

/-- The fields of an expression, as its document has them behind the kind, make the expression. -/
lemma Expression.ofPayload_fields {e : Expression} {data : List (String × Datum)}
    (h : e.toDatum = .record (("kind", .text e.kind) :: data))
    (hparts : ∀ p ∈ e.parts, ofContent p.toDatum.content = .ok p) :
    reader.ofPayload e.node (.entries (Datum.fieldContents data)) = .ok e := by
  cases e with
  | table t =>
    obtain ⟨name, asName⟩ := t
    obtain rfl := (List.cons.inj (Datum.record.inj h)).2
    cases asName with
    | none =>
      exact NodeReader.ofPayload_fields [⟨nameField, name⟩]
        (.cons_cons _ (.cons _ .slnil)) (.cons ⟨rfl, rfl⟩ .nil)
    | some asName =>
      exact NodeReader.ofPayload_fields (fillings (.table ⟨name, asName⟩)) (.refl _)
        (.cons ⟨rfl, rfl⟩ (.cons ⟨rfl, rfl⟩ .nil))
  | selection input predicate =>
    obtain rfl := (List.cons.inj (Datum.record.inj h)).2
    exact NodeReader.ofPayload_fields (fillings (.selection input predicate)) (.refl _)
      (.cons ⟨rfl, hparts input (by simp [parts])⟩
        (.cons ⟨rfl, predicate.ofContent_content⟩ .nil))
  | projection input columns =>
    obtain rfl := (List.cons.inj (Datum.record.inj h)).2
    exact NodeReader.ofPayload_fields (fillings (.projection input columns)) (.refl _)
      (.cons ⟨rfl, hparts input (by simp [parts])⟩ (.cons ⟨rfl, asTexts_content columns⟩ .nil))
  | join kind left right on =>
    obtain rfl := (List.cons.inj (Datum.record.inj h)).2
    have hkind : JoinKind.ofContent (Datum.text kind.name).content = .ok kind := by
      cases kind <;> rfl
    exact NodeReader.ofPayload_fields (fillings (.join kind left right on)) (.refl _)
      (.cons ⟨rfl, hparts left (by simp [parts])⟩ (.cons ⟨rfl, hparts right (by simp [parts])⟩
        (.cons ⟨rfl, on.ofContent_content⟩ (.cons ⟨rfl, hkind⟩ .nil))))

/-- **What the canonical document of an expression says** is the expression. -/
theorem Expression.ofContent_content (e : Expression) : ofContent e.toDatum.content = .ok e := by
  have hread {e : Expression} (hparts : ∀ p ∈ e.parts, ofContent p.toDatum.content = .ok p) :
      ofContent e.toDatum.content = .ok e := by
    obtain ⟨data, heq, hnames⟩ := e.exists_toDatum_eq
    have hput (s : Draft) (x : Content) :
        reader.put e.node s "kind" (reader.fieldContent x) = .ok s := by
      cases e <;> rfl
    rw [ofContent, heq, NodeReader.ofContent_record e.ofName_kind hput hnames]
    exact ofPayload_fields heq hparts
  induction e with
  | table t => exact hread (by simp [parts])
  | selection input predicate ih => exact hread (by simp [parts, ih])
  | projection input columns ih => exact hread (by simp [parts, ih])
  | join kind left right on ihl ihr => exact hread (by simp [parts, ihl, ihr])

/-! ## Canonical documents as YAML -/

/-- The nodes of fields, one by one. -/
lemma Datum.fieldNodes_eq_map (fields : List (String × Datum)) :
    fieldNodes fields = fields.map fun f => (.quoted f.1, f.2.node) := by
  induction fields with
  | nil => rfl
  | cons f fs ih => rw [fieldNodes, ih, List.map_cons]

/-- A partition in which the first item alone is chosen. -/
lemma partition_cons_of_forall {α : Type} {p : α → Bool} {a : α} (ha : p a = true) {as : List α}
    (has : ∀ b ∈ as, p b = false) : (a :: as).partition p = ([a], as) := by
  have hnone : as.filter p = [] := List.filter_eq_nil_iff.mpr fun b hb => by simp [has b hb]
  have hall : as.filter (not ∘ p) = as := List.filter_eq_self.mpr fun b hb => by simp [has b hb]
  rw [List.partition_eq_filter_filter, List.filter_cons_of_pos ha, hnone,
    List.filter_cons_of_neg (by simp [ha]), hall]

/-- The kind and the fields of a canonical document. -/
lemma Tag.ofNode_record {α : Type} {tags : List (String × α)} {a : α} {name : String}
    (htag : ofName tags name = .ok a) {data : List (String × Datum)}
    (hnames : ∀ f ∈ data, f.1 ≠ "kind")
    (hportable : (Datum.record (("kind", .text name) :: data)).Portable) {room : Nat}
    (hdepth : (Datum.record (("kind", .text name) :: data)).depth ≤ room) (expected : String) :
    ofNode tags expected room (Datum.record (("kind", .text name) :: data)).node =
      .ok (a, .entries (Datum.fieldContents data)) := by
  simp only [Datum.depth, Datum.fieldsDepth] at hdepth
  obtain ⟨room, rfl⟩ : ∃ n, room = n + 1 := ⟨room - 1, by omega⟩
  have hothers : ∀ e ∈ Datum.fieldNodes data, e.1.key? ≠ some "kind" := by
    rw [Datum.fieldNodes_eq_map]
    intro e he
    obtain ⟨f, hf, rfl⟩ := List.mem_map.mp he
    exact fun hkind => hnames f hf (Option.some.inj hkind)
  have hcontents : Yaml.Node.entryContents room (Datum.fieldNodes data) =
      .ok (Datum.fieldContents data) := by
    cases hportable with
    | record _ hfields =>
      refine Datum.entryContents_fieldNodes fun f hf => ?_
      have hf' := Datum.depth_le_of_mem_fields (n := room) (by omega) f hf
      exact (hfields f (List.mem_cons_of_mem _ hf)).content_node hf'
  have hkind : ofScalar tags (Datum.text name).node = .ok a := by
    change Yaml.ofMismatch (ofName tags name) = _
    rw [htag]
    rfl
  have hpart : List.partition (fun e => e.1.key? == some "kind")
      ((Yaml.Node.quoted "kind", (Datum.text name).node) :: Datum.fieldNodes data) =
        ([(.quoted "kind", (Datum.text name).node)], Datum.fieldNodes data) :=
    partition_cons_of_forall rfl fun e he => beq_eq_false_iff_ne.mpr (hothers e he)
  have hbare : (Datum.record (("kind", .text name) :: data)).node.bare =
      .map ((.quoted "kind", (Datum.text name).node) :: Datum.fieldNodes data) := rfl
  have hprivate : (Datum.record (("kind", .text name) :: data)).node.isPrivate = false := rfl
  unfold ofNode
  rw [hprivate, if_neg Bool.false_ne_true, hbare]
  dsimp only
  rw [hpart]
  simp [hkind, hcontents, Yaml.ofFault, bind, Except.bind, pure, Except.pure]

/-- The canonical document of an expression is read as the expression. -/
lemma Expression.ofNode_node {e : Expression} (hportable : e.toDatum.Portable) {room : Nat}
    (hdepth : e.toDatum.depth ≤ room) (budget : Nat) :
    ofNode budget room e.toDatum.node = .ok e := by
  have hreferences : e.toDatum.node.checkReferences budget = .ok () := by
    rw [Yaml.Node.checkReferences, Datum.spend_node]
  obtain ⟨data, heq, hnames⟩ := e.exists_toDatum_eq
  have hpayload := ofPayload_fields heq fun p _ => p.ofContent_content
  rw [heq] at hportable hdepth hreferences ⊢
  rw [ofNode, hreferences, Tag.ofNode_record e.ofName_kind hnames hportable hdepth]
  simp [hpayload, Yaml.ofFault, Yaml.ofMismatch, bind, Except.bind]

/-- The members of a canonical record. -/
lemma Datum.members_node (shape : String) (fields : List (String × Datum)) :
    (record fields).node.members shape = .ok (fields.map fun f => (f.1, f.2.node)) := by
  simp only [node, Yaml.Node.members, Yaml.Node.bare]
  induction fields with
  | nil => rfl
  | cons f fs ih =>
    rw [fieldNodes, List.mapM_cons, ih]
    rfl

/-- A canonical record is not absent. -/
lemma Datum.optional_node {α : Type} {read : Yaml.Node → Except Yaml.Error α}
    {fields : List (String × Datum)} {a : α} (h : read (record fields).node = .ok a) :
    Yaml.Node.optional read (record fields).node = .ok (some a) := by
  have habsent : (record fields).node.isAbsent = .ok false := rfl
  rw [Yaml.Node.optional, habsent, h]
  rfl

/-- A time block is read back from its node. -/
lemma timeBlockOfNode_node (value : String) :
    timeBlockOfNode (timeBlockDatum value).node = .ok value := by
  rw [timeBlockOfNode, timeBlockDatum, Datum.members_node]
  rfl

/-- A route is read back from its node. -/
lemma Route.ofNode_node (r : Route) : ofNode r.toDatum.node = .ok r := by
  obtain ⟨target, lane⟩ := r
  rw [ofNode, toDatum, Datum.members_node]
  cases target <;> cases lane <;> rfl

/-- The canonical document of hints is read as the hints. -/
lemma Options.ofNode_node (o : Options) : ofNode o.toDatum.node = .ok o := by
  obtain ⟨timeBlock, route⟩ := o
  have hblock (value : String) : Yaml.Node.optional timeBlockOfNode (timeBlockDatum value).node =
      .ok (some value) := Datum.optional_node (timeBlockOfNode_node value)
  have hroute (r : Route) : Yaml.Node.optional Route.ofNode r.toDatum.node = .ok (some r) :=
    Datum.optional_node r.ofNode_node
  rw [ofNode, toDatum, Datum.members_node]
  cases timeBlock <;> cases route <;>
    simp [optionalField, Yaml.readField, Yaml.field, hblock, hroute, bind, Except.bind, pure,
      Except.pure, Functor.map, Except.map]

/-- The canonical document of a request is read as the request. -/
lemma Request.ofNode_node {r : Request} (hportable : r.toDatum.Portable)
    (hdepth : r.toDatum.depth ≤ yamlDepth) : ofNode r.toDatum.node = .ok r := by
  have hexpression (budget : Nat) :
      Expression.ofNode budget (yamlDepth - 1) r.expression.toDatum.node = .ok r.expression := by
    refine Expression.ofNode_node ?_ ?_ budget
    · cases hportable with
      | record _ hfields => exact hfields _ List.mem_cons_self
    · simp only [toDatum, Datum.depth, Datum.fieldsDepth] at hdepth
      omega
  rw [ofNode, toDatum, Datum.members_node]
  simp [Yaml.readField, Yaml.field, hexpression, r.options.ofNode_node, required, Yaml.ofMismatch,
    bind, Except.bind, pure, Except.pure, Functor.map, Except.map]

/-- **Canonical texts read as YAML** give back the request, if its strings are printable, its
doubles finite, and the text is not nested too deep. -/
theorem Request.ofYaml_canonical {r : Request} (hstrings : AllPrintable r.strings)
    (hfinite : r.expression.IsFinite) (hdepth : r.toDatum.depth ≤ yamlDepth) :
    ofYaml r.canonical = .ok r := by
  have hportable := portable_toDatum hstrings hfinite
  have hparse : Yaml.parse r.canonical = .ok r.toDatum.node := Yaml.parse_compact hportable
  rw [ofYaml, hparse]
  exact ofNode_node hportable hdepth

/-! ## Both notations -/

/-- The canonical text of a request is read as JSON, if its doubles are finite and read back. -/
lemma Request.ofJson_canonical {r : Request} (hfinite : r.expression.IsFinite)
    (hreadBack : ReadBack r.expression.values) (hdepth : r.toDatum.depth ≤ Json.depthLimit) :
    ofJson r.canonical = .ok r := by
  have hread : ofJson r.canonical = .ok r.settled :=
    (r.toDatum.spells_compact.read_eq _).trans (ofOutline_outline hreadBack hdepth)
  rw [hread, settled_eq_self hfinite]

/-- A path that ends in one of the two extensions is that of a YAML file. -/
lemma Path.isYaml_of_extension {path : String}
    (h : extension? path = some "yaml" ∨ extension? path = some "yml") : isYaml path = true := by
  unfold isYaml
  rcases h with h | h
  · rw [h]
    rfl
  · rw [h]
    rfl

/-- A command writes what the request is compiled to, whatever path the request was read from. -/
lemma CompileCommand.run_of_read {c : CompileCommand} {source : String} {r : Request}
    (h : Request.read c.input source = .ok r) (defaults : Options) (sql : String) :
    c.run defaults source = .ok sql ↔ c.text (c.resolve defaults r) = .ok sql := by
  rw [run, h]
  cases htext : c.text (c.resolve defaults r) <;> simp [htext]

/-- **Canonical requests are the same in both notations.** The canonical text of a request with
printable strings and finite doubles that is not nested too deep is read as that request from every
YAML file. If the doubles also read back in JSON, it is read as that request from every file, so
compiling it writes the same whatever the path.

**Proof sketch.** As YAML the text is one mapping in brackets, whose nodes say what the canonical
document says, and from that the request is read. As JSON it round-trips. -/
theorem Request.read_canonical (r : Request) (hstrings : AllPrintable r.strings)
    (hfinite : r.expression.IsFinite) (hdepth : r.toDatum.depth ≤ Json.depthLimit) :
    (∀ path, Path.extension? path = some "yaml" ∨ Path.extension? path = some "yml" →
      Request.read path r.canonical = .ok r) ∧
    (ReadBack r.expression.values →
      (∀ path, Request.read path r.canonical = .ok r) ∧
      ∀ (c : CompileCommand) (defaults : Options) (path sql : String),
        c.run defaults r.canonical = .ok sql ↔
          { c with input := path }.run defaults r.canonical = .ok sql) := by
  have hlimit : Json.depthLimit ≤ yamlDepth := by decide
  have hyaml := ofYaml_canonical hstrings hfinite (hdepth.trans hlimit)
  refine ⟨fun path hpath => ?_, fun hreadBack => ?_⟩
  · rw [read, if_pos (Path.isYaml_of_extension hpath), hyaml]
  · have hjson := ofJson_canonical hfinite hreadBack hdepth
    have hread (path : String) : Request.read path r.canonical = .ok r := by
      rw [read, hyaml, hjson]
      split <;> rfl
    refine ⟨hread, fun c defaults path sql => ?_⟩
    have hsame : CompileCommand.text { c with input := path }
        (CompileCommand.resolve { c with input := path } defaults r) =
          c.text (c.resolve defaults r) := by
      simp only [CompileCommand.text, CompileCommand.resolve, CompileCommand.options]
    rw [CompileCommand.run_of_read (hread c.input),
      CompileCommand.run_of_read (c := { c with input := path }) (hread path), hsame]

/-- A request whose strings look like something else in YAML. -/
def deceptiveRequest : Request where
  expression :=
    .selection
      (.projection (.table ⟨"null", some "~"⟩)
        ["# note", "&a", "*a", "key: value", "- item", "\"\\"])
      (.and (.and (.gt "1e3" (.float (.finite false oneAndAHalf))) (.eq "TRUE" (.text "0x1F")))
        (.lt "-.inf" (.int (-9223372036854775808))))
  options := ⟨some "!tag", some ⟨.gcs, some "[no, list]"⟩⟩

/-- A request whose strings look like something else in YAML is read from both kinds of files. -/
theorem deceptiveRequest_read :
    Request.read "query.yaml" deceptiveRequest.canonical = .ok deceptiveRequest ∧
      Request.read "query.json" deceptiveRequest.canonical = .ok deceptiveRequest ∧
      ∀ (defaults : Options) (sql : String),
        CompileCommand.run { input := "query.yml" } defaults deceptiveRequest.canonical = .ok sql ↔
          CompileCommand.run { input := "query.json" } defaults deceptiveRequest.canonical =
            .ok sql := by
  have hstrings : AllPrintable deceptiveRequest.strings := by decide
  have hvalues : deceptiveRequest.expression.values =
      [.float (.finite false oneAndAHalf), .text "0x1F", .int (-9223372036854775808)] := rfl
  have hfinite : deceptiveRequest.expression.IsFinite := by
    rw [Expression.IsFinite, hvalues]
    simp [Value.IsFinite, Double.isFinite]
  have hreadBack : ReadBack deceptiveRequest.expression.values := by
    intro x hx hx'
    rw [hvalues] at hx
    exact readBack_oneAndAHalf x (by simpa using hx) hx'
  obtain ⟨hyaml, hboth⟩ := Request.read_canonical deceptiveRequest hstrings hfinite (by decide)
  obtain ⟨hread, hrun⟩ := hboth hreadBack
  exact ⟨hyaml _ (.inl (by decide)), hread _, fun defaults sql => hrun _ defaults _ sql⟩

end HintedSql
