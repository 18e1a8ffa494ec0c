import HintedSql.Proofs.Algebra.Literals
import HintedSql.Proofs.Document.Reading
import HintedSql.Proofs.Json.Written
set_option relaxedAutoImplicit false
set_option autoImplicit false

/-!
# Canonical texts read back

The canonical document of an expression presents the settled expression, so it is read back as that,
unless it is nested too deep. Then the first member that is too deep is refused, and since every
kind is judged before that and what comes before it has a content, the refusal is all the reader can
answer.

That a written double reads back as itself is an assumption about the doubles in question. It does
not hold of every double: `2e-30` is read as `1.9999999999999998e-30`.

## Main definitions

* `HintedSql.ReadBack` — the doubles among some literals read back.
* `HintedSql.RoundTrips` — how the canonical text of something is read.

## Main results

* `HintedSql.Expression.presents_outline`, `HintedSql.Request.presents_outline` — canonical
  documents present what is settled.
* `HintedSql.Expression.ofOutline_outline`, `HintedSql.Expression.ofOutline_of_deep` — the two ways
  in which a canonical document is read.
* `HintedSql.canonical_round_trip` — the round trip of expressions, conditions and requests.
-/

namespace HintedSql

open Json (Outline Quoted)

/-! ## Canonical documents -/

namespace Datum

/-- The members of a written record. -/
def members (fields : List (String × Datum)) : List (String × Outline) :=
  fields.map fun f => (f.1, f.2.outline)

/-- The members of a canonical record have the names of its fields. -/
lemma named_members (fields : List (String × Datum)) :
    Json.Named (fieldOutlines fields) (members fields) := by
  induction fields with
  | nil => exact .nil
  | cons f fs ih => exact .cons ⟨Quoted.says_ofText f.1, rfl⟩ ih

/-- A canonical text says the text. -/
lemma says_text (s : String) : (text s).outline.Says s :=
  ⟨.ofText s, rfl, Quoted.says_ofText s⟩

/-- A canonical record presents fields that its members give in order. -/
lemma presented_record {fields : List Field} {data : List (String × Datum)}
    (h : InOrder fields (members data)) (hdistinct : Distinct fields) :
    Presented fields (record data).outline :=
  .record (named_members data) (h.gives hdistinct)

/-- A canonical text is well-formed. -/
lemma wellFormed_text (s : String) : (text s).outline.WellFormed :=
  .string (Quoted.says_ofText s)

/-- A canonical record is well-formed if its members are. -/
lemma wellFormed_record {data : List (String × Datum)}
    (h : ∀ f ∈ data, f.2.outline.WellFormed) : (record data).outline.WellFormed := by
  refine .record (named_members data) fun p hp => ?_
  obtain ⟨f, hf, rfl⟩ := List.mem_map.mp hp
  exact h f hf

/-- A canonical list is well-formed if its items are. -/
lemma wellFormed_list {items : List Datum} (h : ∀ d ∈ items, d.outline.WellFormed) :
    (list items).outline.WellFormed := by
  rw [outline, itemOutlines_eq_map]
  refine .list fun v hv => ?_
  obtain ⟨d, hd, rfl⟩ := List.mem_map.mp hv
  exact h d hd

end Datum

/-- Every finite double among some literals is written as a number that stands for it. -/
def WrittenAs (stands : Json.Number → Double → Prop) (values : List Value) : Prop :=
  ∀ x, Value.float x ∈ values → ∀ n, x.outline = .number n → stands n x

section PresentsOutline

variable {stands : Json.Number → Double → Prop}

/-- A value is presented by its canonical document, as what it is settled to. -/
theorem Value.presents_outline {v : Value} (h : WrittenAs stands [v]) :
    v.settled.Presents stands v.toDatum.outline := by
  cases v with
  | null => exact .null
  | bool b => exact .bool b
  | int i => exact .int i
  | float x =>
    cases x with
    | finite negative m => exact .float (h _ List.mem_cons_self _ rfl)
    | infinite negative => exact .null
    | nan => exact .null
  | text s => exact .text (Quoted.says_ofText s)

/-- A condition is presented by its canonical document, as what it is settled to. -/
theorem Condition.presents_outline {c : Condition} (h : WrittenAs stands c.values) :
    c.settled.Presents stands c.toDatum.outline := by
  induction c with
  | compare op column value =>
    refine Datum.presented_record ?_ (distinct_fields stands _)
    exact .given (Datum.says_text op.name) (.given (Datum.says_text column)
      (.given (Value.presents_outline h) .nil))
  | connect op left right ihl ihr =>
    refine Datum.presented_record ?_ (distinct_fields stands _)
    exact .given (Datum.says_text op.name)
      (.given (ihl fun x hx => h x (List.mem_append_left _ hx))
        (.given (ihr fun x hx => h x (List.mem_append_right _ hx)) .nil))

/-- Texts are presented by their canonical list. -/
lemma presentsTexts_outline (texts : List String) :
    presentsTexts texts (Datum.list (texts.map .text)).outline := by
  refine ⟨_, rfl, ?_⟩
  induction texts with
  | nil => exact .nil
  | cons s ss ih => exact .cons (Datum.says_text s) ih

/-- A text that need not be given is given by its field, or by none. -/
lemma inOrder_optionalText (name : String) (s : Option String) :
    InOrder [.optionalText name s] (Datum.members (optionalField name (s.map .text))) := by
  cases s with
  | none => exact .omitted rfl .nil
  | some s => exact .given (Datum.says_text s) .nil

/-- **A canonical document presents the settled expression.** -/
theorem Expression.presents_outline {e : Expression} (h : WrittenAs stands e.values) :
    e.settled.Presents stands e.toDatum.outline := by
  induction e with
  | table t =>
    refine Datum.presented_record ?_ (distinct_fields stands _)
    exact .given (Datum.says_text "table") (.given (Datum.says_text t.name)
      (inOrder_optionalText "alias" t.asName))
  | selection input predicate ih =>
    refine Datum.presented_record ?_ (distinct_fields stands _)
    exact .given (Datum.says_text "selection")
      (.given (ih fun x hx => h x (List.mem_append_left _ hx))
        (.given (Condition.presents_outline fun x hx => h x (List.mem_append_right _ hx)) .nil))
  | projection input columns ih =>
    refine Datum.presented_record ?_ (distinct_fields stands _)
    exact .given (Datum.says_text "projection")
      (.given (ih h) (.given (presentsTexts_outline columns) .nil))
  | join kind left right on ihl ihr =>
    refine Datum.presented_record ?_ (distinct_fields stands _)
    exact .given (Datum.says_text "join")
      (.given (ihl fun x hx => h x (List.mem_append_left _ hx))
        (.given (ihr fun x hx => h x (List.mem_append_right _ (List.mem_append_left _ hx)))
          (.given (Condition.presents_outline
              fun x hx => h x (List.mem_append_right _ (List.mem_append_right _ hx)))
            (.given (Datum.says_text kind.name) .nil))))

/-- A route is presented by its canonical document. -/
theorem Route.presents_outline (r : Route) : Presented r.fields r.toDatum.outline := by
  refine Datum.presented_record ?_ r.distinct_fields
  exact .given (Datum.says_text r.target.name) (inOrder_optionalText "lane" r.lane)

/-- A time block is presented by its canonical document. -/
lemma timeBlock_presents_outline (value : String) :
    Presented (timeBlockFields value) (timeBlockDatum value).outline :=
  Datum.presented_record (.given (Datum.says_text value) .nil) (List.pairwise_singleton _ _)

/-- Hints are presented by their canonical document. -/
theorem Options.presents_outline (o : Options) : o.Presents o.toDatum.outline := by
  obtain ⟨timeBlock, route⟩ := o
  refine Datum.presented_record ?_ (Options.distinct_fields _)
  have hroute : InOrder (Options.fields ⟨timeBlock, route⟩).tail
      (Datum.members (optionalField "route" (route.map Route.toDatum))) := by
    cases route with
    | none => exact .omitted rfl .nil
    | some r => exact .given r.presents_outline .nil
  cases timeBlock with
  | none => exact .omitted rfl hroute
  | some value => exact .given (timeBlock_presents_outline value) hroute

/-- **A canonical document presents the settled request.** -/
theorem Request.presents_outline {r : Request} (h : WrittenAs stands r.expression.values) :
    r.settled.Presents stands r.toDatum.outline :=
  Datum.presented_record (.given (Expression.presents_outline h)
    (.given r.options.presents_outline .nil)) (distinct_fields stands _)

end PresentsOutline

/-! ## Canonical documents are well formed -/

/-- The doubles among some literals are written as numbers in range. -/
def InRange (values : List Value) : Prop :=
  ∀ x, Value.float x ∈ values → x.outline.WellFormed

/-- The canonical document of a value in range is well-formed. -/
lemma Value.wellFormed_outline {v : Value} (h : InRange [v]) : v.toDatum.outline.WellFormed := by
  cases v with
  | null => exact .null
  | bool b => exact .bool b
  | int i =>
    obtain ⟨c, hc, -⟩ := Json.Number.content_ofInt i
    exact .number hc
  | float x => exact h x List.mem_cons_self
  | text s => exact Datum.wellFormed_text s

/-- The canonical document of a condition in range is well-formed. -/
lemma Condition.wellFormed_outline {c : Condition} (h : InRange c.values) :
    c.toDatum.outline.WellFormed := by
  induction c with
  | compare op column value =>
    refine Datum.wellFormed_record ?_
    simpa [Datum.wellFormed_text] using Value.wellFormed_outline h
  | connect op left right ihl ihr =>
    refine Datum.wellFormed_record ?_
    have hl := ihl fun x hx => h x (List.mem_append_left _ hx)
    have hr := ihr fun x hx => h x (List.mem_append_right _ hx)
    simpa [Datum.wellFormed_text] using And.intro hl hr

/-- The field of a text that need not be given is well-formed. -/
lemma wellFormed_optionalField (name : String) (s : Option String) :
    ∀ f ∈ optionalField name (s.map .text), f.2.outline.WellFormed := by
  cases s <;> simp [optionalField, Datum.wellFormed_text]

/-- The canonical document of an expression in range is well-formed. -/
lemma Expression.wellFormed_outline {e : Expression} (h : InRange e.values) :
    e.toDatum.outline.WellFormed := by
  induction e with
  | table t =>
    refine Datum.wellFormed_record (List.forall_mem_append.mpr ⟨?_, wellFormed_optionalField _ _⟩)
    simp [Datum.wellFormed_text]
  | selection input predicate ih =>
    refine Datum.wellFormed_record ?_
    have hinput := ih fun x hx => h x (List.mem_append_left _ hx)
    have hpredicate :=
      Condition.wellFormed_outline fun x hx => h x (List.mem_append_right _ hx)
    simpa [Datum.wellFormed_text] using And.intro hinput hpredicate
  | projection input columns ih =>
    refine Datum.wellFormed_record ?_
    have hcolumns : (Datum.list (columns.map .text)).outline.WellFormed :=
      Datum.wellFormed_list (by simp [Datum.wellFormed_text])
    simpa [Datum.wellFormed_text] using And.intro (ih h) hcolumns
  | join kind left right on ihl ihr =>
    refine Datum.wellFormed_record ?_
    have hl := ihl fun x hx => h x (List.mem_append_left _ hx)
    have hr := ihr fun x hx => h x (List.mem_append_right _ (List.mem_append_left _ hx))
    have hon := Condition.wellFormed_outline
      fun x hx => h x (List.mem_append_right _ (List.mem_append_right _ hx))
    simpa [Datum.wellFormed_text] using And.intro hl (And.intro hr hon)

/-- The canonical document of hints is well-formed. -/
lemma Options.wellFormed_outline (o : Options) : o.toDatum.outline.WellFormed := by
  obtain ⟨timeBlock, route⟩ := o
  have hblock (value : String) : (timeBlockDatum value).outline.WellFormed :=
    Datum.wellFormed_record (by simp [Datum.wellFormed_text])
  have hroute (r : Route) : r.toDatum.outline.WellFormed := by
    refine Datum.wellFormed_record (List.forall_mem_append.mpr ⟨?_, wellFormed_optionalField _ _⟩)
    simp [Datum.wellFormed_text]
  refine Datum.wellFormed_record ?_
  cases timeBlock <;> cases route <;> simp [optionalField, hblock, hroute]

/-- The canonical document of a request in range is well-formed. -/
lemma Request.wellFormed_outline {r : Request} (h : InRange r.expression.values) :
    r.toDatum.outline.WellFormed := by
  refine Datum.wellFormed_record ?_
  simpa using And.intro (Expression.wellFormed_outline h) r.options.wellFormed_outline

/-! ## Reading back -/

/-- The finite doubles among some literals read back: the text of each is read as that double. -/
def ReadBack (values : List Value) : Prop :=
  ∀ x, Value.float x ∈ values → x.isFinite → Value.ofJson (Json.float x) = .ok (.float x)

/-- A written double is read through its outline. -/
lemma Value.ofJson_float (x : Double) : Value.ofJson (Json.float x) =
    (ReadError.ofFault (x.outline.content 0) >>= fun c =>
      ReadError.ofMismatch (Value.ofContent c)) :=
  (Datum.float x).spells_compact.read_eq _

/-- The reader takes the number of a double that reads back for that double. -/
lemma ReadBack.writtenAs {values : List Value} (h : ReadBack values) :
    WrittenAs Json.Number.ReadAs values := by
  intro x hx n hn
  have hfinite : x.isFinite := by
    cases x with
    | finite negative m => rfl
    | infinite negative => cases hn
    | nan => cases hn
  have hread := h x hx hfinite
  rw [Value.ofJson_float, hn, Outline.content] at hread
  obtain ⟨c, hc, hread⟩ := exists_of_bind_eq_ok hread
  exact ⟨c, ReadError.eq_ok_of_ofFault hc, ReadError.eq_ok_of_ofMismatch hread⟩

/-- Doubles that are read back are in range. -/
lemma ReadBack.inRange {values : List Value} (h : ReadBack values) : InRange values := by
  intro x hx
  cases x with
  | finite negative m =>
    obtain ⟨c, hc, -⟩ := h.writtenAs _ hx _ rfl
    exact .number hc
  | infinite negative => exact .null
  | nan => exact .null

/-- A well-formed canonical document fits where it is not nested too deep. -/
lemma Datum.fits_outline {d : Datum} (hwell : d.outline.WellFormed) {depth : Nat}
    (hdepth : depth + d.depth ≤ Json.depthLimit) : d.outline.Fits depth :=
  ⟨hwell, by rwa [d.depth_outline]⟩

/-- A canonical condition that is not nested too deep is read as the settled condition. -/
theorem Condition.ofOutline_outline {c : Condition} (h : ReadBack c.values) {depth : Nat}
    (hdepth : depth + c.toDatum.depth ≤ Json.depthLimit) :
    ofOutline depth c.toDatum.outline = .ok c.settled :=
  ofOutline_of_presents (presents_outline h.writtenAs)
    (Datum.fits_outline (wellFormed_outline h.inRange) hdepth)

/-- A canonical expression that is not nested too deep is read as the settled expression. -/
theorem Expression.ofOutline_outline {e : Expression} (h : ReadBack e.values) {depth : Nat}
    (hdepth : depth + e.toDatum.depth ≤ Json.depthLimit) :
    ofOutline depth e.toDatum.outline = .ok e.settled :=
  ofOutline_of_presents (presents_outline h.writtenAs)
    (Datum.fits_outline (wellFormed_outline h.inRange) hdepth)

/-- A canonical request that is not nested too deep is read as the settled request. -/
theorem Request.ofOutline_outline {r : Request} (h : ReadBack r.expression.values)
    (hdepth : r.toDatum.depth ≤ Json.depthLimit) :
    ofOutline r.toDatum.outline = .ok r.settled :=
  ofOutline_of_presents (presents_outline h.writtenAs)
    (Datum.fits_outline (wellFormed_outline h.inRange) (by omega))

/-! ## Documents that are nested too deep -/

/-- Among members one of which is too deep, all before it have a content or are misplaced. -/
lemma Tag.readMembers_of_deep {α : Type} {tags : List (String × α)} {a : α} {depth : Nat}
    (hdepth : depth ≤ Json.depthLimit) {data : List (String × Datum)}
    (hnames : ∀ f ∈ data, f.1 ≠ "kind")
    (hdeep : Json.depthLimit < depth + Datum.fieldsDepth data)
    (entries : List (Content × Content)) :
    readMembers tags depth (some a) entries (Datum.fieldOutlines data) =
      .error (.fault .misplaced) := by
  induction data generalizing entries with
  | nil =>
    rw [Datum.fieldsDepth] at hdeep
    omega
  | cons f fs ih =>
    obtain ⟨k, d⟩ := f
    have hk : k ≠ "kind" := hnames (k, d) List.mem_cons_self
    rw [Datum.fieldOutlines, readMembers, (Quoted.says_ofText k).text_eq]
    obtain ⟨c, hc⟩ | hc := d.complete_outline.settles depth
    · have hd := d.complete_outline.depth_le_of_content hdepth hc
      rw [d.depth_outline] at hd
      have hrest : Json.depthLimit < depth + Datum.fieldsDepth fs := by
        rw [Datum.fieldsDepth] at hdeep
        omega
      simpa [ReadError.ofFault, bind, Except.bind, hk, hc] using
        ih (fun g hg => hnames g (List.mem_cons_of_mem _ hg)) hrest _
    · simp [ReadError.ofFault, bind, Except.bind, hk, hc]

/-- A node that is nested too deep is refused. -/
theorem Tag.ofOutline_of_deep {α : Type} {tags : List (String × α)} {a : α} {name : String}
    (htag : ofName tags name = .ok a) {depth : Nat} {data : List (String × Datum)}
    (hnames : ∀ f ∈ data, f.1 ≠ "kind")
    (hdeep : Json.depthLimit < depth + (Datum.record (("kind", .text name) :: data)).depth)
    (expected : String) :
    ofOutline tags expected depth (Datum.record (("kind", .text name) :: data)).outline =
      .error (.fault .misplaced) := by
  rw [Datum.outline, ofOutline]
  split
  · rename_i hlt
    have hmembers : Json.depthLimit < depth + 1 + Datum.fieldsDepth data := by
      simp only [Datum.depth, Datum.fieldsDepth] at hdeep
      omega
    rw [Datum.fieldOutlines, readMembers, (Quoted.says_ofText "kind").text_eq]
    simp [ReadError.ofFault, bind, Except.bind, ofValue_of_says htag (Datum.says_text name),
      readMembers_of_deep hlt hnames hmembers]
  · rfl

/-- The canonical document of a condition is a record of its kind and other fields. -/
lemma Condition.exists_toDatum_eq (c : Condition) :
    ∃ data, c.toDatum = .record (("kind", .text c.kind) :: data) ∧ ∀ f ∈ data, f.1 ≠ "kind" := by
  cases c with
  | compare op column value => exact ⟨_, rfl, by simp⟩
  | connect op left right => exact ⟨_, rfl, by simp⟩

/-- The canonical document of an expression is a record of its kind and other fields. -/
lemma Expression.exists_toDatum_eq (e : Expression) :
    ∃ data, e.toDatum = .record (("kind", .text e.kind) :: data) ∧ ∀ f ∈ data, f.1 ≠ "kind" := by
  cases e with
  | table t =>
    refine ⟨_, rfl, ?_⟩
    cases t.asName <;> simp [optionalField]
  | selection input predicate => exact ⟨_, rfl, by simp⟩
  | projection input columns => exact ⟨_, rfl, by simp⟩
  | join kind left right on => exact ⟨_, rfl, by simp⟩

/-- A node in canonical form that is nested too deep is refused. -/
theorem NodeReader.ofOutline_of_deep {κ σ α : Type} {r : NodeReader κ σ α} {kind : κ}
    {name : String} (htag : Tag.ofName r.tags name = .ok kind) {depth : Nat}
    {data : List (String × Datum)} (hnames : ∀ f ∈ data, f.1 ≠ "kind")
    (hdeep : Json.depthLimit < depth + (Datum.record (("kind", .text name) :: data)).depth) :
    r.ofOutline depth (Datum.record (("kind", .text name) :: data)).outline =
      .error (.fault .misplaced) := by
  rw [ofOutline, Tag.ofOutline_of_deep htag hnames hdeep]
  rfl

/-- **A canonical condition that is nested too deep is refused.** -/
theorem Condition.ofOutline_of_deep {c : Condition} {depth : Nat}
    (hdeep : Json.depthLimit < depth + c.toDatum.depth) :
    ofOutline depth c.toDatum.outline = .error (.fault .misplaced) := by
  obtain ⟨data, heq, hnames⟩ := c.exists_toDatum_eq
  rw [heq] at hdeep ⊢
  exact NodeReader.ofOutline_of_deep c.ofName_kind hnames hdeep

/-- **A canonical expression that is nested too deep is refused.** -/
theorem Expression.ofOutline_of_deep {e : Expression} {depth : Nat}
    (hdeep : Json.depthLimit < depth + e.toDatum.depth) :
    ofOutline depth e.toDatum.outline = .error (.fault .misplaced) := by
  obtain ⟨data, heq, hnames⟩ := e.exists_toDatum_eq
  rw [heq] at hdeep ⊢
  exact NodeReader.ofOutline_of_deep e.ofName_kind hnames hdeep

/-- The canonical document of hints is nested twice at most. -/
lemma Options.depth_toDatum_le (o : Options) : o.toDatum.depth ≤ 2 := by
  obtain ⟨timeBlock, route⟩ := o
  cases timeBlock with
  | none =>
    cases route with
    | none => simp [toDatum, optionalField, Datum.depth, Datum.fieldsDepth]
    | some r =>
      cases h : r.lane <;>
        simp [toDatum, optionalField, Route.toDatum, h, Datum.depth, Datum.fieldsDepth]
  | some value =>
    cases route with
    | none => simp [toDatum, optionalField, timeBlockDatum, Datum.depth, Datum.fieldsDepth]
    | some r =>
      cases h : r.lane <;>
        simp [toDatum, optionalField, timeBlockDatum, Route.toDatum, h, Datum.depth,
          Datum.fieldsDepth]

/-- **A canonical request that is nested too deep is refused**: it is the expression that is, since
the options are not. -/
theorem Request.ofOutline_of_deep {r : Request} (hdeep : Json.depthLimit < r.toDatum.depth) :
    ofOutline r.toDatum.outline = .error (.fault .misplaced) := by
  have hoptions := r.options.depth_toDatum_le
  have hlimit : Json.depthLimit = 127 := rfl
  have hexpression : Json.depthLimit < 1 + r.expression.toDatum.depth := by
    simp only [toDatum, Datum.depth, Datum.fieldsDepth] at hdeep
    omega
  have hread := Expression.ofOutline_of_deep hexpression
  have hput : shape.put shape.start "expression" r.expression.toDatum.outline =
      .error (.fault .misplaced) := by
    rw [Shape.put, RecordReader.put_of_mem_names (f := expressionField) (by simp [shape])
      (by simp [FieldReader.names, expressionField])]
    exact FieldReader.put_of_read_eq_error rfl hread
  rw [toDatum, Datum.outline, Datum.fieldOutlines, ofOutline, Shape.read, Shape.readMembers,
    (Quoted.says_ofText "expression").text_eq]
  simp [ReadError.ofFault, hput, bind, Except.bind]

/-! ## The round trip -/

/-- How the canonical text of something is read: as something equal to it exactly if all doubles are
finite and the text is not nested too deep; if it is only nested too deep, it is refused as
misplaced text; and if only some double is not finite, it is read with null in the place of such
doubles. -/
structure RoundTrips {α : Type} (read : String → Except ReadError α) (same : α → α → Bool)
    (text : String) (depth : Nat) (finite : Prop) (a settled : α) : Prop where
  equal_iff : (∃ b, read text = .ok b ∧ same b a = true) ↔ finite ∧ depth ≤ Json.depthLimit
  refused : finite → Json.depthLimit < depth → read text = .error (.fault .misplaced)
  replaced : ¬ finite → depth ≤ Json.depthLimit → read text = .ok settled

/-- A round trip is settled by what is read where the text is not nested too deep, by its refusal
where it is, and by when the result equals what was written. -/
lemma RoundTrips.of_read {α : Type} {read : String → Except ReadError α} {same : α → α → Bool}
    {text : String} {depth : Nat} {finite : Prop} {a settled : α}
    (hread : depth ≤ Json.depthLimit → read text = .ok settled)
    (hdeep : Json.depthLimit < depth → read text = .error (.fault .misplaced))
    (hsame : same settled a = true ↔ finite) :
    RoundTrips read same text depth finite a settled := by
  refine ⟨⟨?_, ?_⟩, fun _ => hdeep, fun _ => hread⟩
  · rintro ⟨b, hb, heq⟩
    by_cases hdepth : depth ≤ Json.depthLimit
    · rw [hread hdepth] at hb
      obtain rfl := Except.ok.inj hb
      exact ⟨hsame.mp heq, hdepth⟩
    · rw [hdeep (Nat.lt_of_not_le hdepth)] at hb
      cases hb
  · rintro ⟨hfinite, hdepth⟩
    exact ⟨settled, hread hdepth, hsame.mpr hfinite⟩

/-- **The round trip of canonical texts**, for expressions, conditions and requests whose finite
doubles read back.

**Proof sketch.** The canonical text spells the outline of the canonical document. That outline
presents what is settled and is read as such, unless it is nested too deep, when it is refused. What
is settled equals the original exactly if all doubles are finite. -/
theorem canonical_round_trip :
    (∀ e : Expression, ReadBack e.values →
      RoundTrips Expression.ofJson Expression.same e.canonical e.toDatum.depth e.IsFinite e
        e.settled) ∧
    (∀ c : Condition, ReadBack c.values →
      RoundTrips Condition.ofJson Condition.same c.canonical c.toDatum.depth c.IsFinite c
        c.settled) ∧
    ∀ r : Request, ReadBack r.expression.values →
      RoundTrips Request.ofJson Request.same r.canonical r.toDatum.depth r.expression.IsFinite r
        r.settled := by
  refine ⟨fun e h => .of_read (fun hdepth => ?_) (fun hdeep => ?_) e.settled_same_iff,
    fun c h => .of_read (fun hdepth => ?_) (fun hdeep => ?_) c.settled_same_iff,
    fun r h => .of_read (fun hdepth => ?_) (fun hdeep => ?_) r.settled_same_iff⟩
  · exact (e.toDatum.spells_compact.read_eq _).trans
      (Expression.ofOutline_outline h (by omega))
  · exact (e.toDatum.spells_compact.read_eq _).trans
      (Expression.ofOutline_of_deep (by omega))
  · exact (c.toDatum.spells_compact.read_eq _).trans
      (Condition.ofOutline_outline h (by omega))
  · exact (c.toDatum.spells_compact.read_eq _).trans
      (Condition.ofOutline_of_deep (by omega))
  · exact (r.toDatum.spells_compact.read_eq _).trans (Request.ofOutline_outline h hdepth)
  · exact (r.toDatum.spells_compact.read_eq _).trans (Request.ofOutline_of_deep hdeep)

/-- The magnitude of one and a half. -/
def oneAndAHalf : Magnitude :=
  ⟨0x3FF8000000000000, by decide⟩

/-- One and a half is written as `1.5`. -/
lemma outline_oneAndAHalf :
    (Double.finite false oneAndAHalf).outline = .number ⟨false, ['1'], some ['5'], none⟩ := by
  have hnumber : (oneAndAHalf.numeral .even).number false = ⟨false, ['1'], some ['5'], none⟩ := by
    decide +kernel
  rw [Double.outline, hnumber]

/-- The numeral `1.5` is read as one and a half. -/
lemma content_oneAndAHalf :
    (Json.Number.mk false ['1'] (some ['5']) none).content =
      .ok (.float (.finite false oneAndAHalf)) := by
  have hscaled : (Decimal.ofLeading false ['1'] ['5'] 0).scaled =
      some (.finite false oneAndAHalf) := by
    decide +kernel
  exact congrArg Json.doubleContent hscaled

/-- One and a half is read back. -/
lemma readBack_oneAndAHalf : ReadBack [.float (.finite false oneAndAHalf)] := by
  intro x hx _
  obtain rfl := Value.float.inj (List.mem_singleton.mp hx)
  rw [Value.ofJson_float, outline_oneAndAHalf, Outline.content, content_oneAndAHalf]
  rfl

/-- Users with a ratio above one and a half and a limit below what is not a number. -/
def ratioQuery : Expression :=
  .selection (.table ⟨"users", none⟩)
    (.and (.gt "ratio" (.float (.finite false oneAndAHalf))) (.lt "limit" (.float .nan)))

/-- The literals of the query are read back. -/
lemma readBack_ratioQuery : ReadBack ratioQuery.values := by
  intro x hx hfinite
  have hvalues : ratioQuery.values = [.float (.finite false oneAndAHalf), .float .nan] := rfl
  rw [hvalues, List.mem_cons, List.mem_singleton] at hx
  rcases hx with hx | hx
  · exact readBack_oneAndAHalf x (by rw [hx]; exact List.mem_cons_self) hfinite
  · obtain rfl := Value.float.inj hx
    cases hfinite

/-- A query with a double in it, its condition and a request for it make the round trip. -/
theorem ratioQuery_round_trip :
    (ReadBack ratioQuery.values ∧
      RoundTrips Expression.ofJson Expression.same ratioQuery.canonical ratioQuery.toDatum.depth
        ratioQuery.IsFinite ratioQuery ratioQuery.settled) ∧
    (ReadBack [.float (.finite false oneAndAHalf)] ∧
      RoundTrips Condition.ofJson Condition.same
        (Condition.gt "ratio" (.float (.finite false oneAndAHalf))).canonical 1
        (Condition.gt "ratio" (.float (.finite false oneAndAHalf))).IsFinite
        (.gt "ratio" (.float (.finite false oneAndAHalf)))
        (.gt "ratio" (.float (.finite false oneAndAHalf)))) ∧
    RoundTrips Request.ofJson Request.same (Request.mk ratioQuery .empty).canonical 4
      ratioQuery.IsFinite ⟨ratioQuery, .empty⟩ ⟨ratioQuery.settled, .empty⟩ :=
  ⟨⟨readBack_ratioQuery, canonical_round_trip.1 _ readBack_ratioQuery⟩,
    ⟨readBack_oneAndAHalf, canonical_round_trip.2.1 _ readBack_oneAndAHalf⟩,
    canonical_round_trip.2.2 _ readBack_ratioQuery⟩

end HintedSql
