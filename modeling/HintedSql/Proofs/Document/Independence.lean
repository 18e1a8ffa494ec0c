import HintedSql.Proofs.Document.RoundTrip
set_option relaxedAutoImplicit false
set_option autoImplicit false

/-!
# The reader does not depend on the presentation

However a request is presented, the reader answers with the same request up to its doubles: with the
same nodes, names, hints and other literals, and in the place of each double the one that its number
is read as. That is the presented request itself exactly if no number is misread.

Numbers are misread, since the reader scales and does not round to nearest. The canonical text of a
request presents it, and one that holds `2e-30` is already read as a different request.

## Main definitions

* `HintedSql.Condition.EqUpTo`, `HintedSql.Expression.EqUpTo`, `HintedSql.Request.EqUpTo` — equal
  but for related doubles.
* `HintedSql.Double.ReadInstead` — a number that denotes one double is read as another.

## Main results

* `HintedSql.Expression.exists_presents` — a presentation is at the same time one of what is read.
* `HintedSql.Request.ofJson_of_presents` — every presentation of a request is read as that request,
  up to misread doubles.
* `HintedSql.tinyQuery_misread` — and not always as that request.
-/

namespace HintedSql

open Json (Outline)

/-! ## Requests up to doubles -/

section EqUpTo

variable (rel : Double → Double → Prop)

/-- Literals that are equal, or doubles that are related. -/
inductive Value.EqUpTo : Value → Value → Prop where
  | null : EqUpTo null null
  | bool (b : Bool) : EqUpTo (bool b) (bool b)
  | int (i : Int64) : EqUpTo (int i) (int i)
  | float {x y : Double} (h : rel x y) : EqUpTo (float x) (float y)
  | text (s : String) : EqUpTo (text s) (text s)

/-- Conditions that are equal but for related doubles. -/
inductive Condition.EqUpTo : Condition → Condition → Prop where
  | compare (op : Comparison) (column : String) {value value' : Value}
      (h : value.EqUpTo rel value') : EqUpTo (compare op column value) (compare op column value')
  | connect (op : Connective) {left left' right right' : Condition} (hleft : EqUpTo left left')
      (hright : EqUpTo right right') : EqUpTo (connect op left right) (connect op left' right')

/-- Expressions that are equal but for related doubles. -/
inductive Expression.EqUpTo : Expression → Expression → Prop where
  | table (t : Table) : EqUpTo (table t) (table t)
  | selection {input input' : Expression} {predicate predicate' : Condition}
      (hinput : EqUpTo input input') (hpredicate : predicate.EqUpTo rel predicate') :
    EqUpTo (selection input predicate) (selection input' predicate')
  | projection (columns : List String) {input input' : Expression} (hinput : EqUpTo input input') :
    EqUpTo (projection input columns) (projection input' columns)
  | join (kind : JoinKind) {left left' right right' : Expression} {on on' : Condition}
      (hleft : EqUpTo left left') (hright : EqUpTo right right') (hon : on.EqUpTo rel on') :
    EqUpTo (join kind left right on) (join kind left' right' on')

/-- Requests that are equal but for related doubles. -/
structure Request.EqUpTo (r r' : Request) : Prop where
  expression : r.expression.EqUpTo rel r'.expression
  options : r'.options = r.options

end EqUpTo

/-- A number that denotes one double is read as another. -/
def Double.ReadInstead (x y : Double) : Prop :=
  ∃ n : Json.Number, n.Denotes x ∧ n.ReadAs y

/-! ## Presentations of what is read -/

/-- A number with a fraction or an exponent that is in range is read as a double. -/
lemma Json.Number.exists_readAs {n : Json.Number} (h : n.isInteger = false) {c : Content}
    (hc : n.content = .ok c) : ∃ x, n.ReadAs x := by
  have hdouble : n.double = .ok c := by
    simpa [content, h] using hc
  rw [double] at hdouble
  cases hscaled : (Decimal.ofLeading n.negative n.whole (n.fraction.getD []) n.power).scaled with
  | none =>
    rw [hscaled] at hdouble
    cases hdouble
  | some x =>
    rw [hscaled] at hdouble
    obtain rfl := Except.ok.inj hdouble
    exact ⟨x, _, hc, rfl⟩

/-- What denotes a value is read as a value that differs in its doubles only. -/
theorem Value.exists_presents {v : Value} {o : Outline} (h : v.Presents Json.Number.Denotes o)
    (hwell : o.WellFormed) :
    ∃ v', v.EqUpTo Double.ReadInstead v' ∧ v'.Presents Json.Number.ReadAs o := by
  cases h with
  | null => exact ⟨_, .null, .null⟩
  | bool b => exact ⟨_, .bool b, .bool b⟩
  | int i => exact ⟨_, .int i, .int i⟩
  | @float n x hn =>
    cases hwell with
    | number hc =>
      obtain ⟨y, hy⟩ := Json.Number.exists_readAs hn.1 hc
      exact ⟨_, .float ⟨n, hn, hy⟩, .float hy⟩
  | text hq => exact ⟨_, .text _, .text hq⟩

/-- What denotes a condition is read as a condition that differs in its doubles only. -/
theorem Condition.exists_presents {c : Condition} {o : Outline}
    (h : c.Presents Json.Number.Denotes o) (hwell : o.WellFormed) :
    ∃ c', c.EqUpTo Double.ReadInstead c' ∧ c'.Presents Json.Number.ReadAs o := by
  induction c generalizing o with
  | compare op column value =>
    -- A value that is left out is null, and there is nothing to misread.
    obtain ⟨value', hvalue, h⟩ := Presented.exists_replace
      (fun v : Value => { name := "value", holds := v.Presents Json.Number.ReadAs,
                          omittable := v = .null })
      (fun _ hwell h => Value.exists_presents h hwell)
      (fun hnull : value = .null => ⟨.null, by rw [hnull]; exact .null, rfl⟩) [_, _] []
      (fun _ => rfl) hwell h
    exact ⟨_, .compare op column hvalue, h⟩
  | connect op left right ihl ihr =>
    obtain ⟨left', hleft, h⟩ := Presented.exists_replace
      (fun c : Condition => { name := "left", holds := c.Presents Json.Number.ReadAs })
      (fun _ hwell h => ihl h hwell) False.elim [_] [_] (fun _ => rfl) hwell h
    obtain ⟨right', hright, h⟩ := Presented.exists_replace
      (fun c : Condition => { name := "right", holds := c.Presents Json.Number.ReadAs })
      (fun _ hwell h => ihr h hwell) False.elim [_, _] [] (fun _ => rfl) hwell h
    exact ⟨_, .connect op hleft hright, h⟩

/-- **A presentation presents what is read**: an expression that is equal up to doubles, in the
sense in which the reader takes numbers. -/
theorem Expression.exists_presents {e : Expression} {o : Outline}
    (h : e.Presents Json.Number.Denotes o) (hwell : o.WellFormed) :
    ∃ e', e.EqUpTo Double.ReadInstead e' ∧ e'.Presents Json.Number.ReadAs o := by
  -- The fields that hold numbers somewhere are changed one after the other.
  induction e generalizing o with
  | table t => exact ⟨_, .table t, h⟩
  | selection input predicate ih =>
    obtain ⟨input', hinput, h⟩ := Presented.exists_replace
      (fun e : Expression => { name := "from", holds := e.Presents Json.Number.ReadAs })
      (fun _ hwell h => ih h hwell) False.elim [_] [_] (fun _ => rfl) hwell h
    obtain ⟨predicate', hpredicate, h⟩ := Presented.exists_replace
      (fun c : Condition => { name := "predicate", holds := c.Presents Json.Number.ReadAs })
      (fun _ hwell h => Condition.exists_presents h hwell) False.elim [_, _] [] (fun _ => rfl)
      hwell h
    exact ⟨_, .selection hinput hpredicate, h⟩
  | projection input columns ih =>
    obtain ⟨input', hinput, h⟩ := Presented.exists_replace
      (fun e : Expression => { name := "from", holds := e.Presents Json.Number.ReadAs })
      (fun _ hwell h => ih h hwell) False.elim [_] [_] (fun _ => rfl) hwell h
    exact ⟨_, .projection columns hinput, h⟩
  | join kind left right on ihl ihr =>
    obtain ⟨left', hleft, h⟩ := Presented.exists_replace
      (fun e : Expression => { name := "left", holds := e.Presents Json.Number.ReadAs })
      (fun _ hwell h => ihl h hwell) False.elim [_] [_, _, _] (fun _ => rfl) hwell h
    obtain ⟨right', hright, h⟩ := Presented.exists_replace
      (fun e : Expression => { name := "right", holds := e.Presents Json.Number.ReadAs })
      (fun _ hwell h => ihr h hwell) False.elim [_, _] [_, _] (fun _ => rfl) hwell h
    obtain ⟨on', hon, h⟩ := Presented.exists_replace
      (fun c : Condition => { name := "on", holds := c.Presents Json.Number.ReadAs })
      (fun _ hwell h => Condition.exists_presents h hwell) False.elim [_, _, _] [_] (fun _ => rfl)
      hwell h
    exact ⟨_, .join kind hleft hright hon, h⟩

/-- What denotes a request is read as a request that differs in its doubles only. -/
theorem Request.exists_presents {r : Request} {o : Outline}
    (h : r.Presents Json.Number.Denotes o) (hwell : o.WellFormed) :
    ∃ r', r.EqUpTo Double.ReadInstead r' ∧ r'.Presents Json.Number.ReadAs o := by
  obtain ⟨e, hexpression, h⟩ := Presented.exists_replace
    (fun e : Expression => { name := "expression", holds := e.Presents Json.Number.ReadAs })
    (fun _ hwell h => Expression.exists_presents h hwell) False.elim [] [_] (fun _ => rfl) hwell h
  exact ⟨⟨e, r.options⟩, ⟨hexpression, rfl⟩, h⟩

/-! ## Reading presentations -/

/-- **Every presentation of a request is read as that request, up to misread doubles.** Whatever the
order of its members, the members added or left out, the names chosen, the white space and the
escapes, a text that presents a request and is not nested too deep is read, with every double as its
number is read; and it is read as the request itself exactly if no number is misread.

**Proof sketch.** The text spells an outline, which also presents a request that is equal up to
doubles, in the sense in which the reader takes numbers. That one is read, so it is the presented
request just if the outline presents this one in the reader's sense. -/
theorem Request.ofJson_of_presents {r : Request} {s : String} {o : Outline}
    (hspells : Json.Spells s o) (hpresents : r.Presents Json.Number.Denotes o)
    (hwell : o.WellFormed) (hdepth : o.depth ≤ Json.depthLimit) :
    ∃ r', ofJson s = .ok r' ∧ r.EqUpTo Double.ReadInstead r' ∧
      (r' = r ↔ r.Presents Json.Number.ReadAs o) := by
  have hfits : o.Fits 0 := ⟨hwell, by omega⟩
  have hread : ofJson s = ofOutline o := hspells.read_eq _
  obtain ⟨r', hupTo, h⟩ := exists_presents hpresents hwell
  have hr' : ofOutline o = .ok r' := ofOutline_of_presents h hfits
  refine ⟨r', hread.trans hr', hupTo, fun heq => heq ▸ h, fun hr => ?_⟩
  rw [ofOutline_of_presents hr hfits] at hr'
  exact (Except.ok.inj hr').symm

/-- A written double is a number that denotes it. -/
lemma writtenAs_denotes (values : List Value) : WrittenAs Json.Number.Denotes values := by
  intro x _ n hn
  cases x with
  | finite negative m =>
    obtain rfl := Outline.number.inj hn
    refine ⟨Numeral.isInteger_number negative _, m, ?_, m.readsBack_number .even negative⟩
    rw [Numeral.negative_number]
  | infinite negative => cases hn
  | nan => cases hn

/-- A text of a record with given options and expression, with white space and an escape in a
name. -/
def spacedText (options expression : Datum) : String :=
  "\x7b " ++ Json.quote "options" ++ " :" ++ options.compact ++ ",\n\"\\u0065xpression\":" ++
    expression.compact ++ "\x7d"

/-- The text with white space spells the record of its two members. -/
lemma spells_spacedText (options expression : Datum) :
    Json.Spells (spacedText options expression)
      (Datum.record [("options", options), ("expression", expression)]).outline := by
  have hblank : Json.Blanks [' '] := by simp [Json.Blanks]
  have hnewline : Json.Blanks ['\n'] := by simp [Json.Blanks]
  have hopen : Json.Layout [.openRecord] ['\x7b'] := Json.layout_mark (by decide)
  have hclose : Json.Layout [.closeRecord] ['\x7d'] := Json.layout_mark (by decide)
  have hcolon : Json.Layout [.colon] [':'] := Json.layout_mark (by decide)
  have hcomma : Json.Layout [.comma] [','] := Json.layout_mark (by decide)
  have hescape : (Json.Glyph.char 'e').Spelling ['\\', 'u', '0', '0', '6', '5'] :=
    .unit (.digits ⟨by decide, .inl (by decide)⟩ ⟨by decide, .inl (by decide)⟩
      ⟨by decide, .inl (by decide)⟩ ⟨by decide, .inl (by decide)⟩)
  have hrest : "xpression".toList.flatMap Json.escape = "xpression".toList := by decide
  have hname := Json.GlyphsSpelling.cons hescape (Json.glyphsSpelling_escape "xpression".toList)
  rw [hrest] at hname
  have hoptions := ((Json.layout_quote "options").blanks hblank).append
    ((hcolon.blanks hblank).append options.layout_compact)
  have hexpression := ((Json.Lexeme.string hname).layout.blanks hnewline).append
    (hcolon.append expression.layout_compact)
  refine ⟨Datum.complete_outline _, ?_⟩
  simpa [spacedText, Datum.outline, Datum.fieldOutlines, Outline.tokens, Outline.memberTokens,
    Json.Quoted.ofText] using
    hopen.append (hoptions.append (hcomma.append (hexpression.append hclose)))

/-- A selection by position from a table with its members out of order and one more among them. -/
def listedSelection : Datum :=
  .list [.text "selection",
    .record [("name", .text "users"), ("note", .list [.int 1]), ("kind", .text "table")],
    .record [("value", .float (.finite false oneAndAHalf)), ("kind", .text "gt"),
      ("column", .text "ratio")]]

/-- Hints under a second name and by position, with null for no lane. -/
def listedHints : Datum :=
  .record [("timeBlock", .list [.text "Q1"]),
    ("route", .record [("lane", .null), ("target", .text "gcs")])]

/-- A request with these parts. -/
def listedRequest : Datum :=
  .record [("options", listedHints), ("expression", listedSelection)]

/-- What it presents. -/
def listedMeaning : Request where
  expression := .selection (.table ⟨"users", none⟩)
    (.gt "ratio" (.float (.finite false oneAndAHalf)))
  options := ⟨some "Q1", some ⟨.gcs, none⟩⟩

/-- The request as a list presents what it means. -/
lemma presents_listedRequest {stands : Json.Number → Double → Prop}
    (h : WrittenAs stands [.float (.finite false oneAndAHalf)]) :
    listedMeaning.Presents stands listedRequest.outline := by
  have hvalue : (Value.float (.finite false oneAndAHalf)).Presents stands
      (Datum.float (.finite false oneAndAHalf)).outline :=
    Value.presents_outline h
  have htable : (Expression.table ⟨"users", none⟩).Presents stands
      (Datum.record [("name", .text "users"), ("note", .list [.int 1]),
        ("kind", .text "table")]).outline := by
    refine .record (Datum.named_members _) ?_
    constructor <;> simp [Expression.fields, kindField, Field.text, Field.optionalText, Field.names,
        Datum.members, Datum.says_text, Expression.kind]
  have hpredicate : (Condition.gt "ratio" (.float (.finite false oneAndAHalf))).Presents
      stands (Datum.record [("value", .float (.finite false oneAndAHalf)),
        ("kind", .text "gt"), ("column", .text "ratio")]).outline := by
    refine .record (Datum.named_members _) ?_
    constructor <;> simp [Condition.gt, Condition.fields, kindField, Field.text, Field.names,
        Datum.members, Datum.says_text, Condition.kind, hvalue, Comparison.name]
  have hselection : listedMeaning.expression.Presents stands
      listedSelection.outline :=
    .list (.item (Datum.says_text "selection") (.item htable (.item hpredicate (.done (by simp)))))
  have hnull : Datum.null.outline = .null := rfl
  have hroute : Presented (Route.mk .gcs none).fields
      (Datum.record [("lane", .null), ("target", .text "gcs")]).outline := by
    refine .record (Datum.named_members _) ?_
    constructor <;> simp [Route.fields, Field.text, Field.optionalText, Field.names,
        Datum.members, Datum.says_text, presentsOption, hnull, Target.name]
  have hblock : Presented (timeBlockFields "Q1") (Datum.list [.text "Q1"]).outline :=
    .list (.item (Datum.says_text "Q1") (.done (by simp)))
  have hhints : listedMeaning.options.Presents listedHints.outline := by
    refine .record (Datum.named_members _) ?_
    constructor <;> simp [listedMeaning, Options.fields, Field.names,
        Datum.members, presentsOption, hblock, hroute]
  refine .record (Datum.named_members _) ?_
  constructor <;> simp [Request.fields, Field.names, Datum.members, hhints, hselection]

/-- The request as a list is well-formed. -/
lemma wellFormed_listedRequest : listedRequest.outline.WellFormed := by
  have hfloat : (Datum.float (.finite false oneAndAHalf)).outline.WellFormed :=
    readBack_oneAndAHalf.inRange _ List.mem_cons_self
  have hint : (Datum.int 1).outline.WellFormed :=
    Value.wellFormed_outline (v := .int 1) (by simp [InRange])
  have hselection : listedSelection.outline.WellFormed := by
    refine Datum.wellFormed_list ?_
    simp [Datum.wellFormed_text, Datum.wellFormed_record, Datum.wellFormed_list, hfloat, hint]
  have hhints : listedHints.outline.WellFormed := by
    refine Datum.wellFormed_record ?_
    have hnull : Datum.null.outline.WellFormed := .null
    simp [Datum.wellFormed_text, Datum.wellFormed_record, Datum.wellFormed_list, hnull]
  exact Datum.wellFormed_record (by simp [hhints, hselection])

/-- A request that is written as a list, with white space around its members, is read. -/
theorem listedRequest_read :
    Json.Spells (spacedText listedHints listedSelection) listedRequest.outline ∧
    listedMeaning.Presents Json.Number.Denotes listedRequest.outline ∧
    listedRequest.outline.WellFormed ∧ listedRequest.outline.depth ≤ Json.depthLimit ∧
    Request.ofJson (spacedText listedHints listedSelection) = .ok listedMeaning := by
  have hspells : Json.Spells (spacedText listedHints listedSelection) listedRequest.outline :=
    spells_spacedText listedHints listedSelection
  have hpresents := presents_listedRequest (writtenAs_denotes _)
  have hdepth : listedRequest.outline.depth ≤ Json.depthLimit := by
    rw [Datum.depth_outline]
    decide
  obtain ⟨r, hread, -, hexact⟩ :=
    Request.ofJson_of_presents hspells hpresents wellFormed_listedRequest hdepth
  rw [hexact.mpr (presents_listedRequest readBack_oneAndAHalf.writtenAs)] at hread
  exact ⟨hspells, hpresents, wellFormed_listedRequest, hdepth, hread⟩

/-- The double nearest to two times ten to the minus thirty. -/
def twoTiny : Magnitude :=
  ⟨4162531446833791648, by decide⟩

/-- The next double below. -/
def belowTwoTiny : Magnitude :=
  ⟨4162531446833791647, by decide⟩

/-- The double nearest to `2e-30` is written so. -/
lemma outline_twoTiny : (Double.finite false twoTiny).outline =
    .number ⟨false, ['2'], none, some (true, ['3', '0'])⟩ := by
  have hnumber : (twoTiny.numeral .even).number false =
      ⟨false, ['2'], none, some (true, ['3', '0'])⟩ := by
    decide +kernel
  rw [Double.outline, hnumber]

/-- The numeral `2e-30` is read as the double below the nearest one. -/
lemma readAs_twoTiny : (Json.Number.mk false ['2'] none (some (true, ['3', '0']))).ReadAs
    (.finite false belowTwoTiny) := by
  have hscaled : (Decimal.ofLeading false ['2'] [] (-30)).scaled =
      some (.finite false belowTwoTiny) := by
    decide +kernel
  exact ⟨_, congrArg Json.doubleContent hscaled, rfl⟩

/-- The rows with a given double. -/
def tinyQuery (m : Magnitude) : Request where
  expression := .selection (.table ⟨"t", none⟩) (.eq "x" (.float (.finite false m)))

/-- **A canonical text that is misread.** It presents the request, but the reader takes `2e-30` for
the double below the one that is nearest. -/
theorem tinyQuery_misread :
    (tinyQuery twoTiny).Presents Json.Number.Denotes (tinyQuery twoTiny).toDatum.outline ∧
    (tinyQuery twoTiny).toDatum.outline.WellFormed ∧
    Json.Spells (tinyQuery twoTiny).canonical (tinyQuery twoTiny).toDatum.outline ∧
    (tinyQuery twoTiny).toDatum.outline.depth ≤ Json.depthLimit ∧
    Request.ofJson (tinyQuery twoTiny).canonical = .ok (tinyQuery belowTwoTiny) ∧
    tinyQuery belowTwoTiny ≠ tinyQuery twoTiny := by
  have hinRange : InRange [.float (.finite false twoTiny)] := by
    intro x hx
    obtain rfl := Value.float.inj (List.mem_singleton.mp hx)
    obtain ⟨c, hc, -⟩ := readAs_twoTiny
    rw [outline_twoTiny]
    exact .number hc
  -- In the reader's sense the same outline presents the request with the double below.
  have hvalue : (Value.float (.finite false belowTwoTiny)).Presents Json.Number.ReadAs
      (Value.float (.finite false twoTiny)).toDatum.outline := by
    have hfloat : (Value.float (.finite false twoTiny)).toDatum.outline =
      .number ⟨false, ['2'], none, some (true, ['3', '0'])⟩ := outline_twoTiny
    rw [hfloat]
    exact .float readAs_twoTiny
  have hpredicate : (Condition.eq "x" (.float (.finite false belowTwoTiny))).Presents
      Json.Number.ReadAs (Condition.eq "x" (.float (.finite false twoTiny))).toDatum.outline :=
    Datum.presented_record (.given (Datum.says_text "eq") (.given (Datum.says_text "x")
      (.given hvalue .nil))) (Condition.distinct_fields _ _)
  have htable : (Expression.table ⟨"t", none⟩).Presents Json.Number.ReadAs
      (Expression.table ⟨"t", none⟩).toDatum.outline :=
    Expression.presents_outline (e := .table ⟨"t", none⟩) (by simp [WrittenAs, Expression.values])
  have hexpression : (tinyQuery belowTwoTiny).expression.Presents Json.Number.ReadAs
      (tinyQuery twoTiny).expression.toDatum.outline :=
    Datum.presented_record (.given (Datum.says_text "selection")
      (.given htable (.given hpredicate .nil))) (Expression.distinct_fields _ _)
  have hrequest : (tinyQuery belowTwoTiny).Presents Json.Number.ReadAs
      (tinyQuery twoTiny).toDatum.outline :=
    Datum.presented_record (.given hexpression (.given (Options.presents_outline _) .nil))
      (Request.distinct_fields _ _)
  have hwell := Request.wellFormed_outline (r := tinyQuery twoTiny) hinRange
  have hdepth : (tinyQuery twoTiny).toDatum.outline.depth ≤ Json.depthLimit := by
    rw [Datum.depth_outline]
    decide
  have hspells := (tinyQuery twoTiny).toDatum.spells_compact
  refine ⟨Request.presents_outline (r := tinyQuery twoTiny) (writtenAs_denotes _), hwell, hspells,
    hdepth, ?_, by decide⟩
  exact (hspells.read_eq _).trans (Request.ofOutline_of_presents hrequest ⟨hwell, by omega⟩)

end HintedSql
