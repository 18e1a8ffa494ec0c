import HintedSql.Proofs.Document.Node
import HintedSql.Proofs.Document.Presentation
set_option relaxedAutoImplicit false
set_option autoImplicit false

/-!
# Presentations are read as what they present

A record or a node is read from all its presentations if each of its fields is. So for every record
and node it is said here what its fields are and that each of them is read from whatever presents
it; the order of the members, members that are not known and the choice between two names of a field
make no difference. Nodes inside other nodes are read from their content, the outermost one as its
text goes by; both come down to the same fields.

## Main definitions

* `HintedSql.Condition.fillings`, `HintedSql.Expression.fillings`, `HintedSql.Route.fillings`,
  `HintedSql.Options.fillings`, `HintedSql.Request.fillings` — the fields and their values.

## Main results

* `HintedSql.Condition.reads`, `HintedSql.Expression.reads`, `HintedSql.Route.reads`,
  `HintedSql.Options.reads`, `HintedSql.Request.reads` — each field is read from what presents it.
* `HintedSql.Condition.ofOutline_of_presents`, `HintedSql.Expression.ofOutline_of_presents`,
  `HintedSql.Request.ofOutline_of_presents` — presentations are read as what they present.
-/

namespace HintedSql

open Json (Outline)

/-! ## Leaves -/

/-- The content of a value that says a text is the text. -/
lemma Json.Outline.Says.asText_held {o : Outline} {s : String} (h : o.Says s) (depth : Nat) :
    (o.held depth).asText = .ok s := by
  rw [h.held_eq, Content.asText]

/-- The content of a value that presents a text, or null in its place. -/
lemma asOptionalText_held {s : Option String} {o : Outline}
    (h : presentsOption (fun s o => o.Says s) s o) (depth : Nat) :
    (o.held depth).asOptionalText = .ok s := by
  cases s with
  | none =>
    obtain rfl : o = .null := h
    rfl
  | some s =>
    rw [Outline.Says.held_eq h]
    rfl

/-- The content of a list that presents texts. -/
lemma asTexts_held {texts : List String} {o : Outline} (h : presentsTexts texts o) {depth : Nat}
    (hfits : o.Fits depth) : (o.held depth).asTexts = .ok texts := by
  obtain ⟨items, rfl, hitems⟩ := h
  obtain ⟨hlt, hmem⟩ := hfits.items
  rw [Outline.held_eq (Outline.content_list hlt fun v hv => (hmem v hv).exists_content),
    Content.asTexts]
  clear hfits hmem
  induction hitems with
  | nil => rfl
  | cons hv _ ih =>
    rw [List.map_cons, List.mapM_cons, hv.asText_held, ih]
    rfl

/-- An integer of 64 bits is read as itself. -/
lemma Json.Number.content_ofInt (i : Int64) :
    ∃ c, (Number.ofInt i.toInt).content = .ok c ∧ Value.ofContent c = .ok (.int i) := by
  have hlt := i.toInt_lt
  have hle := i.le_toInt
  have hinteger : (Number.ofInt i.toInt).isInteger = true := rfl
  have hwhole : Decimal.ofDigits (Number.ofInt i.toInt).whole = i.toInt.natAbs :=
    Decimal.ofDigits_digits _
  by_cases hneg : i.toInt < 0
  · have hsign : (Number.ofInt i.toInt).negative = true := decide_eq_true hneg
    have hnonzero : i.toInt ≠ 0 := by omega
    have hmin : i.toInt.natAbs ≤ 9223372036854775808 := by omega
    refine ⟨.negative i.toInt.natAbs, ?_, ?_⟩
    · simp [content, hinteger, hsign, hwhole, hnonzero, hmin]
    · rw [Value.ofContent, show -(i.toInt.natAbs : Int) = i.toInt by omega, Sql.ofInt_toInt]
  · have hsign : (Number.ofInt i.toInt).negative = false := decide_eq_false hneg
    have hsize : i.toInt.natAbs < UInt64.size := by
      rw [show UInt64.size = 2 ^ 64 by decide]
      omega
    refine ⟨.natural i.toInt.natAbs, ?_, ?_⟩
    · simp [content, hinteger, hsign, hwhole, hsize]
    · rw [Value.ofContent, show (i.toInt.natAbs : Int) = i.toInt by omega, Sql.ofInt_toInt]

/-- The content of a value that presents a literal is read as the literal. -/
lemma Value.ofContent_held {v : Value} {o : Outline} (h : v.Presents Json.Number.ReadAs o)
    (depth : Nat) : ofContent (o.held depth) = .ok v := by
  cases h with
  | null => rfl
  | bool b => rfl
  | int i =>
    obtain ⟨c, hc, hvalue⟩ := Json.Number.content_ofInt i
    rw [Outline.held_eq (c := c) (by rw [Outline.content, hc]), hvalue]
  | float hread =>
    obtain ⟨c, hc, hvalue⟩ := hread
    rw [Outline.held_eq (c := c) (by rw [Outline.content, hc]), hvalue]
  | text hs =>
    rw [Outline.Says.held_eq ⟨_, rfl, hs⟩, ofContent]

/-- The content of a value that says the name of a kind of join is read as that kind. -/
lemma JoinKind.ofContent_held {kind : JoinKind} {o : Outline} (h : o.Says kind.name)
    (depth : Nat) : ofContent (o.held depth) = .ok kind := by
  rw [h.held_eq, ofContent]
  cases kind <;> rfl

/-- A value that says the name of a target is read as the target. -/
lemma Target.ofOutline_of_says {target : Target} {o : Outline} (h : o.Says target.name) :
    ofOutline o = .ok target := by
  obtain ⟨q, rfl, hq⟩ := h
  rw [ofOutline, hq.text_eq]
  cases target <;> rfl

/-! ## Conditions -/

namespace Condition

/-- The node that a condition is. -/
def node : Condition → Kind
  | compare op _ _ => .compare op
  | connect op _ _ => .connect op

/-- The conditions that a condition is made of. -/
def parts : Condition → List Condition
  | compare _ _ _ => []
  | connect _ left right => [left, right]

/-- The fields of a condition and their values. -/
def fillings : Condition → List (Filling Draft (FieldContent Condition) Mismatch)
  | compare _ column value => [⟨columnField, column⟩, ⟨valueField, value⟩]
  | connect _ left right => [⟨leftField, left⟩, ⟨rightField, right⟩]

/-- The name of a kind tells the node. -/
lemma ofName_kind (c : Condition) : Tag.ofName tags c.kind = .ok c.node := by
  cases c with
  | compare op _ _ => cases op <;> rfl
  | connect op _ _ => cases op <;> rfl

/-- The kind of a condition is none of its fields. -/
lemma distinct_fields (stands : Json.Number → Double → Prop) (c : Condition) :
    Distinct (kindField c.kind :: c.fields stands) := by
  cases c <;> simp [Distinct, fields, kindField, Field.names, Field.text]

/-- A draft that holds the values of the fields, but for those that may be left out, makes the
condition. -/
lemma finish_of_settled {stands : Json.Number → Double → Prop} {c : Condition} {s : Draft}
    (h : List.Forall₂ (Filling.Settled s) (c.fields stands) c.fillings)
    (missing : String → Mismatch) : s.finish c.node missing = .ok c := by
  cases c with
  | compare op column value =>
    obtain ⟨hcolumn, hvalue⟩ : s.column = some column ∧
        (s.value = some value ∨ value = .null ∧ s.value = none) := by
      simpa [fields, fillings, Filling.Settled, Field.text, columnField, valueField] using h
    obtain hvalue | ⟨rfl, hvalue⟩ := hvalue <;>
      simp [Draft.finish, node, required, hcolumn, hvalue, bind, Except.bind, pure, Except.pure]
  | connect op left right =>
    obtain ⟨hleft, hright⟩ : s.left = some left ∧ s.right = some right := by
      simpa [fields, fillings, Filling.Settled, leftField, rightField] using h
    simp [Draft.finish, node, required, hleft, hright, bind, Except.bind, pure, Except.pure]

/-- **A condition is read field by field**, if its parts are read from their contents. -/
theorem reads {c : Condition} {depth : Nat}
    (hparts : ∀ p ∈ c.parts, ∀ v : Outline, p.Presents Json.Number.ReadAs v → v.Fits depth →
      ofContent (v.held depth) = .ok p) :
    reader.Reads c.node depth (c.fields Json.Number.ReadAs) c.fillings c where
  record := by
    cases c with
    | compare op column value =>
      exact ⟨rfl, .cons ⟨rfl, fun v h _ => h.asText_held depth⟩
        (.cons ⟨rfl, fun v h _ => Value.ofContent_held h depth⟩ .nil)⟩
    | connect op left right =>
      exact ⟨rfl, .cons ⟨rfl, hparts left (by simp [parts])⟩
        (.cons ⟨rfl, hparts right (by simp [parts])⟩ .nil)⟩
  finish missing s h := finish_of_settled h missing

/-- A condition inside another node is read from all its presentations. -/
lemma ofContent_of_presents (c : Condition) : ∀ (depth : Nat) (o : Outline),
    c.Presents Json.Number.ReadAs o → o.Fits depth → ofContent (o.held depth) = .ok c := by
  -- What has to be known of the parts is the same for comparisons, which have none.
  have hnode : ∀ c : Condition, (∀ p ∈ c.parts, ∀ (depth : Nat) (v : Outline),
      p.Presents Json.Number.ReadAs v → v.Fits depth → ofContent (v.held depth) = .ok p) →
      ∀ (depth : Nat) (o : Outline), c.Presents Json.Number.ReadAs o → o.Fits depth →
        ofContent (o.held depth) = .ok c := by
    intro c hparts depth o h hfits
    exact NodeReader.ofContent_of_tagged c.ofName_kind (reads fun p hp => hparts p hp _) h hfits
  induction c with
  | compare op column value => exact hnode _ (by simp [parts])
  | connect op left right ihl ihr =>
    refine hnode _ fun p hp => ?_
    simp only [parts, List.mem_cons, List.not_mem_nil, or_false] at hp
    rcases hp with rfl | rfl
    · exact ihl
    · exact ihr

/-- **A condition is read from all its presentations.** -/
theorem ofOutline_of_presents {c : Condition} {depth : Nat} {o : Outline}
    (h : c.Presents Json.Number.ReadAs o) (hfits : o.Fits depth) : ofOutline depth o = .ok c :=
  NodeReader.ofOutline_of_tagged c.ofName_kind (c.distinct_fields Json.Number.ReadAs)
    (reads fun p _ => ofContent_of_presents p _) h hfits

end Condition

/-! ## Expressions -/

namespace Expression

/-- The node that an expression is. -/
def node : Expression → Kind
  | table _ => .table
  | selection _ _ => .selection
  | projection _ _ => .projection
  | join _ _ _ _ => .join

/-- The expressions that an expression is made of. -/
def parts : Expression → List Expression
  | table _ => []
  | selection input _ => [input]
  | projection input _ => [input]
  | join _ left right _ => [left, right]

/-- The fields of an expression and their values. -/
def fillings : Expression → List (Filling Draft (FieldContent Expression) Mismatch)
  | table t => [⟨nameField, t.name⟩, ⟨asNameField, t.asName⟩]
  | selection input predicate => [⟨inputField, input⟩, ⟨predicateField, predicate⟩]
  | projection input columns => [⟨inputField, input⟩, ⟨columnsField, columns⟩]
  | join kind left right on =>
    [⟨leftField, left⟩, ⟨rightField, right⟩, ⟨onField, on⟩, ⟨joinKindField, kind⟩]

/-- The name of a kind tells the node. -/
lemma ofName_kind (e : Expression) : Tag.ofName tags e.kind = .ok e.node := by
  cases e <;> rfl

/-- The kind of an expression is none of its fields. -/
lemma distinct_fields (stands : Json.Number → Double → Prop) (e : Expression) :
    Distinct (kindField e.kind :: e.fields stands) := by
  cases e <;> simp [Distinct, fields, kindField, Field.names, Field.text, Field.optionalText]

/-- A draft that holds the values of the fields, but for those that may be left out, makes the
expression. -/
lemma finish_of_settled {stands : Json.Number → Double → Prop} {e : Expression} {s : Draft}
    (h : List.Forall₂ (Filling.Settled s) (e.fields stands) e.fillings)
    (missing : String → Mismatch) : s.finish e.node missing = .ok e := by
  cases e with
  | table t =>
    obtain ⟨name, asName⟩ := t
    obtain ⟨hname, hasName⟩ : s.name = some name ∧
        (s.asName = some asName ∨ asName = none ∧ s.asName = none) := by
      simpa [fields, fillings, Filling.Settled, Field.text, Field.optionalText, nameField,
        asNameField] using h
    obtain hasName | ⟨rfl, hasName⟩ := hasName <;>
      simp [Draft.finish, node, required, hname, hasName, bind, Except.bind, pure, Except.pure]
  | selection input predicate =>
    obtain ⟨hinput, hpredicate⟩ : s.input = some input ∧ s.predicate = some predicate := by
      simpa [fields, fillings, Filling.Settled, inputField, predicateField] using h
    simp [Draft.finish, node, required, hinput, hpredicate, bind, Except.bind, pure, Except.pure]
  | projection input columns =>
    obtain ⟨hinput, hcolumns⟩ : s.input = some input ∧
        (s.columns = some columns ∨ columns = [] ∧ s.columns = none) := by
      simpa [fields, fillings, Filling.Settled, inputField, columnsField] using h
    obtain hcolumns | ⟨rfl, hcolumns⟩ := hcolumns <;>
      simp [Draft.finish, node, required, hinput, hcolumns, bind, Except.bind, pure, Except.pure]
  | join kind left right on =>
    obtain ⟨hleft, hright, hon, hkind⟩ : s.left = some left ∧ s.right = some right ∧
        s.on = some on ∧ (s.joinKind = some kind ∨ kind = .inner ∧ s.joinKind = none) := by
      simpa [fields, fillings, Filling.Settled, leftField, rightField, onField, joinKindField]
        using h
    obtain hkind | ⟨rfl, hkind⟩ := hkind <;>
      simp [Draft.finish, node, required, hleft, hright, hon, hkind, bind, Except.bind, pure,
        Except.pure]

/-- **An expression is read field by field**, if its parts are read from their contents. -/
theorem reads {e : Expression} {depth : Nat}
    (hparts : ∀ p ∈ e.parts, ∀ v : Outline, p.Presents Json.Number.ReadAs v → v.Fits depth →
      ofContent (v.held depth) = .ok p) :
    reader.Reads e.node depth (e.fields Json.Number.ReadAs) e.fillings e where
  record := by
    cases e with
    | table t =>
      exact ⟨rfl, .cons ⟨rfl, fun v h _ => h.asText_held depth⟩
        (.cons ⟨rfl, fun v h _ => asOptionalText_held h depth⟩ .nil)⟩
    | selection input predicate =>
      exact ⟨rfl, .cons ⟨rfl, hparts input (by simp [parts])⟩
        (.cons ⟨rfl, predicate.ofContent_of_presents depth⟩ .nil)⟩
    | projection input columns =>
      exact ⟨rfl, .cons ⟨rfl, hparts input (by simp [parts])⟩
        (.cons ⟨rfl, fun v h hfits => asTexts_held h hfits⟩ .nil)⟩
    | join kind left right on =>
      exact ⟨rfl, .cons ⟨rfl, hparts left (by simp [parts])⟩
        (.cons ⟨rfl, hparts right (by simp [parts])⟩
          (.cons ⟨rfl, on.ofContent_of_presents depth⟩
            (.cons ⟨rfl, fun v h _ => JoinKind.ofContent_held h depth⟩ .nil)))⟩
  finish missing s h := finish_of_settled h missing

/-- An expression inside another one is read from all its presentations. -/
lemma ofContent_of_presents (e : Expression) : ∀ (depth : Nat) (o : Outline),
    e.Presents Json.Number.ReadAs o → o.Fits depth → ofContent (o.held depth) = .ok e := by
  have hnode : ∀ e : Expression, (∀ p ∈ e.parts, ∀ (depth : Nat) (v : Outline),
      p.Presents Json.Number.ReadAs v → v.Fits depth → ofContent (v.held depth) = .ok p) →
      ∀ (depth : Nat) (o : Outline), e.Presents Json.Number.ReadAs o → o.Fits depth →
        ofContent (o.held depth) = .ok e := by
    intro e hparts depth o h hfits
    exact NodeReader.ofContent_of_tagged e.ofName_kind (reads fun p hp => hparts p hp _) h hfits
  induction e with
  | table t => exact hnode _ (by simp [parts])
  | selection input predicate ih => exact hnode _ (by simpa [parts] using ih)
  | projection input columns ih => exact hnode _ (by simpa [parts] using ih)
  | join kind left right on ihl ihr =>
    refine hnode _ fun p hp => ?_
    simp only [parts, List.mem_cons, List.not_mem_nil, or_false] at hp
    rcases hp with rfl | rfl
    · exact ihl
    · exact ihr

/-- **An expression is read from all its presentations.** -/
theorem ofOutline_of_presents {e : Expression} {depth : Nat} {o : Outline}
    (h : e.Presents Json.Number.ReadAs o) (hfits : o.Fits depth) : ofOutline depth o = .ok e :=
  NodeReader.ofOutline_of_tagged e.ofName_kind (e.distinct_fields Json.Number.ReadAs)
    (reads fun p _ => ofContent_of_presents p _) h hfits

end Expression

/-! ## Hints and requests -/

/-- A value that presents something which need not be given is read as what it presents. -/
lemma optional_of_presentsOption {α : Type} {presents : α → Outline → Prop}
    {read : Outline → Except ReadError α} {a : Option α} {o : Outline}
    (h : presentsOption presents a o) (hnull : ∀ a, ¬ presents a .null)
    (hread : ∀ a, presents a o → read o = .ok a) : optional read o = .ok a := by
  cases a with
  | none =>
    obtain rfl : o = .null := h
    rfl
  | some a =>
    have hne : o ≠ .null := by
      rintro rfl
      exact hnull a h
    rw [optional, hread a h]
    · rfl
    · exact hne

/-- Null presents no record. -/
lemma not_presented_null (fields : List Field) : ¬ Presented fields .null :=
  fun h => nomatch h

/-- **A time block is read field by field.** -/
theorem timeBlock_reads (value : String) (depth : Nat) :
    timeBlockShape.toRecordReader.Reads depth id (timeBlockFields value)
      [⟨timeBlockField, value⟩] :=
  ⟨rfl, .cons ⟨rfl, fun _ h _ => Outline.Says.text_eq h⟩ .nil⟩

/-- A time block is read from all its presentations. -/
lemma timeBlockOfOutline_of_presented {value : String} {depth : Nat} {o : Outline}
    (h : Presented (timeBlockFields value) o) (hfits : o.Fits depth) :
    timeBlockOfOutline o = .ok value := by
  refine Shape.read_of_presented (timeBlock_reads value _) (fun missing s hs => ?_) h hfits
  have hvalue : s = some value := by
    simpa [timeBlockFields, Filling.Settled, Field.text, timeBlockField] using hs
  simp [timeBlockShape, required, hvalue]

namespace Route

/-- The fields of a route and their values. -/
def fillings (r : Route) : List (Filling Draft Outline ReadError) :=
  [⟨targetField, r.target⟩, ⟨laneField, r.lane⟩]

/-- **A route is read field by field.** -/
theorem reads (r : Route) (depth : Nat) :
    shape.toRecordReader.Reads depth id r.fields r.fillings := by
  refine ⟨rfl, .cons ⟨rfl, fun v h _ => Target.ofOutline_of_says h⟩
    (.cons ⟨rfl, fun v h _ => ?_⟩ .nil)⟩
  refine optional_of_presentsOption h (fun s hs => ?_) fun s hs => hs.text_eq
  obtain ⟨q, hq, -⟩ := hs
  cases hq

/-- The fields of a route share no name. -/
lemma distinct_fields (r : Route) : Distinct r.fields :=
  (r.reads 0).distinct

/-- A route is read from all its presentations. -/
lemma ofOutline_of_presented {r : Route} {depth : Nat} {o : Outline}
    (h : Presented r.fields o) (hfits : o.Fits depth) : ofOutline o = .ok r := by
  refine Shape.read_of_presented (r.reads _) (fun missing s hs => ?_) h hfits
  obtain ⟨target, lane⟩ := r
  obtain ⟨htarget, hlane⟩ : s.target = some target ∧
      (s.lane = some lane ∨ lane = none ∧ s.lane = none) := by
    simpa [fields, fillings, Filling.Settled, Field.text, Field.optionalText, targetField,
      laneField] using hs
  obtain hlane | ⟨rfl, hlane⟩ := hlane <;>
    simp [shape, required, htarget, hlane, bind, Except.bind, pure, Except.pure]

end Route

namespace Options

/-- The fields of hint options and their values. -/
def fillings (o : Options) : List (Filling Draft Outline ReadError) :=
  [⟨timeBlockField, o.timeBlock⟩, ⟨routeField, o.route⟩]

/-- **Hint options are read field by field.** -/
theorem reads (o : Options) (depth : Nat) :
    shape.toRecordReader.Reads depth id o.fields o.fillings := by
  refine ⟨rfl, .cons ⟨rfl, fun v h hfits => ?_⟩ (.cons ⟨rfl, fun v h hfits => ?_⟩ .nil)⟩
  · exact optional_of_presentsOption h (fun value => not_presented_null _)
      fun value hvalue => timeBlockOfOutline_of_presented hvalue hfits
  · exact optional_of_presentsOption h (fun r => not_presented_null r.fields)
      fun r hr => Route.ofOutline_of_presented hr hfits

/-- The fields of hint options share no name. -/
lemma distinct_fields (o : Options) : Distinct o.fields :=
  (o.reads 0).distinct

/-- Hint options are read from all their presentations. -/
theorem ofOutline_of_presents {options : Options} {depth : Nat} {o : Outline}
    (h : options.Presents o) (hfits : o.Fits depth) : ofOutline o = .ok options := by
  refine Shape.read_of_presented (options.reads _) (fun missing s hs => ?_) h hfits
  obtain ⟨timeBlock, route⟩ := options
  obtain ⟨hblock, hroute⟩ : (s.timeBlock = some timeBlock ∨ timeBlock = none ∧ s.timeBlock = none) ∧
      (s.route = some route ∨ route = none ∧ s.route = none) := by
    simpa [fields, fillings, Filling.Settled, timeBlockField, routeField] using hs
  obtain hblock | ⟨rfl, hblock⟩ := hblock <;> obtain hroute | ⟨rfl, hroute⟩ := hroute <;>
    simp [shape, hblock, hroute]

end Options

namespace Request

/-- The fields of a request and their values. -/
def fillings (r : Request) : List (Filling Draft Outline ReadError) :=
  [⟨expressionField, r.expression⟩, ⟨optionsField, r.options⟩]

/-- The fields of a request share no name. -/
lemma distinct_fields (stands : Json.Number → Double → Prop) (r : Request) :
    Distinct (r.fields stands) := by
  simp [Distinct, fields, Field.names]

/-- **A request is read field by field.** -/
theorem reads (r : Request) :
    shape.toRecordReader.Reads 1 id (r.fields Json.Number.ReadAs) r.fillings :=
  ⟨rfl, .cons ⟨rfl, fun _ => Expression.ofOutline_of_presents⟩
    (.cons ⟨rfl, fun _ => Options.ofOutline_of_presents⟩ .nil)⟩

/-- **A request is read from all its presentations.** -/
theorem ofOutline_of_presents {r : Request} {o : Outline} (h : r.Presents Json.Number.ReadAs o)
    (hfits : o.Fits 0) : ofOutline o = .ok r := by
  refine Shape.read_of_presented r.reads (fun missing s hs => ?_) h hfits
  obtain ⟨expression, options⟩ := r
  obtain ⟨hexpression, hoptions⟩ : s.expression = some expression ∧
      (s.options = some options ∨ options = .empty ∧ s.options = none) := by
    simpa [fields, fillings, Filling.Settled, expressionField, optionsField] using hs
  obtain hoptions | ⟨rfl, hoptions⟩ := hoptions <;>
    simp [shape, required, hexpression, hoptions, bind, Except.bind, pure, Except.pure]

end Request

end HintedSql
