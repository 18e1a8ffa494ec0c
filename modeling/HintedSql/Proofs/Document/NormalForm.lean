import HintedSql.Proofs.Document.Regular
import HintedSql.Proofs.Document.RoundTrip
import HintedSql.Proofs.Document.Traversal
set_option relaxedAutoImplicit false
set_option autoImplicit false

/-!
# Canonical texts are a normal form

Whatever document an expression is read from, it has finite doubles only and a canonical text that
is not nested too deep, although that text is a record at every node and writes members that the
document may have left out. So it reads back.

Both facts are about where the parts of an expression come from. A draft holds only what the
contents of the fields are read as, step by step, so the parts of a node come from contents inside
its own, which are nested less deep and have their numbers in range.

## Main definitions

* `HintedSql.Condition.Normal`, `HintedSql.Expression.Normal` — what can be written as it is.

## Main results

* `HintedSql.Condition.Draft.cases_of_finish`, `HintedSql.Expression.Draft.cases_of_finish` — what
  a node is made of.
* `HintedSql.Condition.normal_of_ofPayload`, `HintedSql.Expression.normal_of_ofPayload` — what is
  read is nested no deeper than what it is read from, and its doubles are finite.
* `HintedSql.canonical_normal_form` — what has been read reads back from its canonical text.
-/

namespace HintedSql

open Json (Outline Quoted)

/-! ## Where the parts of a node come from -/

/-- A field that has to be given is there once the node is made. -/
lemma eq_some_of_required {α : Type} {missing : String → Mismatch} {name : String}
    {slot : Option α} {a : α} (h : required missing name slot = .ok a) : slot = some a := by
  cases slot with
  | none => cases h
  | some b => exact congrArg some (Except.ok.inj h)

namespace Condition

/-- What a finished condition is made of. -/
theorem Draft.cases_of_finish {s : Draft} {kind : Kind} {missing : String → Mismatch}
    {c : Condition} (h : s.finish kind missing = .ok c) :
    (∃ op column, kind = .compare op ∧ c = compare op column (s.value.getD .null)) ∨
      ∃ op left right, kind = .connect op ∧ c = connect op left right ∧ s.left = some left ∧
        s.right = some right := by
  cases kind with
  | compare op =>
    obtain ⟨column, -, h⟩ := exists_of_bind_eq_ok h
    exact .inl ⟨op, column, rfl, (Except.ok.inj h).symm⟩
  | connect op =>
    obtain ⟨left, hleft, h⟩ := exists_of_bind_eq_ok h
    obtain ⟨right, hright, h⟩ := exists_of_bind_eq_ok h
    exact .inr ⟨op, left, right, rfl, (Except.ok.inj h).symm, eq_some_of_required hleft,
      eq_some_of_required hright⟩

/-- A condition that can be written with at most `n` levels, as it is. -/
def Normal (n : Nat) (c : Condition) : Prop :=
  c.toDatum.depth ≤ n ∧ c.IsFinite

/-- A comparison with a finite literal is normal. -/
lemma normal_compare {n : Nat} {value : Value} (h : value.IsFinite) (op : Comparison)
    (column : String) : (compare op column value).Normal (n + 1) := by
  refine ⟨?_, (isFinite_compare op column value).mpr h⟩
  cases value <;> simp [toDatum, Value.toDatum, Datum.depth, Datum.fieldsDepth]

/-- A connection of normal conditions is normal, one level deeper. -/
lemma normal_connect {n : Nat} {left right : Condition} (hl : left.Normal n)
    (hr : right.Normal n) (op : Connective) : (connect op left right).Normal (n + 1) := by
  refine ⟨?_, (isFinite_connect op left right).mpr ⟨hl.2, hr.2⟩⟩
  simpa [toDatum, Datum.depth, Datum.fieldsDepth] using And.intro hl.1 hr.1

/-- What holds of conditions read from fields holds of those read from content, one level out. -/
lemma normal_of_ofContent {c : Condition}
    (ih : ∀ {n : Nat} {kind : Kind} {payload : Payload}, payload.Regular n →
      reader.ofPayload kind payload = .ok c → c.Normal (n + 1))
    {n : Nat} {x : Content} (hx : x.Regular n) (h : ofContent x = .ok c) : c.Normal n := by
  obtain ⟨k, kind, payload, rfl, hregular, hread⟩ := NodeReader.exists_payload_of_ofContent hx h
  exact ih hregular hread

/-- **A condition is nested no deeper than the fields it is read from**, and its doubles are
finite.

**Proof sketch.** By induction on the condition. Its parts come from contents of its fields, which
are regular and nested one level less. -/
theorem normal_of_ofPayload {c : Condition} {n : Nat} {kind : Kind} {payload : Payload}
    (hpayload : payload.Regular n) (h : reader.ofPayload kind payload = .ok c) :
    c.Normal (n + 1) := by
  induction c generalizing n kind payload with
  | compare op column value =>
    obtain ⟨s, hfrom, missing, hfinish⟩ := NodeReader.exists_draft_of_ofPayload h
    obtain ⟨op', column', rfl, heq⟩ | ⟨_, _, _, -, heq, -⟩ := Draft.cases_of_finish hfinish <;>
      cases heq
    refine normal_compare ?_ op column
    cases hs : s.value with
    | none => trivial
    | some v =>
      obtain ⟨_, ⟨x, hx, rfl⟩, hv⟩ := hfrom valueField (by simp [reader, Kind.record, Kind.fields])
        v hs
      exact Value.isFinite_of_ofContent (hpayload x hx) hv
  | connect op left right ihl ihr =>
    obtain ⟨s, hfrom, missing, hfinish⟩ := NodeReader.exists_draft_of_ofPayload h
    obtain ⟨_, _, -, heq⟩ | ⟨op', left', right', rfl, heq, hleft, hright⟩ :=
      Draft.cases_of_finish hfinish <;> cases heq
    obtain ⟨_, ⟨x, hx, rfl⟩, hl⟩ :=
      hfrom leftField (by simp [reader, Kind.record, Kind.fields]) _ hleft
    obtain ⟨_, ⟨y, hy, rfl⟩, hr⟩ :=
      hfrom rightField (by simp [reader, Kind.record, Kind.fields]) _ hright
    exact normal_connect (normal_of_ofContent ihl (hpayload x hx) hl)
      (normal_of_ofContent ihr (hpayload y hy) hr) op

end Condition

namespace Expression

/-- What a finished expression is made of. -/
theorem Draft.cases_of_finish {s : Draft} {kind : Kind} {missing : String → Mismatch}
    {e : Expression} (h : s.finish kind missing = .ok e) :
    (∃ t, kind = .table ∧ e = table t) ∨
    (∃ input predicate, kind = .selection ∧ e = selection input predicate ∧
      s.input = some input ∧ s.predicate = some predicate) ∨
    (∃ input columns, kind = .projection ∧ e = projection input columns ∧
      s.input = some input) ∨
    ∃ joinKind left right on, kind = .join ∧ e = join joinKind left right on ∧
      s.left = some left ∧ s.right = some right ∧ s.on = some on := by
  cases kind with
  | table =>
    obtain ⟨name, -, h⟩ := exists_of_bind_eq_ok h
    exact .inl ⟨_, rfl, (Except.ok.inj h).symm⟩
  | selection =>
    obtain ⟨input, hinput, h⟩ := exists_of_bind_eq_ok h
    obtain ⟨predicate, hpredicate, h⟩ := exists_of_bind_eq_ok h
    exact .inr (.inl ⟨input, predicate, rfl, (Except.ok.inj h).symm, eq_some_of_required hinput,
      eq_some_of_required hpredicate⟩)
  | projection =>
    obtain ⟨input, hinput, h⟩ := exists_of_bind_eq_ok h
    exact .inr (.inr (.inl ⟨input, _, rfl, (Except.ok.inj h).symm, eq_some_of_required hinput⟩))
  | join =>
    obtain ⟨left, hleft, h⟩ := exists_of_bind_eq_ok h
    obtain ⟨right, hright, h⟩ := exists_of_bind_eq_ok h
    obtain ⟨on, hon, h⟩ := exists_of_bind_eq_ok h
    exact .inr (.inr (.inr ⟨_, left, right, on, rfl, (Except.ok.inj h).symm,
      eq_some_of_required hleft, eq_some_of_required hright, eq_some_of_required hon⟩))

/-- An expression that can be written with at most `n` levels, as it is. -/
def Normal (n : Nat) (e : Expression) : Prop :=
  e.toDatum.depth ≤ n ∧ e.IsFinite

/-- A table is normal. -/
lemma normal_table (n : Nat) (t : Table) : (table t).Normal (n + 1) := by
  refine ⟨?_, isFinite_table t⟩
  cases h : t.asName <;> simp [toDatum, h, optionalField, Datum.depth, Datum.fieldsDepth]

/-- A selection of normal parts is normal, one level deeper. -/
lemma normal_selection {n : Nat} {input : Expression} {predicate : Condition}
    (hinput : input.Normal n) (hpredicate : predicate.Normal n) :
    (selection input predicate).Normal (n + 1) := by
  refine ⟨?_, (isFinite_selection input predicate).mpr ⟨hinput.2, hpredicate.2⟩⟩
  simpa [toDatum, Datum.depth, Datum.fieldsDepth] using And.intro hinput.1 hpredicate.1

/-- A list of texts is nested once. -/
lemma depth_texts (columns : List String) : (Datum.list (columns.map .text)).depth = 1 := by
  have hitems : Datum.itemsDepth (columns.map .text) = 0 := by
    induction columns with
    | nil => rfl
    | cons s ss ih => simp [Datum.itemsDepth, Datum.depth, ih]
  rw [Datum.depth, hitems]

/-- A list of columns is nested no deeper than the record that stands beside it. -/
lemma normal_projection {n : Nat} {input : Expression} (hinput : input.Normal n)
    (columns : List String) : (projection input columns).Normal (n + 1) := by
  refine ⟨?_, (isFinite_projection input columns).mpr hinput.2⟩
  obtain ⟨data, heq, -⟩ := input.exists_toDatum_eq
  have hone : 1 ≤ input.toDatum.depth := by
    rw [heq, Datum.depth]
    omega
  have hdepth : (projection input columns).toDatum.depth =
      max 0 (max input.toDatum.depth (max (Datum.list (columns.map .text)).depth 0)) + 1 := rfl
  have := hinput.1
  rw [hdepth, depth_texts]
  omega

/-- A join of normal parts is normal, one level deeper. -/
lemma normal_join {n : Nat} {left right : Expression} {on : Condition} (hl : left.Normal n)
    (hr : right.Normal n) (hon : on.Normal n) (kind : JoinKind) :
    (join kind left right on).Normal (n + 1) := by
  refine ⟨?_, (isFinite_join kind left right on).mpr ⟨hl.2, hr.2, hon.2⟩⟩
  simpa [toDatum, Datum.depth, Datum.fieldsDepth] using And.intro hl.1 (And.intro hr.1 hon.1)

/-- What holds of expressions read from fields holds of those read from content, one level out. -/
lemma normal_of_ofContent {e : Expression}
    (ih : ∀ {n : Nat} {kind : Kind} {payload : Payload}, payload.Regular n →
      reader.ofPayload kind payload = .ok e → e.Normal (n + 1))
    {n : Nat} {x : Content} (hx : x.Regular n) (h : ofContent x = .ok e) : e.Normal n := by
  obtain ⟨k, kind, payload, rfl, hregular, hread⟩ := NodeReader.exists_payload_of_ofContent hx h
  exact ih hregular hread

/-- **An expression is nested no deeper than the fields it is read from**, and its doubles are
finite. -/
theorem normal_of_ofPayload {e : Expression} {n : Nat} {kind : Kind} {payload : Payload}
    (hpayload : payload.Regular n) (h : reader.ofPayload kind payload = .ok e) :
    e.Normal (n + 1) := by
  induction e generalizing n kind payload with
  | table t => exact normal_table n t
  | selection input predicate ih =>
    -- A finished draft tells its constructor, which leaves one of the four cases.
    obtain ⟨s, hfrom, missing, hfinish⟩ := NodeReader.exists_draft_of_ofPayload h
    obtain ⟨_, -, heq⟩ | ⟨_, _, rfl, heq, hinput, hpredicate⟩ | ⟨_, _, -, heq, -⟩ |
      ⟨_, _, _, _, -, heq, -⟩ := Draft.cases_of_finish hfinish <;> cases heq
    obtain ⟨_, ⟨x, hx, rfl⟩, hread⟩ :=
      hfrom inputField (by simp [reader, Kind.record, Kind.fields]) _ hinput
    obtain ⟨_, ⟨y, hy, rfl⟩, hread'⟩ :=
      hfrom predicateField (by simp [reader, Kind.record, Kind.fields]) _ hpredicate
    exact normal_selection (normal_of_ofContent ih (hpayload x hx) hread)
      (Condition.normal_of_ofContent Condition.normal_of_ofPayload (hpayload y hy) hread')
  | projection input columns ih =>
    obtain ⟨s, hfrom, missing, hfinish⟩ := NodeReader.exists_draft_of_ofPayload h
    obtain ⟨_, -, heq⟩ | ⟨_, _, -, heq, -, -⟩ | ⟨_, _, rfl, heq, hinput⟩ |
      ⟨_, _, _, _, -, heq, -⟩ := Draft.cases_of_finish hfinish <;> cases heq
    obtain ⟨_, ⟨x, hx, rfl⟩, hread⟩ :=
      hfrom inputField (by simp [reader, Kind.record, Kind.fields]) _ hinput
    exact normal_projection (normal_of_ofContent ih (hpayload x hx) hread) columns
  | join joinKind left right on ihl ihr =>
    obtain ⟨s, hfrom, missing, hfinish⟩ := NodeReader.exists_draft_of_ofPayload h
    obtain ⟨_, -, heq⟩ | ⟨_, _, -, heq, -, -⟩ | ⟨_, _, -, heq, -⟩ |
      ⟨_, _, _, _, rfl, heq, hl, hr, hon⟩ := Draft.cases_of_finish hfinish <;> cases heq
    obtain ⟨_, ⟨x, hx, rfl⟩, hleft⟩ :=
      hfrom leftField (by simp [reader, Kind.record, Kind.fields]) _ hl
    obtain ⟨_, ⟨y, hy, rfl⟩, hright⟩ :=
      hfrom rightField (by simp [reader, Kind.record, Kind.fields]) _ hr
    obtain ⟨_, ⟨z, hz, rfl⟩, hcondition⟩ :=
      hfrom onField (by simp [reader, Kind.record, Kind.fields]) _ hon
    exact normal_join (normal_of_ofContent ihl (hpayload x hx) hleft)
      (normal_of_ofContent ihr (hpayload y hy) hright)
      (Condition.normal_of_ofContent Condition.normal_of_ofPayload (hpayload z hz) hcondition)
      joinKind

/-- An expression that has been read can be written where it was read from. -/
lemma normal_of_ofOutline {depth : Nat} {o : Outline} {e : Expression}
    (h : ofOutline depth o = .ok e) : e.Normal (Json.depthLimit - depth) := by
  obtain ⟨⟨kind, payload⟩, hread, h⟩ := exists_of_bind_eq_ok h
  obtain ⟨hlt, hregular⟩ := Tag.regular_of_ofOutline hread
  rw [show Json.depthLimit - depth = Json.depthLimit - (depth + 1) + 1 by omega]
  exact normal_of_ofPayload hregular (ReadError.eq_ok_of_ofMismatch h)

end Expression

/-! ## Requests -/

/-- The expression of a request that has been read can be written inside the request. -/
lemma Request.normal_of_ofOutline {o : Outline} {r : Request} (h : ofOutline o = .ok r) :
    r.expression.Normal (Json.depthLimit - 1) := by
  obtain ⟨s, hfrom, missing, hfinish⟩ := Shape.exists_draft_of_read h
  obtain ⟨e, he, hfinish⟩ := exists_of_bind_eq_ok hfinish
  obtain ⟨v, -, hread⟩ := hfrom expressionField (by simp [shape]) e (eq_some_of_required he)
  rw [← Except.ok.inj hfinish]
  exact Expression.normal_of_ofOutline hread

/-- What a text is read as is what its value is read as. -/
lemma Json.Document.decode_of_read {α : Type} {d : Json.Document}
    {decode : Outline → Except ReadError α} {a : α} (h : d.read decode = .ok a) :
    decode d.root = .ok a := by
  obtain ⟨b, hb, h⟩ := exists_of_bind_eq_ok h
  split at h
  · cases h
  · rwa [← Except.ok.inj h]

/-! ## Canonical texts read back -/

/-- **Canonical texts are a normal form of accepted documents.** Whatever text an expression or a
request has been read from, it is read back from its canonical text, and equals itself, provided
that its doubles read back.

**Proof sketch.** What has been read has finite doubles only, so it is settled, and it can be
written with no more levels than the text had. -/
theorem canonical_normal_form :
    (∀ (t : String) (e : Expression), Expression.ofJson t = .ok e → ReadBack e.values →
      Expression.ofJson e.canonical = .ok e ∧ e.same e = true) ∧
    ∀ (t : String) (r : Request), Request.ofJson t = .ok r → ReadBack r.expression.values →
      Request.ofJson r.canonical = .ok r ∧ r.same r = true := by
  refine ⟨fun t e h hread => ?_, fun t r h hread => ?_⟩
  · obtain ⟨hdepth, hfinite⟩ := Expression.normal_of_ofOutline (Json.Document.decode_of_read h)
    have hsettled := Expression.settled_eq_self hfinite
    refine ⟨(e.toDatum.spells_compact.read_eq _).trans ?_, ?_⟩
    · rw [Expression.ofOutline_outline hread (by omega), hsettled]
    · have hsame := e.settled_same_iff.mpr hfinite
      rwa [hsettled] at hsame
  · obtain ⟨hdepth, hfinite⟩ := Request.normal_of_ofOutline (Json.Document.decode_of_read h)
    have hsettled := Request.settled_eq_self hfinite
    have hoptions := r.options.depth_toDatum_le
    have hlimit : Json.depthLimit = 127 := rfl
    have hdepth' : r.toDatum.depth ≤ Json.depthLimit := by
      simp only [Request.toDatum, Datum.depth, Datum.fieldsDepth]
      omega
    refine ⟨(r.toDatum.spells_compact.read_eq _).trans ?_, ?_⟩
    · rw [Request.ofOutline_outline hread hdepth', hsettled]
    · have hsame := r.settled_same_iff.mpr hfinite
      rwa [hsettled] at hsame

/-- A document that gives all fields by position. -/
def listedQuery : Datum :=
  .list [.text "selection", .list [.text "table", .text "users"],
    .list [.text "gt", .text "ratio", .float (.finite false oneAndAHalf)]]

/-- The expression of that document. -/
def listedExpression : Expression :=
  .selection (.table ⟨"users", none⟩) (.gt "ratio" (.float (.finite false oneAndAHalf)))

/-- The query as a list presents its expression. -/
lemma presents_listedQuery :
    listedExpression.Presents Json.Number.ReadAs listedQuery.outline := by
  have htable : Tagged "table" [.text "name" "users", .optionalText "alias" none]
      (Datum.list [.text "table", .text "users"]).outline :=
    .list (.item (Datum.says_text "table") (.item (Datum.says_text "users")
      (.done (by simp [Field.optionalText]))))
  have hcondition : (Condition.gt "ratio" (.float (.finite false oneAndAHalf))).Presents
      Json.Number.ReadAs
      (Datum.list [.text "gt", .text "ratio", .float (.finite false oneAndAHalf)]).outline :=
    .list (.item (Datum.says_text "gt") (.item (Datum.says_text "ratio")
      (.item (Value.presents_outline readBack_oneAndAHalf.writtenAs) (.done (by simp)))))
  exact .list (.item (Datum.says_text "selection") (.item htable (.item hcondition
    (.done (by simp)))))

/-- The query as a list is well-formed. -/
lemma wellFormed_listedQuery : listedQuery.outline.WellFormed := by
  have hfloat : (Datum.float (.finite false oneAndAHalf)).outline.WellFormed :=
    readBack_oneAndAHalf.inRange _ List.mem_cons_self
  refine Datum.wellFormed_list ?_
  have htable : (Datum.list [.text "table", .text "users"]).outline.WellFormed :=
    Datum.wellFormed_list (by simp [Datum.wellFormed_text])
  have hcondition : (Datum.list [.text "gt", .text "ratio",
      .float (.finite false oneAndAHalf)]).outline.WellFormed :=
    Datum.wellFormed_list (by simp [Datum.wellFormed_text, hfloat])
  simp [Datum.wellFormed_text, htable, hcondition]

/-- The query as a list is read as its expression. -/
lemma ofJson_listedQuery : Expression.ofJson listedQuery.compact = .ok listedExpression :=
  (listedQuery.spells_compact.read_eq _).trans
    (Expression.ofOutline_of_presents presents_listedQuery
      (Datum.fits_outline wellFormed_listedQuery (by decide)))

/-- A request may give its expression by position, and no options. -/
lemma ofJson_listedRequest :
    Request.ofJson (Datum.list [listedQuery]).compact = .ok ⟨listedExpression, .empty⟩ := by
  refine ((Datum.list [listedQuery]).spells_compact.read_eq _).trans ?_
  refine Request.ofOutline_of_presents (.list (.item presents_listedQuery (.done (by simp)))) ?_
  exact Datum.fits_outline (Datum.wellFormed_list (by simp [wellFormed_listedQuery])) (by decide)

/-- A query that is written as a list, and its normal form. -/
theorem listedQuery_normal_form :
    (Expression.ofJson listedQuery.compact = .ok listedExpression ∧
      ReadBack listedExpression.values ∧
      Expression.ofJson listedExpression.canonical = .ok listedExpression ∧
      listedExpression.same listedExpression = true) ∧
    Request.ofJson (Datum.list [listedQuery]).compact = .ok ⟨listedExpression, .empty⟩ ∧
      Request.ofJson (Request.mk listedExpression .empty).canonical =
        .ok ⟨listedExpression, .empty⟩ ∧
      (Request.mk listedExpression .empty).same ⟨listedExpression, .empty⟩ = true :=
  ⟨⟨ofJson_listedQuery, readBack_oneAndAHalf,
      canonical_normal_form.1 _ _ ofJson_listedQuery readBack_oneAndAHalf⟩,
    ofJson_listedRequest, canonical_normal_form.2 _ _ ofJson_listedRequest readBack_oneAndAHalf⟩

end HintedSql
