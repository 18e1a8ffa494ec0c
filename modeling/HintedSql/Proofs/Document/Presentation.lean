import HintedSql.Document.Encode
import HintedSql.Proofs.Document.Field
import HintedSql.Proofs.Json.Numeral
set_option relaxedAutoImplicit false
set_option autoImplicit false

/-!
# All the ways to write a request

A JSON value presents a request if at every node it is a record that gives the fields of the node,
or a list of them. At each node independently, members may stand in any order, with the kind
anywhere and unknown members among them; a field with a second name may go by it; fields at their
defaults may be missing, and an absent hint or alias may be null.

What a number in a document stands for is a parameter of the definition. In general it is the
nearest double; but the reader takes a number for a double by scaling, which does not always give
that one.

## Main definitions

* `HintedSql.Value.Presents`, `HintedSql.Condition.Presents`, `HintedSql.Expression.Presents`,
  `HintedSql.Options.Presents`, `HintedSql.Request.Presents`.
* `HintedSql.Json.Number.Denotes` — the double that a number is nearest to.
* `HintedSql.Json.Number.ReadAs` — the double that the reader takes a number for.
-/

namespace HintedSql

open Json (Outline Quoted)

/-- A value that presents what may be absent; null stands for nothing. -/
def presentsOption {α : Type} (presents : α → Outline → Prop) : Option α → Outline → Prop
  | none, o => o = .null
  | some a, o => presents a o

/-- A list of strings. -/
def presentsTexts (texts : List String) (o : Outline) : Prop :=
  ∃ items, o = .list items none ∧ List.Forall₂ Outline.Says items texts

/-- A field that holds a text. -/
def Field.text (name s : String) : Field where
  name := name
  holds := (·.Says s)

/-- A field that holds a text or nothing. -/
def Field.optionalText (name : String) (s : Option String) : Field where
  name := name
  holds := presentsOption (fun s o => o.Says s) s
  omittable := s = none

section Presents

-- Which numbers stand for which doubles.
variable (stands : Json.Number → Double → Prop)

/-- A JSON value that presents a literal. -/
inductive Value.Presents : Value → Outline → Prop where
  | null : Presents null .null
  | bool (b : Bool) : Presents (bool b) (.bool b)
  | int (i : Int64) : Presents (int i) (.number (.ofInt i.toInt))
  | float {n : Json.Number} {x : Double} (h : stands n x) : Presents (float x) (.number n)
  | text {q : Quoted} {s : String} (h : q.Says s) : Presents (text s) (.string q)

/-- The kind of a condition in documents. -/
def Condition.kind : Condition → String
  | compare op _ _ => op.name
  | connect op _ _ => op.name

/-- The fields of a condition in order. A value that is null may be left out. -/
def Condition.fields : Condition → List Field
  | compare _ column value =>
    [.text "column" column,
     { name := "value", holds := value.Presents stands, omittable := value = .null }]
  | connect _ left right =>
    [{ name := "left", holds := Tagged left.kind left.fields },
     { name := "right", holds := Tagged right.kind right.fields }]

/-- A JSON value that presents a condition. -/
def Condition.Presents (c : Condition) : Outline → Prop :=
  Tagged c.kind (c.fields stands)

/-- The fields of an expression in order. No alias, no columns and an inner join may be left out. -/
def Expression.fields : Expression → List Field
  | table t => [.text "name" t.name, .optionalText "alias" t.asName]
  | selection input predicate =>
    [{ name := "from", holds := Tagged input.kind input.fields },
     { name := "predicate", holds := predicate.Presents stands }]
  | projection input columns =>
    [{ name := "from", holds := Tagged input.kind input.fields },
     { name := "columns", holds := presentsTexts columns, omittable := columns = [] }]
  | join kind left right on =>
    [{ name := "left", holds := Tagged left.kind left.fields },
     { name := "right", holds := Tagged right.kind right.fields },
     { name := "on", holds := on.Presents stands },
     { name := "join_type", otherNames := ["joinType"], holds := (·.Says kind.name),
       omittable := kind = .inner }]

/-- A JSON value that presents an expression. -/
def Expression.Presents (e : Expression) : Outline → Prop :=
  Tagged e.kind (e.fields stands)

/-- The field of a time block. -/
def timeBlockFields (value : String) : List Field :=
  [.text "value" value]

/-- The fields of a route in order. -/
def Route.fields (r : Route) : List Field :=
  [.text "target" r.target.name, .optionalText "lane" r.lane]

/-- The fields of hint options in order. -/
def Options.fields (o : Options) : List Field :=
  [{ name := "time_block", otherNames := ["timeBlock"],
     holds := presentsOption (fun value => Presented (timeBlockFields value)) o.timeBlock,
     omittable := o.timeBlock = none },
   { name := "route", holds := presentsOption (fun r => Presented r.fields) o.route,
     omittable := o.route = none }]

/-- A JSON value that presents hint options. -/
def Options.Presents (o : Options) : Outline → Prop :=
  Presented o.fields

/-- The fields of a request in order. Empty options may be left out. -/
def Request.fields (r : Request) : List Field :=
  [{ name := "expression", holds := r.expression.Presents stands },
   { name := "options", holds := r.options.Presents, omittable := r.options = .empty }]

/-- A JSON value that presents a request. -/
def Request.Presents (r : Request) : Outline → Prop :=
  Presented (r.fields stands)

end Presents

/-- A number with a fraction or an exponent, and the finite double that its exact value is nearest
to. -/
def Json.Number.Denotes (n : Json.Number) (x : Double) : Prop :=
  n.isInteger = false ∧ ∃ m : Magnitude, x = .finite n.negative m ∧
    m.readsBack n.decimal.coefficient n.decimal.exponent = true

/-- The reader takes a number for a double. -/
def Json.Number.ReadAs (n : Json.Number) (x : Double) : Prop :=
  ∃ c, n.content = .ok c ∧ Value.ofContent c = .ok (.float x)

end HintedSql
