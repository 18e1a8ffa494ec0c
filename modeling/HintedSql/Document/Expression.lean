import HintedSql.Algebra.Expression
import HintedSql.Document.Condition
set_option relaxedAutoImplicit false
set_option autoImplicit false

/-!
# Reading expressions

## Main definitions

* `HintedSql.JoinKind.ofContent`, `HintedSql.Expression.ofContent`.
* `HintedSql.Expression.ofJson` — from JSON text.
-/

namespace HintedSql

namespace JoinKind

/-- The join kinds by name. -/
def tags : List (String × JoinKind) :=
  all.map fun k => (k.name, k)

/-- Read a join kind: its name, or a record with its name or place as only key and nothing in
it. -/
def ofContent : Content → Except Mismatch JoinKind
  | .text s => Tag.ofName tags s
  | .map [(key, c)] => do
    let kind ← Tag.ofContent tags key
    match c with
    | .null | .map [] => return kind
    | c => .error (.wrongType c.found "unit")
  | .map _ => .error (.wrongContent .record "map with a single key")
  | c => .error (.wrongType c.found "string or map")

end JoinKind

namespace Expression

/-- The node an expression is. -/
inductive Kind where
  | table
  | selection
  | projection
  | join
deriving DecidableEq, Repr

/-- The kinds of expressions by name. -/
def tags : List (String × Kind) :=
  [("table", .table), ("selection", .selection), ("projection", .projection), ("join", .join)]

/-- How messages call a node. -/
def Kind.shape : Kind → String
  | table => "struct Table"
  | selection => "struct Selection"
  | projection => "struct Projection"
  | join => "struct Join"

/-- The fields of an expression that have been read. -/
structure Draft where
  name : Option String := none
  asName : Option (Option String) := none
  input : Option Expression := none
  predicate : Option Condition := none
  columns : Option (List String) := none
  left : Option Expression := none
  right : Option Expression := none
  on : Option Condition := none
  joinKind : Option JoinKind := none

/-- A field of an expression as it is read. -/
abbrev DraftField :=
  FieldReader Draft (FieldContent Expression) Mismatch

/-- The name of a table. -/
def nameField : DraftField where
  name := "name"
  Value := String
  kept := Draft.name
  keep s name := { s with name := some name }
  read f := f.content.asText

/-- The alias of a table. -/
def asNameField : DraftField where
  name := "alias"
  Value := Option String
  kept := Draft.asName
  keep s asName := { s with asName := some asName }
  read f := f.content.asOptionalText

/-- The input of a selection or projection. -/
def inputField : DraftField where
  name := "from"
  Value := Expression
  kept := Draft.input
  keep s input := { s with input := some input }
  read f := f.node ()

/-- The predicate of a selection. -/
def predicateField : DraftField where
  name := "predicate"
  Value := Condition
  kept := Draft.predicate
  keep s predicate := { s with predicate := some predicate }
  read f := Condition.ofContent f.content

/-- The columns of a projection. -/
def columnsField : DraftField where
  name := "columns"
  Value := List String
  kept := Draft.columns
  keep s columns := { s with columns := some columns }
  read f := f.content.asTexts

/-- The left input of a join. -/
def leftField : DraftField where
  name := "left"
  Value := Expression
  kept := Draft.left
  keep s left := { s with left := some left }
  read f := f.node ()

/-- The right input of a join. -/
def rightField : DraftField where
  name := "right"
  Value := Expression
  kept := Draft.right
  keep s right := { s with right := some right }
  read f := f.node ()

/-- The condition of a join. -/
def onField : DraftField where
  name := "on"
  Value := Condition
  kept := Draft.on
  keep s on := { s with on := some on }
  read f := Condition.ofContent f.content

/-- The kind of a join, which goes by two names. -/
def joinKindField : DraftField where
  name := "join_type"
  otherNames := ["joinType"]
  Value := JoinKind
  kept := Draft.joinKind
  keep s joinKind := { s with joinKind := some joinKind }
  read f := JoinKind.ofContent f.content

/-- The fields of a node in order. -/
def Kind.fields : Kind → List DraftField
  | table => [nameField, asNameField]
  | selection => [inputField, predicateField]
  | projection => [inputField, columnsField]
  | join => [leftField, rightField, onField, joinKindField]

/-- The record that a node is. -/
def Kind.record (kind : Kind) : RecordReader Draft (FieldContent Expression) Mismatch where
  start := {}
  fields := kind.fields
  fresh := by
    cases kind <;>
      simp [fields, nameField, asNameField, inputField, predicateField, columnsField, leftField,
        rightField, onField, joinKindField]
  apart := by
    cases kind <;>
      simp [fields, FieldReader.apart_iff, FieldReader.names, nameField, asNameField, inputField,
        predicateField, columnsField, leftField, rightField, onField, joinKindField]

/-- The expression, once all fields have been read. No alias, no columns and an inner join need not
be written. -/
def Draft.finish (kind : Kind) (missing : String → Mismatch) (draft : Draft) :
    Except Mismatch Expression :=
  match kind with
  | .table => do
    let name ← required missing "name" draft.name
    return .table ⟨name, draft.asName.join⟩
  | .selection => do
    let input ← required missing "from" draft.input
    let predicate ← required missing "predicate" draft.predicate
    return .selection input predicate
  | .projection => do
    let input ← required missing "from" draft.input
    return .projection input (draft.columns.getD [])
  | .join => do
    let left ← required missing "left" draft.left
    let right ← required missing "right" draft.right
    let on ← required missing "on" draft.on
    return .join (draft.joinKind.getD .inner) left right on

/-- How expressions are read. -/
def reader : NodeReader Kind Draft Expression where
  tags := tags
  expected := "internally tagged enum RaExpression"
  shape := Kind.shape
  record := Kind.record
  finish := Draft.finish

/-- Read an expression. -/
def ofContent : Content → Except Mismatch Expression :=
  reader.ofContent

/-- Read an expression from a JSON value that stands inside `depth` lists and records. -/
def ofOutline (depth : Nat) : Json.Outline → Except ReadError Expression :=
  reader.ofOutline depth

/-- Read an expression from JSON text. -/
def ofJson (s : String) : Except ReadError Expression :=
  (Json.outline s).read (ofOutline 0)

end Expression

end HintedSql
