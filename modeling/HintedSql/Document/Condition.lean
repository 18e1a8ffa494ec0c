import HintedSql.Algebra.Condition
import HintedSql.Document.Node
set_option relaxedAutoImplicit false
set_option autoImplicit false

/-!
# Reading values and conditions

## Main definitions

* `HintedSql.Value.ofContent`, `HintedSql.Condition.ofContent`.
* `HintedSql.Value.ofJson`, `HintedSql.Condition.ofJson` — from JSON text.
-/

namespace HintedSql

namespace Value

/-- The value of a whole number. One that needs more than 64 bits with sign becomes the nearest
double. -/
def ofInt (i : Int) : Value :=
  if Int64.minValue.toInt ≤ i ∧ i ≤ Int64.maxValue.toInt then .int (Int64.ofInt i)
  else .float (.ofInt i)

/-- Read a value. -/
def ofContent : Content → Except Mismatch Value
  | .null => .ok .null
  | .bool b => .ok (.bool b)
  | .natural n => .ok (ofInt n)
  | .negative n => .ok (ofInt (-n))
  | .float x => .ok (.float x)
  | .text s => .ok (.text s)
  | .list _ | .map _ => .error .noValue

/-- Read a value from JSON text. -/
def ofJson (s : String) : Except ReadError Value :=
  (Json.outline s).read fun o => do
    let c ← ReadError.ofFault (o.content 0)
    ReadError.ofMismatch (ofContent c)

end Value

namespace Condition

/-- The node a condition is. -/
inductive Kind where
  | compare (op : Comparison)
  | connect (op : Connective)
deriving DecidableEq, Repr

/-- The kinds of conditions by name. -/
def tags : List (String × Kind) :=
  [("eq", .compare .eq), ("gt", .compare .gt), ("lt", .compare .lt), ("and", .connect .and),
   ("or", .connect .or)]

/-- How messages call a node. -/
def Kind.shape : Kind → String
  | compare .eq => "struct variant RaCondition::Eq"
  | compare .gt => "struct variant RaCondition::Gt"
  | compare .lt => "struct variant RaCondition::Lt"
  | connect .and => "struct variant RaCondition::And"
  | connect .or => "struct variant RaCondition::Or"

/-- The fields of a condition that have been read. -/
structure Draft where
  column : Option String := none
  value : Option Value := none
  left : Option Condition := none
  right : Option Condition := none

/-- How a field of a condition is read. -/
abbrev DraftField :=
  FieldReader Draft (FieldContent Condition) Mismatch

/-- The column of a comparison. -/
def columnField : DraftField where
  name := "column"
  Value := String
  kept := Draft.column
  keep s column := { s with column := some column }
  read f := f.content.asText

/-- The value of a comparison. -/
def valueField : DraftField where
  name := "value"
  Value := Value
  kept := Draft.value
  keep s value := { s with value := some value }
  read f := Value.ofContent f.content

/-- The left part of a connective. -/
def leftField : DraftField where
  name := "left"
  Value := Condition
  kept := Draft.left
  keep s left := { s with left := some left }
  read f := f.node ()

/-- The right part of a connective. -/
def rightField : DraftField where
  name := "right"
  Value := Condition
  kept := Draft.right
  keep s right := { s with right := some right }
  read f := f.node ()

/-- The fields of a node in order. -/
def Kind.fields : Kind → List DraftField
  | compare _ => [columnField, valueField]
  | connect _ => [leftField, rightField]

/-- The record that a node is. -/
def Kind.record (kind : Kind) : RecordReader Draft (FieldContent Condition) Mismatch where
  start := {}
  fields := kind.fields
  fresh := by cases kind <;> simp [fields, columnField, valueField, leftField, rightField]
  apart := by
    cases kind <;>
      simp [fields, FieldReader.apart_iff, FieldReader.names, columnField, valueField, leftField,
        rightField]

/-- The condition, once all fields have been read. A missing value is null. -/
def Draft.finish (kind : Kind) (missing : String → Mismatch) (draft : Draft) :
    Except Mismatch Condition :=
  match kind with
  | .compare op => do
    let column ← required missing "column" draft.column
    return .compare op column (draft.value.getD .null)
  | .connect op => do
    let left ← required missing "left" draft.left
    let right ← required missing "right" draft.right
    return .connect op left right

/-- How conditions are read. -/
def reader : NodeReader Kind Draft Condition where
  tags := tags
  expected := "internally tagged enum RaCondition"
  shape := Kind.shape
  record := Kind.record
  finish := Draft.finish

/-- Read a condition. -/
def ofContent : Content → Except Mismatch Condition :=
  reader.ofContent

/-- Read a condition from a JSON value that stands inside `depth` lists and records. -/
def ofOutline (depth : Nat) : Json.Outline → Except ReadError Condition :=
  reader.ofOutline depth

/-- Read a condition from JSON text. -/
def ofJson (s : String) : Except ReadError Condition :=
  (Json.outline s).read (ofOutline 0)

end Condition

end HintedSql
