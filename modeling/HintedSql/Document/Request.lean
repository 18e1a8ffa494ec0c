import HintedSql.Request
import HintedSql.Document.Expression
set_option relaxedAutoImplicit false
set_option autoImplicit false

/-!
# Reading requests

Requests, hint options, time blocks and routes are records without a kind. They can also be written
as lists of their fields in order, where fields at the end that need not be given may be missing.
Members with unknown names are passed over.

## Main definitions

* `HintedSql.Shape` — a record as it is read from JSON text.
* `HintedSql.Options.ofJson`, `HintedSql.Request.ofJson`.
-/

namespace HintedSql

open Json (Outline Quoted)

/-- How a record is read from JSON text: its fields, its name in messages, and what is made of the
draft in the end. -/
structure Shape (σ α : Type) extends RecordReader σ Outline ReadError where
  name : String
  finish : (String → Mismatch) → σ → Except Mismatch α

/-- Pass over a value of no interest. -/
def passOver (v : Outline) : Except ReadError Unit :=
  ReadError.ofFault v.skip

namespace Shape

variable {σ α : Type}

/-- Read one member of a record. One that is no field is passed over. -/
def put (shape : Shape σ α) (draft : σ) (name : String) (v : Outline) : Except ReadError σ :=
  shape.toRecordReader.put .mismatch passOver draft name v

/-- Read the members of a record in order. -/
def readMembers (shape : Shape σ α) (draft : σ) : List (Quoted × Outline) → Except ReadError σ
  | [] => .ok draft
  | (k, v) :: rest => do
    let name ← ReadError.ofFault k.text
    let draft ← shape.put draft name v
    shape.readMembers draft rest

/-- Read the fields of a list in order. Text that follows the last field is misplaced. -/
def readItems (shape : Shape σ α) (fault : Option Json.Fault) (draft : σ) :
    List String → List Outline → Except ReadError σ
  | [], _ :: _ => .error (.fault .misplaced)
  | _, [] => do
    ReadError.ofFault (Json.check fault)
    return draft
  | name :: names, v :: items => do
    let draft ← shape.put draft name v
    shape.readItems fault draft names items

/-- Read a record, which may be written as a list. -/
def read (shape : Shape σ α) (o : Outline) : Except ReadError α :=
  match o with
  | .record members fault _ => do
    let draft ← shape.readMembers shape.start members
    ReadError.ofFault (Json.check fault)
    ReadError.ofMismatch (shape.finish .missingField draft)
  | .list items fault => do
    let draft ← shape.readItems fault shape.start shape.fieldNames items
    ReadError.ofMismatch (shape.finish
      (fun _ => .wrongLength items.length
        (elementsExpected ("struct " ++ shape.name) shape.fields.length))
      draft)
  | o => .error (o.mismatch ("struct " ++ shape.name))

end Shape

/-- Read a value that may be null. -/
def optional {α : Type} (read : Outline → Except ReadError α) :
    Outline → Except ReadError (Option α)
  | .null => .ok none
  | o => some <$> read o

namespace Target

/-- The targets by name. -/
def tags : List (String × Target) :=
  all.map fun t => (t.name, t)

/-- The target that a text in a document names. -/
def ofDocument (name : String) : Except Mismatch Target :=
  Tag.ofName tags name

/-- Read a target: its name, or a record with its name as only member and null in it. Anything else
is refused at its first character, as is a comma after that member. -/
def ofOutline : Outline → Except ReadError Target
  | .string s => do
    let name ← ReadError.ofFault s.text
    ReadError.ofMismatch (ofDocument name)
  | .record [] fault _ => .error (.fault (fault.getD .misplaced))
  | .record ((k, v) :: rest) fault comma => do
    let name ← ReadError.ofFault k.text
    let target ← ReadError.ofMismatch (ofDocument name)
    match v with
    | .null =>
      if rest.isEmpty && !comma then
        ReadError.ofFault (Json.check fault)
        return target
      else .error (.fault .misplaced)
    | v => .error (v.mismatch "unit")
  | .broken f => .error (.fault f)
  | _ => .error (.fault .misplaced)

end Target

/-- The text of a time block. -/
def timeBlockField : FieldReader (Option String) Outline ReadError where
  name := "value"
  Value := String
  kept := id
  keep _ value := some value
  read v := v.text

/-- Time blocks in documents. -/
def timeBlockShape : Shape (Option String) String where
  name := "TimeBlockHint"
  start := none
  fields := [timeBlockField]
  fresh := by simp [timeBlockField]
  apart := by simp
  finish missing draft := required missing "value" draft

/-- Read a time block. -/
def timeBlockOfOutline : Outline → Except ReadError String :=
  timeBlockShape.read

namespace Route

/-- The fields of a route that have been read. -/
structure Draft where
  target : Option Target := none
  lane : Option (Option String) := none

/-- The target of a route. -/
def targetField : FieldReader Draft Outline ReadError where
  name := "target"
  Value := Target
  kept := Draft.target
  keep s target := { s with target := some target }
  read v := Target.ofOutline v

/-- The lane of a route. -/
def laneField : FieldReader Draft Outline ReadError where
  name := "lane"
  Value := Option String
  kept := Draft.lane
  keep s lane := { s with lane := some lane }
  read v := optional (·.text) v

/-- Routes in documents. -/
def shape : Shape Draft Route where
  name := "RouteHint"
  start := {}
  fields := [targetField, laneField]
  fresh := by simp [targetField, laneField]
  apart := by simp [FieldReader.apart_iff, FieldReader.names, targetField, laneField]
  finish missing draft := do
    let target ← required missing "target" draft.target
    return ⟨target, draft.lane.join⟩

/-- Read a route. -/
def ofOutline : Outline → Except ReadError Route :=
  shape.read

end Route

namespace Options

/-- The fields of hint options that have been read. -/
structure Draft where
  timeBlock : Option (Option String) := none
  route : Option (Option Route) := none

/-- The time block of hint options, which goes by two names. -/
def timeBlockField : FieldReader Draft Outline ReadError where
  name := "time_block"
  otherNames := ["timeBlock"]
  Value := Option String
  kept := Draft.timeBlock
  keep s timeBlock := { s with timeBlock := some timeBlock }
  read v := optional timeBlockOfOutline v

/-- The route of hint options. -/
def routeField : FieldReader Draft Outline ReadError where
  name := "route"
  Value := Option Route
  kept := Draft.route
  keep s route := { s with route := some route }
  read v := optional Route.ofOutline v

/-- Hint options in documents. -/
def shape : Shape Draft Options where
  name := "BridgeOptions"
  start := {}
  fields := [timeBlockField, routeField]
  fresh := by simp [timeBlockField, routeField]
  apart := by simp [FieldReader.apart_iff, FieldReader.names, timeBlockField, routeField]
  finish _ draft := .ok ⟨draft.timeBlock.join, draft.route.join⟩

/-- Read hint options. -/
def ofOutline : Outline → Except ReadError Options :=
  shape.read

/-- Read hint options from JSON text. -/
def ofJson (s : String) : Except ReadError Options :=
  (Json.outline s).read ofOutline

end Options

namespace Request

/-- The fields of a request that have been read. -/
structure Draft where
  expression : Option Expression := none
  options : Option Options := none

/-- The expression of a request. -/
def expressionField : FieldReader Draft Outline ReadError where
  name := "expression"
  Value := Expression
  kept := Draft.expression
  keep s expression := { s with expression := some expression }
  read v := Expression.ofOutline 1 v

/-- The hint options of a request. -/
def optionsField : FieldReader Draft Outline ReadError where
  name := "options"
  Value := Options
  kept := Draft.options
  keep s options := { s with options := some options }
  read v := Options.ofOutline v

/-- Requests in documents. The options need not be given. -/
def shape : Shape Draft Request where
  name := "BridgeRequest"
  start := {}
  fields := [expressionField, optionsField]
  fresh := by simp [expressionField, optionsField]
  apart := by simp [FieldReader.apart_iff, FieldReader.names, expressionField, optionsField]
  finish missing draft := do
    let expression ← required missing "expression" draft.expression
    return ⟨expression, draft.options.getD .empty⟩

/-- Read a request. -/
def ofOutline : Outline → Except ReadError Request :=
  shape.read

/-- Read a request from JSON text. -/
def ofJson (s : String) : Except ReadError Request :=
  (Json.outline s).read ofOutline

end Request

end HintedSql
