import HintedSql.Document.Request
import HintedSql.Yaml.Block
set_option relaxedAutoImplicit false
set_option autoImplicit false

/-!
# Reading requests from YAML

Requests are written in YAML with the same fields as in JSON. Inside an expression plain scalars
stand for null, truth values and numbers; outside, a text is what is written, and a text or record
that need not be given is absent where null is written. A record without fields may be left empty.
Tags of common types hold inside an expression; outside, they only tell whether something is absent,
and a target may be named by a private tag. References that are followed outside an expression are
few, and are not counted.

## Main definitions

* `HintedSql.Yaml.Error` — why a YAML text cannot be read as what it should be.
* `HintedSql.Yaml.Node.members`, `HintedSql.Yaml.field` — records.
* `HintedSql.Request.ofYaml`.
-/

namespace HintedSql

namespace Yaml

/-- Why a YAML text cannot be read as what it should be. -/
inductive Error where
  | fault (f : Fault)
  | mismatch (m : Mismatch)
deriving DecidableEq, Repr

/-- A result that can only fail to be YAML. -/
def ofFault {α : Type} : Except Fault α → Except Error α
  | .ok a => .ok a
  | .error f => .error (.fault f)

/-- A result that can only have the wrong shape. -/
def ofMismatch {α : Type} : Except Mismatch α → Except Error α
  | .ok a => .ok a
  | .error m => .error (.mismatch m)

namespace Node

/-- What a node is. -/
def found (n : Node) : Found :=
  match n.bare with
  | plain s | quoted s => .text s
  | list _ => .list
  | _ => .record

/-- The error of finding a node of the wrong type. -/
def wrongType (n : Node) (expected : String) : Error :=
  .mismatch (.wrongType n.found expected)

/-- Read a text, as it is written. -/
def text (n : Node) : Except Error String :=
  match n.text? with
  | some s => .ok s
  | none => .error (n.wrongType "a text")

/-- Read something that may be absent. -/
def optional {α : Type} (read : Node → Except Error α) (n : Node) : Except Error (Option α) :=
  do if ← ofFault n.isAbsent then return none else some <$> read n

/-- A member of a record: the text of its key, and its value. -/
def member (entry : Node × Node) : Except Error (String × Node) := do
  let name ← entry.1.text
  return (name, entry.2)

/-- The members of a record. An absent node is a record without members. -/
def members (shape : String) (n : Node) : Except Error (List (String × Node)) :=
  match n.bare with
  | map entries => entries.mapM member
  | plain "" => .ok []
  | n => .error (n.wrongType shape)

end Node

/-- The member of a record with a given name, of which there may be one at most. -/
def field (name : String) (members : List (String × Node)) : Except Error (Option Node) :=
  match members.filter (·.1 == name) with
  | [] => .ok none
  | [m] => .ok (some m.2)
  | _ => .error (.mismatch (.duplicateField name))

/-- Read the member of a record with a given name, if there is one. -/
def readField {α : Type} (name : String) (members : List (String × Node))
    (read : Node → Except Error α) : Except Error (Option α) := do
  match ← field name members with
  | some n => some <$> read n
  | none => return none

end Yaml

open Yaml (Node readField)

/-- Read a time block. -/
def timeBlockOfNode (n : Node) : Except Yaml.Error String := do
  let members ← n.members "a time block"
  let value ← readField "value" members Node.text
  Yaml.ofMismatch (required .missingField "value" value)

/-- Read a target. -/
def Target.ofNode (n : Node) : Except Yaml.Error Target := do
  match n.choice? with
  | some name => Yaml.ofMismatch (Target.ofDocument name)
  | none => .error (n.wrongType "a target")

/-- Read a route. -/
def Route.ofNode (n : Node) : Except Yaml.Error Route := do
  let members ← n.members "a route"
  let target ← readField "target" members Target.ofNode
  let lane ← readField "lane" members (Node.optional Node.text)
  let target ← Yaml.ofMismatch (required .missingField "target" target)
  return ⟨target, lane.join⟩

/-- Read hint options. -/
def Options.ofNode (n : Node) : Except Yaml.Error Options := do
  let members ← n.members "hint options"
  let members := members.map fun (name, value) =>
    (if name = "timeBlock" then "time_block" else name, value)
  let timeBlock ← readField "time_block" members (Node.optional timeBlockOfNode)
  let route ← readField "route" members (Node.optional Route.ofNode)
  return ⟨timeBlock.join, route.join⟩

/-- The kind that the text of a node names. -/
def Tag.ofScalar {α : Type} (tags : List (String × α)) (n : Node) : Except Yaml.Error α :=
  match n.text? with
  | some name => Yaml.ofMismatch (Tag.ofName tags name)
  | none => .error (n.wrongType "a kind")

/-- The kind and the fields of a tagged node that is not nested deeper than `room`. -/
def Tag.ofNode {α : Type} (tags : List (String × α)) (expected : String) (room : Nat) (n : Node) :
    Except Yaml.Error (α × Payload) :=
  if n.isPrivate then .error (.fault .tag)
  else match room, n.bare with
  | room + 1, .map entries => do
    let (kinds, others) := entries.partition fun (key, _) => key.key? == some "kind"
    match kinds with
    | [] => .error (.mismatch (.missingField "kind"))
    | [(_, value)] =>
      let a ← ofScalar tags value
      let es ← Yaml.ofFault (Node.entryContents room others)
      return (a, .entries es)
    | _ => .error (.mismatch (.duplicateField "kind"))
  | _ + 1, .list [] => .error (.mismatch (.missingField "kind"))
  | room + 1, .list (kind :: items) => do
    let a ← ofScalar tags kind
    let cs ← Yaml.ofFault (Node.itemContents room items)
    return (a, .items cs)
  | 0, .map _ | 0, .list _ => .error (.fault .depth)
  | _, n => .error (n.wrongType expected)

/-- Read an expression that is not nested deeper than `room`, and in which no more than `budget`
references are followed. -/
def Expression.ofNode (budget room : Nat) (n : Node) : Except Yaml.Error Expression := do
  Yaml.ofFault (n.checkReferences budget)
  let (kind, payload) ← Tag.ofNode tags "an expression" room n
  Yaml.ofMismatch (reader.ofPayload kind payload)

namespace Request

/-- How deep the lists and mappings of a YAML document may be nested. -/
def yamlDepth : Nat :=
  128

/-- How many references may be followed in a YAML document for each of its parts. -/
def yamlReferences : Nat :=
  100

/-- Read a request. -/
def ofNode (n : Node) : Except Yaml.Error Request := do
  let members ← n.members "a request"
  let expression ← readField "expression" members
    (Expression.ofNode (yamlReferences * n.parts) (yamlDepth - 1))
  let options ← readField "options" members Options.ofNode
  let expression ← Yaml.ofMismatch (required .missingField "expression" expression)
  return ⟨expression, options.getD .empty⟩

/-- Read a request from YAML text. -/
def ofYaml (s : String) : Except Yaml.Error Request := do
  let n ← Yaml.ofFault (Yaml.parse s)
  ofNode n

end Request

end HintedSql
