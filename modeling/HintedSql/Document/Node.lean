import HintedSql.Document.Record
import HintedSql.Document.Tag
set_option relaxedAutoImplicit false
set_option autoImplicit false

/-!
# Reading tagged nodes

Conditions and expressions are read in the same way: first the kind is told, then the fields of that
kind are put into a draft one by one, by their names or by their places, and the node is made of the
draft in the end. Fields may hold nodes of the same type.

## Main definitions

* `HintedSql.NodeReader` — how the nodes of one type are read.
* `HintedSql.NodeReader.ofContent`, `HintedSql.NodeReader.ofOutline` — a node inside another, and
  the outermost one.
-/

namespace HintedSql

/-- What stands in a field of a node: its content, which can also be read as a node. -/
structure FieldContent (α : Type) where
  content : Content
  node : Unit → Except Mismatch α

/-- How the nodes of a type are read: their kinds by name and what is expected of them, how messages
call a node and how its fields are read, and what is made of the draft in the end. -/
structure NodeReader (κ σ α : Type) where
  tags : List (String × κ)
  expected : String
  shape : κ → String
  record : κ → RecordReader σ (FieldContent α) Mismatch
  finish : κ → (String → Mismatch) → σ → Except Mismatch α

namespace NodeReader

variable {κ σ α : Type}

/-- Read one field of a node. Fields that the node does not have are ignored. -/
def put (r : NodeReader κ σ α) (kind : κ) (draft : σ) (name : String) (f : FieldContent α) :
    Except Mismatch σ :=
  (r.record kind).put id (fun _ => .ok ()) draft name f

/-- The node of a list of `n` fields, which may lack fields that need not be given. -/
def finishList (r : NodeReader κ σ α) (kind : κ) (n : Nat) (draft : σ) : Except Mismatch α := do
  let size := (r.record kind).fields.length
  let a ← r.finish kind (fun _ => .wrongLength n (elementsExpected (r.shape kind) size)) draft
  if size < n then .error (.wrongLength n (sequenceExpected size)) else return a

mutual
/-- Read a node. -/
def ofContent (r : NodeReader κ σ α) : Content → Except Mismatch α
  | .map entries => do
    let kind ← Tag.inRecord r.tags entries
    let draft ← r.readEntries kind (r.record kind).start entries
    r.finish kind .missingField draft
  | .list [] => .error (.missingField "kind")
  | .list (k :: items) => do
    let kind ← Tag.ofContent r.tags k
    let draft ← r.readItems kind (r.record kind).start (r.record kind).fieldNames items
    r.finishList kind items.length draft
  | c => .error (.wrongType c.found r.expected)

/-- Read the fields of a record in order. -/
def readEntries (r : NodeReader κ σ α) (kind : κ) (draft : σ) :
    List (Content × Content) → Except Mismatch σ
  | [] => .ok draft
  | (key, c) :: rest => do
    match ← key.fieldName (r.record kind).fieldNames with
    | some name =>
      let draft ← r.put kind draft name ⟨c, fun _ => r.ofContent c⟩
      r.readEntries kind draft rest
    | none => r.readEntries kind draft rest

/-- Read fields by position. -/
def readItems (r : NodeReader κ σ α) (kind : κ) (draft : σ) (names : List String) :
    List Content → Except Mismatch σ
  | [] => .ok draft
  | c :: rest =>
    match names with
    | [] => .ok draft
    | name :: names => do
      let draft ← r.put kind draft name ⟨c, fun _ => r.ofContent c⟩
      r.readItems kind draft names rest
end

/-- The node of a given kind with given fields. -/
def ofPayload (r : NodeReader κ σ α) (kind : κ) : Payload → Except Mismatch α
  | .entries es => do
    let draft ← r.readEntries kind (r.record kind).start es
    r.finish kind .missingField draft
  | .items cs => do
    let draft ← r.readItems kind (r.record kind).start (r.record kind).fieldNames cs
    r.finishList kind cs.length draft

/-- Read a node from a JSON value. -/
def ofOutline (r : NodeReader κ σ α) (depth : Nat) (o : Json.Outline) : Except ReadError α := do
  let (kind, payload) ← Tag.ofOutline r.tags r.expected depth o
  ReadError.ofMismatch (r.ofPayload kind payload)

end NodeReader

end HintedSql
