import HintedSql.Document.Mismatch
set_option relaxedAutoImplicit false
set_option autoImplicit false

/-!
# Tagged nodes

Expressions and conditions are written as records with a field `kind` that says which node they
are, or as lists whose first item is the kind and whose further items are the fields in order.

The outermost tagged node of a JSON text is read as its text goes by: its kind is judged at once,
and the content of its other fields is kept until the node is complete. Tagged nodes inside it are
read from that content. There, kinds and fields can also be given by their places: `0` is the first
kind, and as a key the first field.

## Main definitions

* `HintedSql.Tag.ofName`, `HintedSql.Tag.ofContent` — the kind that a text or content names.
* `HintedSql.Tag.inRecord` — the kind of a record.
* `HintedSql.Payload`, `HintedSql.Tag.ofOutline` — the outermost node of a JSON text.
* `HintedSql.Content.fieldName` — the field that a key names.
-/

namespace HintedSql

namespace Tag

variable {α : Type}

/-- The kind with a given name. -/
def ofName (tags : List (String × α)) (name : String) : Except Mismatch α :=
  match tags.find? (·.1 == name) with
  | some tag => .ok tag.2
  | none => .error (.unknownVariant name (tags.map (·.1)))

/-- The kind at a given place of the list of kinds. -/
def ofIndex (tags : List (String × α)) (i : Nat) : Except Mismatch α :=
  match tags[i]? with
  | some tag => .ok tag.2
  | none =>
    .error (.wrongContent (.int i) ("variant index 0 <= i < " ++ toString tags.length))

/-- The kind that a content names, by its name or by its place in the list of kinds. -/
def ofContent (tags : List (String × α)) : Content → Except Mismatch α
  | .text s => ofName tags s
  | .natural i => ofIndex tags i
  | c => .error (.wrongType c.found "variant identifier")

/-- Look for the kind among entries, where it may stand once. -/
def search (tags : List (String × α)) (found : Option α) :
    List (Content × Content) → Except Mismatch α
  | [] =>
    match found with
    | some a => .ok a
    | none => .error (.missingField "kind")
  | (.text "kind", c) :: rest =>
    match found with
    | some _ => .error (.duplicateField "kind")
    | none => do
      let a ← ofContent tags c
      search tags (some a) rest
  | _ :: rest => search tags found rest

/-- The kind of a record. -/
def inRecord (tags : List (String × α)) (entries : List (Content × Content)) :
    Except Mismatch α :=
  search tags none entries

end Tag

/-- The fields of a tagged node: with keys, or by position. -/
inductive Payload where
  | entries (es : List (Content × Content))
  | items (cs : List Content)

namespace Tag

variable {α : Type}

open Json (Outline Quoted)

/-- The kind that a value of a JSON text names. -/
def ofValue (tags : List (String × α)) (o : Outline) : Except ReadError α :=
  match o with
  | .string s => do
    let name ← ReadError.ofFault s.text
    ReadError.ofMismatch (ofName tags name)
  | o => .error (o.mismatch "variant identifier")

/-- Read the members of the outermost node in order: the kind at once, of all else the content. -/
def readMembers (tags : List (String × α)) (depth : Nat) (kind : Option α)
    (entries : List (Content × Content)) :
    List (Quoted × Outline) → Except ReadError (Option α × List (Content × Content))
  | [] => .ok (kind, entries.reverse)
  | (k, v) :: rest => do
    let name ← ReadError.ofFault k.text
    if name = "kind" then
      match kind with
      | some _ => .error (.mismatch (.duplicateField "kind"))
      | none =>
        let a ← ofValue tags v
        readMembers tags depth (some a) entries rest
    else
      let c ← ReadError.ofFault (v.content depth)
      readMembers tags depth kind ((.text name, c) :: entries) rest

/-- The kind and the fields of a tagged node that stands inside `depth` lists and records. -/
def ofOutline (tags : List (String × α)) (expected : String) (depth : Nat) (o : Outline) :
    Except ReadError (α × Payload) :=
  match o with
  | .record members fault _ =>
    if depth < Json.depthLimit then do
      let (kind, entries) ← readMembers tags (depth + 1) none [] members
      ReadError.ofFault (Json.check fault)
      match kind with
      | some a => return (a, .entries entries)
      | none => .error (.mismatch (.missingField "kind"))
    else .error (.fault .misplaced)
  | .list [] fault =>
    if depth < Json.depthLimit then do
      ReadError.ofFault (Json.check fault)
      .error (.mismatch (.missingField "kind"))
    else .error (.fault .misplaced)
  | .list (k :: items) fault =>
    if depth < Json.depthLimit then do
      let a ← ofValue tags k
      let cs ← ReadError.ofFault (Outline.itemContents (depth + 1) items)
      ReadError.ofFault (Json.check fault)
      return (a, .items cs)
    else .error (.fault .misplaced)
  | o => .error (o.mismatch expected)

end Tag

/-- The description of a list of the wrong length. -/
def elementsExpected (shape : String) (n : Nat) : String :=
  shape ++ " with " ++ toString n ++ " element" ++ (if n = 1 then "" else "s")

/-- The description of a list that is too long. -/
def sequenceExpected (n : Nat) : String :=
  toString n ++ " element" ++ (if n = 1 then "" else "s") ++ " in sequence"

namespace Content

/-- The field that a key names, by its name or by its place among the fields of a node. A place
that the node does not have names no field. -/
def fieldName (names : List String) : Content → Except Mismatch (Option String)
  | text s => .ok (some s)
  | natural i => .ok names[i]?
  | c => .error (.wrongType c.found "field identifier")

/-- Read a text. -/
def asText : Content → Except Mismatch String
  | text s => .ok s
  | c => .error (.wrongType c.found "a string")

/-- Read a text that may be absent. -/
def asOptionalText : Content → Except Mismatch (Option String)
  | null => .ok none
  | c => some <$> c.asText

/-- Read a list of texts. -/
def asTexts : Content → Except Mismatch (List String)
  | list items => items.mapM asText
  | c => .error (.wrongType c.found "a sequence")

end Content

end HintedSql
