import HintedSql.Text.Visible
import HintedSql.Datum.Writer
import HintedSql.Json.Outline
set_option relaxedAutoImplicit false
set_option autoImplicit false

/-!
# What can be wrong with a document

A document can fail to be JSON at all (`Json.Fault`), or be JSON of the wrong shape (`Mismatch`).

## Main definitions

* `HintedSql.Found` — what was found in the place of something else.
* `HintedSql.Mismatch`, `HintedSql.Mismatch.message`.
* `HintedSql.ReadError` — a fault or a mismatch.
-/

namespace HintedSql

/-- What was found in the place of something else. -/
inductive Found where
  | null
  | bool (b : Bool)
  | int (i : Int)
  | float (x : Double)
  | text (s : String)
  | list
  | record
deriving DecidableEq, Repr

/-- How a message names what was found. -/
def Found.describe : Found → String
  | null => "null"
  | bool true => "boolean `true`"
  | bool false => "boolean `false`"
  | int i => "integer `" ++ toString i ++ "`"
  | float x => "floating point `" ++ Json.float x ++ "`"
  | text s => "string " ++ Text.shown s
  | list => "sequence"
  | record => "map"

/-- What a content is. -/
def Content.found : Content → Found
  | null => .null
  | bool b => .bool b
  | natural n => .int n
  | negative n => .int (-n)
  | float x => .float x
  | text s => .text s
  | list _ => .list
  | map _ => .record

/-- How a document departs from the shape it should have. -/
inductive Mismatch where
  | missingField (name : String)
  | duplicateField (name : String)
  | unknownVariant (name : String) (expected : List String)
  /-- A value that is neither null, a truth value, a number nor a text. -/
  | noValue
  | wrongType (found : Found) (expected : String)
  | wrongContent (found : Found) (expected : String)
  | wrongLength (length : Nat) (expected : String)
deriving DecidableEq, Repr

/-- A name between back quotes. -/
def ticked (s : String) : String :=
  "`" ++ s ++ "`"

/-- What is said about a mismatch. -/
def Mismatch.message : Mismatch → String
  | missingField name => "missing field " ++ ticked name
  | duplicateField name => "duplicate field " ++ ticked name
  | unknownVariant name expected =>
    "unknown variant " ++ ticked name ++ ", expected one of "
      ++ String.intercalate ", " (expected.map ticked)
  | noValue => "data did not match any variant of untagged enum Value"
  | wrongType found expected => "invalid type: " ++ found.describe ++ ", expected " ++ expected
  | wrongContent found expected => "invalid value: " ++ found.describe ++ ", expected " ++ expected
  | wrongLength length expected =>
    "invalid length " ++ toString length ++ ", expected " ++ expected

/-- Why a document cannot be read. -/
inductive ReadError where
  | fault (f : Json.Fault)
  | mismatch (m : Mismatch)
deriving DecidableEq, Repr

namespace ReadError

/-- A result that can only fail to be JSON. -/
def ofFault {α : Type} : Except Json.Fault α → Except ReadError α
  | .ok a => .ok a
  | .error f => .error (.fault f)

/-- A result that can only have the wrong shape. -/
def ofMismatch {α : Type} : Except Mismatch α → Except ReadError α
  | .ok a => .ok a
  | .error m => .error (.mismatch m)

end ReadError

namespace Json.Outline

/-- The error of finding a value of the wrong type. A scalar is read to its end first; a list or
record is recognised by its first character. -/
def mismatch (expected : String) : Outline → ReadError
  | broken f => .fault f
  | cutNumber | cutWord => .fault .ended
  | null => .mismatch (.wrongType .null expected)
  | bool b => .mismatch (.wrongType (.bool b) expected)
  | number n =>
    match n.content with
    | .ok c => .mismatch (.wrongType c.found expected)
    | .error f => .fault f
  | string s =>
    match s.text with
    | .ok t => .mismatch (.wrongType (.text t) expected)
    | .error f => .fault f
  | list _ _ => .mismatch (.wrongType .list expected)
  | record _ _ _ => .mismatch (.wrongType .record expected)

/-- Read a text. -/
def text (o : Outline) : Except ReadError String :=
  match o with
  | string s => ReadError.ofFault s.text
  | o => .error (o.mismatch "a string")

end Json.Outline

/-- Read a whole document: the value, and nothing after it. -/
def Json.Document.read {α : Type} (d : Json.Document)
    (decode : Json.Outline → Except ReadError α) : Except ReadError α := do
  let a ← decode d.root
  if d.extra then .error (.fault .misplaced) else return a

end HintedSql
