import HintedSql.Request
import HintedSql.Datum.Writer
import HintedSql.Digest.Sha256
set_option relaxedAutoImplicit false
set_option autoImplicit false

/-!
# Canonical documents

Every request, expression, condition and value has one canonical document: fields stand in a fixed
order, `kind` first, hints and aliases that are absent are left out, and everything else is
written. Its JSON text without white space is the canonical text, whose digest is the fingerprint.

## Main definitions

* `HintedSql.Value.toDatum`, `HintedSql.Condition.toDatum`, `HintedSql.Expression.toDatum`,
  `HintedSql.Options.toDatum`, `HintedSql.Request.toDatum`.
* `HintedSql.Expression.canonical`, `HintedSql.Request.canonical` and the fingerprints.
-/

namespace HintedSql

/-- A field that is left out when it is absent. -/
def optionalField (name : String) : Option Datum → List (String × Datum)
  | none => []
  | some d => [(name, d)]

/-- The document of a value. -/
def Value.toDatum : Value → Datum
  | null => .null
  | bool b => .bool b
  | int i => .int i.toInt
  | float x => .float x
  | text s => .text s

/-- The name of a comparison in documents. -/
def Comparison.name : Comparison → String
  | eq => "eq"
  | gt => "gt"
  | lt => "lt"

/-- The name of a connective in documents. -/
def Connective.name : Connective → String
  | and => "and"
  | or => "or"

/-- The document of a condition. -/
def Condition.toDatum : Condition → Datum
  | compare op column value =>
    .record [("kind", .text op.name), ("column", .text column), ("value", value.toDatum)]
  | connect op left right =>
    .record [("kind", .text op.name), ("left", left.toDatum), ("right", right.toDatum)]

/-- The document of an expression. -/
def Expression.toDatum : Expression → Datum
  | table t =>
    .record ([("kind", .text "table"), ("name", .text t.name)]
      ++ optionalField "alias" (t.asName.map Datum.text))
  | selection input predicate =>
    .record [("kind", .text "selection"), ("from", input.toDatum),
      ("predicate", predicate.toDatum)]
  | projection input columns =>
    .record [("kind", .text "projection"), ("from", input.toDatum),
      ("columns", .list (columns.map Datum.text))]
  | join kind left right on =>
    .record [("kind", .text "join"), ("left", left.toDatum), ("right", right.toDatum),
      ("on", on.toDatum), ("join_type", .text kind.name)]

/-- The document of a time block. -/
def timeBlockDatum (value : String) : Datum :=
  .record [("value", .text value)]

/-- The document of a route. -/
def Route.toDatum (r : Route) : Datum :=
  .record ([("target", .text r.target.name)] ++ optionalField "lane" (r.lane.map Datum.text))

/-- The document of hint options. -/
def Options.toDatum (o : Options) : Datum :=
  .record (optionalField "time_block" (o.timeBlock.map timeBlockDatum)
    ++ optionalField "route" (o.route.map Route.toDatum))

/-- The document of a request. -/
def Request.toDatum (r : Request) : Datum :=
  .record [("expression", r.expression.toDatum), ("options", r.options.toDatum)]

/-- The canonical text of a value. -/
def Value.canonical (v : Value) : String :=
  v.toDatum.compact

/-- The canonical text of a condition. -/
def Condition.canonical (c : Condition) : String :=
  c.toDatum.compact

/-- The canonical text of an expression. -/
def Expression.canonical (e : Expression) : String :=
  e.toDatum.compact

/-- The canonical text of hint options. -/
def Options.canonical (o : Options) : String :=
  o.toDatum.compact

/-- The canonical text of a request. -/
def Request.canonical (r : Request) : String :=
  r.toDatum.compact

/-- The SHA-256 digest of the UTF-8 bytes of a text, in hexadecimal. -/
def textDigest (s : String) : String :=
  Digest.sha256Hex s.toUTF8.toList

/-- The digest of the canonical text of an expression. -/
def Expression.fingerprint (e : Expression) : String :=
  textDigest e.canonical

/-- The digest of the canonical text of a request. -/
def Request.fingerprint (r : Request) : String :=
  textDigest r.canonical

end HintedSql
