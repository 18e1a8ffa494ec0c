import HintedSql.Text.Space
import HintedSql.Text.Case
set_option relaxedAutoImplicit false
set_option autoImplicit false

/-!
# Targets

The backends a query can be routed to, and the three ways in which a target is named: exactly, as
in documents; up to case and surrounding white space, as on the command line; and loosely, as in
scripts, where there are further names and an unknown one means `bigquery`.

## Main definitions

* `HintedSql.Target`, `HintedSql.Target.name`.
* `HintedSql.Target.ofName?`, `HintedSql.Target.parse`, `HintedSql.Target.ofScriptWord`.
-/

namespace HintedSql

/-- A backend that a query can be routed to. -/
inductive Target where
  | bigquery
  | cloudsql
  | firestore
  | gcs
deriving DecidableEq, Repr

/-- A text that names no target. -/
structure UnknownTarget where
  text : String
deriving DecidableEq, Repr

/-- What is said about a text that names no target. -/
def UnknownTarget.message (e : UnknownTarget) : String :=
  "Unknown backend target: " ++ e.text ++ " (expected one of bigquery, cloudsql, firestore, gcs)"

namespace Target

/-- The name of a target. -/
def name : Target → String
  | bigquery => "bigquery"
  | cloudsql => "cloudsql"
  | firestore => "firestore"
  | gcs => "gcs"

/-- All targets. -/
def all : List Target :=
  [bigquery, cloudsql, firestore, gcs]

/-- The target with exactly this name. -/
def ofName? (s : String) : Option Target :=
  all.find? (·.name == s)

/-- The target with this name, up to the case of ASCII letters and surrounding white space. -/
def parse (s : String) : Except UnknownTarget Target :=
  match all.find? fun t => Text.sameIgnoringCase t.name (Text.trimmed s) with
  | some t => .ok t
  | none => .error ⟨s⟩

/-- The target that a lower-cased word of a script means. -/
def ofLowerWord : String → Target
  | "cloudsql" | "cloud_sql" | "sql" => cloudsql
  | "firestore" => firestore
  | "gcs" | "storage" => gcs
  | _ => bigquery

/-- The target that a word of a script means. -/
def ofScriptWord (s : String) : Target :=
  ofLowerWord (Text.lowerForm s)

end Target

end HintedSql
