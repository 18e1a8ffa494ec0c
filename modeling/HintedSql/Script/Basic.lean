import HintedSql.Routing.Options
import HintedSql.Script.Directive
import HintedSql.Sql.Hint
set_option relaxedAutoImplicit false
set_option autoImplicit false

/-!
# Scripts

A script is the sum of its directives. A later table or time window replaces an earlier one, filters
and columns add up, and a route replaces the target; a lane is kept until another one is given,
where an empty lane takes it away. Lines that are no directives are skipped.

## Main definitions

* `HintedSql.Script`, `HintedSql.Script.apply`, `HintedSql.Script.parse`.
* `HintedSql.Script.skipped` — the lines that are no directives.
* `HintedSql.Script.toSql` — the query of a script.
-/

namespace HintedSql

/-- What the directives of a script add up to. -/
structure Script where
  table : Option String := none
  filters : List String := []
  columns : List String := []
  timeWindow : Option String := none
  target : Option Target := none
  lane : Option String := none
deriving DecidableEq, Repr

/-- A script that never names a table has no query. -/
inductive ScriptError where
  | missingTable
deriving DecidableEq, Repr

/-- What is said about a script without a query. -/
def ScriptError.message : ScriptError → String
  | missingTable => "Legacy script missing OPEN statement"

namespace Script

/-- A script without directives. -/
def empty : Script :=
  {}

/-- Add one directive. -/
def apply (s : Script) : Directive → Script
  | .source table => { s with table := some table }
  | .filter text => { s with filters := s.filters ++ [text] }
  | .select columns => { s with columns := s.columns ++ columns }
  | .timeWindow value => { s with timeWindow := some value }
  | .route target none => { s with target := some target }
  | .route target (some lane) =>
    { s with target := some target, lane := if lane.isEmpty then none else some lane }

/-- The trimmed lines of a text that are not blank, numbered from one. -/
def numberedLines (text : String) : List (Nat × List Char) :=
  (((Text.lines text.toList).map Text.trim).zipIdx 1).filterMap fun (line, n) =>
    if line.isEmpty then none else some (n, line)

/-- The directives of a text in order. -/
def directives (text : String) : List Directive :=
  (numberedLines text).filterMap fun (_, line) => Directive.ofLine? line

/-- The script that a text spells. -/
def parse (text : String) : Script :=
  (directives text).foldl apply empty

/-- The lines of a text that are no directives, numbered from one. -/
def skipped (text : String) : List (Nat × String) :=
  (numberedLines text).filterMap fun (n, line) =>
    if (Directive.ofLine? line).isSome then none else some (n, String.ofList line)

/-- The route of a script. -/
def route (s : Script) : Option Route :=
  s.target.map fun target => ⟨target, s.lane⟩

/-- The hints of a script. -/
def options (s : Script) : Options :=
  ⟨s.timeWindow, s.route⟩

/-- The query of a script: its filters are copied as they are. -/
def toSql (s : Script) : Except ScriptError String :=
  match s.table with
  | none => .error .missingTable
  | some table =>
    let condition :=
      if s.filters.isEmpty then [] else ["WHERE " ++ String.intercalate " AND " s.filters]
    .ok (String.intercalate "\n"
      (["SELECT " ++ Sql.columnList s.columns, "FROM " ++ table] ++ condition
        ++ Sql.hints s.options))

end Script

end HintedSql
