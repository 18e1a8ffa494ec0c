import HintedSql.Settings.Basic
set_option relaxedAutoImplicit false
set_option autoImplicit false

/-!
# Settings from environment variables

Environment variables override settings. A route variable replaces the default target and keeps its
lane; a lane variable needs a default route. The variables are looked at one after another, and the
first that cannot be used ends the overriding: what was changed before stays changed.

## Main definitions

* `HintedSql.Variables` — environment variables by name.
* `HintedSql.OverrideError`.
* `HintedSql.Settings.override`, `HintedSql.Settings.overridden`.
-/

namespace HintedSql

/-- Environment variables by name. -/
abbrev Variables :=
  String → Option String

/-- The variables of the names in a list, where the first entry of a name counts. -/
def Variables.ofList (vars : List (String × String)) : Variables :=
  fun name => (vars.find? (·.1 == name)).map (·.2)

/-- A variable that cannot be used. -/
inductive OverrideError where
  /-- The default route names no target. -/
  | route (e : UnknownTarget)
  /-- A default lane without a default route. -/
  | lane
deriving DecidableEq, Repr

namespace OverrideError

/-- The name of the variable. -/
def variableName : OverrideError → String
  | route _ => "RABRIDGE_DEFAULT_ROUTE"
  | lane => "RABRIDGE_DEFAULT_LANE"

/-- Why the variable cannot be used. -/
def reason : OverrideError → String
  | route e => e.message
  | lane => "no default route target is configured"

/-- What is said about a variable that cannot be used. -/
def message (e : OverrideError) : String :=
  "Invalid value for environment variable " ++ e.variableName ++ ": " ++ e.reason

end OverrideError

namespace LogSettings

/-- Override the log settings. -/
def override (s : LogSettings) (vars : Variables) : LogSettings where
  level := (vars "RUST_LOG").getD s.level
  format := (vars "LOG_FORMAT").getD s.format
  output := (vars "LOG_OUTPUT").getD s.output
  directory := (vars "LOG_DIR").getD s.directory

end LogSettings

namespace Settings

/-- Override what can hold any text. -/
def overrideTexts (s : Settings) (vars : Variables) : Settings where
  logging := s.logging.override vars
  defaults :=
    { s.defaults with
      timeBlock := (vars "RABRIDGE_DEFAULT_TIME_BLOCK").or s.defaults.timeBlock }

/-- Replace the default target and keep its lane. -/
def withTarget (s : Settings) (target : Target) : Settings :=
  { s with
    defaults := s.defaults.withRoute ⟨target, s.defaults.route.bind Route.lane⟩ }

/-- Override the default target. -/
def overrideTarget (s : Settings) (vars : Variables) : Settings × Option OverrideError :=
  match vars "RABRIDGE_DEFAULT_ROUTE" with
  | none => (s, none)
  | some name =>
    match Target.parse name with
    | .ok target => (s.withTarget target, none)
    | .error e => (s, some (.route e))

/-- Override the default lane. -/
def overrideLane (s : Settings) (vars : Variables) : Settings × Option OverrideError :=
  match vars "RABRIDGE_DEFAULT_LANE" with
  | none => (s, none)
  | some lane =>
    match s.defaults.route with
    | some route =>
      ({ s with defaults := s.defaults.withRoute { route with lane := some lane } }, none)
    | none => (s, some .lane)

/-- Override settings, up to the first variable that cannot be used. -/
def override (s : Settings) (vars : Variables) : Settings × Option OverrideError :=
  match (s.overrideTexts vars).overrideTarget vars with
  | (s, some e) => (s, some e)
  | (s, none) => s.overrideLane vars

/-- The settings under all variables, if all can be used. -/
def overridden (s : Settings) (vars : Variables) : Except OverrideError Settings :=
  match s.override vars with
  | (s, none) => .ok s
  | (_, some e) => .error e

end Settings

end HintedSql
