import HintedSql.Command.Basic
import HintedSql.Document.Encode
import HintedSql.Log.Event
import HintedSql.Settings.Basic
set_option relaxedAutoImplicit false
set_option autoImplicit false

/-!
# What a run logs

The events of a run in order: how logging is set up, what the command does with its text, and
whether it fails.

## Main definitions

* `HintedSql.LogSettings.events`, `HintedSql.Command.events`, `HintedSql.failureEvent`.
-/

namespace HintedSql

open Log (Event)

/-- A count as a field of an event. -/
def countField (name : String) (n : Nat) : String × Datum :=
  (name, .int n)

/-- The event of setting up logging. -/
def LogSettings.events (s : LogSettings) : List Event :=
  [⟨.debug, "rabridge::logging", "logging initialized",
    [("format", .text (Log.Format.parse s.format).name),
     ("output", .text (Log.Output.parse s.output).name), ("level", .text s.level)]⟩]

/-- The events of compiling a request. -/
def CompileCommand.requestEvents (c : CompileCommand) (r : Request) : List Event :=
  let kind := Datum.text r.expression.kind
  [⟨.debug, "rabridge::commands", "compiling request",
    [("fingerprint", .text r.fingerprint), ("root", kind)]⟩,
   ⟨.trace, "rabridge_sql::compiler", "compiling expression", [("kind", kind)]⟩]
    ++ match c.bodyOnly, r.toSql with
      | false, .ok sql =>
        [⟨.debug, "rabridge_sql::bridge", "compiled relational expression",
          [("kind", kind), countField "hints" (Sql.hints r.options).length,
           countField "bytes" sql.utf8ByteSize]⟩]
      | _, _ => []

/-- The events of compiling a text. -/
def CompileCommand.events (c : CompileCommand) (defaults : Options) (source : String) :
    List Event :=
  match Request.read c.input source with
  | .ok r => c.requestEvents (c.resolve defaults r)
  | .error _ => []

/-- The events of rendering a script. -/
def ScriptCommand.events (source : String) : List Event :=
  (Script.skipped source).map (fun (n, line) =>
    ⟨.debug, "rabridge_legacy::parser", "skipping unrecognized legacy line",
      [countField "line" n, ("text", .text line)]⟩)
    ++ match Script.Rendering.ofText source with
      | .ok r =>
        let script := Script.parse source
        [⟨.debug, "rabridge_legacy", "translated legacy script",
          [countField "filters" script.filters.length,
           countField "columns" script.columns.length]⟩,
         ⟨.info, "rabridge::commands", "legacy script translated",
          [countField "bytes" r.sql.utf8ByteSize]⟩]
      | .error _ => []

/-- The events of running a command on a text. -/
def Command.events (c : Command) (defaults : Options) (source : String) : List Event :=
  match c with
  | .compile c => c.events defaults source
  | .script _ => ScriptCommand.events source

/-- The event of a failure, which tells what could not be done. -/
def failureEvent (context : String) : Event :=
  ⟨.error, "rabridge", "command failed", [("error", .text context)]⟩

end HintedSql
