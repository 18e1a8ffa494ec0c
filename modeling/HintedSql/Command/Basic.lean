import HintedSql.Command.Source
import HintedSql.Script.Rendering
import HintedSql.Sql.Hint
set_option relaxedAutoImplicit false
set_option autoImplicit false

/-!
# Commands

There are two commands: one compiles a request, the other renders a script. The hints of a
compiled request come from the command line, else from the document, else from the settings.

## Main definitions

* `HintedSql.CompileCommand`, `HintedSql.CompileCommand.run`.
* `HintedSql.ScriptCommand`, `HintedSql.ScriptCommand.run`.
* `HintedSql.CommandError` — why a command has no output.
-/

namespace HintedSql

/-- Compile a request. -/
structure CompileCommand where
  input : String
  timeBlock : Option String := none
  target : Option Target := none
  /-- The lane within the target; without a target it has no effect. -/
  lane : Option String := none
  /-- Leave the hint lines out. -/
  bodyOnly : Bool := false
deriving DecidableEq, Repr

/-- Render a script. -/
structure ScriptCommand where
  input : String
  /-- Write the rendered script as a document. -/
  json : Bool := false
deriving DecidableEq, Repr

/-- A command. -/
inductive Command where
  | compile (c : CompileCommand)
  | script (c : ScriptCommand)
deriving DecidableEq, Repr

/-- Why a text that was read leads to no output. -/
inductive CommandError where
  | request (input : String) (e : RequestError)
  | compile (input : String) (e : Sql.CompileError)
  | script (input : String) (e : ScriptError)
deriving DecidableEq, Repr

namespace CommandError

/-- What could not be done. -/
def context : CommandError → String
  | request input e => "Invalid " ++ e.formatName ++ " request in " ++ input
  | compile input _ => "Failed to compile " ++ input
  | script input _ => "Failed to translate " ++ input

/-- What could not be done and why. What is wrong with a document is not told here. -/
def message (error : CommandError) : String :=
  match error with
  | request _ _ => error.context
  | compile _ e => error.context ++ ": " ++ e.message
  | script _ e => error.context ++ ": " ++ e.message

end CommandError

namespace CompileCommand

/-- The hints of the command line. -/
def options (c : CompileCommand) : Options where
  timeBlock := c.timeBlock
  route := c.target.map fun target => ⟨target, c.lane⟩

/-- The request under the hints of the command line and the default hints. -/
def resolve (c : CompileCommand) (defaults : Options) (r : Request) : Request :=
  { r with options := (c.options.orElse r.options).orElse defaults }

/-- The text of a request that has been resolved. -/
def text (c : CompileCommand) (r : Request) : Except Sql.CompileError String :=
  if c.bodyOnly then Sql.compile r.expression else r.toSql

/-- Compile the request that a text holds. -/
def run (c : CompileCommand) (defaults : Options) (source : String) :
    Except CommandError String :=
  match Request.read c.input source with
  | .error e => .error (.request c.input e)
  | .ok r =>
    match c.text (c.resolve defaults r) with
    | .ok sql => .ok sql
    | .error e => .error (.compile c.input e)

end CompileCommand

namespace ScriptCommand

/-- Render the script that a text holds. -/
def run (c : ScriptCommand) (source : String) : Except CommandError String :=
  match Script.Rendering.ofText source with
  | .error e => .error (.script c.input e)
  | .ok r => .ok (if c.json then r.toDatum.pretty else r.sql)

end ScriptCommand

namespace Command

/-- Where the text of a command comes from. -/
def input : Command → String
  | compile c => c.input
  | script c => c.input

/-- Run a command on a text. -/
def run (c : Command) (defaults : Options) (source : String) : Except CommandError String :=
  match c with
  | compile c => c.run defaults source
  | script c => c.run source

end Command

end HintedSql
