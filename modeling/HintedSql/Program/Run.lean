import HintedSql.Command.Arguments
import HintedSql.Log.Filter
import HintedSql.Program.EnvFile
import HintedSql.Program.Trace
set_option relaxedAutoImplicit false
set_option autoImplicit false

/-!
# Runs of the program

A run reads variables, settings and an input, and ends with a report: what is written where, and the
exit code. What a run reads comes from a host, so that the same program runs on the files of a
system and on a `FileTree`.

## Main definitions

* `HintedSql.Host` — what a run reads.
* `HintedSql.SettingsError`, `HintedSql.RunError`.
* `HintedSql.Report`, `HintedSql.run`.
-/

namespace HintedSql

/-- What a run reads. -/
structure Host (m : Type → Type) where
  environment : m Variables
  readFile : String → m (Except FileError ByteArray)
  isFile : String → m Bool
  readInput : m (Except FileError ByteArray)
  /-- Create a directory and a log file in it; whether that is possible. -/
  createLog : String → m Bool

/-- The variables, files and input of a run that are all given beforehand. -/
def Host.ofTree (environment : Variables) (tree : FileTree) (input : ByteArray) : Host Id where
  environment := environment
  readFile path := tree.read path
  isFile path := tree.isFile path
  readInput := .ok input
  createLog directory := tree.canCreateIn directory

/-- Why there are no settings. -/
inductive SettingsError where
  | unreadable (e : FileError)
  | invalid (e : Yaml.Error)
  | override (e : OverrideError)
deriving DecidableEq, Repr

/-- What is said about missing settings. What is wrong with their notation is not told. -/
def SettingsError.message : SettingsError → String
  | unreadable e => "Failed to read config file: " ++ e.message
  | invalid _ => "Failed to parse YAML"
  | override e => e.message

/-- Why a command has no output. -/
inductive RunError where
  | unreadable (path : String) (e : FileError)
  | noInput (e : FileError)
  | command (e : CommandError)
deriving DecidableEq, Repr

namespace RunError

/-- What could not be done. -/
def context : RunError → String
  | unreadable path _ => "Failed to read " ++ path
  | noInput _ => "Failed to read stdin"
  | command e => e.context

/-- What could not be done and why. -/
def message (error : RunError) : String :=
  match error with
  | unreadable _ e => error.context ++ ": " ++ e.message
  | noInput e => error.context ++ ": " ++ e.message
  | command e => e.message

end RunError

/-- What a run logs: the events that pass the filter, and where they go. -/
structure LogReport where
  format : Log.Format
  output : Log.Output
  directory : String
  events : List Log.Event
deriving Repr

/-- How a run ends. -/
structure Report where
  exitCode : Nat
  /-- What is written to standard output. -/
  output : String := ""
  /-- The message that is written to standard error. -/
  error : Option String := none
  log : Option LogReport := none
deriving Repr

/-- The name and version of the program. -/
def versionLine : String :=
  "rabridge 0.1.0\n"

/-- How the program is used. -/
def usageText : String :=
  "Usage: rabridge [--config <CONFIG>] compile <INPUT> [--time-block <TIME_BLOCK>]\n"
    ++ "           [--route <ROUTE> [--lane <LANE>]] [--body-only]\n"
    ++ "       rabridge [--config <CONFIG>] legacy <INPUT> [--json]\n"

/-- The report of a command line that leads to no command. -/
def UsageError.report (e : UsageError) : Report :=
  match e with
  | helpRequested => { exitCode := 0, output := usageText }
  | versionRequested => { exitCode := 0, output := versionLine }
  | e => { exitCode := 2, error := e.message }

/-- The file of variables that is read first. -/
def envPath : String :=
  ".env"

/-- The settings that are read if no other path is given. -/
def defaultSettingsPath : String :=
  "rabridge.yaml"

section

variable {m : Type → Type} [Monad m]

/-- The variables of a host under its file of variables, if all of them can be set. -/
def Host.allVariables (host : Host m) : m (Option Variables) := do
  let vars ← host.environment
  if ← host.isFile envPath then
    match ← host.readFile envPath with
    | .ok bytes => return EnvFile.load vars bytes
    | .error _ => return some vars
  else return some vars

/-- Settings in a file under the variables. -/
def Settings.ofBytes (vars : Variables) (file : Except FileError ByteArray) :
    Except SettingsError Settings :=
  match file with
  | .error e => .error (.unreadable e)
  | .ok bytes =>
    match decodeText bytes with
    | .error e => .error (.unreadable e)
    | .ok text =>
      match Settings.ofYaml text with
      | .error e => .error (.invalid e)
      | .ok s =>
        match s.overridden vars with
        | .error e => .error (.override e)
        | .ok s => .ok s

/-- The settings of a run: in the file that is given, else in the default file if there is one, else
from the variables alone. -/
def Host.settings (host : Host m) (vars : Variables) (path : Option String) :
    m (Except SettingsError Settings) := do
  match path with
  | some path => return Settings.ofBytes vars (← host.readFile path)
  | none =>
    if ← host.isFile defaultSettingsPath then
      return Settings.ofBytes vars (← host.readFile defaultSettingsPath)
    else
      match Settings.initial.overridden vars with
      | .error e => return .error (.override e)
      | .ok s => return .ok s

/-- The text that a command works on, where a dash stands for standard input. -/
def Host.source (host : Host m) (path : String) : m (Except RunError String) := do
  if Path.isDash path then
    match ← host.readInput with
    | .error e => return .error (.noInput e)
    | .ok bytes => return (decodeText bytes).mapError RunError.noInput
  else
    match ← host.readFile path with
    | .error e => return .error (.unreadable path e)
    | .ok bytes => return (decodeText bytes).mapError (RunError.unreadable path)

/-- The report of a command under given settings, once its text has been read. -/
def Command.report (c : Command) (settings : Settings) (source : Except RunError String) : Report :=
  let result : Except RunError String :=
    match source with
    | .error e => .error e
    | .ok text => (c.run settings.defaults text).mapError RunError.command
  let steps : List Log.Event :=
    match source with
    | .error _ => []
    | .ok text => c.events settings.defaults text
  let ending : List Log.Event :=
    match result with
    | .ok _ => []
    | .error e => [failureEvent e.context]
  let s := settings.logging
  let log : LogReport :=
    { format := .parse s.format
      output := .parse s.output
      directory := s.directory
      events := (s.events ++ steps ++ ending).filter (Log.Filter.parse s.level).admits }
  match result with
  | .ok out => { exitCode := 0, output := out ++ "\n", log := some log }
  | .error e => { exitCode := 1, error := some e.message, log := some log }

/-- Run the program with given arguments under given variables. -/
def runUnder (host : Host m) (vars : Variables) (args : List String) : m Report := do
  match Invocation.parse (vars "RABRIDGE_CONFIG") args with
  | .error e => return e.report
  | .ok invocation =>
    match ← host.settings vars invocation.config with
    | .error e => return { exitCode := 1, error := some e.message }
    | .ok settings =>
      let logs ←
        if (Log.Output.parse settings.logging.output).toFile then
          host.createLog settings.logging.directory
        else pure true
      if logs then
        let source ← host.source invocation.command.input
        return invocation.command.report settings source
      else return { exitCode := 101 }

/-- Run the program with given arguments. -/
def run (host : Host m) (args : List String) : m Report := do
  match ← host.allVariables with
  | some vars => runUnder host vars args
  | none => return { exitCode := 101 }

end

end HintedSql
