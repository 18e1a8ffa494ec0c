import HintedSql.Datum.Basic
import HintedSql.Text.Case
set_option relaxedAutoImplicit false
set_option autoImplicit false

/-!
# Log events

An event tells what the program does: how severe it is, which part of the program it comes from, and
a message with further fields.

## Main definitions

* `HintedSql.Log.Level`, `HintedSql.Log.Event`.
* `HintedSql.Log.Event.toDatum` — an event as a document.
* `HintedSql.Log.Format`, `HintedSql.Log.Output` — how and where events are written.
-/

namespace HintedSql.Log

/-- How severe an event is. -/
inductive Level where
  | error
  | warn
  | info
  | debug
  | trace
deriving DecidableEq, Repr

namespace Level

/-- The levels from the most severe on. -/
def all : List Level :=
  [error, warn, info, debug, trace]

/-- The place of a level among all levels, where the most severe is first. -/
def rank : Level → Nat
  | error => 1
  | warn => 2
  | info => 3
  | debug => 4
  | trace => 5

/-- The name of a level. -/
def name : Level → String
  | error => "error"
  | warn => "warn"
  | info => "info"
  | debug => "debug"
  | trace => "trace"

/-- The name of a level as it stands in events. -/
def title : Level → String
  | error => "ERROR"
  | warn => "WARN"
  | info => "INFO"
  | debug => "DEBUG"
  | trace => "TRACE"

end Level

/-- Something that happened in a run. -/
structure Event where
  level : Level
  /-- The part of the program that the event comes from. -/
  target : String
  message : String
  fields : List (String × Datum) := []
deriving Repr

/-- An event as a document. -/
def Event.toDatum (e : Event) : Datum :=
  .record [("level", .text e.level.title), ("target", .text e.target),
    ("fields", .record (("message", .text e.message) :: e.fields))]

/-- How events are written to standard error. -/
inductive Format where
  | pretty
  | json
  | compact
deriving DecidableEq, Repr

namespace Format

/-- The format with a given name, up to case; an unknown name means compact. -/
def parse (s : String) : Format :=
  match Text.asciiLower s with
  | "pretty" => pretty
  | "json" => json
  | _ => compact

/-- The name of a format as it stands in events. -/
def name : Format → String
  | pretty => "Pretty"
  | json => "Json"
  | compact => "Compact"

end Format

/-- Where events are written. -/
inductive Output where
  | stderr
  | file
  | both
deriving DecidableEq, Repr

namespace Output

/-- The output with a given name, up to case; an unknown name means standard error. -/
def parse (s : String) : Output :=
  match Text.asciiLower s with
  | "file" => file
  | "both" => both
  | _ => stderr

/-- The name of an output as it stands in events. -/
def name : Output → String
  | stderr => "Stderr"
  | file => "File"
  | both => "Both"

/-- Whether events are written to standard error. -/
def toStderr : Output → Bool
  | file => false
  | _ => true

/-- Whether events are written to a file. -/
def toFile : Output → Bool
  | stderr => false
  | _ => true

end Output

end HintedSql.Log
