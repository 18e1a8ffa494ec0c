import HintedSql.Document.Yaml
set_option relaxedAutoImplicit false
set_option autoImplicit false

/-!
# Settings

Settings say how events are logged and which hints a request gets that brings none of its own. They
are written in YAML; whatever is left out keeps its default.

## Main definitions

* `HintedSql.LogSettings`, `HintedSql.Settings`.
* `HintedSql.Settings.ofYaml`.
-/

namespace HintedSql

/-- How events are logged. The texts are interpreted when logging begins. -/
structure LogSettings where
  level : String := "warn"
  format : String := "compact"
  output : String := "stderr"
  directory : String := "./logs"
deriving DecidableEq, Repr

/-- The settings of a run. -/
structure Settings where
  logging : LogSettings := {}
  defaults : Options := .empty
deriving DecidableEq, Repr

open Yaml (Node readField)

/-- Read log settings. -/
def LogSettings.ofNode (n : Node) : Except Yaml.Error LogSettings := do
  let members ← n.members "log settings"
  let level ← readField "level" members Node.text
  let format ← readField "format" members Node.text
  let output ← readField "output" members Node.text
  let directory ← readField "directory" members Node.text
  let base : LogSettings := {}
  return ⟨level.getD base.level, format.getD base.format, output.getD base.output,
    directory.getD base.directory⟩

namespace Settings

/-- The settings that hold when nothing is set. -/
def initial : Settings :=
  {}

/-- Read default hints. A time block is a text here. -/
def defaultsOfNode (n : Node) : Except Yaml.Error Options := do
  let members ← n.members "default hints"
  let timeBlock ← readField "time_block" members (Node.optional Node.text)
  let route ← readField "route" members (Node.optional Route.ofNode)
  return ⟨timeBlock.join, route.join⟩

/-- Read settings. -/
def ofNode (n : Node) : Except Yaml.Error Settings := do
  let members ← n.members "settings"
  let logging ← readField "logging" members LogSettings.ofNode
  let defaults ← readField "defaults" members defaultsOfNode
  return ⟨logging.getD initial.logging, defaults.getD initial.defaults⟩

/-- Read settings from YAML text. -/
def ofYaml (s : String) : Except Yaml.Error Settings := do
  let n ← Yaml.ofFault (Yaml.parse s)
  ofNode n

end Settings

end HintedSql
