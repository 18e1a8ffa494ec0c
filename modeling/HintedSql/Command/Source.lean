import HintedSql.Document.Yaml
set_option relaxedAutoImplicit false
set_option autoImplicit false

/-!
# Source documents

Which notation a request is written in is told by the extension of its path.

## Main definitions

* `HintedSql.Path.fileName?`, `HintedSql.Path.extension?`.
* `HintedSql.RequestError`, `HintedSql.Request.read`.
-/

namespace HintedSql

namespace Path

/-- The components of a path. Empty components and single dots do not count. -/
def components (path : String) : List String :=
  ((Text.splitOn '/' path.toList).map String.ofList).filter fun c => c != "" && c != "."

/-- Whether a path is a single dash. Slashes and single dots after it do not count. -/
def isDash (path : String) : Bool :=
  components path == ["-"] && path.startsWith "-"

/-- The last component of a path, if it names a file or directory. -/
def fileName? (path : String) : Option String :=
  match (components path).getLast? with
  | some ".." | none => none
  | some name => some name

/-- What follows the last point of a file's name, unless that point begins the name. -/
def extension? (path : String) : Option String := do
  let name ← fileName? path
  let cs := name.toList.reverse
  let after := cs.takeWhile (· != '.')
  match cs.dropWhile (· != '.') with
  | [] | [_] => none
  | _ => some (String.ofList after.reverse)

/-- Whether a path names a YAML file. -/
def isYaml (path : String) : Bool :=
  match extension? path with
  | some "yaml" | some "yml" => true
  | _ => false

end Path

/-- Why a text is no request, in the notation it should be written in. -/
inductive RequestError where
  | json (e : ReadError)
  | yaml (e : Yaml.Error)
deriving DecidableEq, Repr

/-- The name of that notation. -/
def RequestError.formatName : RequestError → String
  | json _ => "JSON"
  | yaml _ => "YAML"

/-- Read the request that a path holds. -/
def Request.read (path text : String) : Except RequestError Request :=
  if Path.isYaml path then
    match Request.ofYaml text with
    | .ok r => .ok r
    | .error e => .error (.yaml e)
  else
    match Request.ofJson text with
    | .ok r => .ok r
    | .error e => .error (.json e)

end HintedSql
