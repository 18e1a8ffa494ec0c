import HintedSql.Routing.Target
set_option relaxedAutoImplicit false
set_option autoImplicit false

/-!
# Directives

A line of a script is a directive if it begins with one of five keywords and a space, in any case
of ASCII letters; what follows is trimmed. A `ROUTE` line names a target and may give a lane in a
later word `lane=…`, of which the part up to a second equals sign counts.

## Main definitions

* `HintedSql.Directive`.
* `HintedSql.Directive.Kind` — the kinds of directives, each with its keyword.
* `HintedSql.Directive.parse?` — the directive a line stands for.
-/

namespace HintedSql

/-- A line of a script. -/
inductive Directive where
  | source (table : String)
  | filter (text : String)
  | select (columns : List String)
  | timeWindow (value : String)
  /-- The lane is absent if no word gives one, and empty if a word gives an empty one. -/
  | route (target : Target) (lane : Option String)
deriving DecidableEq, Repr

namespace Directive

/-- What follows a keyword, if the line begins with it up to the case of ASCII letters. -/
def afterKeyword? : List Char → List Char → Option (List Char)
  | [], rest => some rest
  | _ :: _, [] => none
  | k :: ks, c :: cs =>
    if Text.asciiLowerChar k = Text.asciiLowerChar c then afterKeyword? ks cs else none

/-- The columns between commas, trimmed; empty ones do not count. -/
def columns (cs : List Char) : List String :=
  (((Text.splitOn ',' cs).map Text.trim).filter (!·.isEmpty)).map String.ofList

/-- The lane that a word gives: what stands between its first and its second equals sign. -/
def lane? (word : List Char) : Option String :=
  match word with
  | 'l' :: 'a' :: 'n' :: 'e' :: '=' :: rest => some (String.ofList (rest.takeWhile (· ≠ '=')))
  | _ => none

/-- The target and the lane of a `ROUTE` line. -/
def routeOf (cs : List Char) : Directive :=
  match Text.words cs with
  | [] => route (.ofScriptWord "") none
  | word :: more => route (.ofScriptWord (String.ofList word)) (more.findSome? lane?)

/-- The kinds of directives. -/
inductive Kind where
  | source
  | filter
  | select
  | timeWindow
  | route
deriving DecidableEq, Repr

/-- The kind of a directive. -/
def kind : Directive → Kind
  | source _ => .source
  | filter _ => .filter
  | select _ => .select
  | timeWindow _ => .timeWindow
  | route _ _ => .route

/-- All kinds, in the order in which their keywords are tried. -/
def Kind.all : List Kind :=
  [source, filter, select, timeWindow, route]

/-- The keyword of the directives of a kind, with its space. -/
def Kind.keyword : Kind → String
  | source => "OPEN "
  | filter => "FILTER "
  | select => "SELECT "
  | timeWindow => "TIME WINDOW "
  | route => "ROUTE "

/-- The directive of a kind that the trimmed rest of a line makes. -/
def Kind.make : Kind → List Char → Directive
  | source, cs => .source (String.ofList cs)
  | filter, cs => .filter (String.ofList cs)
  | select, cs => .select (columns cs)
  | timeWindow, cs => .timeWindow (String.ofList cs)
  | route, cs => routeOf cs

/-- The directive a line stands for, if it is one. -/
def ofLine? (line : List Char) : Option Directive :=
  Kind.all.findSome? fun k =>
    (afterKeyword? k.keyword.toList line).map fun rest => k.make (Text.trim rest)

/-- The directive a line stands for, if it is one. -/
def parse? (line : String) : Option Directive :=
  ofLine? line.toList

end Directive

end HintedSql
