import HintedSql.Program.File
import HintedSql.Text.Alphanumeric
import HintedSql.Settings.Override
set_option relaxedAutoImplicit false
set_option autoImplicit false

/-!
# Files of environment variables

A file of variables has lines `NAME=value`, which may begin with `export`. A value may be quoted, in
part or whole, and quotes may go over several lines. Between single quotes every character stands
for itself; elsewhere a backslash escapes, and `$NAME` stands for the value of a variable. A blank
ends a value that is not quoted, and only a comment can follow it.

Variables that are set already are kept, so of several lines for one name the first counts. Reading
stops at the first line that cannot be read. A variable cannot be set to a value with a null
character, which is the end of the program.

## Main definitions

* `HintedSql.EnvFile.lines` — the lines of a file, where quotes join lines.
* `HintedSql.EnvFile.parseLine` — the assignment of a line.
* `HintedSql.EnvFile.load` — the variables under a file.
-/

namespace HintedSql.EnvFile

/-! ## Lines -/

/-- Where the end of a line stands: in the text, after a backslash, after white space, or between
quotes, after a backslash or not. -/
inductive LineState where
  | text
  | escape
  | space
  | double
  | doubleEscape
  | single
  | singleEscape
deriving DecidableEq, Repr

namespace LineState

/-- The state after a character of the text. -/
def afterText (c : Char) : LineState :=
  if c == '\\' then escape
  else if c == '"' then double
  else if c == '\'' then single
  else text

/-- The state after a character. -/
def next (c : Char) : LineState → LineState
  | text => if Text.isSpace c && c != '\n' && c != '\r' then space else afterText c
  | space => afterText c
  | escape => text
  | double => if c == '\\' then doubleEscape else if c == '"' then text else double
  | doubleEscape => double
  | single => if c == '\\' then singleEscape else if c == '\'' then text else single
  | singleEscape => single

/-- Read a line to its end or to a comment, which begins after white space. The characters before
the comment are given last first. -/
def scan (s : LineState) (before : List Char) : List Char → LineState × Option (List Char)
  | [] => (s, none)
  | c :: cs =>
    if s == space && c == '#' then (text, some before)
    else (s.next c).scan (c :: before) cs

end LineState

/-- Drop a line feed at the end, and a carriage return before it. -/
def dropEnd (cs : List Char) : List Char :=
  match cs.reverse with
  | '\n' :: '\r' :: rest => rest.reverse
  | '\n' :: rest => rest.reverse
  | _ => cs

/-- Join lines that are inside quotes at their end. A line that is never complete, and one that is
no text, cannot be read. -/
def join (before : List Char) (state : LineState) :
    List (Option (List Char)) → List (Option (List Char))
  | [] => if state == .text then [] else [none]
  | none :: _ => [none]
  | some line :: rest =>
    let whole := before ++ line
    if (Text.trimLeft whole).head? == some '#' then some [] :: join [] .text rest
    else
      match state.scan [] line with
      | (_, some comment) => some (before ++ comment.reverse) :: join [] .text rest
      | (.text, none) => some (dropEnd whole) :: join [] .text rest
      | (state, none) => join whole state rest

/-- Cut bytes after every line feed. -/
def cut (line : List UInt8) : List UInt8 → List (List UInt8)
  | [] => if line.isEmpty then [] else [line.reverse]
  | b :: bs => if b == 10 then (b :: line).reverse :: cut [] bs else cut (b :: line) bs

/-- Drop a byte order mark. -/
def dropMark : List UInt8 → List UInt8
  | 0xEF :: 0xBB :: 0xBF :: bs => bs
  | bs => bs

/-- The lines of a file, as far as they can be read. -/
def lines (bytes : ByteArray) : List (Option (List Char)) :=
  join [] .text ((cut [] (dropMark bytes.toList)).map fun line =>
    (String.fromUTF8? ⟨line.toArray⟩).map String.toList)

/-! ## Assignments -/

/-- Whether a name can begin with a character. -/
def startsName (c : Char) : Bool :=
  c.isAlpha || c == '_'

/-- Whether a name can hold a character. -/
def inName (c : Char) : Bool :=
  c.isAlphanum || c == '_' || c == '.'

/-- Read a name and the white space after it. -/
def readName (cs : List Char) : Option (String × List Char) :=
  if cs.head?.any startsName then
    some (String.ofList (cs.takeWhile inName), Text.trimLeft (cs.dropWhile inName))
  else none

/-- Whether a value goes on inside quotes. -/
inductive Quoting where
  | none
  | single
  | double
deriving DecidableEq, Repr

/-- How a variable inside a value is written: `$NAME`, with letters and digits only, or `$` with the
name between braces. -/
inductive Reference where
  | bare
  | braced
deriving DecidableEq, Repr

/-- Where the reader of a value is. -/
inductive ValueState where
  | text (quoting : Quoting)
  | escape (quoting : Quoting)
  | reference (quoting : Quoting) (style : Reference) (name : List Char)
  /-- After a blank that ended the value. -/
  | done
deriving DecidableEq, Repr

/-- What a backslash and a character stand for. -/
def escapeValue (c : Char) : Option Char :=
  if c == 'n' then some '\n'
  else if c == '\\' || c == '\'' || c == '"' || c == '$' || c == ' ' then some c
  else none

/-- Add the value of a variable to a value, last character first. A variable that is not set has no
characters. -/
def addReference (vars : Variables) (name value : List Char) : List Char :=
  ((vars (String.ofList name.reverse)).getD "").toList.reverse ++ value

/-- Read a value, whose characters so far are given last first. -/
def readValue (vars : Variables) (state : ValueState) (value : List Char) :
    List Char → Option String
  | [] =>
    match state with
    | .text .none | .escape .none | .done => some (String.ofList value.reverse)
    | .reference .none .bare name =>
      some (String.ofList (addReference vars name value).reverse)
    | _ => none
  | c :: cs =>
    match state with
    | .done =>
      if c == ' ' || c == '\t' then readValue vars .done value cs
      else if c == '#' then some (String.ofList value.reverse)
      else none
    | .escape quoting =>
      match escapeValue c with
      | some v => readValue vars (.text quoting) (v :: value) cs
      | none => none
    | .text .single =>
      if c == '\'' then readValue vars (.text .none) value cs
      else readValue vars (.text .single) (c :: value) cs
    | .reference quoting .bare name =>
      if Text.isAlphanumeric c then readValue vars (.reference quoting .bare (c :: name)) value cs
      else if c == '\x7b' && name.isEmpty then
        readValue vars (.reference quoting .braced []) value cs
      else
        let value := addReference vars name value
        if c == '$' then readValue vars (.reference quoting .bare []) value cs
        else readValue vars (.text quoting) (c :: value) cs
    | .reference quoting .braced name =>
      if c == '\x7d' then readValue vars (.text quoting) (addReference vars name value) cs
      else readValue vars (.reference quoting .braced (c :: name)) value cs
    | .text quoting =>
      if c == '$' then readValue vars (.reference quoting .bare []) value cs
      else if c == '\\' then readValue vars (.escape quoting) value cs
      else if quoting == .double then
        if c == '"' then readValue vars (.text .none) value cs
        else readValue vars (.text .double) (c :: value) cs
      else if c == '\'' then readValue vars (.text .single) value cs
      else if c == '"' then readValue vars (.text .double) value cs
      else if c == ' ' || c == '\t' then readValue vars .done value cs
      else readValue vars (.text .none) (c :: value) cs

/-- What a line does. -/
inductive Line where
  | blank
  | assign (name value : String)
deriving DecidableEq, Repr

/-- Read the equals sign and the value of a name. -/
def readAssignment (vars : Variables) (name : String) : List Char → Option Line
  | '=' :: cs =>
    let cs := Text.trimLeft cs
    if cs.isEmpty || cs.head? == some '#' then some (.assign name "")
    else (readValue vars (.text .none) [] cs).map (Line.assign name)
  | _ => none

/-- Read a line, without white space at its ends. The word `export` may stand in front of a name, or
be one. -/
def parseLine (vars : Variables) (cs : List Char) : Option Line :=
  let cs := Text.trim cs
  if cs.isEmpty || cs.head? == some '#' then some .blank
  else
    match readName cs with
    | none => none
    | some (name, rest) =>
      if name == "export" && rest.head? != some '=' then
        match readName rest with
        | some (name, rest) => readAssignment vars name rest
        | none => none
      else readAssignment vars name rest

/-! ## Variables -/

/-- Set a variable that is not set. There is no result if the value cannot be set. -/
def assign (vars : Variables) (name value : String) : Option Variables :=
  if (vars name).isSome then some vars
  else if value.toList.contains '\x00' then none
  else some fun n => if n == name then some value else vars n

/-- The variables after some lines. -/
def loadLines (vars : Variables) : List (Option (List Char)) → Option Variables
  | [] => some vars
  | none :: _ => some vars
  | some cs :: rest =>
    match parseLine vars cs with
    | none => some vars
    | some .blank => loadLines vars rest
    | some (.assign name value) =>
      match assign vars name value with
      | none => none
      | some vars => loadLines vars rest

/-- The variables under a file. -/
def load (vars : Variables) (bytes : ByteArray) : Option Variables :=
  loadLines vars (lines bytes)

end HintedSql.EnvFile
