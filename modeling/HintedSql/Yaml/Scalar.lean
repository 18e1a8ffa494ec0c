import HintedSql.Yaml.Cursor
set_option relaxedAutoImplicit false
set_option autoImplicit false

/-!
# YAML scalars

A scalar is written plainly, between single quotes, or between double quotes. Each form may go over
several lines: a single line break reads as a space, and of several the first is dropped.

## Main definitions

* `HintedSql.Yaml.Fold` — a scalar's text as it is read, with line breaks folded.
* `HintedSql.Yaml.plain`, `HintedSql.Yaml.singleFrom`, `HintedSql.Yaml.doubleFrom`.
-/

namespace HintedSql.Yaml

/-! ## Folding lines -/

/-- A scalar's text as it is read: what is settled, last character first, and the blanks and line
breaks met since. After a line break blanks do not count. -/
structure Fold where
  settled : List Char := []
  blanks : List Char := []
  breaks : List Char := []
  /-- Whether a line has ended since the last character. -/
  broken : Bool := false
  /-- Whether that line ended with a backslash. -/
  escaped : Bool := false
deriving Repr

namespace Fold

/-- What a line break stands for. -/
def breakValue (c : Char) : Char :=
  if c == '\u2028' || c == '\u2029' then c else '\n'

/-- The characters that line breaks read as, last first. -/
def folded : List Char → List Char
  | [] => []
  | breaks =>
    match breaks.getLast?, breaks.dropLast with
    | some '\n', [] => [' ']
    | some '\n', later => later
    | _, _ => breaks

/-- The text so far, last character first. -/
def text (f : Fold) : List Char :=
  if f.escaped then f.breaks ++ f.settled
  else if f.broken then folded f.breaks ++ f.settled
  else f.blanks ++ f.settled

/-- Add a character of the text. -/
def push (f : Fold) (c : Char) : Fold :=
  ⟨c :: f.text, [], [], false, false⟩

/-- Add a blank. -/
def blank (f : Fold) (c : Char) : Fold :=
  if f.broken then f else { f with blanks := c :: f.blanks }

/-- Add a line break, where `next` follows it. -/
def lineBreak (f : Fold) (c : Char) (next : List Char) : Fold :=
  if c == '\r' && next.head? == some '\n' then f
  else { f with blanks := [], breaks := breakValue c :: f.breaks, broken := true }

/-- Add a line break that a backslash takes out of the text. -/
def escapedBreak (f : Fold) : Fold :=
  ⟨f.text, [], [], true, true⟩

/-- The text as a string. -/
def toString (f : Fold) : String :=
  String.ofList f.text.reverse

/-- The text as a string, without blanks and line breaks at its end. -/
def trimmed (f : Fold) : String :=
  String.ofList f.settled.reverse

end Fold

/-! ## Plain scalars -/

/-- Whether a character has a meaning of its own in front of a scalar. -/
def isIndicator (c : Char) : Bool :=
  "-?:,[]\x7b\x7d#&*!|>'\"%@`".toList.contains c

/-- Whether a character ends a plain scalar inside brackets. -/
def isFlowEnd (c : Char) : Bool :=
  c == ',' || c == '[' || c == ']' || c == '\x7b' || c == '\x7d'

/-- Whether a plain scalar begins here. -/
def startsPlain (flow : Bool) : List Char → Bool
  | [] => false
  | c :: rest =>
    if c == '-' then !startsBlank rest
    else if c == '?' || c == ':' then !flow && !startsBlank rest
    else !isIndicator c && !isBlank c && !isBreak c

/-- Read the rest of a plain scalar. A further line belongs to it inside brackets, and outside if it
is indented to column `least` at least. -/
def plainFrom (flow : Bool) (least : Nat) (f : Fold) (p : Position) :
    List Char → Except Fault (String × Cursor)
  | [] => .ok (f.trimmed, ⟨[], p, f.broken⟩)
  | c :: cs =>
    let here : Cursor := ⟨c :: cs, p, f.broken⟩
    let between := f.broken || !f.blanks.isEmpty
    if isBreak c then plainFrom flow least (f.lineBreak c cs) (p.after c cs) cs
    else if isBlank c then
      if f.broken && p.column < least && c == '\t' then .error .misplaced
      else plainFrom flow least (f.blank c) (p.after c cs) cs
    else if f.broken && !flow && p.column < least then .ok (f.trimmed, here)
    else if between && (here.atMarker || c == '#') then .ok (f.trimmed, here)
    else if flow && c == ':' && cs.head?.any (fun d => isFlowEnd d || d == '?') then
      .error .misplaced
    else if c == ':' && startsBlank cs then .ok (f.trimmed, here)
    else if flow && isFlowEnd c then .ok (f.trimmed, here)
    else plainFrom flow least (f.push c) (p.after c cs) cs

/-- Read a plain scalar. -/
def plain (flow : Bool) (least : Nat) (c : Cursor) : Except Fault (String × Cursor) :=
  if startsPlain flow c.rest then plainFrom flow least {} c.position c.rest
  else .error .misplaced

/-! ## Quoted scalars -/

/-- Read the rest of a single-quoted scalar. A doubled quote stands for one. -/
def singleFrom (f : Fold) (p : Position) : List Char → Except Fault (String × Cursor)
  | [] => .error .unclosed
  | '\'' :: '\'' :: cs =>
    singleFrom (f.push '\'') ((p.after '\'' ('\'' :: cs)).after '\'' cs) cs
  | c :: cs =>
    if c == '\'' then .ok (f.toString, ⟨cs, p.after c cs, false⟩)
    else if isBreak c then singleFrom (f.lineBreak c cs) (p.after c cs) cs
    else if isBlank c then singleFrom (f.blank c) (p.after c cs) cs
    else if f.broken && (Cursor.mk (c :: cs) p false).atMarker then .error .misplaced
    else singleFrom (f.push c) (p.after c cs) cs

/-- What a backslash and a letter stand for. -/
def escapeValue (c : Char) : Option Char :=
  match c with
  | '0' => some '\x00'
  | 'a' => some '\x07'
  | 'b' => some '\x08'
  | 't' | '\t' => some '\t'
  | 'n' => some '\n'
  | 'v' => some '\x0b'
  | 'f' => some '\x0c'
  | 'r' => some '\r'
  | 'e' => some '\x1b'
  | ' ' => some ' '
  | '"' => some '"'
  | '/' => some '/'
  | '\\' => some '\\'
  | 'N' => some '\u0085'
  | '_' => some '\u00a0'
  | 'L' => some '\u2028'
  | 'P' => some '\u2029'
  | _ => none

/-- How many hexadecimal digits follow a letter after a backslash. -/
def escapeWidth (c : Char) : Option Nat :=
  match c with
  | 'x' => some 2
  | 'u' => some 4
  | 'U' => some 8
  | _ => none

/-- The value of a hexadecimal digit. -/
def hexValue (c : Char) : Option Nat :=
  if '0' ≤ c ∧ c ≤ '9' then some (c.toNat - '0'.toNat)
  else if 'a' ≤ c ∧ c ≤ 'f' then some (c.toNat - 'a'.toNat + 10)
  else if 'A' ≤ c ∧ c ≤ 'F' then some (c.toNat - 'A'.toNat + 10)
  else none

/-- The character with a given code, if there is one. -/
def charOfCode (n : Nat) : Option Char :=
  if n.isValidChar then some (Char.ofNat n) else none

/-- Where the reader of a double-quoted scalar is: in the text, after a backslash, after a
backslash and the carriage return of a line break, or among the digits of a code. -/
inductive DoubleState where
  | text
  | backslash
  | return
  | code (missing : Nat) (value : Nat)
deriving Repr

/-- Read the rest of a double-quoted scalar. -/
def doubleFrom (state : DoubleState) (f : Fold) (p : Position) :
    List Char → Except Fault (String × Cursor)
  | [] => .error .unclosed
  | c :: cs =>
    match state with
    | .text =>
      if c == '"' then .ok (f.toString, ⟨cs, p.after c cs, false⟩)
      else if c == '\\' then doubleFrom .backslash f (p.after c cs) cs
      else if isBreak c then doubleFrom .text (f.lineBreak c cs) (p.after c cs) cs
      else if isBlank c then doubleFrom .text (f.blank c) (p.after c cs) cs
      else if f.broken && (Cursor.mk (c :: cs) p false).atMarker then .error .misplaced
      else doubleFrom .text (f.push c) (p.after c cs) cs
    | .backslash =>
      if isBreak c then
        if c == '\r' && cs.head? == some '\n' then doubleFrom .return f (p.after c cs) cs
        else doubleFrom .text f.escapedBreak (p.after c cs) cs
      else
        match escapeWidth c, escapeValue c with
        | some width, _ => doubleFrom (.code width 0) f (p.after c cs) cs
        | none, some v => doubleFrom .text (f.push v) (p.after c cs) cs
        | none, none => .error .escape
    | .return => doubleFrom .text f.escapedBreak (p.after c cs) cs
    | .code missing value =>
      match hexValue c with
      | none => .error .escape
      | some digit =>
        let value := 16 * value + digit
        if 1 < missing then doubleFrom (.code (missing - 1) value) f (p.after c cs) cs
        else
          match charOfCode value with
          | some v => doubleFrom .text (f.push v) (p.after c cs) cs
          | none => .error .escape

end HintedSql.Yaml
