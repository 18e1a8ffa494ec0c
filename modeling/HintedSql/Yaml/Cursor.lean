set_option relaxedAutoImplicit false
set_option autoImplicit false

/-!
# Places in a YAML text

YAML gives meaning to lines and columns, so a reader keeps its place next to the rest of the text. A
place is *fresh* where a block key or a `-` may stand: at the start of the text, after a line break
outside brackets, and after the `-` of an item.

## Main definitions

* `HintedSql.Yaml.Fault` — why a text is not a YAML document.
* `HintedSql.Yaml.Position`, `HintedSql.Yaml.Cursor`.
* `HintedSql.Yaml.Cursor.gap` — skip blanks, comments and line breaks.
* `HintedSql.Yaml.Cursor.lineEnd` — the end of a line that holds nothing more.
* `HintedSql.Yaml.Cursor.isKey` — whether what was read can be the key of a mapping.
-/

namespace HintedSql.Yaml

/-- Why a text is not a YAML document. -/
inductive Fault where
  /-- A character that a YAML text may not hold. -/
  | character
  /-- A quoted scalar that does not end. -/
  | unclosed
  /-- A backslash with something after it that it cannot escape. -/
  | escape
  /-- Something that may not stand where it stands. -/
  | misplaced
  /-- A whole number that is too large. -/
  | range
  /-- Lists and mappings nested too deep. -/
  | depth
  /-- A tag that is not known, or that does not fit what it stands in front of. -/
  | tag
  /-- A reference to an anchor that was not set. -/
  | anchor
  /-- Too many references that are followed. -/
  | repetition
deriving DecidableEq, Repr

/-! ## Characters -/

/-- Whether a YAML text may hold a character. -/
def isAllowed (c : Char) : Bool :=
  let n := c.toNat
  n == 0x09 || n == 0x0A || n == 0x0D || (0x20 ≤ n && n ≤ 0x7E) || n == 0x85
    || (0xA0 ≤ n && n ≤ 0xD7FF) || (0xE000 ≤ n && n ≤ 0xFFFD) || 0x10000 ≤ n

/-- Whether a character ends a line. -/
def isBreak (c : Char) : Bool :=
  c == '\n' || c == '\r' || c == '\u0085' || c == '\u2028' || c == '\u2029'

/-- Whether a character separates words on a line. -/
def isBlank (c : Char) : Bool :=
  c == ' ' || c == '\t'

/-- Whether a character can stand in the name of an anchor. -/
def isNameChar (c : Char) : Bool :=
  ('0' ≤ c && c ≤ '9') || ('A' ≤ c && c ≤ 'Z') || ('a' ≤ c && c ≤ 'z') || c == '_' || c == '-'

/-- Whether a text begins with a blank, begins with a line break, or is empty. -/
def startsBlank : List Char → Bool
  | [] => true
  | c :: _ => isBlank c || isBreak c

/-! ## Positions -/

/-- How far into a text a place is. -/
structure Position where
  index : Nat
  line : Nat
  column : Nat
deriving DecidableEq, Repr

namespace Position

/-- The start of a text. -/
def start : Position :=
  ⟨0, 0, 0⟩

/-- The position after a character, where `next` follows it. A carriage return before a line feed is
one line break with it. -/
def after (p : Position) (c : Char) (next : List Char) : Position :=
  if isBreak c && !(c == '\r' && next.head? == some '\n') then ⟨p.index + 1, p.line + 1, 0⟩
  else ⟨p.index + 1, p.line, p.column + 1⟩

end Position

/-! ## Cursors -/

/-- A place in a text: what follows, where that is, and whether it is fresh. -/
structure Cursor where
  rest : List Char
  position : Position
  fresh : Bool
deriving Repr

namespace Cursor

/-- The start of a text. -/
def start (cs : List Char) : Cursor :=
  ⟨cs, .start, true⟩

/-- The column of a place. -/
def column (c : Cursor) : Nat :=
  c.position.column

/-- The place after `n` characters that are no line breaks. It is not fresh. -/
def past (c : Cursor) (n : Nat) : Cursor :=
  ⟨c.rest.drop n, ⟨c.position.index + n, c.position.line, c.position.column + n⟩, false⟩

/-- Whether a text begins with three equal characters and a blank or its end. -/
def isMarker (m : Char) : List Char → Bool
  | a :: b :: c :: rest => a == m && b == m && c == m && startsBlank rest
  | _ => false

/-- Whether the start of a document is marked here. -/
def atOpening (c : Cursor) : Bool :=
  c.column == 0 && isMarker '-' c.rest

/-- Whether the end of a document is marked here. -/
def atClosing (c : Cursor) : Bool :=
  c.column == 0 && isMarker '.' c.rest

/-- Whether a document marker stands here. -/
def atMarker (c : Cursor) : Bool :=
  c.atOpening || c.atClosing

/-- Whether the document ends here. -/
def atEnd (c : Cursor) : Bool :=
  c.rest.isEmpty || c.atMarker

/-- Whether a character with a blank or the end of the text after it stands here. -/
def atSign (sign : Char) (c : Cursor) : Bool :=
  match c.rest with
  | d :: rest => d == sign && startsBlank rest
  | [] => false

/-- Whether one of some characters stands here. -/
def atAny (signs : List Char) (c : Cursor) : Bool :=
  c.rest.head?.any signs.contains

/-- Whether an item of a block list begins here. -/
def atDash (c : Cursor) : Bool :=
  c.atSign '-'

/-- Whether a key of a block mapping is announced here. -/
def atQuestion (c : Cursor) : Bool :=
  c.atSign '?'

/-- Whether the value of a block mapping begins here. -/
def atValue (c : Cursor) : Bool :=
  c.atSign ':'

/-- Whether another place is on the same line. -/
def sameLine (c d : Cursor) : Bool :=
  c.position.line == d.position.line

/-- Skip blanks, comments and line breaks from a given position. Outside brackets a tab is no blank
at a fresh place. A byte order mark at the start of a line is skipped as well, and takes up a
column. -/
def gapFrom (flow comment : Bool) (p : Position) (fresh : Bool) : List Char → Cursor
  | [] => ⟨[], p, fresh⟩
  | c :: cs =>
    if isBreak c then gapFrom flow false (p.after c cs) (fresh || !flow) cs
    else if comment then gapFrom flow true (p.after c cs) fresh cs
    else if c == ' ' || (c == '\t' && (flow || !fresh)) || (c == '\ufeff' && p.column == 0) then
      gapFrom flow false (p.after c cs) fresh cs
    else if c == '#' then gapFrom flow true (p.after c cs) fresh cs
    else ⟨c :: cs, p, fresh⟩

/-- Skip blanks, comments and line breaks, inside brackets or outside. -/
def gap (flow : Bool) (c : Cursor) : Cursor :=
  gapFrom flow false c.position c.fresh c.rest

/-- Skip blanks. -/
def pastBlanks (c : Cursor) : Cursor :=
  c.past (c.rest.takeWhile isBlank).length

/-- The place of the next line break or of the end of the text, if only blanks and a comment stand
in front of it. -/
def lineEnd (c : Cursor) : Except Fault Cursor :=
  let next := c.pastBlanks
  match next.rest with
  | '#' :: rest => .ok (next.past (1 + (rest.takeWhile (!isBreak ·)).length))
  | d :: _ => if isBreak d then .ok next else .error .misplaced
  | [] => .ok next

/-- The most characters that a key and the blanks after it may have. -/
def keyLimit : Nat :=
  1024

/-- Whether what was read from `c` to `colon` can be a key: it stands on one line and is not too
long. -/
def isKey (c colon : Cursor) : Bool :=
  c.sameLine colon && colon.position.index ≤ c.position.index + keyLimit

end Cursor

end HintedSql.Yaml
