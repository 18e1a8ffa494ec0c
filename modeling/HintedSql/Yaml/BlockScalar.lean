import HintedSql.Yaml.Scalar
set_option relaxedAutoImplicit false
set_option autoImplicit false

/-!
# Scalars in lines of their own

After `|` a text is taken line by line as it stands, and after `>` its lines are joined where they
begin with no blank. All lines of the text are indented to one column, that of its first line unless
a digit after the sign tells it; the first line that is indented less ends the text. What becomes of
the line breaks at the end is told by a second sign: without one the first of them is kept, with `-`
none is, and with `+` all are.

## Main definitions

* `HintedSql.Yaml.BlockHeader` — what stands after the sign.
* `HintedSql.Yaml.Lines` — a text as it is read line by line.
* `HintedSql.Yaml.blockScalar`.
-/

namespace HintedSql.Yaml

/-! ## The line of the sign -/

/-- What becomes of the line breaks at the end of a text. -/
inductive Chomping where
  | strip
  | clip
  | keep
deriving DecidableEq, Repr

/-- What stands after the sign of a text in lines of its own: the treatment of its end, and how far
its lines are indented beyond what they belong to. -/
structure BlockHeader where
  chomping : Chomping := .clip
  indent : Option Nat := none
deriving DecidableEq, Repr

/-- The treatment of the end that a character stands for. -/
def Chomping.ofChar? : Char → Option Chomping
  | '-' => some .strip
  | '+' => some .keep
  | _ => none

/-- The indentation that a character stands for, which is not zero. -/
def indentOfChar? (c : Char) : Option Nat :=
  if '1' ≤ c ∧ c ≤ '9' then some (c.toNat - '0'.toNat) else none

namespace BlockHeader

/-- Read at most one sign of each sort, in any order, and tell how many there are. -/
def read : List Char → BlockHeader × Nat
  | c :: cs =>
    match Chomping.ofChar? c, indentOfChar? c with
    | some chomping, _ =>
      match cs.head?.bind indentOfChar? with
      | some indent => (⟨chomping, some indent⟩, 2)
      | none => (⟨chomping, none⟩, 1)
    | none, some indent =>
      match cs.head?.bind Chomping.ofChar? with
      | some chomping => (⟨chomping, some indent⟩, 2)
      | none => (⟨.clip, some indent⟩, 1)
    | none, none => ({}, 0)
  | [] => ({}, 0)

/-- The column of the lines inside what stands in column `outer`, if it is told. -/
def column? (h : BlockHeader) (outer : Nat) : Option Nat :=
  h.indent.map fun n => outer - 1 + n

end BlockHeader

/-! ## Lines -/

/-- A text as it is read line by line. -/
structure Lines where
  /-- Whether the line breaks are kept. -/
  literal : Bool
  /-- The column that the lines are indented to at least. -/
  least : Nat
  /-- The column of the lines, once it is known. -/
  column : Option Nat
  /-- The furthest column that blanks have reached before it is known. -/
  widest : Nat := 0
  /-- The text up to the end of the last line, last character first. -/
  text : List Char := []
  /-- Whether the last line began with a blank. -/
  indented : Bool := false
  /-- The line break after the last line. -/
  ended : List Char := []
  /-- The line breaks after that one, last first. -/
  empty : List Char := []
deriving Repr

namespace Lines

/-- Whether a place is still in front of the column of the lines. -/
def isMargin (l : Lines) (column : Nat) : Bool :=
  l.column.all (column < ·)

/-- The column of the lines, if they begin at a given one. -/
def columnAt (l : Lines) (column : Nat) : Nat :=
  l.column.getD (max (max l.widest column) (max l.least 1))

/-- Add a line break behind an empty line that ends at a given column. -/
def emptyLine (l : Lines) (column : Nat) (c : Char) : Lines :=
  { l with widest := max l.widest column, empty := Fold.breakValue c :: l.empty }

/-- Add a line break behind a line. -/
def endLine (l : Lines) (c : Char) : Lines :=
  { l with ended := [Fold.breakValue c] }

/-- The text with what the line breaks so far stand for, where `c` goes on: between two lines that
begin with no blank a single line break reads as a space, and of several the first is dropped. -/
def joined (l : Lines) (c : Char) : List Char :=
  if !l.literal && l.ended == ['\n'] && !l.indented && !isBlank c then
    (if l.empty.isEmpty then [' '] else l.empty) ++ l.text
  else l.empty ++ (l.ended ++ l.text)

/-- Begin a line with a character, at a given column. -/
def beginLine (l : Lines) (column : Nat) (c : Char) : Lines :=
  { l with
    column := some column
    text := c :: l.joined c
    indented := isBlank c
    ended := []
    empty := [] }

/-- Add a character to a line. -/
def push (l : Lines) (c : Char) : Lines :=
  { l with text := c :: l.text }

/-- The whole text. -/
def toString (l : Lines) (chomping : Chomping) : String :=
  String.ofList (match chomping with
    | .strip => l.text
    | .clip => l.ended ++ l.text
    | .keep => l.empty ++ (l.ended ++ l.text)).reverse

end Lines

/-- Read on, inside a line or in front of one, up to the first line that is indented less. -/
def linesFrom (inside : Bool) (l : Lines) (p : Position) :
    List Char → Except Fault (Lines × Cursor)
  | [] => .ok (l, ⟨[], p, true⟩)
  | '\r' :: '\n' :: cs =>
    let l := if inside then l.endLine '\n' else l.emptyLine p.column '\n'
    linesFrom false l ((p.after '\r' ('\n' :: cs)).after '\n' cs) cs
  | c :: cs =>
    if isBreak c then
      let l := if inside then l.endLine c else l.emptyLine p.column c
      linesFrom false l (p.after c cs) cs
    else if inside then linesFrom true (l.push c) (p.after c cs) cs
    else if c == ' ' && l.isMargin p.column then linesFrom false l (p.after c cs) cs
    else if c == '\t' && l.isMargin p.column then .error .misplaced
    else if l.columnAt p.column == p.column then
      linesFrom true (l.beginLine p.column c) (p.after c cs) cs
    else .ok (l, ⟨c :: cs, p, true⟩)

/-- Read a text in lines of its own from its sign, inside what stands in column `outer`. -/
def blockScalar (outer : Nat) (c : Cursor) : Except Fault (String × Cursor) := do
  let (header, signs) := BlockHeader.read (c.rest.drop 1)
  let start ← (c.past (1 + signs)).lineEnd
  let lines : Lines :=
    { literal := c.rest.head? == some '|', least := outer, column := header.column? outer }
  let (lines, next) ←
    match start.rest with
    | '\r' :: '\n' :: cs =>
      linesFrom false lines ((start.position.after '\r' ('\n' :: cs)).after '\n' cs) cs
    | d :: cs => linesFrom false lines (start.position.after d cs) cs
    | [] => .ok (lines, { start with fresh := true })
  return (lines.toString header.chomping, next)

end HintedSql.Yaml
