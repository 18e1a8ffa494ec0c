import HintedSql.Yaml.Node
set_option relaxedAutoImplicit false
set_option autoImplicit false

/-!
# Anchors, tags and directives

In front of a node there may be an anchor and a tag, in any order. A reference to an anchor stands
in place of a node and has neither. In front of a document that begins with `---` there may be
directives, each on a line of its own: the version of YAML, and what the handles of tags stand for.

## Main definitions

* `HintedSql.Yaml.anchorName`, `HintedSql.Yaml.tagName`.
* `HintedSql.Yaml.Property` — what stands in front of a node.
* `HintedSql.Yaml.directives`.
-/

namespace HintedSql.Yaml

/-! ## Names of anchors -/

/-- Whether the name of an anchor can end here. -/
def endsName : List Char → Bool
  | [] => true
  | c :: _ => isBlank c || isBreak c || "?:,]\x7d%@`".toList.contains c

/-- Read the name of an anchor after its sign. -/
def anchorName (c : Cursor) : Except Fault (String × Cursor) :=
  let name := (c.rest.drop 1).takeWhile isNameChar
  let next := c.past (1 + name.length)
  if name.isEmpty || !endsName next.rest then .error .misplaced
  else .ok (String.ofList name, next)

/-! ## Names of tags -/

/-- Whether a character can stand in a tag. Inside `<>` and in directives there are more. -/
def isTagChar (wide : Bool) (c : Char) : Bool :=
  isNameChar c || ";/?:@&=+$.!~*'()".toList.contains c || (wide && ",[]".toList.contains c)

/-- Read `count` bytes that are each written with `%` and two hexadecimal digits. -/
def escapedBytes : Nat → List Char → Option (List UInt8)
  | 0, _ => some []
  | count + 1, '%' :: a :: b :: cs => do
    let byte := UInt8.ofNat (16 * (← hexValue a) + (← hexValue b))
    return byte :: (← escapedBytes count cs)
  | _ + 1, _ => none

/-- How many bytes the character has that begins with a given one. -/
def byteCount (byte : UInt8) : Nat :=
  if byte < 0x80 then 1
  else if byte < 0xE0 then 2
  else if byte < 0xF0 then 3
  else 4

/-- Read the character that is written with escaped bytes here, and tell how many there are. -/
def escapedChar (cs : List Char) : Option (Char × Nat) := do
  let first ← (← escapedBytes 1 cs).head?
  let count := byteCount first
  let s ← String.fromUTF8? ⟨(← escapedBytes count cs).toArray⟩
  return (← s.toList.head?, count)

/-- Read the characters of a tag, of which `skip` are part of an escaped one that has been read, and
tell how many there are. -/
def tagChars (wide : Bool) (skip : Nat) : List Char → Except Fault (List Char × Nat)
  | [] => .ok ([], 0)
  | c :: cs =>
    if 0 < skip then do
      let (text, count) ← tagChars wide (skip - 1) cs
      return (text, count + 1)
    else if c == '%' then
      match escapedChar (c :: cs) with
      | some (d, bytes) => do
        let (text, count) ← tagChars wide (3 * bytes - 1) cs
        return (d :: text, count + 1)
      | none => .error .escape
    else if isTagChar wide c then do
      let (text, count) ← tagChars wide 0 cs
      return (c :: text, count + 1)
    else .ok ([], 0)

/-- Read the text of a tag. -/
def tagText (wide : Bool) (c : Cursor) : Except Fault (String × Cursor) := do
  let (text, count) ← tagChars wide 0 c.rest
  return (String.ofList text, c.past count)

/-- Read the text of a tag, which is not empty. -/
def someTagText (wide : Bool) (c : Cursor) : Except Fault (String × Cursor) := do
  let (text, next) ← tagText wide c
  if text.isEmpty then .error .misplaced else return (text, next)

/-- Read a handle between two exclamation marks, if there is one. -/
def handle? (c : Cursor) : Option (String × Cursor) :=
  let name := (c.rest.drop 1).takeWhile isNameChar
  let next := c.past (1 + name.length)
  match next.rest with
  | '!' :: _ => some (String.ofList ('!' :: name ++ ['!']), next.past 1)
  | _ => none

/-- Read a tag up to its last character: in full inside `<>`, after a handle, or after an
exclamation mark. The exclamation mark alone is a tag as well. -/
def tagText? (c : Cursor) : Except Fault (TagName × Cursor) :=
  match c.rest.drop 1, handle? c with
  | '<' :: _, _ => do
    let (text, next) ← someTagText true (c.past 2)
    match next.rest with
    | '>' :: _ => return (⟨"", text⟩, next.past 1)
    | _ => .error .misplaced
  | _, some (handle, next) => do
    let (text, next) ← someTagText false next
    return (⟨handle, text⟩, next)
  | _, none => do
    let (text, next) ← tagText false (c.past 1)
    return (if text.isEmpty then ⟨"", "!"⟩ else ⟨"!", text⟩, next)

/-- Read a tag, with a blank after it, or inside brackets a comma. -/
def tagName (flow : Bool) (c : Cursor) : Except Fault (TagName × Cursor) := do
  let (tag, next) ← tagText? c
  if startsBlank next.rest || (flow && next.rest.head? == some ',') then return (tag, next)
  else .error .misplaced

/-! ## What stands in front of a node -/

/-- What stands in front of a node. -/
inductive Property where
  | anchor (name : String)
  | tag (name : TagName)
deriving DecidableEq, Repr

/-- Whether an anchor or a tag stands here. -/
def Cursor.atProperty (c : Cursor) : Bool :=
  c.atAny ['&', '!']

namespace Property

/-- Read an anchor or a tag, and go on to what follows it. -/
def read (flow : Bool) (c : Cursor) : Except Fault (Property × Cursor) :=
  match c.rest with
  | '&' :: _ => do
    let (name, next) ← anchorName c
    return (.anchor name, next.gap flow)
  | _ => do
    let (name, next) ← tagName flow c
    return (.tag name, next.gap flow)

/-- A node with an anchor or a tag in front of it. It has each of them only once, the anchor in
front of the tag, and a reference has neither. -/
def decorate : Property → Node → Except Fault Node
  | _, .reference _ => .error .misplaced
  | .anchor _, .anchored _ _ => .error .misplaced
  | .anchor name, node => .ok (.anchored name node)
  | .tag name, .anchored other node => do return .anchored other (← (tag name).decorate node)
  | .tag _, .tagged _ _ => .error .misplaced
  | .tag name, node => .ok (.tagged name node)

end Property

/-- Read the anchor and the tag in front of a node, if they stand on one line outside brackets. -/
def properties (c : Cursor) : Except Fault (List Property × Cursor) :=
  if c.atProperty then do
    let (first, next) ← Property.read false c
    if next.atProperty && c.sameLine next then
      let (second, next) ← Property.read false next
      return ([first, second], next)
    else return ([first], next)
  else .ok ([], c)

/-! ## Directives -/

/-- The directives that have been read: whether one of them was the version, and what handles stand
for. -/
structure Directives where
  hasVersion : Bool := false
  handles : List (String × String) := []
deriving Repr

namespace Directives

/-- The handles that need no directive. -/
def commonHandles : List (String × String) :=
  [("!", "!"), ("!!", TagName.commonStem)]

/-- What a handle stands for. -/
def stem? (d : Directives) (handle : String) : Option String :=
  (d.handles ++ commonHandles).lookup handle

end Directives

/-- Read a number of at most nine digits. -/
def versionNumber (c : Cursor) : Except Fault (Nat × Cursor) :=
  let digits := c.rest.takeWhile Char.isDigit
  if digits.isEmpty || 9 < digits.length then .error .misplaced
  else .ok (Decimal.ofDigits digits, c.past digits.length)

/-- Read a version of YAML, of which two are known. -/
def version (c : Cursor) : Except Fault Cursor := do
  let (major, next) ← versionNumber c
  match next.rest with
  | '.' :: _ =>
    let (minor, next) ← versionNumber (next.past 1)
    if major == 1 && (minor == 1 || minor == 2) then return next else .error .misplaced
  | _ => .error .misplaced

/-- Read a handle and what it stands for. -/
def handleStem (c : Cursor) : Except Fault ((String × String) × Cursor) := do
  let (handle, next) ←
    match c.rest, handle? c with
    | '!' :: _, some (handle, next) => .ok (handle, next)
    | '!' :: _, none => .ok ("!", c.past 1)
    | _, _ => .error .misplaced
  if next.rest.head?.any isBlank then
    let (stem, next) ← someTagText true next.pastBlanks
    if startsBlank next.rest then return ((handle, stem), next) else .error .misplaced
  else .error .misplaced

/-- Read a directive from its sign, each version and handle at most once. -/
def directive (d : Directives) (c : Cursor) : Except Fault (Directives × Cursor) := do
  let name := (c.rest.drop 1).takeWhile isNameChar
  let next := c.past (1 + name.length)
  let (d, next) ←
    if !startsBlank next.rest then .error .misplaced
    else if name == "YAML".toList then do
      let next ← version next.pastBlanks
      if d.hasVersion then .error .misplaced else .ok ({ d with hasVersion := true }, next)
    else if name == "TAG".toList then do
      let (entry, next) ← handleStem next.pastBlanks
      if (d.handles.lookup entry.1).isSome then .error .misplaced
      else .ok ({ d with handles := entry :: d.handles }, next)
    else .error .misplaced
  let next ← next.lineEnd
  return (d, next.gap false)

/-- Read the directives in front of a document. -/
def directives : Nat → Directives → Cursor → Except Fault (Directives × Cursor)
  | 0, _, _ => .error .depth
  | bound + 1, d, c =>
    match c.rest with
    | '%' :: _ =>
      if c.column == 0 then do
        let (d, next) ← directive d c
        directives bound d next
      else .error .misplaced
    | _ => .ok (d, c)

end HintedSql.Yaml
