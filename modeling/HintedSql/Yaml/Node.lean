import HintedSql.Yaml.Scalar
import HintedSql.Number.Decimal
import HintedSql.Document.Content
set_option relaxedAutoImplicit false
set_option autoImplicit false

/-!
# YAML nodes and their content

A YAML document is a tree of nodes. What a scalar stands for depends on how it is written: quoted
scalars are texts, while a plain scalar may be null, a truth value or a number. A tag in front of a
scalar overrides this.

A node may have an anchor, and a reference to the anchor stands for the node. As read, a document
has anchors and references in it; then they are linked, and a reference is the node it stands for.
Only a reference to a node that it is part of is left as it is, and has no content.

## Main definitions

* `HintedSql.Yaml.TagName`, `HintedSql.Yaml.Node`.
* `HintedSql.Yaml.resolve` — the content of a plain scalar.
* `HintedSql.Yaml.TagName.resolve` — the content of a scalar with a tag.
* `HintedSql.Yaml.Node.content` — the content of a node.
* `HintedSql.Yaml.Node.spend` — how many references are followed for it.
-/

namespace HintedSql.Yaml

/-- A tag: a handle, which stands for the beginning of the tag, and the rest. A tag that is written
out in full has no handle. -/
structure TagName where
  handle : String
  suffix : String
deriving DecidableEq, Repr

/-- A node of a YAML document. An absent node is the empty plain scalar. -/
inductive Node where
  | plain (text : String)
  | quoted (text : String)
  | list (items : List Node)
  | map (entries : List (Node × Node))
  | tagged (tag : TagName) (node : Node)
  | anchored (anchor : String) (node : Node)
  | reference (anchor : String)
  /-- What a reference stands for. -/
  | shared (node : Node)
deriving Repr

/-- The absent node. -/
def Node.absent : Node :=
  .plain ""

/-! ## Plain scalars -/

/-- Whether a text is a word for null. -/
def isNullWord (s : String) : Bool :=
  ["~", "null", "Null", "NULL"].contains s

/-- Whether a plain scalar stands for null. -/
def isNull (s : String) : Bool :=
  s == "" || isNullWord s

/-- The truth value that a plain scalar stands for. -/
def truth? (s : String) : Option Bool :=
  if ["true", "True", "TRUE"].contains s then some true
  else if ["false", "False", "FALSE"].contains s then some false
  else none

/-- The number that digits of a base spell. There has to be a digit. -/
def natOfDigits? (base : Nat) (cs : List Char) : Option Nat :=
  if cs.isEmpty then none
  else
    cs.foldl (fun n c =>
      match n, hexValue c with
      | some n, some d => if d < base then some (base * n + d) else none
      | _, _ => none) (some 0)

/-- Whether a numeral is several digits with a zero in front, which is a text. -/
def hasLeadingZero (cs : List Char) : Bool :=
  match cs with
  | '0' :: rest => !rest.isEmpty && rest.all Decimal.isDigit
  | _ => false

/-- The whole number that an unsigned numeral spells: hexadecimal after `0x`, octal after `0o`,
binary after `0b`, else decimal. -/
def natOfNumeral? (cs : List Char) : Option Nat :=
  match cs with
  | '0' :: 'x' :: ds => natOfDigits? 16 ds
  | '0' :: 'o' :: ds => natOfDigits? 8 ds
  | '0' :: 'b' :: ds => natOfDigits? 2 ds
  | ds => if hasLeadingZero ds then none else natOfDigits? 10 ds

/-- The floating-point number that a plain scalar spells. A numeral beyond all doubles is a text. -/
def float? (cs : List Char) : Option Double :=
  let (negative, ds) := Decimal.readSign cs
  let word := String.ofList ds
  if [".inf", ".Inf", ".INF"].contains word then some (.infinite negative)
  else if [".nan", ".NaN", ".NAN"].contains (String.ofList cs) then some .nan
  else if hasLeadingZero ds then none
  else
    match Decimal.readUnsigned negative ds with
    | some d => if d.toDouble.isFinite then some d.toDouble else none
    | none => none

/-- The content of a whole number that fits in 64 bits, with sign if there is a minus. Up to 128
bits it is too large, and beyond there is none. -/
def whole? (negative : Bool) (n : Nat) : Except Fault (Option Content) :=
  if negative then
    if n ≤ Nat.pow 2 63 then .ok (some (.negative n))
    else if n ≤ Nat.pow 2 127 then .error .range
    else .ok none
  else
    if n < Nat.pow 2 64 then .ok (some (.natural n))
    else if n < Nat.pow 2 128 then .error .range
    else .ok none

/-- The content of a numeral for a whole number. -/
def integer? (s : String) : Except Fault (Option Content) :=
  let (negative, ds) := Decimal.readSign s.toList
  match natOfNumeral? ds with
  | some n => whole? negative n
  | none => .ok none

/-- The content of a plain scalar. A whole number that is beyond all limits is a floating-point
number. -/
def resolve (s : String) : Except Fault Content :=
  if isNull s then .ok .null
  else
    match truth? s with
    | some b => .ok (.bool b)
    | none => do
      match ← integer? s, float? s.toList with
      | some c, _ => return c
      | none, some x => return .float x
      | none, none => return .text s

/-! ## Scalars with tags -/

namespace TagName

/-- What the tags of the common types begin with. -/
def commonStem : String :=
  "tag:yaml.org,2002:"

/-- The name of a tag that is private to its document, which begins with an exclamation mark. -/
def localName? (t : TagName) : Option String :=
  match t.suffix.toList with
  | '!' :: [] => some "!"
  | '!' :: name => some (String.ofList name)
  | _ => none

/-- Whether a tag is private to its document. -/
def isLocal (t : TagName) : Bool :=
  t.localName?.isSome

/-- Whether a tag is that of a common type. -/
def isCommon (t : TagName) (type : String) : Bool :=
  t.suffix == commonStem ++ type

/-- Whether a scalar with a tag is a text, however it is written. -/
def isText (t : TagName) : Bool :=
  ["bool", "int", "float", "null"].all (!t.isCommon ·) && !t.isLocal

/-- A scalar that has to be of the type of its tag. -/
def fitting {α : Type} : Option α → Except Fault α
  | some a => .ok a
  | none => .error .tag

/-- The content of a scalar with a tag. Tags of other than the common types make it a text, and
private ones have no content. -/
def resolve (t : TagName) (s : String) : Except Fault Content :=
  if t.isLocal then .error .tag
  else if t.isCommon "bool" then Content.bool <$> fitting (truth? s)
  else if t.isCommon "int" then integer? s >>= fitting
  else if t.isCommon "float" then Content.float <$> fitting (float? s.toList)
  else if t.isCommon "null" then if isNullWord s then .ok .null else .error .tag
  else .ok (.text s)

end TagName

/-! ## Nodes -/

namespace Node

/-- The text of a node that is a scalar and nothing else. -/
def scalar? : Node → Option String
  | plain s | quoted s => some s
  | _ => none

/-- The node without tags and anchors around it, and in place of a reference to it. -/
def bare : Node → Node
  | tagged _ node | anchored _ node | shared node => node.bare
  | node => node

/-- The tag of a node. -/
def tag? : Node → Option TagName
  | tagged tag _ => some tag
  | anchored _ node | shared node => node.tag?
  | _ => none

/-- Whether a node has a private tag. -/
def isPrivate (n : Node) : Bool :=
  n.tag?.any TagName.isLocal

/-- The text of a scalar, as it is written. -/
def text? (n : Node) : Option String :=
  n.bare.scalar?

mutual
/-- The content of a node in which lists and mappings are nested at most `room` deep. A private tag
has none, and neither has a reference to a node that it is part of. -/
def content (room : Nat) : Node → Except Fault Content
  | plain s => resolve s
  | quoted s => .ok (.text s)
  | tagged tag node =>
    match node.text? with
    | some s => tag.resolve s
    | none => if tag.isLocal then .error .tag else node.content room
  | anchored _ node | shared node => node.content room
  | reference _ => .error .depth
  | list items =>
    match room with
    | 0 => .error .depth
    | room + 1 => do
      let cs ← itemContents room items
      return .list cs
  | map entries =>
    match room with
    | 0 => .error .depth
    | room + 1 => do
      let es ← entryContents room entries
      return .map es

/-- The contents of a list of nodes. -/
def itemContents (room : Nat) : List Node → Except Fault (List Content)
  | [] => .ok []
  | n :: ns => do
    let c ← n.content room
    let cs ← itemContents room ns
    return c :: cs

/-- The contents of the entries of a mapping. -/
def entryContents (room : Nat) :
    List (Node × Node) → Except Fault (List (Content × Content))
  | [] => .ok []
  | (k, v) :: es => do
    let key ← k.content room
    let c ← v.content room
    let rest ← entryContents room es
    return (key, c) :: rest
end

/-- The text of the key of an entry, if that is what its tag says it is. -/
def key? (n : Node) : Option String :=
  if n.tag?.all TagName.isText then n.text? else none

/-- The name by which a node chooses one of several things: the text, or a private tag in front of
null. -/
def choice? (n : Node) : Option String :=
  match n.tag?.bind TagName.localName?, n.bare with
  | none, _ => n.text?
  | some name, plain s => if isNull s then some name else none
  | some _, _ => none

/-- Whether a node stands for nothing where a value may be absent. -/
def isAbsent (n : Node) : Except Fault Bool :=
  match n.bare, n.tag? with
  | plain s, none => .ok (isNull s)
  | plain s, some tag =>
    if tag.isCommon "null" then if isNullWord s then .ok true else .error .tag
    else .ok false
  | _, _ => .ok false

/-! ## References -/

mutual
/-- How many parts a document has as it is written: every scalar and reference is one, and every
list and mapping has a beginning and an end. -/
def parts : Node → Nat
  | plain _ | quoted _ | reference _ | shared _ => 1
  | tagged _ node | anchored _ node => node.parts
  | list items => itemParts items + 2
  | map entries => entryParts entries + 2

/-- The parts of the items of a list. -/
def itemParts : List Node → Nat
  | [] => 0
  | n :: ns => n.parts + itemParts ns

/-- The parts of the entries of a mapping. -/
def entryParts : List (Node × Node) → Nat
  | [] => 0
  | (k, v) :: es => k.parts + v.parts + entryParts es
end

mutual
/-- What is left of a number of references when all those in a node have been followed, and those in
what they stand for. -/
def spend (budget : Nat) : Node → Option Nat
  | plain _ | quoted _ | reference _ => some budget
  | tagged _ node | anchored _ node => node.spend budget
  | shared node =>
    match budget with
    | 0 => none
    | budget + 1 => node.spend budget
  | list items => spendItems budget items
  | map entries => spendEntries budget entries

/-- What is left after the items of a list. -/
def spendItems (budget : Nat) : List Node → Option Nat
  | [] => some budget
  | n :: ns => do spendItems (← n.spend budget) ns

/-- What is left after the entries of a mapping. -/
def spendEntries (budget : Nat) : List (Node × Node) → Option Nat
  | [] => some budget
  | (k, v) :: es => do spendEntries (← v.spend (← k.spend budget)) es
end

/-- Check that a node can be read by following only so many references. -/
def checkReferences (budget : Nat) (n : Node) : Except Fault Unit :=
  match n.spend budget with
  | some _ => .ok ()
  | none => .error .repetition

end Node

end HintedSql.Yaml
