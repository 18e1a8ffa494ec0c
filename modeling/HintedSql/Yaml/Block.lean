import HintedSql.Yaml.BlockScalar
import HintedSql.Yaml.Flow
import HintedSql.Yaml.Link
set_option relaxedAutoImplicit false
set_option autoImplicit false

/-!
# YAML by indentation

Outside brackets the columns tell where lists and mappings begin and end. The keys of a mapping
stand in one column, as do the `-` of a list; what belongs to them is indented further. Only a list
that is the value of a key may stand in the column of that key.

A key has to stand on one line with its colon, unless a question mark announces it: then any node
may be a key, and its value follows on a line of its own after a colon in the same column.

Columns are counted from 1 here, so that 0 is the column around the whole document.

## Main definitions

* `HintedSql.Yaml.blockNode` — a node that is indented further than what it belongs to.
* `HintedSql.Yaml.parse` — a whole text, which holds one document.
-/

namespace HintedSql.Yaml

/-- The column of a place, counted from 1. -/
def Cursor.depth (c : Cursor) : Nat :=
  c.column + 1

/-- Whether a scalar in lines of its own begins here. -/
def Cursor.atBlockScalar (c : Cursor) : Bool :=
  c.atAny ['|', '>']

/-- Read a scalar, a reference or a node in brackets, inside what stands in column `outer`. -/
def leaf (bound outer : Nat) (c : Cursor) : Except Fault (Node × Cursor) := do
  let (node, next) ←
    match c.rest with
    | '[' :: _ | '\x7b' :: _ => flowNode bound outer c
    | '*' :: _ => reference c
    | '|' :: _ | '>' :: _ => do
      let (s, next) ← blockScalar outer c
      .ok (.quoted s, next)
    | _ => scalar false outer c
  return (node, next.gap false)

/-- Read what follows an anchor or a tag on the same line. In front of a colon it is absent. -/
def decorated (bound outer : Nat) (ps : List Property) (c : Cursor) :
    Except Fault (Node × Cursor) := do
  let (node, next) ←
    if !ps.isEmpty && c.atValue then .ok (.absent, c) else leaf bound outer c
  return (← ps.foldrM Property.decorate node, next)

/-- The place behind a sign after which an item or an entry may begin. -/
def Cursor.inside (c : Cursor) : Cursor :=
  { c.past 1 with fresh := true }.gap false

mutual
/-- Read a node inside what stands in column `outer`. The node is absent if the text goes on in that
column or further left; only a scalar in lines of its own, and a list as the value of a key, may
stand in the column itself. An anchor or a tag on the line of a key belongs to the key, and on a
line before it to the mapping. -/
def blockNode : Nat → Nat → Bool → Cursor → Except Fault (Node × Cursor)
  | 0, _, _, _ => .error .depth
  | bound + 1, outer, isValue, c =>
    if c.atEnd then .ok (.absent, c)
    else if c.depth ≤ outer then
      if isValue && c.depth == outer && c.atDash then blockItems bound c.depth true [] c
      else if c.depth == outer && c.atBlockScalar then leaf bound outer c
      else .ok (.absent, c)
    else if c.atDash then
      if c.fresh then blockItems bound c.depth false [] c else .error .misplaced
    else if c.atQuestion then
      if c.fresh then blockAnnounced bound c.depth [] c else .error .misplaced
    else do
      let (ps, start) ← properties c
      if c.sameLine start && !start.rest.isEmpty then
        let (node, next) ← decorated bound outer ps start
        if next.atValue && c.fresh && c.isKey next then blockEntries bound c.depth [] node next
        else return (node, next)
      else
        let (node, next) ← blockNode bound outer isValue start
        return (← ps.foldrM Property.decorate node, next)

/-- Read the items of a list from the `-` of one of them. A list that shares its column with a key
ends at the next key. -/
def blockItems : Nat → Nat → Bool → List Node → Cursor → Except Fault (Node × Cursor)
  | 0, _, _, _, _ => .error .depth
  | bound + 1, depth, shared, items, c => do
    let (item, next) ← blockNode bound depth false c.inside
    if next.atEnd || next.depth < depth then return (.list (item :: items).reverse, next)
    else if next.depth == depth && next.atDash && next.fresh then
      blockItems bound depth shared (item :: items) next
    else if shared then return (.list (item :: items).reverse, next)
    else .error .misplaced

/-- Read the entries of a mapping from the colon after a key. -/
def blockEntries :
    Nat → Nat → List (Node × Node) → Node → Cursor → Except Fault (Node × Cursor)
  | 0, _, _, _, _ => .error .depth
  | bound + 1, depth, entries, key, colon => do
    let (value, next) ← blockNode bound depth true ((colon.past 1).gap false)
    blockMore bound depth ((key, value) :: entries) next

/-- Read the entries of a mapping from the question mark in front of a key. -/
def blockAnnounced : Nat → Nat → List (Node × Node) → Cursor → Except Fault (Node × Cursor)
  | 0, _, _, _ => .error .depth
  | bound + 1, depth, entries, c => do
    let (key, next) ← blockNode bound depth true c.inside
    let (value, next) ←
      if next.depth == depth && next.atValue then blockNode bound depth true next.inside
      else .ok (.absent, next)
    blockMore bound depth ((key, value) :: entries) next

/-- Read the entries of a mapping that follow others, up to the first line that is indented less. -/
def blockMore : Nat → Nat → List (Node × Node) → Cursor → Except Fault (Node × Cursor)
  | 0, _, _, _ => .error .depth
  | bound + 1, depth, entries, c =>
    if c.atEnd || c.depth < depth then .ok (.map entries.reverse, c)
    else if c.depth == depth && c.fresh then
      if c.atQuestion then blockAnnounced bound depth entries c
      else do
        let (ps, start) ← properties c
        let (key, colon) ← decorated bound depth ps start
        if colon.atValue && c.isKey colon then blockEntries bound depth entries key colon
        else .error .misplaced
    else .error .misplaced
end

/-- Check that nothing follows a document but marks of its end. -/
def checkClosed : Nat → Cursor → Except Fault Unit
  | 0, _ => .error .depth
  | bound + 1, c =>
    if c.rest.isEmpty then .ok ()
    else if c.atClosing then checkClosed bound ((c.past 3).gap false)
    else .error .misplaced

/-- Read the document that begins here, and check that no other follows. Its end can only be
marked if its start is, or if it holds something; after directives its start has to be. -/
def document (bound : Nat) (c : Cursor) : Except Fault Node :=
  if c.atClosing then .error .misplaced
  else do
    let (d, start) ← directives bound {} c
    if c.rest.head? == some '%' && !start.atOpening then .error .misplaced
    let start := if start.atOpening then (start.past 3).gap false else start
    let (node, next) ← blockNode bound 0 false start
    checkClosed bound next
    let (node, _) ← node.link d []
    return node

/-- Read a text that holds one document. A text without a document holds the absent node. -/
def parse (s : String) : Except Fault Node :=
  let cs := s.toList
  if cs.all isAllowed then document (4 * cs.length + 4) ((Cursor.start cs).gap false)
  else .error .character

end HintedSql.Yaml
