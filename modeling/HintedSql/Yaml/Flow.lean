import HintedSql.Yaml.Property
set_option relaxedAutoImplicit false
set_option autoImplicit false

/-!
# YAML in brackets

Lists and mappings in brackets may go over several lines without regard to columns. An item of a
list may be a single entry of a mapping. A key has to stand on one line with its colon unless a
question mark announces it.

The readers take a bound on how often they may call each other; twice the length of the text is
enough, since of two calls one consumes a character.

## Main definitions

* `HintedSql.Yaml.scalar` — a scalar, plain or quoted.
* `HintedSql.Yaml.flowItem`, `HintedSql.Yaml.flowEntry` — parts of lists and mappings.
* `HintedSql.Yaml.flowNode` — a node inside brackets.
-/

namespace HintedSql.Yaml

/-- Read a scalar. -/
def scalar (flow : Bool) (least : Nat) (c : Cursor) : Except Fault (Node × Cursor) :=
  match c.rest with
  | '\'' :: cs => do
    let (s, c) ← singleFrom {} (c.past 1).position cs
    return (.quoted s, c)
  | '"' :: cs => do
    let (s, c) ← doubleFrom .text {} (c.past 1).position cs
    return (.quoted s, c)
  | _ => do
    let (s, c) ← plain flow least c
    return (.plain s, c)

/-- Read a reference. -/
def reference (c : Cursor) : Except Fault (Node × Cursor) := do
  let (name, next) ← anchorName c
  return (.reference name, next)

/-! ## Items and entries

The readers for the nodes in them, which may be absent where they are values, are given.
-/

section Parts

variable (node value : Cursor → Except Fault (Node × Cursor))

/-- Read the value behind a key, if there is a colon. Only what can be a key may have one. -/
def flowRest (isKey : Bool) (c : Cursor) : Except Fault (Option Node × Cursor) :=
  match c.rest with
  | ':' :: _ =>
    if isKey then do
      let (v, next) ← value ((c.past 1).gap true)
      return (some v, next.gap true)
    else .error .misplaced
  | _ => .ok (none, c)

/-- Read an item of a list. If a key is announced, a comma, colon or bracket in its place is passed
over. -/
def flowItem (c : Cursor) : Except Fault (Node × Cursor) :=
  match c.rest with
  | '?' :: _ => do
    let start := (c.past 1).gap true
    let (key, next) ←
      if start.atAny [',', ']', ':'] then .ok (.absent, start.past 1) else node start
    let (v, next) ← flowRest value true (next.gap true)
    return (.map [(key, v.getD .absent)], next)
  | _ => do
    let (first, next) ← node c
    let next := next.gap true
    let (v, next) ← flowRest value (c.isKey next) next
    return (v.elim first fun v => .map [(first, v)], next)

/-- Read an entry of a mapping. -/
def flowEntry (c : Cursor) : Except Fault ((Node × Node) × Cursor) :=
  match c.rest with
  | '?' :: _ => do
    let (key, next) ← value ((c.past 1).gap true)
    let (v, next) ← flowRest value true (next.gap true)
    return ((key, v.getD .absent), next)
  | _ => do
    let (key, next) ← node c
    let next := next.gap true
    let (v, next) ← flowRest value (c.isKey next) next
    return ((key, v.getD .absent), next)

end Parts

mutual
/-- Read a node inside brackets, or in brackets. -/
def flowNode : Nat → Nat → Cursor → Except Fault (Node × Cursor)
  | 0, _, _ => .error .depth
  | bound + 1, least, c =>
    if c.atMarker then .error .misplaced
    else
      match c.rest with
      | '[' :: _ => flowItems bound least [] ((c.past 1).gap true)
      | '\x7b' :: _ => flowEntries bound least [] ((c.past 1).gap true)
      | '*' :: _ => reference c
      | '&' :: _ | '!' :: _ => do
        let (property, next) ← Property.read true c
        let (node, next) ← flowValue bound least next
        return (← property.decorate node, next)
      | _ => scalar true least c

/-- Read a node inside brackets that may be absent. -/
def flowValue : Nat → Nat → Cursor → Except Fault (Node × Cursor)
  | 0, _, _ => .error .depth
  | bound + 1, least, c =>
    if c.atAny [',', ']', '\x7d', ':'] then .ok (.absent, c) else flowNode bound least c

/-- Read the items of a list from one of them, or from the closing bracket. -/
def flowItems : Nat → Nat → List Node → Cursor → Except Fault (Node × Cursor)
  | 0, _, _, _ => .error .depth
  | bound + 1, least, items, c =>
    match c.rest with
    | ']' :: _ => .ok (.list items.reverse, c.past 1)
    | _ => do
      let (item, next) ← flowItem (flowNode bound least) (flowValue bound least) c
      match next.rest with
      | ',' :: _ => flowItems bound least (item :: items) ((next.past 1).gap true)
      | ']' :: _ => .ok (.list (item :: items).reverse, next.past 1)
      | _ => .error .misplaced

/-- Read the entries of a mapping from one of them, or from the closing bracket. -/
def flowEntries : Nat → Nat → List (Node × Node) → Cursor → Except Fault (Node × Cursor)
  | 0, _, _, _ => .error .depth
  | bound + 1, least, entries, c =>
    match c.rest with
    | '\x7d' :: _ => .ok (.map entries.reverse, c.past 1)
    | _ => do
      let (entry, next) ← flowEntry (flowNode bound least) (flowValue bound least) c
      match next.rest with
      | ',' :: _ => flowEntries bound least (entry :: entries) ((next.past 1).gap true)
      | '\x7d' :: _ => .ok (.map (entry :: entries).reverse, next.past 1)
      | _ => .error .misplaced
end

end HintedSql.Yaml
