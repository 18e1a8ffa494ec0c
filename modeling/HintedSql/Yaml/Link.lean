import HintedSql.Yaml.Property
set_option relaxedAutoImplicit false
set_option autoImplicit false

/-!
# References and what they stand for

A reference stands for the last node before it that has the anchor. The node begins with its anchor,
so that a node that refers to an anchor of its own contains itself. Such a reference stays as it is.

Linking also puts what a handle stands for in its place. The tag `!` of a scalar says nothing.

## Main definitions

* `HintedSql.Yaml.Anchors` — the nodes that have an anchor.
* `HintedSql.Yaml.Node.link`.
-/

namespace HintedSql.Yaml

/-- The anchors of a document so far, last first, with the nodes that have them. A node that has not
ended is not known yet. -/
abbrev Anchors : Type :=
  List (String × Option Node)

namespace Anchors

/-- Begin a node that has an anchor. -/
def enter (a : Anchors) (name : String) : Anchors :=
  (name, none) :: a

/-- End the node that was begun when there were `count` anchors. -/
def leave (a : Anchors) (count : Nat) (node : Node) : Anchors :=
  a.modify (a.length - 1 - count) fun (name, _) => (name, some node)

/-- What a reference stands for. -/
def follow (a : Anchors) (name : String) : Except Fault Node :=
  match a.lookup name with
  | some (some node) => .ok (.shared node)
  | some none => .ok (.reference name)
  | none => .error .anchor

end Anchors

/-- A tag written out in full. -/
def TagName.full (d : Directives) (t : TagName) : Except Fault TagName :=
  if t.handle.isEmpty then .ok t
  else
    match d.stem? t.handle with
    | some stem => .ok ⟨"", stem ++ t.suffix⟩
    | none => .error .tag

namespace Node

/-- Whether a node is a scalar that is written. -/
def isWritten : Node → Bool
  | plain s => s != ""
  | quoted _ => true
  | _ => false

mutual
/-- Put the nodes in place of the references to them, and write out the tags. -/
def link (d : Directives) (a : Anchors) : Node → Except Fault (Node × Anchors)
  | tagged tag node => do
    let tag ← tag.full d
    let (node, a) ← node.link d a
    return (if tag.suffix == "!" && node.isWritten then node else .tagged tag node, a)
  | anchored name node => do
    let (node, b) ← node.link d (a.enter name)
    return (.anchored name node, b.leave a.length node)
  | reference name => do return (← a.follow name, a)
  | list items => do
    let (items, a) ← linkItems d a items
    return (.list items, a)
  | map entries => do
    let (entries, a) ← linkEntries d a entries
    return (.map entries, a)
  | node => .ok (node, a)

/-- Link the items of a list. -/
def linkItems (d : Directives) (a : Anchors) : List Node → Except Fault (List Node × Anchors)
  | [] => .ok ([], a)
  | n :: ns => do
    let (n, a) ← n.link d a
    let (ns, a) ← linkItems d a ns
    return (n :: ns, a)

/-- Link the entries of a mapping. -/
def linkEntries (d : Directives) (a : Anchors) :
    List (Node × Node) → Except Fault (List (Node × Node) × Anchors)
  | [] => .ok ([], a)
  | (k, v) :: es => do
    let (k, a) ← k.link d a
    let (v, a) ← v.link d a
    let (es, a) ← linkEntries d a es
    return ((k, v) :: es, a)
end

end Node

end HintedSql.Yaml
