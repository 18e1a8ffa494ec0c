import HintedSql.Proofs.Document.Field
import HintedSql.Settings.Basic
set_option relaxedAutoImplicit false
set_option autoImplicit false

/-!
# Documents with references

A reference in a YAML document stands for the node that has its anchor. So a document says the same
once its references are replaced by what they stand for, and anchors are dropped: every part of it
has the same tag, the same text and the same content as before, and settings and requests are read
from both alike. Only the number of references that may be followed is limited, and nothing is
refused for that reason any more once they are written out.

## Main definitions

* `HintedSql.Yaml.Node.expanded` — a node with its references written out.

## Main results

* `HintedSql.Yaml.Node.content_expanded` — the content is the same.
* `HintedSql.Yaml.Node.members_expanded` — the members of a record are the same, written out.
* `HintedSql.Settings.ofNode_expanded` — settings are the same.
* `HintedSql.Request.ofNode_expanded` — a request that is read is the same.
-/

namespace HintedSql

namespace Yaml

namespace Node

mutual
/-- A node with every reference replaced by what it stands for, and without anchors. -/
def expanded : Node → Node
  | tagged tag node => tagged tag node.expanded
  | anchored _ node | shared node => node.expanded
  | list items => list (expandedItems items)
  | map entries => map (expandedEntries entries)
  | plain s => plain s
  | quoted s => quoted s
  | reference anchor => reference anchor

/-- The items of a list, written out. -/
def expandedItems : List Node → List Node
  | [] => []
  | n :: ns => n.expanded :: expandedItems ns

/-- The entries of a mapping, written out. -/
def expandedEntries : List (Node × Node) → List (Node × Node)
  | [] => []
  | (k, v) :: es => (k.expanded, v.expanded) :: expandedEntries es
end

/-- Entries are written out one by one. -/
lemma expandedEntries_eq_map (entries : List (Node × Node)) :
    expandedEntries entries = entries.map fun e => (e.1.expanded, e.2.expanded) := by
  induction entries with
  | nil => rfl
  | cons e es ih => rw [expandedEntries, ih, List.map_cons]

/-! ## Single nodes -/

/-- Writing out goes through tags and anchors. -/
lemma bare_expanded : (n : Node) → n.expanded.bare = n.bare.expanded
  | tagged _ node => by rw [expanded, bare, bare, node.bare_expanded]
  | anchored _ node | shared node => by rw [expanded, bare, node.bare_expanded]
  | plain _ | quoted _ | list _ | map _ | reference _ => rfl

/-- What a node is below its tags and anchors. -/
lemma bare_cases (n : Node) :
    (∃ s, n.bare = plain s) ∨ (∃ s, n.bare = quoted s) ∨ (∃ items, n.bare = list items) ∨
      (∃ entries, n.bare = map entries) ∨ ∃ anchor, n.bare = reference anchor :=
  match n with
  | tagged _ node | anchored _ node | shared node => node.bare_cases
  | plain s => .inl ⟨s, rfl⟩
  | quoted s => .inr (.inl ⟨s, rfl⟩)
  | list items => .inr (.inr (.inl ⟨items, rfl⟩))
  | map entries => .inr (.inr (.inr (.inl ⟨entries, rfl⟩)))
  | reference anchor => .inr (.inr (.inr (.inr ⟨anchor, rfl⟩)))

/-- Writing out keeps the tag. -/
@[simp] lemma tag?_expanded : (n : Node) → n.expanded.tag? = n.tag?
  | tagged _ _ => rfl
  | anchored _ node | shared node => by rw [expanded, tag?, node.tag?_expanded]
  | plain _ | quoted _ | list _ | map _ | reference _ => rfl

/-- Writing out keeps the text. -/
@[simp] lemma text?_expanded (n : Node) : n.expanded.text? = n.text? := by
  rw [text?, text?, bare_expanded]
  obtain ⟨_, h⟩ | ⟨_, h⟩ | ⟨_, h⟩ | ⟨_, h⟩ | ⟨_, h⟩ := n.bare_cases <;> rw [h] <;> rfl

/-- Writing out keeps what a node is. -/
@[simp] lemma found_expanded (n : Node) : n.expanded.found = n.found := by
  rw [found, found, bare_expanded]
  obtain ⟨_, h⟩ | ⟨_, h⟩ | ⟨_, h⟩ | ⟨_, h⟩ | ⟨_, h⟩ := n.bare_cases <;> rw [h] <;> rfl

/-- Writing out keeps the name by which a node chooses. -/
@[simp] lemma choice?_expanded (n : Node) : n.expanded.choice? = n.choice? := by
  rw [choice?, choice?, bare_expanded, tag?_expanded, text?_expanded]
  cases n.tag?.bind TagName.localName? with
  | none => rfl
  | some name =>
    obtain ⟨_, h⟩ | ⟨_, h⟩ | ⟨_, h⟩ | ⟨_, h⟩ | ⟨_, h⟩ := n.bare_cases <;> rw [h] <;> rfl

/-- Writing out keeps whether a node is absent. -/
@[simp] lemma isAbsent_expanded (n : Node) : n.expanded.isAbsent = n.isAbsent := by
  rw [isAbsent, isAbsent, bare_expanded, tag?_expanded]
  obtain ⟨_, h⟩ | ⟨_, h⟩ | ⟨_, h⟩ | ⟨_, h⟩ | ⟨_, h⟩ := n.bare_cases <;> rw [h] <;> rfl

/-- Writing out keeps the key of an entry. -/
@[simp] lemma key?_expanded (n : Node) : n.expanded.key? = n.key? := by
  rw [key?, key?, tag?_expanded, text?_expanded]

/-- A node is of the wrong type as before. -/
@[simp] lemma wrongType_expanded (n : Node) (expected : String) :
    n.expanded.wrongType expected = n.wrongType expected := by
  rw [wrongType, wrongType, found_expanded]

/-- A text is read as before. -/
lemma text_expanded (n : Node) : n.expanded.text = n.text := by
  rw [text, text, text?_expanded, wrongType_expanded]

/-- What may be absent is read as before, if what is present is. -/
lemma optional_expanded {α : Type} {read : Node → Except Error α}
    (hread : ∀ n : Node, read n.expanded = read n) (n : Node) :
    optional read n.expanded = optional read n := by
  rw [optional, optional, isAbsent_expanded, hread]

mutual
/-- **References have the content of what they stand for.** -/
theorem content_expanded (room : Nat) : (n : Node) → n.expanded.content room = n.content room
  | tagged tag node => by
    rw [expanded, content, content, text?_expanded, node.content_expanded room]
  | anchored _ node | shared node => by rw [expanded, content, node.content_expanded room]
  | list items => by
    cases room with
    | zero => rfl
    | succ room => rw [expanded, content, content, itemContents_expanded room items]
  | map entries => by
    cases room with
    | zero => rfl
    | succ room => rw [expanded, content, content, entryContents_expanded room entries]
  | plain _ | quoted _ | reference _ => rfl

/-- The contents of items that are written out. -/
lemma itemContents_expanded (room : Nat) :
    (items : List Node) → itemContents room (expandedItems items) = itemContents room items
  | [] => rfl
  | n :: ns => by
    rw [expandedItems, itemContents, itemContents, n.content_expanded room,
      itemContents_expanded room ns]

/-- The contents of entries that are written out. -/
lemma entryContents_expanded (room : Nat) :
    (entries : List (Node × Node)) →
      entryContents room (expandedEntries entries) = entryContents room entries
  | [] => rfl
  | (k, v) :: es => by
    rw [expandedEntries, entryContents, entryContents, k.content_expanded room,
      v.content_expanded room, entryContents_expanded room es]
end

mutual
/-- No references are left once they are written out. -/
lemma spend_expanded (budget : Nat) : (n : Node) → n.expanded.spend budget = some budget
  | tagged tag node => by rw [expanded, spend, node.spend_expanded budget]
  | anchored _ node | shared node => by rw [expanded, node.spend_expanded budget]
  | list items => by rw [expanded, spend, spendItems_expanded budget items]
  | map entries => by rw [expanded, spend, spendEntries_expanded budget entries]
  | plain _ | quoted _ | reference _ => rfl

/-- None are left in items. -/
lemma spendItems_expanded (budget : Nat) :
    (items : List Node) → spendItems budget (expandedItems items) = some budget
  | [] => rfl
  | n :: ns => by
    simp [expandedItems, spendItems, n.spend_expanded budget, spendItems_expanded budget ns]

/-- None are left in entries. -/
lemma spendEntries_expanded (budget : Nat) :
    (entries : List (Node × Node)) →
      spendEntries budget (expandedEntries entries) = some budget
  | [] => rfl
  | (k, v) :: es => by
    simp [expandedEntries, spendEntries, k.spend_expanded budget, v.spend_expanded budget,
      spendEntries_expanded budget es]
end

/-! ## Records -/

/-- The members of a record that are written out. -/
def expandedMembers (members : List (String × Node)) : List (String × Node) :=
  members.map fun m => (m.1, m.2.expanded)

/-- Members are written out one by one. -/
lemma mapM_member_expandedEntries (entries : List (Node × Node)) :
    (expandedEntries entries).mapM member = (entries.mapM member).map expandedMembers := by
  induction entries with
  | nil => rfl
  | cons e es ih =>
    obtain ⟨key, value⟩ := e
    rw [expandedEntries, List.mapM_cons, List.mapM_cons, ih, member, member, text_expanded]
    cases key.text with
    | error err => rfl
    | ok name =>
      cases es.mapM member with
      | error err => rfl
      | ok members => rfl

/-- **The members of a record** have the names they had, and are written out. -/
theorem members_expanded (shape : String) (n : Node) :
    n.expanded.members shape = (n.members shape).map expandedMembers := by
  rw [members, members, bare_expanded]
  obtain ⟨s, h⟩ | ⟨_, h⟩ | ⟨_, h⟩ | ⟨entries, h⟩ | ⟨_, h⟩ := n.bare_cases
  · rw [h, expanded]
    split
    · rename_i heq
      cases heq
    · rfl
    · rfl
  · rw [h]
    rfl
  · rw [h]
    rfl
  · rw [h]
    exact mapM_member_expandedEntries entries
  · rw [h]
    rfl

/-- What is read from the members of a record is read from those that are written out. -/
lemma bind_members_expanded {α : Type} (shape : String) (n : Node)
    (read : List (String × Node) → Except Error α) :
    n.expanded.members shape >>= read =
      n.members shape >>= fun members => read (expandedMembers members) := by
  rw [members_expanded]
  cases n.members shape <;> rfl

end Node

/-- The member with a name is written out. -/
lemma field_expandedMembers (name : String) (members : List (String × Node)) :
    field name (Node.expandedMembers members) =
      (field name members).map (Option.map Node.expanded) := by
  have hfilter : (Node.expandedMembers members).filter (·.1 == name) =
      Node.expandedMembers (members.filter (·.1 == name)) := by
    rw [Node.expandedMembers, Node.expandedMembers, List.filter_map]
    rfl
  rw [field, field, hfilter]
  generalize members.filter (·.1 == name) = given
  rcases given with _ | ⟨m, _ | ⟨m', ms⟩⟩ <;> rfl

/-- A member is read as before, if every node is. -/
lemma readField_expandedMembers {α : Type} {read : Node → Except Error α}
    (hread : ∀ n : Node, read n.expanded = read n) (name : String)
    (members : List (String × Node)) :
    readField name (Node.expandedMembers members) read = readField name members read := by
  rw [readField, readField, field_expandedMembers]
  cases field name members with
  | error e => rfl
  | ok x =>
    cases x with
    | none => rfl
    | some n => exact congrArg (some <$> ·) (hread n)

/-- A member that is read is read as before, if every node that is read is. -/
lemma readField_expandedMembers_of_ok {α : Type} {read read' : Node → Except Error α}
    (hread : ∀ (n : Node) (a : α), read n = .ok a → read' n.expanded = .ok a) {name : String}
    {members : List (String × Node)} {x : Option α} (h : readField name members read = .ok x) :
    readField name (Node.expandedMembers members) read' = .ok x := by
  rw [readField] at h ⊢
  rw [field_expandedMembers]
  cases hfield : field name members with
  | error e => rw [hfield] at h; cases h
  | ok given =>
    rw [hfield] at h
    cases given with
    | none => exact h
    | some n =>
      change some <$> read n = _ at h
      change some <$> read' n.expanded = _
      cases hn : read n with
      | error e => rw [hn] at h; cases h
      | ok a =>
        rw [hn] at h
        rw [hread n a hn]
        exact h

end Yaml

open Yaml (Node readField_expandedMembers readField_expandedMembers_of_ok)

/-! ## Settings -/

/-- A time block is read as before. -/
lemma timeBlockOfNode_expanded (n : Node) : timeBlockOfNode n.expanded = timeBlockOfNode n := by
  rw [timeBlockOfNode, timeBlockOfNode, Node.bind_members_expanded]
  simp only [readField_expandedMembers Node.text_expanded]

/-- A target is read as before. -/
lemma Target.ofNode_expanded (n : Node) : ofNode n.expanded = ofNode n := by
  rw [ofNode, ofNode, Node.choice?_expanded, Node.wrongType_expanded]

/-- A route is read as before. -/
lemma Route.ofNode_expanded (n : Node) : ofNode n.expanded = ofNode n := by
  rw [ofNode, ofNode, Node.bind_members_expanded]
  simp only [readField_expandedMembers Target.ofNode_expanded,
    readField_expandedMembers (Node.optional_expanded Node.text_expanded)]

/-- Log settings are read as before. -/
lemma LogSettings.ofNode_expanded (n : Node) : ofNode n.expanded = ofNode n := by
  rw [ofNode, ofNode, Node.bind_members_expanded]
  simp only [readField_expandedMembers Node.text_expanded]

/-- Default hints are read as before. -/
lemma Settings.defaultsOfNode_expanded (n : Node) :
    defaultsOfNode n.expanded = defaultsOfNode n := by
  rw [defaultsOfNode, defaultsOfNode, Node.bind_members_expanded]
  simp only [readField_expandedMembers (Node.optional_expanded Node.text_expanded),
    readField_expandedMembers (Node.optional_expanded Route.ofNode_expanded)]

/-- **Settings are read as before** once references are written out. -/
theorem Settings.ofNode_expanded (n : Node) : ofNode n.expanded = ofNode n := by
  rw [ofNode, ofNode, Node.bind_members_expanded]
  simp only [readField_expandedMembers LogSettings.ofNode_expanded,
    readField_expandedMembers defaultsOfNode_expanded]

/-! ## Requests -/

/-- Hints are read as before. -/
lemma Options.ofNode_expanded (n : Node) : ofNode n.expanded = ofNode n := by
  have hrenamed (rename : String → String) (members : List (String × Node)) :
      (Node.expandedMembers members).map (fun m => (rename m.1, m.2)) =
        Node.expandedMembers (members.map fun m => (rename m.1, m.2)) := by
    simp only [Node.expandedMembers, List.map_map, Function.comp_def]
  rw [ofNode, ofNode, Node.bind_members_expanded]
  simp only [hrenamed fun name => if name = "timeBlock" then "time_block" else name,
    readField_expandedMembers (Node.optional_expanded timeBlockOfNode_expanded),
    readField_expandedMembers (Node.optional_expanded Route.ofNode_expanded)]

/-- A kind is read as before. -/
lemma Tag.ofScalar_expanded {α : Type} (tags : List (String × α)) (n : Node) :
    ofScalar tags n.expanded = ofScalar tags n := by
  rw [ofScalar, ofScalar, Node.text?_expanded, Node.wrongType_expanded]

/-- The entries with a key and the others are as before. -/
lemma Yaml.Node.partition_expandedEntries (p : Option String → Bool)
    (entries : List (Node × Node)) :
    (expandedEntries entries).partition (fun e => p e.1.key?) =
      (expandedEntries (entries.partition fun e => p e.1.key?).1,
        expandedEntries (entries.partition fun e => p e.1.key?).2) := by
  simp [expandedEntries_eq_map, List.filter_map, Function.comp_def]

/-- The kind and the fields of a node are as before. -/
lemma Tag.ofNode_expanded {α : Type} (tags : List (String × α)) (expected : String) (room : Nat)
    (n : Node) : ofNode tags expected room n.expanded = ofNode tags expected room n := by
  unfold ofNode
  rw [Node.bare_expanded, Node.isPrivate, Node.tag?_expanded, ← Node.isPrivate]
  refine ite_congr rfl (fun _ => rfl) fun _ => ?_
  obtain ⟨_, h⟩ | ⟨_, h⟩ | ⟨items, h⟩ | ⟨entries, h⟩ | ⟨_, h⟩ := n.bare_cases
  · rw [h]
    cases room <;> rfl
  · rw [h]
    cases room <;> rfl
  · rw [h]
    cases room with
    | zero => rfl
    | succ room =>
      cases items with
      | nil => rfl
      | cons kind items =>
        simp only [Node.expanded, Node.expandedItems, ofScalar_expanded,
          Node.itemContents_expanded]
  · rw [h]
    cases room with
    | zero => rfl
    | succ room =>
      simp only [Node.expanded]
      rw [Node.partition_expandedEntries (· == some "kind")]
      generalize entries.partition (fun e => e.1.key? == some "kind") = parts
      obtain ⟨kinds, others⟩ := parts
      rcases kinds with _ | ⟨kind, _ | ⟨kind', kinds⟩⟩
      · rfl
      · simp only [Node.expandedEntries, ofScalar_expanded, Node.entryContents_expanded]
      · rfl
  · rw [h]
    cases room <;> rfl

/-- An expression is read as before, unless too many references were followed for it. -/
lemma Expression.ofNode_expanded {budget room : Nat} {n : Node} {e : Expression}
    (h : ofNode budget room n = .ok e) (budget' : Nat) :
    ofNode budget' room n.expanded = .ok e := by
  obtain ⟨_, -, h⟩ := exists_of_bind_eq_ok h
  rw [ofNode, Node.checkReferences, Node.spend_expanded, Tag.ofNode_expanded]
  exact h

/-- **Requests are read as before** once references are written out. -/
theorem Request.ofNode_expanded {n : Node} {r : Request} (h : ofNode n = .ok r) :
    ofNode n.expanded = .ok r := by
  obtain ⟨members, hmembers, h⟩ := exists_of_bind_eq_ok h
  obtain ⟨expression, hexpression, h⟩ := exists_of_bind_eq_ok h
  have hread (budget : Nat) : Yaml.readField "expression" (Node.expandedMembers members)
      (Expression.ofNode budget (yamlDepth - 1)) = .ok expression :=
    readField_expandedMembers_of_ok (fun _ _ he => Expression.ofNode_expanded he budget)
      hexpression
  rw [ofNode, Node.bind_members_expanded, hmembers]
  change (Yaml.readField _ _ _ >>= _) = _
  simp only [hread, readField_expandedMembers Options.ofNode_expanded]
  exact h

-- A table that is written once, with its name in lines of its own, and a target by its tag.
example : Request.ofYaml
    ("%YAML 1.1\n---\nusers: &t\n  kind: table\n  ? name\n  : |-\n    users\n"
      ++ "expression: *t\noptions:\n  route:\n    target: !gcs\n") =
    .ok ⟨.table ⟨"users", none⟩, ⟨none, some ⟨.gcs, none⟩⟩⟩ := by
  decide +kernel

end HintedSql
