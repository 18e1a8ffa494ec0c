import HintedSql.Proofs.Document.NormalForm
import HintedSql.Proofs.Document.Traversal
set_option relaxedAutoImplicit false
set_option autoImplicit false

/-!
# No field is given twice

A document is refused if one of its records has two members for the same field: the request, its
options, their time block and route, and every expression and condition in it, whether they are
fields of records or items of lists. The kind of a node is a field like the others, and a field that
goes by two names is given twice by one member under each.

## Main definitions

* `HintedSql.Role` — what a value is read as; `HintedSql.Slot` — a field that is known there.
* `HintedSql.Role.Has` — the fields of a value in its role, which depend on its kind.
* `HintedSql.Repeats` — a value in which a field is given twice, somewhere inside.
* `HintedSql.Taken` — a record that gives each field at most once, and a value that is accepted.

## Main results

* `HintedSql.Role.Accepts.taken` — accepted values give each field at most once.
* `HintedSql.not_accepts_of_repeats` — the same of all values inside them.
* `HintedSql.ofJson_of_repeats` — documents with a field given twice are refused.
-/

namespace HintedSql

open Json (Outline Quoted)

/-! ## Fields and where they are known -/

/-- What a value is read as. -/
inductive Role where
  | request
  | options
  | timeBlock
  | route
  | expression
  | condition

/-- A field that is known: its name, other names it goes by, and what its value is read as if that
has fields itself. -/
structure Slot where
  name : String
  otherNames : List String := []
  role : Option Role := none

namespace Slot

/-- All names of a field. -/
def names (f : Slot) : List String :=
  f.name :: f.otherNames

/-- A member whose key is a name of the field. -/
def Gives (f : Slot) (m : Quoted × Outline) : Prop :=
  ∃ name ∈ f.names, m.1.Says name

/-- The field that tells the kind of a node. -/
def kind : Slot where
  name := "kind"

end Slot

/-- The fields of a request, in order. -/
def Request.slots : List Slot :=
  [⟨"expression", [], some .expression⟩, ⟨"options", [], some .options⟩]

/-- The fields of hint options, in order. -/
def Options.slots : List Slot :=
  [⟨"time_block", ["timeBlock"], some .timeBlock⟩, ⟨"route", [], some .route⟩]

/-- The only field of a time block. -/
def timeBlockSlots : List Slot :=
  [⟨"value", [], none⟩]

/-- The fields of a route, in order. -/
def Route.slots : List Slot :=
  [⟨"target", [], none⟩, ⟨"lane", [], none⟩]

/-- The fields of a condition of some kind, in order. -/
def Condition.Kind.slots : Condition.Kind → List Slot
  | compare _ => [⟨"column", [], none⟩, ⟨"value", [], none⟩]
  | connect _ => [⟨"left", [], some .condition⟩, ⟨"right", [], some .condition⟩]

/-- The fields of an expression of some kind, in order. -/
def Expression.Kind.slots : Expression.Kind → List Slot
  | table => [⟨"name", [], none⟩, ⟨"alias", [], none⟩]
  | selection => [⟨"from", [], some .expression⟩, ⟨"predicate", [], some .condition⟩]
  | projection => [⟨"from", [], some .expression⟩, ⟨"columns", [], none⟩]
  | join =>
    [⟨"left", [], some .expression⟩, ⟨"right", [], some .expression⟩,
      ⟨"on", [], some .condition⟩, ⟨"join_type", ["joinType"], none⟩]

/-- A value that names a kind: its name, or its place in the list of kinds. -/
inductive NamesKind {κ : Type} (tags : List (String × κ)) (kind : κ) : Outline → Prop where
  | name {q : Quoted} {name : String} (hq : q.Says name) (hkind : (name, kind) ∈ tags) :
    NamesKind tags kind (.string q)
  | place {n : Json.Number} {i : Nat} {name : String} (hn : n.content = .ok (.natural i))
      (hkind : tags[i]? = some (name, kind)) : NamesKind tags kind (.number n)

/-- A node that says it is of a kind: in a member, wherever it stands, or in its first item. -/
inductive OfKind {κ : Type} (tags : List (String × κ)) (kind : κ) : Outline → Prop where
  | record {members : List (Quoted × Outline)} {fault : Option Json.Fault} {comma : Bool}
      {m : Quoted × Outline} (hm : m ∈ members) (hkey : m.1.Says "kind")
      (hvalue : NamesKind tags kind m.2) : OfKind tags kind (.record members fault comma)
  | list {v : Outline} {items : List Outline} {fault : Option Json.Fault}
      (hvalue : NamesKind tags kind v) : OfKind tags kind (.list (v :: items) fault)

/-- The fields of a value in its role, in order. Of a node whose kind is not told the kind is the
only known field. -/
inductive Role.Has : Role → Outline → List Slot → Prop where
  | request {o : Outline} : Has .request o Request.slots
  | options {o : Outline} : Has .options o Options.slots
  | timeBlock {o : Outline} : Has .timeBlock o timeBlockSlots
  | route {o : Outline} : Has .route o Route.slots
  | expressionKind {o : Outline} : Has .expression o [Slot.kind]
  | expression {o : Outline} {kind : Expression.Kind} (h : OfKind Expression.tags kind o) :
    Has .expression o (Slot.kind :: kind.slots)
  | conditionKind {o : Outline} : Has .condition o [Slot.kind]
  | condition {o : Outline} {kind : Condition.Kind} (h : OfKind Condition.tags kind o) :
    Has .condition o (Slot.kind :: kind.slots)

/-- A value in a role with a record that gives a field twice: the value itself, or one inside it, in
a member or an item that gives a field with a role. -/
inductive Repeats : Role → Outline → Prop where
  | here {role : Role} {members : List (Quoted × Outline)} {fault : Option Json.Fault}
      {comma : Bool} {fields : List Slot} {f : Slot} {m m' : Quoted × Outline}
      (hhas : role.Has (.record members fault comma) fields) (hf : f ∈ fields)
      (hpair : [m, m'].Sublist members) (hm : f.Gives m) (hm' : f.Gives m') :
    Repeats role (.record members fault comma)
  | member {role part : Role} {members : List (Quoted × Outline)} {fault : Option Json.Fault}
      {comma : Bool} {fields : List Slot} {f : Slot} {m : Quoted × Outline}
      (hhas : role.Has (.record members fault comma) fields) (hf : f ∈ fields)
      (hrole : f.role = some part) (hmem : m ∈ members) (hm : f.Gives m)
      (h : Repeats part m.2) : Repeats role (.record members fault comma)
  | item {role part : Role} {items : List Outline} {fault : Option Json.Fault}
      {fields : List Slot} {f : Slot} {v : Outline}
      (hhas : role.Has (.list items fault) fields) (hitem : (f, v) ∈ fields.zip items)
      (hrole : f.role = some part) (h : Repeats part v) : Repeats role (.list items fault)

/-! ## Accepted values -/

/-- A value that is read in its role. -/
def Role.Accepts : Role → Outline → Prop
  | request, o => ∃ r, Request.ofOutline o = .ok r
  | options, o => ∃ x, Options.ofOutline o = .ok x
  | timeBlock, o => ∃ x, optional timeBlockOfOutline o = .ok x
  | route, o => ∃ x, optional Route.ofOutline o = .ok x
  | expression, o => Expression.reader.Accepts o
  | condition, o => Condition.reader.Accepts o

/-- A value that is read in the role that a field gives it. -/
def Slot.Admits (f : Slot) (v : Outline) : Prop :=
  ∀ role, f.role = some role → role.Accepts v

/-- The value of a kind has no fields. -/
lemma Slot.admits_kind (v : Outline) : Slot.kind.Admits v := by
  intro role hrole
  cases hrole

/-- Content that is read in a role. Only nodes are read from content. -/
def Role.AcceptsContent : Role → Content → Prop
  | expression, c => ∃ e, Expression.ofContent c = .ok e
  | condition, c => ∃ p, Condition.ofContent c = .ok p
  | _, _ => False

/-- Content that is read in the role that a field gives it. -/
def Slot.AdmitsContent (f : Slot) (c : Content) : Prop :=
  ∀ role, f.role = some role → role.AcceptsContent c

/-- Where content is accepted, so is the value that has it. -/
lemma Role.AcceptsContent.accepts {role : Role} {c : Content} (h : role.AcceptsContent c)
    {depth : Nat} {v : Outline} (hc : v.content depth = .ok c) : role.Accepts v := by
  cases role with
  | expression =>
    obtain ⟨e, he⟩ := h
    exact .inr ⟨depth, c, e, hc, he⟩
  | condition =>
    obtain ⟨p, hp⟩ := h
    exact .inr ⟨depth, c, p, hc, hp⟩
  | request | options | timeBlock | route => cases h

/-- A value that gives each field at most once, and each with a value that is accepted. -/
inductive Taken (fields : List Slot) : Outline → Prop where
  | null : Taken fields .null
  | record {members : List (Quoted × Outline)} {fault : Option Json.Fault} {comma : Bool}
      (once : ∀ f ∈ fields, members.Pairwise fun m m' => f.Gives m → ¬ f.Gives m')
      (admits : ∀ f ∈ fields, ∀ m ∈ members, f.Gives m → f.Admits m.2) :
    Taken fields (.record members fault comma)
  | list {items : List Outline} {fault : Option Json.Fault}
      (admits : ∀ p ∈ fields.zip items, p.1.Admits p.2) : Taken fields (.list items fault)

/-- A field that is taken once: to put it fills what was not filled before, from an admitted value,
and nothing makes it unfilled. -/
structure Takes {σ β ε : Type} (put : σ → String → β → Except ε σ) (f : Slot) (filled : σ → Prop)
    (admits : β → Prop) : Prop where
  keeps : ∀ {s : σ} {name : String} {v : β} {t : σ}, put s name v = .ok t → filled s → filled t
  takes : ∀ {s : σ} {name : String} {v : β} {t : σ}, put s name v = .ok t → name ∈ f.names →
    ¬ filled s ∧ filled t ∧ admits v

/-- The reader of a known field, which is read from a `γ`: it goes by the same names, and reads only
what is admitted. -/
structure Slot.ReadBy {σ β ε γ : Type} (input : γ → β) (admits : Slot → γ → Prop) (slot : Slot)
    (f : FieldReader σ β ε) : Prop where
  names : slot.names = f.names
  admits : ∀ v x, f.read (input v) = .ok x → admits slot v

namespace RecordReader

variable {σ β ε γ : Type} {r : RecordReader σ β ε} {input : γ → β} {admits : Slot → γ → Prop}
  {slots : List Slot}

/-- A record whose fields are known, in order. -/
def Slotted (r : RecordReader σ β ε) (input : γ → β) (admits : Slot → γ → Prop)
    (slots : List Slot) : Prop :=
  List.Forall₂ (Slot.ReadBy input admits) slots r.fields

/-- The names by position are those of the known fields. -/
lemma Slotted.fieldNames_eq (h : r.Slotted input admits slots) :
    r.fieldNames = slots.map Slot.name := by
  unfold Slotted at h
  rw [fieldNames]
  generalize r.fields = fields at h
  induction h with
  | nil => rfl
  | cons hread _ ih => rw [List.map_cons, List.map_cons, ih, (List.cons.inj hread.names).1]

/-- **Every known field is taken once.** Its place in the draft tells whether it has been given. -/
theorem Slotted.exists_takes (h : r.Slotted input admits slots) (report : Mismatch → ε)
    (pass : β → Except ε Unit) {slot : Slot} (hslot : slot ∈ slots) :
    ∃ filled, Takes (fun s name v => r.put report pass s name (input v)) slot filled
      (admits slot) := by
  obtain ⟨f, hf, hread⟩ := exists_of_forall₂ h hslot
  refine ⟨fun s => ∃ x, f.kept s = some x, fun hput hs => ?_, fun hput hname => ?_⟩
  · obtain ⟨x, hx⟩ := hs
    exact ⟨x, kept_of_put hf hput hx⟩
  · rw [put_of_mem_names hf (hread.names ▸ hname)] at hput
    obtain ⟨hnone, x, hx, rfl⟩ := FieldReader.put_eq_ok_iff.mp hput
    exact ⟨by simp [hnone], ⟨x, f.kept_keep _ x⟩, hread.admits _ x hx⟩

end RecordReader

/-- The key of a member that gives a field is one of the names of the field. -/
lemma Slot.Gives.mem_names {f : Slot} {m : Quoted × Outline} (h : f.Gives m) {name : String}
    (hname : m.1.text = .ok name) : name ∈ f.names := by
  obtain ⟨name', hmem, hkey⟩ := h
  rw [hkey.text_eq] at hname
  rwa [← Except.ok.inj hname]

/-- The name of a field is one of its names. -/
lemma Slot.name_mem_names (f : Slot) : f.name ∈ f.names :=
  List.mem_cons_self

/-- Fields by position are put under their names. -/
lemma mem_zip_names {fields : List Slot} {items : List Outline} {p : Slot × Outline}
    (h : p ∈ fields.zip items) : (p.1.name, p.2) ∈ (fields.map Slot.name).zip items := by
  rw [List.zip_map_left]
  exact List.mem_map_of_mem h

/-- A field that a member can give only where it was not given, and then with an admitted value, is
given at most once in a run. -/
theorem Run.taken {σ : Type} {step : σ → Quoted × Outline → σ → Prop} {s u : σ} {f : Slot}
    {members : List (Quoted × Outline)} (filled : σ → Prop)
    (hkeeps : ∀ s m t, step s m t → filled s → filled t)
    (htakes : ∀ s m t, step s m t → f.Gives m → ¬ filled s ∧ filled t ∧ f.Admits m.2)
    (h : Run step s members u) :
    members.Pairwise (fun m m' => f.Gives m → ¬ f.Gives m') ∧
      ∀ m ∈ members, f.Gives m → f.Admits m.2 := by
  refine ⟨h.pairwise hkeeps fun s m t hstep hgives => ?_, fun m hm hgives => ?_⟩
  · obtain ⟨hfresh, hnow, -⟩ := htakes s m t hstep hgives
    exact ⟨hfresh, hnow⟩
  · obtain ⟨s, t, rest, hstep, -⟩ := h.exists_step hm
    exact (htakes s m t hstep hgives).2.2

/-- **Records without a kind** take each of their fields at most once. -/
theorem Shape.taken_of_read {σ α : Type} {shape : Shape σ α} {fields : List Slot}
    (hslots : shape.Slotted id Slot.Admits fields) {o : Outline} {a : α}
    (h : shape.read o = .ok a) : Taken fields o := by
  obtain ⟨u, -, ⟨members, fault, comma, rfl, hrun⟩ | ⟨items, fault, rfl, hrun⟩⟩ := cases_of_read h
  · have hfields : ∀ f ∈ fields, members.Pairwise (fun m m' => f.Gives m → ¬ f.Gives m') ∧
        ∀ m ∈ members, f.Gives m → f.Admits m.2 := by
      intro f hf
      obtain ⟨filled, hfilled⟩ := hslots.exists_takes .mismatch passOver hf
      refine hrun.taken filled ?_ ?_
      · rintro s m t ⟨name, -, hput⟩
        exact hfilled.keeps hput
      · rintro s m t ⟨name, hname, hput⟩ hgives
        exact hfilled.takes hput (hgives.mem_names hname)
    exact .record (fun f hf => (hfields f hf).1) fun f hf => (hfields f hf).2
  · refine .list fun p hp => ?_
    obtain ⟨filled, hfilled⟩ := hslots.exists_takes .mismatch passOver (List.of_mem_zip hp).1
    rw [hslots.fieldNames_eq] at hrun
    obtain ⟨s, t, rest, hput, -⟩ := hrun.exists_step (mem_zip_names hp)
    exact (hfilled.takes hput p.1.name_mem_names).2.2

/-! ## The kind of a node -/

namespace Tag

variable {κ : Type} {tags : List (String × κ)}

/-- No two kinds have the same name. -/
def Distinct (tags : List (String × κ)) : Prop :=
  ∀ p ∈ tags, ∀ q ∈ tags, p.1 = q.1 → p = q

/-- A name stands for one kind only. -/
lemma eq_of_ofName (hdistinct : Distinct tags) {name : String} {kind kind' : κ}
    (hmem : (name, kind) ∈ tags) (h : ofName tags name = .ok kind') : kind = kind' := by
  rw [ofName] at h
  split at h
  · rename_i tag hfind
    obtain rfl := Except.ok.inj h
    have hname : tag.1 = name := by simpa using List.find?_some hfind
    exact congrArg Prod.snd (hdistinct _ hmem _ (List.mem_of_find?_eq_some hfind) hname.symm)
  · cases h

/-- A value that names a kind is taken for no other. -/
lemma Tells.eq_of_names (hdistinct : Distinct tags) {v : Outline} {kind kind' : κ}
    (hnames : NamesKind tags kind v) (h : Tells tags v kind') : kind = kind' := by
  cases hnames with
  | @name q name hq hkind =>
    obtain h | ⟨depth, c, hc, h⟩ := h
    · rw [ofValue, hq.text_eq] at h
      exact eq_of_ofName hdistinct hkind (ReadError.eq_ok_of_ofMismatch h)
    · rw [Outline.content, hq.text_eq] at hc
      obtain rfl := Except.ok.inj hc
      exact eq_of_ofName hdistinct hkind h
  | @place n i name hn hkind =>
    obtain h | ⟨depth, c, hc, h⟩ := h
    · cases h
    · rw [Outline.content, hn] at hc
      obtain rfl := Except.ok.inj hc
      rw [ofContent, ofIndex, hkind] at h
      exact Except.ok.inj h

/-- A kind is met at most once. -/
lemma pairwise_kind {s u : Option κ} {members : List (Quoted × Outline)}
    (h : Run (Step tags) s members u) :
    members.Pairwise fun m m' => Slot.kind.Gives m → ¬ Slot.kind.Gives m' := by
  refine (h.taken (fun s => s ≠ none) ?_ ?_).1
  · rintro s m t ⟨name, -, ⟨-, rfl⟩ | ⟨-, rfl, -⟩⟩ hs
    · exact hs
    · exact absurd rfl hs
  · rintro s m t ⟨name, hname, ⟨hne, -⟩ | ⟨-, rfl, kind, rfl, -⟩⟩ hgives
    · exact absurd (List.mem_singleton.mp (hgives.mem_names hname)) hne
    · exact ⟨fun hs => hs rfl, by simp, Slot.admits_kind m.2⟩

end Tag

namespace NodeReader

variable {κ σ α : Type}

/-- A reader whose nodes have known fields, which are read from content. -/
structure Slotted (r : NodeReader κ σ α) (slots : κ → List Slot) : Prop where
  distinct : Tag.Distinct r.tags
  untagged : ∀ kind, ∀ f ∈ slots kind, "kind" ∉ f.names
  record : ∀ kind, (r.record kind).Slotted r.fieldContent Slot.AdmitsContent (slots kind)

variable {r : NodeReader κ σ α} {slots : κ → List Slot} {kind : κ} {o : Outline}

/-- A node is of no other kind than it is read as. -/
lemma Traversed.eq_of_ofKind (h : r.Traversed kind o) (hdistinct : Tag.Distinct r.tags)
    {kind' : κ} (hkind : OfKind r.tags kind' o) : kind' = kind := by
  obtain ⟨members, fault, comma, depth, u, rfl, hrun, -⟩ |
    ⟨v, items, fault, depth, u, rfl, htells, -⟩ := h
  · cases hkind with
    | @record _ _ _ m hm hkey hvalue =>
      obtain ⟨s, t, rest, ⟨name, hname, hstep⟩, hrest⟩ := hrun.exists_step hm
      rw [hkey.text_eq] at hname
      obtain ⟨hne, -⟩ | ⟨-, -, kind'', rfl, htells⟩ := hstep
      · exact absurd (Except.ok.inj hname).symm hne
      · -- Once met, a kind stays, so it is the one in the end.
        have hlast := hrest.preserves (P := fun x => x = some kind'') ?_ rfl
        · rw [Option.some.inj hlast]
          exact htells.eq_of_names hdistinct hvalue
        · rintro s m t ⟨name, -, ⟨-, rfl⟩ | ⟨-, rfl, -⟩⟩ hs
          · exact hs
          · cases hs
  · cases hkind with
    | list hvalue => exact htells.eq_of_names hdistinct hvalue

/-- The fields of a node are given at most once, and with values that are accepted. -/
theorem Slotted.taken (hslots : r.Slotted slots) {depth : Nat} {s u : σ}
    {members : List (Quoted × Outline)} (h : Run (r.Step kind depth) s members u) {f : Slot}
    (hf : f ∈ slots kind) :
    members.Pairwise (fun m m' => f.Gives m → ¬ f.Gives m') ∧
      ∀ m ∈ members, f.Gives m → f.Admits m.2 := by
  obtain ⟨filled, hfilled⟩ := (hslots.record kind).exists_takes id (fun _ => .ok ()) hf
  refine h.taken filled ?_ ?_
  · rintro s m t ⟨name, -, ⟨-, rfl⟩ | ⟨c, -, hput⟩⟩
    · exact id
    · exact hfilled.keeps hput
  · rintro s m t ⟨name, hname, ⟨rfl, -⟩ | ⟨c, hc, hput⟩⟩ hgives
    · exact absurd (hgives.mem_names hname) (hslots.untagged kind f hf)
    · obtain ⟨hfresh, hnow, hadmits⟩ := hfilled.takes hput (hgives.mem_names hname)
      exact ⟨hfresh, hnow, fun role hrole => (hadmits role hrole).accepts hc⟩

/-- **Nodes give their kind and each of their fields at most once.** -/
theorem Traversed.taken (h : r.Traversed kind o) (hslots : r.Slotted slots) :
    Taken (Slot.kind :: slots kind) o := by
  obtain ⟨members, fault, comma, depth, u, rfl, hkinds, hrun⟩ |
    ⟨v, items, fault, depth, u, rfl, htells, hrun⟩ := h
  · refine .record (List.forall_mem_cons.mpr ⟨Tag.pairwise_kind hkinds, fun f hf => ?_⟩)
      (List.forall_mem_cons.mpr ⟨fun m _ _ => Slot.admits_kind m.2, fun f hf => ?_⟩)
    · exact (hslots.taken hrun hf).1
    · exact (hslots.taken hrun hf).2
  · refine .list (List.forall_mem_cons.mpr ⟨Slot.admits_kind v, fun p hp => ?_⟩)
    obtain ⟨filled, hfilled⟩ :=
      (hslots.record kind).exists_takes id (fun _ => .ok ()) (List.of_mem_zip hp).1
    rw [(hslots.record kind).fieldNames_eq] at hrun
    obtain ⟨s, t, rest, ⟨c, hc, hput⟩, -⟩ := hrun.exists_step (mem_zip_names hp)
    obtain ⟨-, -, hadmits⟩ := hfilled.takes hput p.1.name_mem_names
    exact fun role hrole => (hadmits role hrole).accepts hc

end NodeReader

/-! ## The known fields -/

/-- A field without a role admits everything. -/
lemma Slot.ReadBy.of_role_none {σ β ε γ : Type} {input : γ → β}
    {accepts : Role → γ → Prop} {slot : Slot} {f : FieldReader σ β ε} (hrole : slot.role = none)
    (hnames : slot.names = f.names) :
    slot.ReadBy input (fun slot v => ∀ role, slot.role = some role → accepts role v) f :=
  ⟨hnames, fun _ _ _ role h => by rw [hrole] at h; cases h⟩

/-- A field with a role admits what is accepted in that role. -/
lemma Slot.ReadBy.of_role {σ β ε γ : Type} {input : γ → β} {accepts : Role → γ → Prop}
    {slot : Slot} {f : FieldReader σ β ε} {role : Role} (hrole : slot.role = some role)
    (hnames : slot.names = f.names) (haccepts : ∀ v x, f.read (input v) = .ok x → accepts role v) :
    slot.ReadBy input (fun slot v => ∀ role, slot.role = some role → accepts role v) f := by
  refine ⟨hnames, fun v x hread role' h => ?_⟩
  rw [hrole] at h
  exact Option.some.inj h ▸ haccepts v x hread

/-- The known fields of conditions are those that are read. -/
lemma Condition.slotted_reader : reader.Slotted Kind.slots where
  distinct := by
    unfold Tag.Distinct
    decide
  untagged kind := by cases kind <;> simp [Kind.slots, Slot.names]
  record kind := by
    cases kind with
    | compare op => exact .cons (.of_role_none rfl rfl) (.cons (.of_role_none rfl rfl) .nil)
    | connect op =>
      exact .cons (.of_role rfl rfl fun c p h => ⟨p, h⟩)
        (.cons (.of_role rfl rfl fun c p h => ⟨p, h⟩) .nil)

/-- The known fields of expressions are those that are read. -/
lemma Expression.slotted_reader : reader.Slotted Kind.slots where
  distinct := by
    unfold Tag.Distinct
    decide
  untagged kind := by cases kind <;> simp [Kind.slots, Slot.names]
  record kind := by
    cases kind with
    | table => exact .cons (.of_role_none rfl rfl) (.cons (.of_role_none rfl rfl) .nil)
    | selection =>
      exact .cons (.of_role rfl rfl fun c e h => ⟨e, h⟩)
        (.cons (.of_role rfl rfl fun c p h => ⟨p, h⟩) .nil)
    | projection =>
      exact .cons (.of_role rfl rfl fun c e h => ⟨e, h⟩) (.cons (.of_role_none rfl rfl) .nil)
    | join =>
      exact .cons (.of_role rfl rfl fun c e h => ⟨e, h⟩)
        (.cons (.of_role rfl rfl fun c e h => ⟨e, h⟩)
          (.cons (.of_role rfl rfl fun c p h => ⟨p, h⟩) (.cons (.of_role_none rfl rfl) .nil)))

/-- The known field of time blocks is the one that is read. -/
lemma slotted_timeBlock : timeBlockShape.Slotted id Slot.Admits timeBlockSlots :=
  .cons (.of_role_none rfl rfl) .nil

/-- The known fields of routes are those that are read. -/
lemma Route.slotted_shape : shape.Slotted id Slot.Admits slots :=
  .cons (.of_role_none rfl rfl) (.cons (.of_role_none rfl rfl) .nil)

/-- The known fields of hint options are those that are read. -/
lemma Options.slotted_shape : shape.Slotted id Slot.Admits slots :=
  .cons (.of_role rfl rfl fun _ x h => ⟨x, h⟩) (.cons (.of_role rfl rfl fun _ x h => ⟨x, h⟩) .nil)

/-- The known fields of requests are those that are read. -/
lemma Request.slotted_shape : shape.Slotted id Slot.Admits slots :=
  .cons (.of_role rfl rfl fun _ e h => .inl ⟨1, e, h⟩)
    (.cons (.of_role rfl rfl fun _ x h => ⟨x, h⟩) .nil)

/-! ## Accepted values give no field twice -/

/-- What may be null gives no field twice if it gives none twice otherwise. -/
lemma taken_of_optional {α : Type} {read : Outline → Except ReadError α} {fields : List Slot}
    (hread : ∀ o a, read o = .ok a → Taken fields o) {o : Outline} {x : Option α}
    (h : optional read o = .ok x) : Taken fields o := by
  rw [optional.eq_def] at h
  split at h
  · exact .null
  · cases hvalue : read o with
    | error e => rw [hvalue] at h; cases h
    | ok a => exact hread o a hvalue

/-- Of the fields that are given at most once, the first is. -/
lemma Taken.head {f : Slot} {fields : List Slot} {o : Outline} (h : Taken (f :: fields) o) :
    Taken [f] o := by
  cases h with
  | null => exact .null
  | record once admits =>
    exact .record (by simpa using once f List.mem_cons_self)
      (by simpa using admits f List.mem_cons_self)
  | @list items fault admits =>
    refine .list fun p hp => admits p ?_
    cases items with
    | nil => cases hp
    | cons v vs =>
      obtain rfl := List.mem_singleton.mp hp
      exact List.mem_cons_self

/-- **Accepted values give each field at most once**, and with accepted values. -/
theorem Role.Accepts.taken {role : Role} {o : Outline} {fields : List Slot} (h : role.Accepts o)
    (hhas : role.Has o fields) : Taken fields o := by
  cases hhas with
  | request =>
    obtain ⟨r, hr⟩ := h
    exact Shape.taken_of_read Request.slotted_shape hr
  | options =>
    obtain ⟨x, hx⟩ := h
    exact Shape.taken_of_read Options.slotted_shape hx
  | timeBlock =>
    obtain ⟨x, hx⟩ := h
    exact taken_of_optional (fun o t => Shape.taken_of_read slotted_timeBlock) hx
  | route =>
    obtain ⟨x, hx⟩ := h
    exact taken_of_optional (fun o t => Shape.taken_of_read Route.slotted_shape) hx
  | expressionKind =>
    obtain ⟨kind, htraversed⟩ := NodeReader.Accepts.exists_traversed h
    exact (htraversed.taken Expression.slotted_reader).head
  | @expression _ kind hkind =>
    obtain ⟨kind', htraversed⟩ := NodeReader.Accepts.exists_traversed h
    obtain rfl := htraversed.eq_of_ofKind Expression.slotted_reader.distinct hkind
    exact htraversed.taken Expression.slotted_reader
  | conditionKind =>
    obtain ⟨kind, htraversed⟩ := NodeReader.Accepts.exists_traversed h
    exact (htraversed.taken Condition.slotted_reader).head
  | @condition _ kind hkind =>
    obtain ⟨kind', htraversed⟩ := NodeReader.Accepts.exists_traversed h
    obtain rfl := htraversed.eq_of_ofKind Condition.slotted_reader.distinct hkind
    exact htraversed.taken Condition.slotted_reader

/-- **A value in which a field is given twice is not accepted**, however deep inside it.

**Proof sketch.** By induction on where the field is given twice. An accepted value takes each of
its fields at most once, and from a value that is accepted itself. -/
theorem not_accepts_of_repeats {role : Role} {o : Outline} (h : Repeats role o) :
    ¬ role.Accepts o := by
  induction h with
  | here hhas hf hpair hm hm' =>
    intro haccepts
    cases haccepts.taken hhas with
    | record once _ => exact List.pairwise_iff_forall_sublist.mp (once _ hf) hpair hm hm'
  | member hhas hf hrole hmem hm _ ih =>
    intro haccepts
    cases haccepts.taken hhas with
    | record _ admits => exact ih (admits _ hf _ hmem hm _ hrole)
  | item hhas hitem hrole _ ih =>
    intro haccepts
    cases haccepts.taken hhas with
    | list admits => exact ih (admits _ hitem _ hrole)

/-- A computation without a result fails. -/
lemma exists_error_of_forall_ne {ε α : Type} {x : Except ε α} (h : ∀ a, x ≠ .ok a) :
    ∃ e, x = .error e := by
  cases x with
  | error e => exact ⟨e, rfl⟩
  | ok a => exact absurd rfl (h a)

/-- **No field is given twice in a document that is read.** A JSON text of a request, an expression
or a condition is refused if a field is given twice in it: in the request itself, in its options,
their time block or route, or in any expression or condition that is reached through the fields of
others, by name or by position. -/
theorem ofJson_of_repeats {s : String} {o : Outline} (hspells : Json.Spells s o) :
    (Repeats .request o → ∃ e, Request.ofJson s = .error e) ∧
    (Repeats .expression o → ∃ e, Expression.ofJson s = .error e) ∧
    (Repeats .condition o → ∃ e, Condition.ofJson s = .error e) := by
  refine ⟨fun h => ?_, fun h => ?_, fun h => ?_⟩ <;> apply exists_error_of_forall_ne
  · intro r hr
    rw [Request.ofJson, hspells.read_eq] at hr
    exact not_accepts_of_repeats h ⟨r, hr⟩
  · intro e he
    rw [Expression.ofJson, hspells.read_eq] at he
    exact not_accepts_of_repeats h (.inl ⟨0, e, he⟩)
  · intro c hc
    rw [Condition.ofJson, hspells.read_eq] at hc
    exact not_accepts_of_repeats h (.inl ⟨0, c, hc⟩)

/-- The fields of a join whose kind comes last and whose join type is given under both its names. -/
def twiceTypedFields : List (String × Datum) :=
  [("joinType", .text "left"), ("left", .list [.text "table", .text "a"]),
    ("right", .list [.text "table", .text "b"]),
    ("on", .list [.text "eq", .text "x", .text "y"]), ("join_type", .text "left"),
    ("kind", .text "join")]

/-- A request with that join as an item of a list. -/
def twiceTypedRequest : Datum :=
  .record [("options", .record []),
    ("expression", .list [.text "projection", .record twiceTypedFields, .list [.text "x"]])]

/-- The join gives its type twice, under different names. -/
lemma repeats_twiceTypedFields : Repeats .expression (Datum.record twiceTypedFields).outline := by
  have hkind : OfKind Expression.tags .join (Datum.record twiceTypedFields).outline := by
    refine .record (m := (.ofText "kind", (Datum.text "join").outline)) ?_
      (Quoted.says_ofText "kind") (.name (Quoted.says_ofText "join") (by decide))
    simp [Datum.fieldOutlines_eq_map, twiceTypedFields]
  have hpair : [(Quoted.ofText "joinType", (Datum.text "left").outline),
      (Quoted.ofText "join_type", (Datum.text "left").outline)].Sublist
      (Datum.fieldOutlines twiceTypedFields) :=
    .cons_cons _ (.cons _ (.cons _ (.cons _ (.cons_cons _ (.cons _ .slnil)))))
  have hslot : (⟨"join_type", ["joinType"], none⟩ : Slot) ∈
      Slot.kind :: Expression.Kind.join.slots := by
    simp [Expression.Kind.slots]
  exact .here (.expression hkind) hslot hpair ⟨"joinType", by decide, Quoted.says_ofText _⟩
    ⟨"join_type", by decide, Quoted.says_ofText _⟩

/-- A request in which a join, as an item of a list, gives its type twice. -/
theorem twiceTypedRequest_refused :
    Repeats .request twiceTypedRequest.outline ∧
      ∃ e, Request.ofJson twiceTypedRequest.compact = .error e := by
  have hkind : OfKind Expression.tags .projection
      (Datum.list [.text "projection", .record twiceTypedFields, .list [.text "x"]]).outline :=
    .list (.name (Quoted.says_ofText "projection") (by decide))
  have hexpression : Repeats .expression
      (Datum.list [.text "projection", .record twiceTypedFields, .list [.text "x"]]).outline :=
    .item (.expression hkind) (List.mem_cons_of_mem _ List.mem_cons_self) rfl
      repeats_twiceTypedFields
  have hrequest : Repeats .request twiceTypedRequest.outline :=
    .member .request List.mem_cons_self rfl (List.mem_cons_of_mem _ List.mem_cons_self)
      ⟨"expression", by decide, Quoted.says_ofText _⟩ hexpression
  exact ⟨hrequest, (ofJson_of_repeats twiceTypedRequest.spells_compact).1 hrequest⟩

end HintedSql
