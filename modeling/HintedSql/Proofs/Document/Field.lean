import HintedSql.Document.Request
import HintedSql.Proofs.Json.Content
set_option relaxedAutoImplicit false
set_option autoImplicit false

/-!
# The fields of records

A record may be written with its members in any order, under any of the names its fields go by, with
further members among them and without those that need not be given; or as a list of its fields in
order. What such a value gives is said here without regard to how it is read.

## Main definitions

* `HintedSql.Field` — a field of a record; `HintedSql.Gives`, `HintedSql.Lists` — members and items
  that give fields.
* `HintedSql.Presented` — a value that presents a record; `HintedSql.Tagged` — one with a kind.
* `HintedSql.Json.Outline.Fits` — a well-formed value that is not nested too deep where it stands.

## Main results

* `HintedSql.Presented.exists_replace` — one field of a presentation changed for another.
* `HintedSql.Tag.ofOutline_of_tagged`, `HintedSql.Tag.content_of_tagged` — the kind and the fields
  of an outermost node, and of one inside another.
-/

namespace HintedSql

open Json (Outline Quoted Named)

/-! ## Readers that succeed -/

/-- A computation that succeeds does so at each of its steps. -/
lemma exists_of_bind_eq_ok {ε α β : Type} {x : Except ε α} {f : α → Except ε β} {b : β}
    (h : x >>= f = .ok b) : ∃ a, x = .ok a ∧ f a = .ok b := by
  cases x with
  | error e => cases h
  | ok a => exact ⟨a, rfl, h⟩

/-- If reading succeeds, the notation was without fault. -/
lemma ReadError.eq_ok_of_ofFault {α : Type} {x : Except Json.Fault α} {a : α}
    (h : ofFault x = .ok a) : x = .ok a := by
  cases x with
  | error f => cases h
  | ok b => exact congrArg Except.ok (Except.ok.inj h)

/-- If reading succeeds, nothing was of another type than expected. -/
lemma ReadError.eq_ok_of_ofMismatch {α : Type} {x : Except Mismatch α} {a : α}
    (h : ofMismatch x = .ok a) : x = .ok a := by
  cases x with
  | error m => cases h
  | ok b => exact congrArg Except.ok (Except.ok.inj h)

/-! ## Values that fit -/

namespace Json

/-- A text that spells a value is read as that value is. -/
lemma Spells.read_eq {α : Type} {s : String} {o : Outline} (h : Spells s o)
    (decode : Outline → Except ReadError α) : (outline s).read decode = decode o := by
  rw [h.outline_eq, Document.read]
  cases decode o <;> rfl

/-- A string that stands for a text. -/
def Outline.Says (o : Outline) (s : String) : Prop :=
  ∃ q : Quoted, o = .string q ∧ q.Says s

/-- A well-formed value that may stand inside `depth` lists and records. -/
def Outline.Fits (depth : Nat) (o : Outline) : Prop :=
  o.WellFormed ∧ depth + o.depth ≤ depthLimit

/-- A value that fits has a content. -/
lemma Outline.Fits.exists_content {depth : Nat} {o : Outline} (h : o.Fits depth) :
    ∃ c, o.content depth = .ok c :=
  h.1.exists_content depth h.2

/-- A named member is one of the members. -/
lemma Named.exists_member {members : List (Quoted × Outline)} {named : List (String × Outline)}
    (h : Named members named) {p : String × Outline} (hp : p ∈ named) :
    ∃ m ∈ members, m.2 = p.2 := by
  induction h with
  | nil => cases hp
  | @cons m q ms qs hq _ ih =>
    obtain rfl | hp := List.mem_cons.mp hp
    · exact ⟨m, List.mem_cons_self, hq.2⟩
    · obtain ⟨m', hm', heq⟩ := ih hp
      exact ⟨m', List.mem_cons_of_mem _ hm', heq⟩

/-- The items of a list that fits are not nested too deep. -/
lemma Outline.Fits.items {depth : Nat} {items : List Outline}
    (h : (Outline.list items none).Fits depth) :
    depth < depthLimit ∧ ∀ v ∈ items, v.Fits (depth + 1) := by
  obtain ⟨hwell, hdepth⟩ := h
  rw [Outline.depth] at hdepth
  cases hwell with
  | list hitems =>
    have hbound := Outline.itemsDepth_le_iff.mp (Nat.le_refl (Outline.itemsDepth items))
    refine ⟨by omega, fun v hv => ⟨hitems v hv, ?_⟩⟩
    have := hbound v hv
    omega

/-- The members of a well-formed record are well-formed. -/
lemma Outline.WellFormed.members {members : List (Quoted × Outline)}
    {named : List (String × Outline)} (hnames : Named members named)
    (h : (Outline.record members none false).WellFormed) : ∀ p ∈ named, p.2.WellFormed := by
  intro p hp
  obtain ⟨m, hm, heq⟩ := hnames.exists_member hp
  cases h with
  | record hnames' hvalues =>
    obtain ⟨p', hp', -, heq'⟩ := hnames'.exists_of_mem hm
    rw [← heq, heq']
    exact hvalues p' hp'

/-- The members of a record that fits are not nested too deep. -/
lemma Outline.Fits.members {depth : Nat} {members : List (Quoted × Outline)}
    {named : List (String × Outline)} (hnames : Named members named)
    (h : (Outline.record members none false).Fits depth) :
    depth < depthLimit ∧ ∀ p ∈ named, p.2.Fits (depth + 1) := by
  obtain ⟨hwell, hdepth⟩ := h
  rw [Outline.depth] at hdepth
  have hbound := hnames.membersDepth_le_iff.mp (Nat.le_refl (Outline.membersDepth members))
  refine ⟨by omega, fun p hp => ⟨hwell.members hnames p hp, ?_⟩⟩
  have := hbound p hp
  omega

end Json

/-! ## Fields -/

/-- A field of a record: the name it has, other names it may be given under, the values that present
it, and whether it may be left out. -/
structure Field where
  name : String
  otherNames : List String := []
  holds : Outline → Prop
  omittable : Prop := False

/-- All names of a field. -/
def Field.names (f : Field) : List String :=
  f.name :: f.otherNames

/-- No two fields share a name. -/
def Distinct (fields : List Field) : Prop :=
  fields.Pairwise fun f g => ∀ n ∈ f.names, n ∉ g.names

/-- Members that give the fields of a record, in any order: what stands under a name of a field
presents it, no field is given twice, and one that is not given may be left out. Members under other
names may be anything. -/
structure Gives (fields : List Field) (members : List (String × Outline)) : Prop where
  holds : ∀ f ∈ fields, ∀ p ∈ members, p.1 ∈ f.names → f.holds p.2
  once : members.Pairwise fun p q => ∀ f ∈ fields, p.1 ∈ f.names → q.1 ∉ f.names
  given : ∀ f ∈ fields, f.omittable ∨ ∃ p ∈ members, p.1 ∈ f.names

/-- Items that give fields by position. Fields at the end may be missing if they may be left out. -/
inductive Lists : List Field → List Outline → Prop where
  | done {fields : List Field} (h : ∀ f ∈ fields, f.omittable) : Lists fields []
  | item {f : Field} {fields : List Field} {v : Outline} {items : List Outline} (h : f.holds v)
      (hrest : Lists fields items) : Lists (f :: fields) (v :: items)

/-- A value that presents a record with given fields. -/
inductive Presented (fields : List Field) : Outline → Prop where
  | record {members : List (Quoted × Outline)} {named : List (String × Outline)}
      (hnames : Named members named) (h : Gives fields named) :
    Presented fields (.record members none false)
  | list {items : List Outline} (h : Lists fields items) : Presented fields (.list items none)

/-- The field that tells the kind of a node. -/
def kindField (kind : String) : Field where
  name := "kind"
  holds := (·.Says kind)

/-- A value that presents a node of a given kind. -/
def Tagged (kind : String) (fields : List Field) : Outline → Prop :=
  Presented (kindField kind :: fields)

/-- Members that give fields in their order and under their proper names, less some that may be left
out. -/
inductive InOrder : List Field → List (String × Outline) → Prop where
  | nil : InOrder [] []
  | given {f : Field} {fields : List Field} {v : Outline} {members : List (String × Outline)}
      (h : f.holds v) (hrest : InOrder fields members) :
    InOrder (f :: fields) ((f.name, v) :: members)
  | omitted {f : Field} {fields : List Field} {members : List (String × Outline)}
      (h : f.omittable) (hrest : InOrder fields members) : InOrder (f :: fields) members

/-- Members that are in order each give one of the fields. -/
lemma InOrder.exists_field {fields : List Field} {members : List (String × Outline)}
    (h : InOrder fields members) : ∀ p ∈ members, ∃ f ∈ fields, p.1 = f.name := by
  induction h with
  | nil => simp
  | @given f fields v members _ _ ih =>
    intro p hp
    obtain rfl | hp := List.mem_cons.mp hp
    · exact ⟨f, List.mem_cons_self, rfl⟩
    · obtain ⟨g, hg, hname⟩ := ih p hp
      exact ⟨g, List.mem_cons_of_mem _ hg, hname⟩
  | omitted _ _ ih =>
    intro p hp
    obtain ⟨g, hg, hname⟩ := ih p hp
    exact ⟨g, List.mem_cons_of_mem _ hg, hname⟩

/-- A field before others does not go by the name of a member that gives one of those. -/
lemma InOrder.notMem_names {f : Field} {fields : List Field} {members : List (String × Outline)}
    (hdistinct : Distinct (f :: fields)) (h : InOrder fields members) :
    ∀ p ∈ members, p.1 ∉ f.names := by
  intro p hp hmem
  obtain ⟨g, hg, hname⟩ := h.exists_field p hp
  refine (List.pairwise_cons.mp hdistinct).1 g hg p.1 hmem ?_
  rw [hname]
  exact List.mem_cons_self

/-- Members in the order of the fields give them. -/
lemma InOrder.gives {fields : List Field} {members : List (String × Outline)}
    (h : InOrder fields members) (hdistinct : Distinct fields) : Gives fields members := by
  induction h with
  | nil => exact ⟨by simp, .nil, by simp⟩
  | @given f fields v members hv hrest ih =>
    have hnames := hrest.notMem_names hdistinct
    obtain ⟨hhead, htail⟩ := List.pairwise_cons.mp hdistinct
    have hself : f.name ∈ f.names := List.mem_cons_self
    obtain ⟨hholds, honce, hgiven⟩ := ih htail
    refine ⟨fun g hg p hp hmem => ?_, List.pairwise_cons.mpr ⟨fun q hq g hg hmem => ?_, ?_⟩,
      fun g hg => ?_⟩
    · obtain rfl | hg := List.mem_cons.mp hg <;> obtain rfl | hp := List.mem_cons.mp hp
      · exact hv
      · exact absurd hmem (hnames p hp)
      · exact absurd hmem (hhead g hg f.name hself)
      · exact hholds g hg p hp hmem
    · obtain rfl | hg := List.mem_cons.mp hg
      · exact hnames q hq
      · exact absurd hmem (hhead g hg f.name hself)
    · refine honce.imp_of_mem fun {p q} hp _ hpq g hg hmem => ?_
      obtain rfl | hg := List.mem_cons.mp hg
      · exact absurd hmem (hnames p hp)
      · exact hpq g hg hmem
    · obtain rfl | hg := List.mem_cons.mp hg
      · exact .inr ⟨_, List.mem_cons_self, hself⟩
      · refine (hgiven g hg).imp id fun ⟨p, hp, hmem⟩ => ⟨p, List.mem_cons_of_mem _ hp, hmem⟩
  | @omitted f fields members ho hrest ih =>
    have hnames := hrest.notMem_names hdistinct
    obtain ⟨hholds, honce, hgiven⟩ := ih (List.pairwise_cons.mp hdistinct).2
    refine ⟨fun g hg p hp hmem => ?_, honce.imp_of_mem fun {p q} hp _ hpq g hg hmem => ?_,
      fun g hg => ?_⟩
    · obtain rfl | hg := List.mem_cons.mp hg
      · exact absurd hmem (hnames p hp)
      · exact hholds g hg p hp hmem
    · obtain rfl | hg := List.mem_cons.mp hg
      · exact absurd hmem (hnames p hp)
      · exact hpq g hg hmem
    · obtain rfl | hg := List.mem_cons.mp hg
      · exact .inl ho
      · exact hgiven g hg

/-- Items by position are members in order, under the names that the positions stand for. -/
lemma Lists.inOrder {fields : List Field} {items : List Outline} (h : Lists fields items) :
    InOrder fields ((fields.map Field.name).zip items) := by
  induction h with
  | @done fields ho =>
    induction fields with
    | nil => exact .nil
    | cons f fs ih =>
      refine .omitted (ho f List.mem_cons_self) ?_
      simpa using ih fun g hg => ho g (List.mem_cons_of_mem _ hg)
  | item hv _ ih => exact .given hv ih

/-- A list has at most one item for each field. -/
lemma Lists.length_le {fields : List Field} {items : List Outline} (h : Lists fields items) :
    items.length ≤ fields.length := by
  induction h with
  | done _ => exact Nat.zero_le _
  | item _ _ ih => exact Nat.succ_le_succ ih

/-- Fields that a list does not reach may be left out. -/
lemma Lists.omittable {fields : List Field} (h : Lists fields []) :
    ∀ f ∈ fields, f.omittable := by
  cases h with
  | done hall => exact hall

/-- Members that give a field also give another of the same names, if what stands there presents
that one as well. -/
lemma Gives.replace {fs gs : List Field} {f g : Field} {members : List (String × Outline)}
    (h : Gives (fs ++ f :: gs) members) (hnames : g.names = f.names)
    (hholds : ∀ p ∈ members, p.1 ∈ f.names → g.holds p.2)
    (hgiven : g.omittable ∨ ∃ p ∈ members, p.1 ∈ f.names) : Gives (fs ++ g :: gs) members := by
  have hmem {f' : Field} (h' : f' ∈ fs ++ g :: gs) : f' = g ∨ f' ∈ fs ++ f :: gs := by
    simp only [List.mem_append, List.mem_cons] at h' ⊢
    tauto
  have hf : f ∈ fs ++ f :: gs := List.mem_append_right _ List.mem_cons_self
  refine ⟨fun f' hf' p hp hname => ?_, h.once.imp fun hpq f' hf' => ?_, fun f' hf' => ?_⟩
  · obtain rfl | hf' := hmem hf'
    · exact hholds p hp (hnames ▸ hname)
    · exact h.holds f' hf' p hp hname
  · obtain rfl | hf' := hmem hf'
    · rw [hnames]
      exact hpq f hf
    · exact hpq f' hf'
  · obtain rfl | hf' := hmem hf'
    · rwa [hnames]
    · exact h.given f' hf'

section Replace

variable {α : Type} {Q : α → Prop} {f : Field} (field : α → Field)
  (hgiven : ∀ v : Outline, v.WellFormed → f.holds v → ∃ a, Q a ∧ (field a).holds v)
  (homitted : f.omittable → ∃ a, Q a ∧ (field a).omittable)

include hgiven homitted

/-- Among members at most one gives a field, so that the other field can be chosen to suit it. -/
theorem Gives.exists_replace {fs gs : List Field} {members : List (String × Outline)}
    (hnames : ∀ a, (field a).names = f.names) (hwell : ∀ p ∈ members, p.2.WellFormed)
    (h : Gives (fs ++ f :: gs) members) : ∃ a, Q a ∧ Gives (fs ++ field a :: gs) members := by
  have hf : f ∈ fs ++ f :: gs := List.mem_append_right _ List.mem_cons_self
  by_cases hp : ∃ p ∈ members, p.1 ∈ f.names
  · obtain ⟨p, hp, hname⟩ := hp
    obtain ⟨a, ha, hholds⟩ := hgiven p.2 (hwell p hp) (h.holds f hf p hp hname)
    refine ⟨a, ha, h.replace (hnames a) (fun q hq hname' => ?_) (.inr ⟨p, hp, hname⟩)⟩
    have honce : members.Pairwise fun p q => p.1 ∈ f.names → q.1 ∉ f.names :=
      h.once.imp fun hpq => hpq f hf
    -- Two members that both give the field would be a field given twice.
    have : Std.Symm fun p q : String × Outline => p.1 ∈ f.names → q.1 ∉ f.names :=
      ⟨fun x y hxy hy hx => hxy hx hy⟩
    by_contra hne
    have hpq : p ≠ q := fun heq => hne (heq ▸ hholds)
    exact honce.forall hp hq hpq hname hname'
  · obtain ⟨a, ha, homit⟩ := homitted ((h.given f hf).resolve_right hp)
    exact ⟨a, ha, h.replace (hnames a) (fun q hq hname => absurd ⟨q, hq, hname⟩ hp) (.inl homit)⟩

/-- In a list one item at most gives a field, and again the other field can be chosen to suit it. -/
theorem Lists.exists_replace {fs gs : List Field} {items : List Outline}
    (hwell : ∀ v ∈ items, v.WellFormed) (h : Lists (fs ++ f :: gs) items) :
    ∃ a, Q a ∧ Lists (fs ++ field a :: gs) items := by
  induction fs generalizing items with
  | nil =>
    cases h with
    | done hall =>
      obtain ⟨hf, hgs⟩ := List.forall_mem_cons.mp hall
      obtain ⟨a, ha, homit⟩ := homitted hf
      exact ⟨a, ha, .done (List.forall_mem_cons.mpr ⟨homit, hgs⟩)⟩
    | item hv hrest =>
      obtain ⟨a, ha, hholds⟩ := hgiven _ (hwell _ List.mem_cons_self) hv
      exact ⟨a, ha, .item hholds hrest⟩
  | cons f' fs ih =>
    cases h with
    | done hall =>
      obtain ⟨hf', hrest⟩ := List.forall_mem_cons.mp hall
      obtain ⟨a, ha, hlists⟩ := ih (by simp) (.done hrest)
      exact ⟨a, ha, .done (List.forall_mem_cons.mpr ⟨hf', hlists.omittable⟩)⟩
    | item hv hrest =>
      obtain ⟨a, ha, hlists⟩ := ih (fun v hmem => hwell v (List.mem_cons_of_mem _ hmem)) hrest
      exact ⟨a, ha, .item hv hlists⟩

/-- **Changing one field of a presentation.** If whatever presents a field also presents one out of
a family of fields of the same names, a value that presents a record with that field presents it
with one of the family. -/
theorem Presented.exists_replace (fs gs : List Field) {o : Outline}
    (hnames : ∀ a, (field a).names = f.names) (hwell : o.WellFormed)
    (h : Presented (fs ++ f :: gs) o) : ∃ a, Q a ∧ Presented (fs ++ field a :: gs) o := by
  cases h with
  | record hnamed h =>
    obtain ⟨a, ha, hgives⟩ :=
      h.exists_replace field hgiven homitted hnames (hwell.members hnamed)
    exact ⟨a, ha, .record hnamed hgives⟩
  | list h =>
    cases hwell with
    | list hitems =>
      obtain ⟨a, ha, hlists⟩ := h.exists_replace field hgiven homitted hitems
      exact ⟨a, ha, .list hlists⟩

end Replace

/-! ## Nodes with a kind -/

/-- The content of a member that stands inside `depth` lists and records. -/
def entry (depth : Nat) (p : String × Outline) : Content × Content :=
  (.text p.1, p.2.held depth)

/-- A payload that gives fields which stand inside `depth` lists and records. -/
def Payload.Holds (fields : List Field) (depth : Nat) : Payload → Prop
  | entries es => ∃ named, es = named.map (entry depth) ∧ Gives fields named ∧
      ∀ p ∈ named, p.2.Fits depth
  | items cs => ∃ items, cs = items.map (Outline.held depth) ∧ Lists fields items ∧
      ∀ v ∈ items, v.Fits depth

/-- A value that says a text holds the text, however deep it stands. -/
lemma Json.Outline.Says.held_eq {o : Outline} {s : String} (h : o.Says s) (depth : Nat) :
    o.held depth = .text s := by
  obtain ⟨q, rfl, hq⟩ := h
  exact Outline.held_eq (by rw [Outline.content, hq.text_eq]; rfl)

/-- A value that says a text is read as the text. -/
lemma Json.Outline.Says.text_eq {o : Outline} {s : String} (h : o.Says s) : o.text = .ok s := by
  obtain ⟨q, rfl, hq⟩ := h
  rw [Outline.text, hq.text_eq]
  rfl

namespace Gives

variable {kind : String} {fields : List Field} {members : List (String × Outline)}

/-- A member named `kind` says the kind. -/
lemma says_kind (h : Gives (kindField kind :: fields) members) :
    ∀ p ∈ members, p.1 = "kind" → p.2.Says kind := by
  intro p hp hname
  exact h.holds (kindField kind) List.mem_cons_self p hp (by simp [Field.names, kindField, hname])

/-- The kind is given at most once. -/
lemma kind_once (h : Gives (kindField kind :: fields) members) :
    members.Pairwise fun p q => p.1 = "kind" → q.1 ≠ "kind" := by
  refine h.once.imp fun {p q} hpq hp hq => ?_
  exact hpq (kindField kind) List.mem_cons_self (by simp [Field.names, kindField, hp])
    (by simp [Field.names, kindField, hq])

/-- The kind is given. -/
lemma exists_kind (h : Gives (kindField kind :: fields) members) :
    ∃ p ∈ members, p.1 = "kind" := by
  obtain hfalse | ⟨p, hp, hname⟩ := h.given (kindField kind) List.mem_cons_self
  · exact hfalse.elim
  · exact ⟨p, hp, by simpa [Field.names, kindField] using hname⟩

/-- The other fields are given whether or not the kind stands among them. -/
lemma untagged (h : Gives (kindField kind :: fields) members) : Gives fields members where
  holds f hf := h.holds f (List.mem_cons_of_mem _ hf)
  once := h.once.imp fun hpq f hf => hpq f (List.mem_cons_of_mem _ hf)
  given f hf := h.given f (List.mem_cons_of_mem _ hf)

/-- The members other than the kind give the other fields. -/
lemma without_kind (hdistinct : Distinct (kindField kind :: fields))
    (h : Gives (kindField kind :: fields) members) :
    Gives fields (members.filter (·.1 ≠ "kind")) := by
  refine ⟨fun f hf p hp => h.untagged.holds f hf p (List.mem_filter.mp hp).1,
    h.untagged.once.filter _, fun f hf => (h.untagged.given f hf).imp id ?_⟩
  rintro ⟨p, hp, hname⟩
  refine ⟨p, List.mem_filter.mpr ⟨hp, decide_eq_true fun hkind => ?_⟩, hname⟩
  refine (List.pairwise_cons.mp hdistinct).1 f hf "kind" List.mem_cons_self ?_
  rwa [hkind] at hname

end Gives

namespace Tag

variable {α : Type} {tags : List (String × α)} {a : α} {name : String}

/-- A value that says the name of a kind is read as the kind. -/
lemma ofValue_of_says (htag : ofName tags name = .ok a) {o : Outline} (h : o.Says name) :
    ofValue tags o = .ok a := by
  obtain ⟨q, rfl, hq⟩ := h
  rw [ofValue, hq.text_eq]
  exact congrArg ReadError.ofMismatch htag

/-- So is the content of such a value. -/
lemma ofContent_of_says (htag : ofName tags name = .ok a) {o : Outline} (h : o.Says name)
    (depth : Nat) : ofContent tags (o.held depth) = .ok a := by
  rw [h.held_eq, ofContent, htag]

/-- The members of an outermost node: its kind and the content of all others. -/
lemma readMembers_of_named {depth : Nat} {members : List (Quoted × Outline)}
    {named : List (String × Outline)} (hnames : Named members named)
    (hfits : ∀ p ∈ named, p.2.Fits depth)
    (honce : named.Pairwise fun p q => p.1 = "kind" → q.1 ≠ "kind") (kind : Option α)
    (hkind : ∀ p ∈ named, p.1 = "kind" → kind = none ∧ ofValue tags p.2 = .ok a)
    (hgiven : kind = some a ∨ ∃ p ∈ named, p.1 = "kind") (entries : List (Content × Content)) :
    readMembers tags depth kind entries members =
      .ok (some a, entries.reverse ++ (named.filter (·.1 ≠ "kind")).map (entry depth)) := by
  induction hnames generalizing kind entries with
  | nil =>
    obtain rfl | ⟨p, hp, -⟩ := hgiven
    · simp [readMembers]
    · cases hp
  | @cons m p ms ps hp _ ih =>
    obtain ⟨hhead, htail⟩ := List.pairwise_cons.mp honce
    have ih := ih (fun q hq => hfits q (List.mem_cons_of_mem _ hq)) htail
    obtain ⟨hkey, hsame⟩ := hp
    rw [readMembers.eq_def]
    simp only [hkey.text_eq, hsame]
    by_cases hname : p.1 = "kind"
    · obtain ⟨rfl, hvalue⟩ := hkind p List.mem_cons_self hname
      have hrest := ih (some a) (fun q hq hq' => absurd hq' (hhead q hq hname)) (.inl rfl) entries
      simpa [ReadError.ofFault, bind, Except.bind, hname, hvalue] using hrest
    · obtain ⟨c, hc⟩ := (hfits p List.mem_cons_self).exists_content
      have hrest := ih kind (fun q hq => hkind q (List.mem_cons_of_mem _ hq))
        (hgiven.imp id fun ⟨q, hq, hq'⟩ => by
          obtain rfl | hq := List.mem_cons.mp hq
          · exact absurd hq' hname
          · exact ⟨q, hq, hq'⟩) ((.text p.1, c) :: entries)
      simpa [ReadError.ofFault, bind, Except.bind, hname, hc, entry, Outline.held_eq hc]
        using hrest

/-- The kind among the entries of a node. -/
lemma search_of_named {depth : Nat} {named : List (String × Outline)}
    (honce : named.Pairwise fun p q => p.1 = "kind" → q.1 ≠ "kind") (found : Option α)
    (hkind : ∀ p ∈ named, p.1 = "kind" → found = none ∧ ofContent tags (p.2.held depth) = .ok a)
    (hgiven : found = some a ∨ ∃ p ∈ named, p.1 = "kind") :
    search tags found (named.map (entry depth)) = .ok a := by
  induction named generalizing found with
  | nil =>
    obtain rfl | ⟨p, hp, -⟩ := hgiven
    · rfl
    · cases hp
  | cons p ps ih =>
    obtain ⟨hhead, htail⟩ := List.pairwise_cons.mp honce
    by_cases hname : p.1 = "kind"
    · obtain ⟨rfl, hvalue⟩ := hkind p List.mem_cons_self hname
      have hrest := ih htail (some a) (fun q hq hq' => absurd hq' (hhead q hq hname)) (.inl rfl)
      simpa [search, entry, hname, hvalue, bind, Except.bind] using hrest
    · have hrest := ih htail found (fun q hq => hkind q (List.mem_cons_of_mem _ hq))
        (hgiven.imp id fun ⟨q, hq, hq'⟩ => by
          obtain rfl | hq := List.mem_cons.mp hq
          · exact absurd hq' hname
          · exact ⟨q, hq, hq'⟩)
      simpa [search, entry, hname] using hrest

/-- **The outermost node** of a text gives its kind and its fields. -/
theorem ofOutline_of_tagged {fields : List Field} (htag : ofName tags name = .ok a)
    (hdistinct : Distinct (kindField name :: fields)) {depth : Nat} {o : Outline}
    (h : Tagged name fields o) (hfits : o.Fits depth) (expected : String) :
    ∃ payload, ofOutline tags expected depth o = .ok (a, payload) ∧
      payload.Holds fields (depth + 1) := by
  cases h with
  | @record members named hnames hgives =>
    obtain ⟨hlt, hmembers⟩ := hfits.members hnames
    have hread := readMembers_of_named hnames hmembers hgives.kind_once none
      (fun p hp hname => ⟨rfl, ofValue_of_says htag (hgives.says_kind p hp hname)⟩)
      (.inr hgives.exists_kind) []
    refine ⟨.entries _, ?_, _, rfl, hgives.without_kind hdistinct,
      fun p hp => hmembers p (List.mem_filter.mp hp).1⟩
    rw [ofOutline, if_pos hlt, hread]
    rfl
  | @list items hlists =>
    obtain ⟨hlt, hitems⟩ := hfits.items
    cases hlists with
    | done ho => exact (ho (kindField name) List.mem_cons_self).elim
    | @item _ _ v rest hv hrest =>
      have hmem : ∀ w ∈ rest, w.Fits (depth + 1) := fun w hw => hitems w (List.mem_cons_of_mem _ hw)
      refine ⟨.items _, ?_, rest, rfl, hrest, hmem⟩
      rw [ofOutline, if_pos hlt, ofValue_of_says htag hv,
        Outline.itemContents_of_forall fun w hw => (hmem w hw).exists_content]
      rfl

/-- The content of a node inside another gives its kind and its fields. -/
theorem content_of_tagged {fields : List Field} (htag : ofName tags name = .ok a) {depth : Nat}
    {o : Outline} (h : Tagged name fields o) (hfits : o.Fits depth) :
    (∃ es, o.held depth = .map es ∧ inRecord tags es = .ok a ∧
      (Payload.entries es).Holds fields (depth + 1)) ∨
    ∃ k cs, o.held depth = .list (k :: cs) ∧ ofContent tags k = .ok a ∧
      (Payload.items cs).Holds fields (depth + 1) := by
  cases h with
  | @record members named hnames hgives =>
    obtain ⟨hlt, hmembers⟩ := hfits.members hnames
    refine .inl ⟨named.map (entry (depth + 1)), ?_, ?_, named, rfl, hgives.untagged, hmembers⟩
    · exact Outline.held_eq (Outline.content_record hlt hnames
        fun p hp => (hmembers p hp).exists_content)
    · exact search_of_named hgives.kind_once none
        (fun p hp hname => ⟨rfl, ofContent_of_says htag (hgives.says_kind p hp hname) _⟩)
        (.inr hgives.exists_kind)
  | @list items hlists =>
    obtain ⟨hlt, hitems⟩ := hfits.items
    cases hlists with
    | done ho => exact (ho (kindField name) List.mem_cons_self).elim
    | @item _ _ v rest hv hrest =>
      refine .inr ⟨v.held (depth + 1), rest.map (Outline.held (depth + 1)), ?_,
        ofContent_of_says htag hv _, rest, rfl, hrest,
        fun w hw => hitems w (List.mem_cons_of_mem _ hw)⟩
      exact Outline.held_eq (Outline.content_list hlt fun w hw => (hitems w hw).exists_content)

end Tag

end HintedSql
