import HintedSql.Proofs.Document.Node
set_option relaxedAutoImplicit false
set_option autoImplicit false

/-!
# How members are gone through

A reader goes through the members of a record, or the items of a list, one after the other, and each
takes it from one state to the next. An outermost node and a node inside another are read in
different ways: the first judges its kind when it meets it and keeps all else, the second looks for
its kind before it reads any field. In both, the kinds that are met and the fields that are put are
runs over the same members. What one member can do is said here once, and everything about accepted
records follows from it.

## Main definitions

* `HintedSql.Run` — a run over a list, step by step.
* `HintedSql.Shape.Step`, `HintedSql.NodeReader.Step`, `HintedSql.Tag.Step` — what one member does.
* `HintedSql.NodeReader.Accepts` — a value that is read as a node, outermost or inside another.
* `HintedSql.NodeReader.Traversed` — the runs that lead to a node.

## Main results

* `HintedSql.Run.pairwise` — what can be done only once is done by at most one element.
* `HintedSql.Shape.cases_of_read` — a record is read in a run over its members or its items.
* `HintedSql.NodeReader.Accepts.exists_traversed` — so is every node that is accepted.
-/

namespace HintedSql

open Json (Outline Quoted)

/-! ## Runs -/

/-- A run over a list: each element leads from one state to the next. -/
inductive Run {σ β : Type} (step : σ → β → σ → Prop) : σ → List β → σ → Prop where
  | nil {s : σ} : Run step s [] s
  | cons {s t u : σ} {b : β} {bs : List β} (h : step s b t) (hrest : Run step t bs u) :
    Run step s (b :: bs) u

namespace Run

variable {σ β : Type} {step : σ → β → σ → Prop} {s u : σ} {bs : List β}

/-- What every element keeps is kept by the run. -/
lemma preserves {P : σ → Prop} (hstep : ∀ s b t, step s b t → P s → P t)
    (h : Run step s bs u) (hs : P s) : P u := by
  induction h with
  | nil => exact hs
  | cons hstep' _ ih => exact ih (hstep _ _ _ hstep' hs)

/-- Every element takes a step of the run, from which the run goes on. -/
lemma exists_step (h : Run step s bs u) {b : β} (hb : b ∈ bs) :
    ∃ t t' rest, step t b t' ∧ Run step t' rest u := by
  induction h with
  | nil => cases hb
  | cons hstep hrest ih =>
    obtain rfl | hb := List.mem_cons.mp hb
    · exact ⟨_, _, _, hstep, hrest⟩
    · exact ih hb

section Once

variable {gives : β → Prop} {filled : σ → Prop}
  (hkeeps : ∀ s b t, step s b t → filled s → filled t)
  (htakes : ∀ s b t, step s b t → gives b → ¬ filled s ∧ filled t)

include hkeeps htakes

/-- Once it has been done it is not done again. -/
lemma not_gives_of_filled (h : Run step s bs u) (hs : filled s) : ∀ b ∈ bs, ¬ gives b := by
  induction h with
  | nil => simp
  | cons hstep _ ih =>
    refine List.forall_mem_cons.mpr ⟨fun hb => ?_, ih (hkeeps _ _ _ hstep hs)⟩
    exact (htakes _ _ _ hstep hb).1 hs

/-- **What can be done only once is done by at most one element of a run.** -/
theorem pairwise (h : Run step s bs u) : bs.Pairwise fun b b' => gives b → ¬ gives b' := by
  induction h with
  | nil => exact List.Pairwise.nil
  | cons hstep hrest ih =>
    refine List.Pairwise.cons (fun b' hb' hb => ?_) ih
    exact not_gives_of_filled hkeeps htakes hrest (htakes _ _ _ hstep hb).2 b' hb'

end Once

end Run

/-! ## Records without a kind -/

namespace Shape

variable {σ α : Type} (shape : Shape σ α)

/-- What a member does: its value is put under its name. -/
def Step (s : σ) (m : Quoted × Outline) (t : σ) : Prop :=
  ∃ name, m.1.text = .ok name ∧ shape.put s name m.2 = .ok t

/-- What an item does under the name of its place. -/
def ItemStep (s : σ) (p : String × Outline) (t : σ) : Prop :=
  shape.put s p.1 p.2 = .ok t

variable {shape}

/-- To read members is to put them one by one. -/
lemma run_of_readMembers {members : List (Quoted × Outline)} {s u : σ}
    (h : shape.readMembers s members = .ok u) : Run shape.Step s members u := by
  induction members generalizing s with
  | nil =>
    rw [readMembers] at h
    rw [← Except.ok.inj h]
    exact .nil
  | cons m ms ih =>
    rw [readMembers] at h
    obtain ⟨name, hname, h⟩ := exists_of_bind_eq_ok h
    obtain ⟨t, ht, h⟩ := exists_of_bind_eq_ok h
    exact .cons ⟨name, ReadError.eq_ok_of_ofFault hname, ht⟩ (ih h)

/-- To read items is to put them one by one under the names of their places. -/
lemma run_of_readItems {fault : Option Json.Fault} {names : List String} {items : List Outline}
    {s u : σ} (h : shape.readItems fault s names items = .ok u) :
    Run shape.ItemStep s (names.zip items) u := by
  induction items generalizing names s with
  | nil =>
    rw [readItems.eq_def] at h
    cases names <;>
    · obtain ⟨-, -, h⟩ := exists_of_bind_eq_ok h
      rw [← Except.ok.inj h]
      exact .nil
  | cons v vs ih =>
    cases names with
    | nil => cases h
    | cons name names =>
      rw [readItems] at h
      obtain ⟨t, ht, h⟩ := exists_of_bind_eq_ok h
      exact .cons ht (ih h)

/-- **How a record is read**: in a run over its members, or over its items, that ends with a draft
it is made of. -/
theorem cases_of_read {o : Outline} {a : α} (h : shape.read o = .ok a) :
    ∃ u, (∃ missing, shape.finish missing u = .ok a) ∧
      ((∃ members fault comma, o = .record members fault comma ∧
        Run shape.Step shape.start members u) ∨
      ∃ items fault, o = .list items fault ∧
        Run shape.ItemStep shape.start (shape.fieldNames.zip items) u) := by
  rw [read.eq_def] at h
  split at h
  · obtain ⟨u, hu, h⟩ := exists_of_bind_eq_ok h
    obtain ⟨-, -, h⟩ := exists_of_bind_eq_ok h
    exact ⟨u, ⟨_, ReadError.eq_ok_of_ofMismatch h⟩, .inl ⟨_, _, _, rfl, run_of_readMembers hu⟩⟩
  · obtain ⟨u, hu, h⟩ := exists_of_bind_eq_ok h
    exact ⟨u, ⟨_, ReadError.eq_ok_of_ofMismatch h⟩, .inr ⟨_, _, rfl, run_of_readItems hu⟩⟩
  · cases h

/-- A record is made of a draft whose values have been read. -/
lemma exists_draft_of_read {o : Outline} {a : α} (h : shape.read o = .ok a) :
    ∃ u, shape.From (fun _ => True) u ∧ ∃ missing, shape.finish missing u = .ok a := by
  obtain ⟨u, hfinish, ⟨members, fault, comma, -, hrun⟩ | ⟨items, fault, -, hrun⟩⟩ := cases_of_read h
  · refine ⟨u, hrun.preserves ?_ (RecordReader.from_start _), hfinish⟩
    rintro s m t ⟨name, -, hput⟩ hs
    exact hs.put trivial hput
  · refine ⟨u, hrun.preserves ?_ (RecordReader.from_start _), hfinish⟩
    intro s p t hput hs
    exact hs.put trivial hput

end Shape

/-! ## Kinds -/

namespace Tag

variable {κ : Type} (tags : List (String × κ))

/-- A value that is taken for a kind, in an outermost node or in one inside another. -/
def Tells (v : Outline) (kind : κ) : Prop :=
  ofValue tags v = .ok kind ∨ ∃ depth c, v.content depth = .ok c ∧ ofContent tags c = .ok kind

/-- What a member does to the kind met so far. -/
def Step (s : Option κ) (m : Quoted × Outline) (t : Option κ) : Prop :=
  ∃ name, m.1.text = .ok name ∧
    (name ≠ "kind" ∧ t = s ∨ name = "kind" ∧ s = none ∧ ∃ kind, t = some kind ∧ Tells tags m.2 kind)

variable {tags}

/-- The kind of an outermost node is met in a run over its members. -/
lemma run_of_readMembers {depth : Nat} {members : List (Quoted × Outline)}
    {s u : Option κ} {entries es : List (Content × Content)}
    (h : readMembers tags depth s entries members = .ok (u, es)) :
    Run (Step tags) s members u := by
  induction members generalizing s entries with
  | nil =>
    obtain ⟨rfl, -⟩ := Prod.mk.inj (Except.ok.inj h)
    exact .nil
  | cons m ms ih =>
    obtain ⟨k, v⟩ := m
    rw [readMembers.eq_def] at h
    obtain ⟨name, hname, h⟩ := exists_of_bind_eq_ok h
    have hname := ReadError.eq_ok_of_ofFault hname
    split at h
    · rename_i hkind
      cases s with
      | some a => cases h
      | none =>
        obtain ⟨a, ha, h⟩ := exists_of_bind_eq_ok h
        exact .cons ⟨name, hname, .inr ⟨hkind, rfl, a, rfl, .inl ha⟩⟩ (ih h)
    · rename_i hkind
      obtain ⟨c, -, h⟩ := exists_of_bind_eq_ok h
      exact .cons ⟨name, hname, .inl ⟨hkind, rfl⟩⟩ (ih h)

/-- An entry with another name than `kind` is passed over in the search for the kind. -/
lemma search_text {name : String} (hname : name ≠ "kind") (s : Option κ) (c : Content)
    (es : List (Content × Content)) :
    search tags s ((.text name, c) :: es) = search tags s es := by
  rw [search]
  intro d heq
  exact hname (Content.text.inj (Prod.mk.inj heq).1)

/-- The kind of a node inside another is met in a run over its members, too. -/
lemma run_of_search {depth : Nat} {members : List (Quoted × Outline)}
    {es : List (Content × Content)} (hes : Outline.memberContents depth members = .ok es)
    {s : Option κ} {kind : κ} (h : search tags s es = .ok kind) :
    Run (Step tags) s members (some kind) := by
  induction members generalizing s es with
  | nil =>
    obtain rfl := Except.ok.inj hes
    cases s with
    | none => cases h
    | some a =>
      obtain rfl := Except.ok.inj h
      exact .nil
  | cons m ms ih =>
    obtain ⟨k, v⟩ := m
    rw [Outline.memberContents] at hes
    obtain ⟨name, hname, hes⟩ := exists_of_bind_eq_ok hes
    obtain ⟨c, hc, hes⟩ := exists_of_bind_eq_ok hes
    obtain ⟨fs, hfs, hes⟩ := exists_of_bind_eq_ok hes
    obtain rfl := Except.ok.inj hes
    by_cases hkind : name = "kind"
    · subst hkind
      cases s with
      | some a => cases h
      | none =>
        obtain ⟨a, ha, h⟩ := exists_of_bind_eq_ok h
        exact .cons ⟨_, hname, .inr ⟨rfl, rfl, a, rfl, .inr ⟨depth, c, hc, ha⟩⟩⟩ (ih hfs h)
    · rw [search_text hkind] at h
      exact .cons ⟨name, hname, .inl ⟨hkind, rfl⟩⟩ (ih hfs h)

end Tag

/-! ## Nodes -/

namespace NodeReader

variable {κ σ α : Type} (r : NodeReader κ σ α)

/-- What a member does: its content is put under its name. That of the kind may be passed over. -/
def Step (kind : κ) (depth : Nat) (s : σ) (m : Quoted × Outline) (t : σ) : Prop :=
  ∃ name, m.1.text = .ok name ∧
    (name = "kind" ∧ t = s ∨
      ∃ c, m.2.content depth = .ok c ∧ r.put kind s name (r.fieldContent c) = .ok t)

/-- What an item does under the name of its place. -/
def ItemStep (kind : κ) (depth : Nat) (s : σ) (p : String × Outline) (t : σ) : Prop :=
  ∃ c, p.2.content depth = .ok c ∧ r.put kind s p.1 (r.fieldContent c) = .ok t

/-- A value that is read as a node, outermost or inside another. -/
def Accepts (o : Outline) : Prop :=
  (∃ depth a, r.ofOutline depth o = .ok a) ∨
    ∃ depth c a, o.content depth = .ok c ∧ r.ofContent c = .ok a

variable {r} {kind : κ} {depth : Nat} {s u : σ}

/-- The fields of an outermost node are read in a run over its members. -/
lemma run_of_readMembers {members : List (Quoted × Outline)} {found found' : Option κ}
    {entries es : List (Content × Content)}
    (h : Tag.readMembers r.tags depth found entries members = .ok (found', es)) :
    ∃ rest, es = entries.reverse ++ rest ∧ ∀ kind s u,
      r.readEntries kind s rest = .ok u → Run (r.Step kind depth) s members u := by
  induction members generalizing found entries with
  | nil =>
    obtain ⟨-, rfl⟩ := Prod.mk.inj (Except.ok.inj h)
    refine ⟨[], by simp, fun kind s u hs => ?_⟩
    rw [readEntries] at hs
    rw [← Except.ok.inj hs]
    exact .nil
  | cons m ms ih =>
    obtain ⟨k, v⟩ := m
    rw [Tag.readMembers.eq_def] at h
    obtain ⟨name, hname, h⟩ := exists_of_bind_eq_ok h
    have hname := ReadError.eq_ok_of_ofFault hname
    split at h
    · rename_i hkind
      cases found with
      | some a => cases h
      | none =>
        obtain ⟨a, -, h⟩ := exists_of_bind_eq_ok h
        obtain ⟨rest, rfl, hrest⟩ := ih h
        refine ⟨rest, rfl, fun kind s u hs => ?_⟩
        exact .cons ⟨name, hname, .inl ⟨hkind, rfl⟩⟩ (hrest kind s u hs)
    · obtain ⟨c, hc, h⟩ := exists_of_bind_eq_ok h
      obtain ⟨rest, rfl, hrest⟩ := ih h
      refine ⟨(.text name, c) :: rest, by simp, fun kind s u hs => ?_⟩
      rw [readEntries_text] at hs
      obtain ⟨t, ht, hs⟩ := exists_of_bind_eq_ok hs
      have hc := ReadError.eq_ok_of_ofFault hc
      exact .cons ⟨name, hname, .inr ⟨c, hc, ht⟩⟩ (hrest kind t u hs)

/-- So are those of a node inside another. -/
lemma run_of_memberContents {members : List (Quoted × Outline)}
    {es : List (Content × Content)} (hes : Outline.memberContents depth members = .ok es)
    (h : r.readEntries kind s es = .ok u) : Run (r.Step kind depth) s members u := by
  induction members generalizing s es with
  | nil =>
    obtain rfl := Except.ok.inj hes
    rw [readEntries] at h
    rw [← Except.ok.inj h]
    exact .nil
  | cons m ms ih =>
    obtain ⟨k, v⟩ := m
    rw [Outline.memberContents] at hes
    obtain ⟨name, hname, hes⟩ := exists_of_bind_eq_ok hes
    obtain ⟨c, hc, hes⟩ := exists_of_bind_eq_ok hes
    obtain ⟨fs, hfs, hes⟩ := exists_of_bind_eq_ok hes
    obtain rfl := Except.ok.inj hes
    rw [readEntries_text] at h
    obtain ⟨t, ht, h⟩ := exists_of_bind_eq_ok h
    exact .cons ⟨name, hname, .inr ⟨c, hc, ht⟩⟩ (ih hfs h)

/-- To read the contents of items is to put the items one by one under the names of their places. -/
lemma run_of_readItems {names : List String} {items : List Outline} {cs : List Content}
    (hcs : Outline.itemContents depth items = .ok cs) (h : r.readItems kind s names cs = .ok u) :
    Run (r.ItemStep kind depth) s (names.zip items) u := by
  induction items generalizing names s cs with
  | nil =>
    obtain rfl := Except.ok.inj hcs
    rw [readItems_nil] at h
    rw [← Except.ok.inj h, List.zip_nil_right]
    exact .nil
  | cons v vs ih =>
    rw [Outline.itemContents] at hcs
    obtain ⟨c, hc, hcs⟩ := exists_of_bind_eq_ok hcs
    obtain ⟨ds, hds, hcs⟩ := exists_of_bind_eq_ok hcs
    obtain rfl := Except.ok.inj hcs
    cases names with
    | nil =>
      rw [readItems_of_nil] at h
      rw [← Except.ok.inj h]
      exact .nil
    | cons name names =>
      rw [readItems_cons] at h
      obtain ⟨t, ht, h⟩ := exists_of_bind_eq_ok h
      exact .cons ⟨c, hc, ht⟩ (ih hds h)

/-- A node is read in runs over its members for its kind and for its fields, or its kind is its
first item and there is a run over the others. -/
def Traversed (r : NodeReader κ σ α) (kind : κ) (o : Outline) : Prop :=
  (∃ members fault comma depth u, o = .record members fault comma ∧
    Run (Tag.Step r.tags) none members (some kind) ∧
    Run (r.Step kind depth) (r.record kind).start members u) ∨
  ∃ v items fault depth u, o = .list (v :: items) fault ∧ Tag.Tells r.tags v kind ∧
    Run (r.ItemStep kind depth) (r.record kind).start ((r.record kind).fieldNames.zip items) u

/-- What is read from entries is finished from a draft that went through them. -/
lemma exists_readEntries {es : List (Content × Content)} {a : α}
    (h : r.ofPayload kind (.entries es) = .ok a) :
    ∃ u, r.readEntries kind (r.record kind).start es = .ok u := by
  obtain ⟨u, hu, -⟩ := exists_of_bind_eq_ok h
  exact ⟨u, hu⟩

/-- What is read from items is finished from a draft that went through them. -/
lemma exists_readItems {cs : List Content} {a : α}
    (h : r.ofPayload kind (.items cs) = .ok a) :
    ∃ u, r.readItems kind (r.record kind).start (r.record kind).fieldNames cs = .ok u := by
  obtain ⟨u, hu, -⟩ := exists_of_bind_eq_ok h
  exact ⟨u, hu⟩

/-- An outermost value that is read was traversed as one of the kinds. -/
lemma traversed_of_ofOutline {o : Outline} {a : α} (h : r.ofOutline depth o = .ok a) :
    ∃ kind, r.Traversed kind o := by
  obtain ⟨⟨kind, payload⟩, hread, h⟩ := exists_of_bind_eq_ok h
  have hpayload := ReadError.eq_ok_of_ofMismatch h
  rw [Tag.ofOutline.eq_def] at hread
  split at hread
  · split at hread
    · obtain ⟨⟨found, es⟩, hmembers, hread⟩ := exists_of_bind_eq_ok hread
      obtain ⟨-, -, hread⟩ := exists_of_bind_eq_ok hread
      cases found with
      | none => cases hread
      | some kind' =>
        obtain ⟨rfl, rfl⟩ := Prod.mk.inj (Except.ok.inj hread)
        obtain ⟨u, hu⟩ := exists_readEntries hpayload
        obtain ⟨rest, rfl, hrest⟩ := run_of_readMembers (r := r) hmembers
        exact ⟨kind', .inl ⟨_, _, _, _, u, rfl, Tag.run_of_readMembers hmembers, hrest _ _ u hu⟩⟩
    · cases hread
  · split at hread
    · obtain ⟨-, -, hread⟩ := exists_of_bind_eq_ok hread
      cases hread
    · cases hread
  · split at hread
    · obtain ⟨kind', hkind, hread⟩ := exists_of_bind_eq_ok hread
      obtain ⟨cs, hcs, hread⟩ := exists_of_bind_eq_ok hread
      obtain ⟨-, -, hread⟩ := exists_of_bind_eq_ok hread
      obtain ⟨rfl, rfl⟩ := Prod.mk.inj (Except.ok.inj hread)
      obtain ⟨u, hu⟩ := exists_readItems hpayload
      have hcs := ReadError.eq_ok_of_ofFault hcs
      exact ⟨kind', .inr ⟨_, _, _, _, u, rfl, .inl hkind, run_of_readItems hcs hu⟩⟩
    · cases hread
  · cases hread

/-- A value inside another that is read was traversed as one of the kinds. -/
lemma traversed_of_ofContent {o : Outline} {c : Content} {a : α} (hc : o.content depth = .ok c)
    (h : r.ofContent c = .ok a) : ∃ kind, r.Traversed kind o := by
  cases o with
  | broken f => cases hc
  | cutNumber | cutWord => cases hc
  | null | bool b =>
    obtain rfl := Except.ok.inj hc
    cases h
  | number n =>
    -- The content of a number has no level to hold a node.
    have hregular : c.Regular 0 := n.regular_of_content hc 0
    obtain ⟨k, -, -, hlevel, -⟩ := exists_payload_of_ofContent hregular h
    cases hlevel
  | string q =>
    rw [Outline.content] at hc
    cases htext : q.text with
    | error f => rw [htext] at hc; cases hc
    | ok text =>
      rw [htext] at hc
      obtain rfl := Except.ok.inj hc
      cases h
  | list items fault =>
    rw [Outline.content] at hc
    split at hc
    · obtain ⟨cs, hcs, hc⟩ := exists_of_bind_eq_ok hc
      obtain ⟨-, -, hc⟩ := exists_of_bind_eq_ok hc
      obtain rfl := Except.ok.inj hc
      cases items with
      | nil =>
        obtain rfl := Except.ok.inj hcs
        cases h
      | cons v vs =>
        rw [Outline.itemContents] at hcs
        obtain ⟨d, hd, hcs⟩ := exists_of_bind_eq_ok hcs
        obtain ⟨ds, hds, hcs⟩ := exists_of_bind_eq_ok hcs
        obtain rfl := Except.ok.inj hcs
        obtain ⟨kind, hkind, h⟩ := exists_of_bind_eq_ok h
        obtain ⟨u, hu⟩ := exists_readItems h
        exact ⟨kind, .inr ⟨v, vs, fault, _, u, rfl, .inr ⟨_, d, hd, hkind⟩,
          run_of_readItems hds hu⟩⟩
    · cases hc
  | record members fault comma =>
    rw [Outline.content] at hc
    split at hc
    · obtain ⟨es, hes, hc⟩ := exists_of_bind_eq_ok hc
      obtain ⟨-, -, hc⟩ := exists_of_bind_eq_ok hc
      obtain rfl := Except.ok.inj hc
      obtain ⟨kind, hkind, h⟩ := exists_of_bind_eq_ok h
      obtain ⟨u, hu⟩ := exists_readEntries h
      exact ⟨kind, .inl ⟨members, fault, comma, _, u, rfl, Tag.run_of_search hes hkind,
        run_of_memberContents hes hu⟩⟩
    · cases hc

/-- **How a node is read**, outermost or inside another. -/
theorem Accepts.exists_traversed {o : Outline} (h : r.Accepts o) : ∃ kind, r.Traversed kind o := by
  obtain ⟨depth, a, h⟩ | ⟨depth, c, a, hc, h⟩ := h
  · exact traversed_of_ofOutline h
  · exact traversed_of_ofContent hc h

end NodeReader

end HintedSql
