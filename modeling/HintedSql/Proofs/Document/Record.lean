import Mathlib.Data.List.Forall2
import HintedSql.Proofs.Document.Field
set_option relaxedAutoImplicit false
set_option autoImplicit false

/-!
# How records are read

A reader of records puts one member after the other into its draft. A member that is a field of the
record is read into the place of that field, which has to be empty, and leaves all other places as
they are; any other member leaves the draft as it is. Everything about records is derived from that.

A value that presents a record gives its fields, each at most once. After a run over its members a
place holds the value of its field, or it is empty and the field may be left out.

## Main definitions

* `HintedSql.Filling` — a field and the value that it is to have.
* `HintedSql.RecordReader.Reads` — a record whose fields are read as given values.
* `HintedSql.RecordReader.From` — a draft whose values come from given inputs.

## Main results

* `HintedSql.RecordReader.cases_of_put` — what one member can do.
* `HintedSql.RecordReader.From.put` — where the values of a draft come from.
* `HintedSql.RecordReader.foldlM_put_eq` — a run over members in the order of the fields.
* `HintedSql.RecordReader.Reads.exists_put_eq` — one more member that gives a field.
* `HintedSql.RecordReader.Reads.exists_foldlM_eq` — a run over members that give the fields.
* `HintedSql.Shape.read_of_presented` — records are read from all their forms.
-/

namespace HintedSql

open Json (Outline Quoted Named)

/-! ## One member -/

namespace FieldReader

variable {σ β ε : Type} {f g : FieldReader σ β ε}

/-- Being apart does not depend on the order. -/
lemma Apart.symm (h : f.Apart g) : g.Apart f where
  names n hg hf := h.names n hf hg
  left := h.right
  right := h.left

/-- **What reading a field does**: its place was empty, and its value is kept. -/
theorem put_eq_ok_iff {report : Mismatch → ε} {s t : σ} {v : β} :
    f.put report s v = .ok t ↔ f.kept s = none ∧ ∃ x, f.read v = .ok x ∧ t = f.keep s x := by
  unfold put
  cases f.kept s with
  | some x => simp
  | none =>
    cases f.read v with
    | error e => simp [Functor.map, Except.map]
    | ok x => simp [Functor.map, Except.map, eq_comm]

/-- What cannot be read as a field is refused for the reason that it cannot. -/
lemma put_of_read_eq_error {report : Mismatch → ε} {s : σ} {v : β} {e : ε} (hs : f.kept s = none)
    (h : f.read v = .error e) : f.put report s v = .error e := by
  rw [put, hs, h]
  rfl

end FieldReader

namespace RecordReader

variable {σ β ε : Type} {r : RecordReader σ β ε} {report : Mismatch → ε} {pass : β → Except ε Unit}
  {f g : FieldReader σ β ε} {s t : σ} {name : String} {v : β}

/-- Two fields of a record are the same one or do not interfere. -/
lemma eq_or_apart (hf : f ∈ r.fields) (hg : g ∈ r.fields) : f = g ∨ f.Apart g := by
  have : Std.Symm fun f g : FieldReader σ β ε => f.Apart g := ⟨fun _ _ h => h.symm⟩
  by_cases h : f = g
  · exact .inl h
  · exact .inr (r.apart.forall hf hg h)

/-- A name belongs to one field at most. -/
lemma eq_of_mem_names (hf : f ∈ r.fields) (hg : g ∈ r.fields) (hname : name ∈ f.names)
    (hname' : name ∈ g.names) : f = g :=
  (eq_or_apart hf hg).resolve_right fun h => h.names name hname hname'

/-- A member under the name of a field is read as that field. -/
lemma put_of_mem_names (hf : f ∈ r.fields) (hname : name ∈ f.names) :
    r.put report pass s name v = f.put report s v := by
  have hsome : (r.fields.find? (·.names.contains name)).isSome := by
    rw [List.find?_isSome]
    exact ⟨f, hf, List.contains_iff_mem.mpr hname⟩
  obtain ⟨g, hg⟩ := Option.isSome_iff_exists.mp hsome
  have hname' : g.names.contains name = true :=
    List.find?_some (p := fun g : FieldReader σ β ε => g.names.contains name) hg
  rw [put, hg, eq_of_mem_names hf (List.mem_of_find?_eq_some hg) hname
    (List.contains_iff_mem.mp hname')]

/-- A member under no name of a field is passed over. -/
lemma put_of_forall_notMem (h : ∀ f ∈ r.fields, name ∉ f.names) :
    r.put report pass s name v = (pass v >>= fun _ => .ok s) := by
  have hnone : r.fields.find? (·.names.contains name) = none := by
    rw [List.find?_eq_none]
    exact fun f hf hname => h f hf (List.contains_iff_mem.mp hname)
  rw [put, hnone]
  rfl

/-- **What one member can do.** It is read into the empty place of the field that goes by its name,
or it is no field and the draft stays as it is. -/
theorem cases_of_put (h : r.put report pass s name v = .ok t) :
    (∃ f ∈ r.fields, name ∈ f.names ∧ f.kept s = none ∧ ∃ x, f.read v = .ok x ∧ t = f.keep s x) ∨
      (∀ f ∈ r.fields, name ∉ f.names) ∧ t = s := by
  by_cases hname : ∃ f ∈ r.fields, name ∈ f.names
  · obtain ⟨f, hf, hname⟩ := hname
    rw [put_of_mem_names hf hname] at h
    exact .inl ⟨f, hf, hname, FieldReader.put_eq_ok_iff.mp h⟩
  · have hforall : ∀ f ∈ r.fields, name ∉ f.names := fun f hf hmem => hname ⟨f, hf, hmem⟩
    rw [put_of_forall_notMem hforall] at h
    obtain ⟨-, -, h⟩ := exists_of_bind_eq_ok h
    exact .inr ⟨hforall, (Except.ok.inj h).symm⟩

/-- What a place holds is kept by all further members. -/
lemma kept_of_put (hf : f ∈ r.fields) {x : f.Value} (h : r.put report pass s name v = .ok t)
    (hs : f.kept s = some x) : f.kept t = some x := by
  obtain ⟨g, hg, -, hnone, y, -, rfl⟩ | ⟨-, rfl⟩ := cases_of_put h
  · obtain rfl | hapart := eq_or_apart hf hg
    · rw [hs] at hnone
      cases hnone
    · rw [hapart.left, hs]
  · exact hs

/-- What can be read as a field that has not been given is kept as its value. -/
lemma put_of_read_eq_ok (hf : f ∈ r.fields) (hname : name ∈ f.names) (hs : f.kept s = none)
    {x : f.Value} (h : f.read v = .ok x) : r.put report pass s name v = .ok (f.keep s x) := by
  rw [put_of_mem_names hf hname]
  exact FieldReader.put_eq_ok_iff.mpr ⟨hs, x, h, rfl⟩

/-- A draft in which every filled place holds what one of given inputs is read as. -/
def From (r : RecordReader σ β ε) (inputs : β → Prop) (s : σ) : Prop :=
  ∀ f ∈ r.fields, ∀ x, f.kept s = some x → ∃ v, inputs v ∧ f.read v = .ok x

/-- The empty draft has no filled place. -/
lemma from_start (inputs : β → Prop) : r.From inputs r.start := by
  intro f hf x hx
  rw [r.fresh f hf] at hx
  cases hx

/-- **One more member** fills a place only with what it is read as. -/
theorem From.put {inputs : β → Prop} (hs : r.From inputs s) (hv : inputs v)
    (h : r.put report pass s name v = .ok t) : r.From inputs t := by
  intro f hf x hx
  obtain ⟨g, hg, -, -, y, hread, rfl⟩ | ⟨-, rfl⟩ := cases_of_put h
  · obtain rfl | hapart := eq_or_apart hf hg
    · rw [f.kept_keep] at hx
      exact ⟨v, hv, Option.some.inj hx ▸ hread⟩
    · rw [hapart.left] at hx
      exact hs f hf x hx
  · exact hs f hf x hx

end RecordReader

/-! ## Members that give fields -/

/-- Of two lists that go together, every element of the first goes with one of the second. -/
lemma exists_of_forall₂ {α β : Type*} {R : α → β → Prop} {as : List α} {bs : List β}
    (h : List.Forall₂ R as bs) {a : α} (ha : a ∈ as) : ∃ b ∈ bs, R a b := by
  induction h with
  | nil => cases ha
  | @cons a' b as bs hab _ ih =>
    obtain rfl | ha := List.mem_cons.mp ha
    · exact ⟨b, List.mem_cons_self, hab⟩
    · obtain ⟨b', hb', hab'⟩ := ih ha
      exact ⟨b', List.mem_cons_of_mem _ hb', hab'⟩

/-- A field and the value that it is to have. -/
structure Filling (σ β ε : Type) where
  field : FieldReader σ β ε
  value : field.Value

namespace Filling

variable {σ β ε : Type}

/-- The field of a presentation goes by the same names, and whatever presents it, where it stands
inside `depth` lists and records, is read as the value. -/
structure ReadFrom (depth : Nat) (input : Outline → β) (p : Field) (f : Filling σ β ε) : Prop where
  names : f.field.names = p.names
  read : ∀ v, p.holds v → v.Fits depth → f.field.read (input v) = .ok f.value

/-- The place of the field holds its value just if one of its names has been given. -/
def KeptAfter (given : List String) (s : σ) (f : Filling σ β ε) : Prop :=
  f.field.kept s = if ∃ n ∈ f.field.names, n ∈ given then some f.value else none

/-- In the end the place holds the value, or it is empty and the field may be left out. -/
def Settled (s : σ) (p : Field) (f : Filling σ β ε) : Prop :=
  f.field.kept s = some f.value ∨ p.omittable ∧ f.field.kept s = none

/-- The draft in which values have been kept one after the other. -/
def keepAll (s : σ) (fillings : List (Filling σ β ε)) : σ :=
  fillings.foldl (fun s f => f.field.keep s f.value) s

/-- A member under the proper name of a field, which is read as its value. -/
structure GivenBy (m : String × β) (f : Filling σ β ε) : Prop where
  name : m.1 = f.field.name
  read : f.field.read m.2 = .ok f.value

end Filling

/-- **A run over members in the order of the fields** keeps their values one after the other.

**Proof sketch.** By induction on the members. Each is put where nothing has been kept, since the
fields before it are others. -/
theorem RecordReader.foldlM_put_eq {σ β ε : Type} {r : RecordReader σ β ε} (report : Mismatch → ε)
    (pass : β → Except ε Unit) {fillings : List (Filling σ β ε)} {members : List (String × β)}
    (hfields : (fillings.map Filling.field).Sublist r.fields)
    (h : List.Forall₂ Filling.GivenBy members fillings) :
    members.foldlM (fun s m => r.put report pass s m.1 m.2) r.start =
      .ok (Filling.keepAll r.start fillings) := by
  have hmem : ∀ f ∈ fillings, f.field ∈ r.fields := fun f hf =>
    hfields.subset (List.mem_map_of_mem hf)
  have hnone : ∀ f ∈ fillings, f.field.kept r.start = none := fun f hf => r.fresh _ (hmem f hf)
  have hapart : fillings.Pairwise fun f g => f.field.Apart g.field :=
    List.pairwise_map.mp (r.apart.sublist hfields)
  generalize r.start = s at hnone ⊢
  clear hfields
  induction h generalizing s with
  | nil => rfl
  | @cons m f ms fs hm _ ih =>
    obtain ⟨hhead, htail⟩ := List.pairwise_cons.mp hapart
    have hput : r.put report pass s m.1 m.2 = .ok (f.field.keep s f.value) :=
      put_of_read_eq_ok (hmem f List.mem_cons_self) (hm.name ▸ List.mem_cons_self)
        (hnone f List.mem_cons_self) hm.read
    rw [List.foldlM_cons, hput]
    refine ih (fun g hg => hmem g (List.mem_cons_of_mem _ hg)) htail _ fun g hg => ?_
    rw [(hhead g hg).right, hnone g (List.mem_cons_of_mem _ hg)]

/-- A member that may come after members under the names `given`. -/
def Fresh (fields : List Field) (given : List String) (name : String) (v : Outline) : Prop :=
  ∀ f ∈ fields, name ∈ f.names → f.holds v ∧ ∀ n ∈ f.names, n ∉ given

namespace RecordReader

variable {σ β ε : Type}

/-- A record whose fields are read as given values: its readers are those of the values, and what
presents a field is read as the value of that field. -/
structure Reads (r : RecordReader σ β ε) (depth : Nat) (input : Outline → β) (fields : List Field)
    (fillings : List (Filling σ β ε)) : Prop where
  fields_eq : r.fields = fillings.map Filling.field
  readFrom : List.Forall₂ (Filling.ReadFrom depth input) fields fillings

namespace Reads

variable {r : RecordReader σ β ε} {depth : Nat} {input : Outline → β} {fields : List Field}
  {fillings : List (Filling σ β ε)}

/-- What the reader of a field has in common with the presented field is the same all along. -/
lemma map_eq_map (h : r.Reads depth input fields fillings) {γ : Type} {k : FieldReader σ β ε → γ}
    {l : Field → γ}
    (heq : ∀ (p : Field) (f : Filling σ β ε), f.ReadFrom depth input p → k f.field = l p) :
    r.fields.map k = fields.map l := by
  rw [h.fields_eq]
  have hreads := h.readFrom
  clear h
  induction hreads with
  | nil => rfl
  | cons hread _ ih => rw [List.map_cons, List.map_cons, List.map_cons, ih, heq _ _ hread]

/-- The names by position are those of the presented fields. -/
lemma fieldNames_eq (h : r.Reads depth input fields fillings) :
    r.fieldNames = fields.map Field.name :=
  h.map_eq_map fun _ _ hread => (List.cons.inj hread.names).1

/-- Fields that are read apart share no name. -/
lemma distinct (h : r.Reads depth input fields fillings) : Distinct fields := by
  have hapart : (r.fields.map FieldReader.names).Pairwise fun ns ms => ∀ n ∈ ns, n ∉ ms :=
    List.pairwise_map.mpr (r.apart.imp FieldReader.Apart.names)
  rw [h.map_eq_map fun _ _ hread => hread.names] at hapart
  exact List.pairwise_map.mp hapart

/-- Every value is that of one of the presented fields. -/
lemma exists_field (h : r.Reads depth input fields fillings) {f : Filling σ β ε}
    (hf : f ∈ fillings) : ∃ p ∈ fields, f.ReadFrom depth input p :=
  exists_of_forall₂ (R := flip (Filling.ReadFrom depth input)) h.readFrom.flip hf

/-- Two values are those of the same field or of fields that do not interfere. -/
lemma eq_or_apart (h : r.Reads depth input fields fillings) {f g : Filling σ β ε}
    (hf : f ∈ fillings) (hg : g ∈ fillings) : f = g ∨ f.field.Apart g.field := by
  have hapart : fillings.Pairwise fun f g => f.field.Apart g.field :=
    List.pairwise_map.mp (h.fields_eq ▸ r.apart)
  have : Std.Symm fun f g : Filling σ β ε => f.field.Apart g.field := ⟨fun _ _ h => h.symm⟩
  by_cases heq : f = g
  · exact .inl heq
  · exact .inr (hapart.forall hf hg heq)

section Put

variable (report : Mismatch → ε) (pass : β → Except ε Unit)

/-- **One more member.** A member that gives a field not given before is read as its value, and all
places hold what they should under the names given then. -/
theorem exists_put_eq (h : r.Reads depth input fields fillings)
    (hpass : ∀ v : Outline, v.Fits depth → pass (input v) = .ok ()) {given : List String} {s : σ}
    (hs : ∀ f ∈ fillings, f.KeptAfter given s) {name : String} {v : Outline}
    (hfresh : Fresh fields given name v) (hfits : v.Fits depth) :
    ∃ t, r.put report pass s name (input v) = .ok t ∧
      ∀ f ∈ fillings, f.KeptAfter (name :: given) t := by
  by_cases hname : ∃ f ∈ fillings, name ∈ f.field.names
  · obtain ⟨f, hf, hname⟩ := hname
    obtain ⟨p, hp, hread⟩ := h.exists_field hf
    obtain ⟨hholds, hnew⟩ := hfresh p hp (hread.names ▸ hname)
    have hmem : f.field ∈ r.fields := h.fields_eq ▸ List.mem_map_of_mem hf
    have hnone : f.field.kept s = none := by
      rw [hs f hf, if_neg]
      rintro ⟨n, hn, hgiven⟩
      exact hnew n (hread.names ▸ hn) hgiven
    refine ⟨f.field.keep s f.value, ?_, fun g hg => ?_⟩
    · exact put_of_read_eq_ok hmem hname hnone (hread.read v hholds hfits)
    · obtain rfl | hapart := h.eq_or_apart hf hg
      · rw [Filling.KeptAfter, f.field.kept_keep, if_pos ⟨name, hname, List.mem_cons_self⟩]
      · have hne : ∀ n ∈ g.field.names, n ≠ name := by
          rintro n hn rfl
          exact hapart.names n hname hn
        rw [Filling.KeptAfter, hapart.right, hs g hg]
        congr 1
        grind
  · have hforall : ∀ g ∈ r.fields, name ∉ g.names := by
      rw [h.fields_eq]
      intro g hg hmem
      obtain ⟨f, hf, rfl⟩ := List.mem_map.mp hg
      exact hname ⟨f, hf, hmem⟩
    refine ⟨s, ?_, fun f hf => ?_⟩
    · rw [put_of_forall_notMem hforall, hpass v hfits]
      rfl
    · have hne : ∀ n ∈ f.field.names, n ≠ name := by
        rintro n hn rfl
        exact hname ⟨f, hf, hn⟩
      rw [Filling.KeptAfter, hs f hf]
      congr 1
      grind

/-- **A run over members that give the fields** ends with a draft in which every place holds the
value of its field, or is empty where the field may be left out.

**Proof sketch.** By induction on the members that are left. The invariant is that those left name
no field which has been given. -/
theorem exists_foldlM_eq (h : r.Reads depth input fields fillings)
    (hpass : ∀ v : Outline, v.Fits depth → pass (input v) = .ok ())
    {members : List (String × Outline)} (hgives : Gives fields members)
    (hfits : ∀ p ∈ members, p.2.Fits depth) :
    ∃ s, members.foldlM (fun s p => r.put report pass s p.1 (input p.2)) r.start = .ok s ∧
      List.Forall₂ (Filling.Settled s) fields fillings := by
  obtain ⟨hholds, honce, hgiven⟩ := hgives
  have hrun : ∀ (given : List String) (s : σ), (∀ f ∈ fillings, f.KeptAfter given s) →
      (∀ f ∈ fields, ∀ p ∈ members, p.1 ∈ f.names → ∀ n ∈ f.names, n ∉ given) →
      ∃ t, members.foldlM (fun s p => r.put report pass s p.1 (input p.2)) s = .ok t ∧
        ∀ f ∈ fillings, f.KeptAfter ((members.map (·.1)).reverse ++ given) t := by
    clear hgiven
    induction members with
    | nil => exact fun given s hs _ => ⟨s, rfl, hs⟩
    | cons p ps ih =>
      intro given s hs hfresh
      obtain ⟨hhead, htail⟩ := List.pairwise_cons.mp honce
      obtain ⟨t, ht, hkept⟩ := h.exists_put_eq report pass hpass hs
        (fun f hf hmem => ⟨hholds f hf p List.mem_cons_self hmem,
          hfresh f hf p List.mem_cons_self hmem⟩) (hfits p List.mem_cons_self)
      obtain ⟨u, hu, hend⟩ := ih (fun q hq => hfits q (List.mem_cons_of_mem _ hq))
        (fun f hf q hq => hholds f hf q (List.mem_cons_of_mem _ hq)) htail (p.1 :: given) t hkept
        fun f hf q hq hmem n hn => List.not_mem_cons_of_ne_of_not_mem
          (by rintro rfl; exact hhead q hq f hf hn hmem)
          (hfresh f hf q (List.mem_cons_of_mem _ hq) hmem n hn)
      refine ⟨u, ?_, by simpa using hend⟩
      rw [List.foldlM_cons, ht]
      exact hu
  have hstart : ∀ f ∈ fillings, f.KeptAfter [] r.start := by
    intro f hf
    have hmem : f.field ∈ r.fields := h.fields_eq ▸ List.mem_map_of_mem hf
    simpa [Filling.KeptAfter] using r.fresh f.field hmem
  obtain ⟨t, ht, hkept⟩ := hrun [] r.start hstart (by simp)
  refine ⟨t, ht, List.forall₂_iff_zip.mpr ⟨h.readFrom.length_eq, fun {p f} hpair => ?_⟩⟩
  obtain ⟨hp, hf⟩ := List.of_mem_zip hpair
  have hread := List.forall₂_zip h.readFrom hpair
  have hend := hkept f hf
  rw [Filling.KeptAfter] at hend
  split at hend
  · exact .inl hend
  · rename_i hno
    refine .inr ⟨(hgiven p hp).resolve_right ?_, hend⟩
    rintro ⟨m, hm, hmem⟩
    exact hno ⟨m.1, hread.names ▸ hmem, by simpa using ⟨m.2, hm⟩⟩

end Put

end Reads

end RecordReader

/-! ## Records without a kind -/

/-- A well-formed value can be passed over. -/
lemma passOver_of_fits {depth : Nat} {v : Outline} (h : v.Fits depth) : passOver v = .ok () := by
  rw [passOver, h.1.complete.skip_eq]
  rfl

namespace Shape

variable {σ α : Type} {shape : Shape σ α}

/-- The members of a record are put one after the other under the names they have. -/
lemma readMembers_eq {members : List (Quoted × Outline)} {named : List (String × Outline)}
    (hnames : Named members named) (s : σ) :
    shape.readMembers s members = named.foldlM (fun s p => shape.put s p.1 p.2) s := by
  induction hnames generalizing s with
  | nil => rfl
  | @cons m p ms ps hp _ ih =>
    rw [readMembers, hp.1.text_eq, hp.2, List.foldlM_cons]
    exact congrArg _ (funext ih)

/-- The items of a list are put one after the other under the names of their places. -/
lemma readItems_eq {names : List String} {items : List Outline}
    (hlength : items.length ≤ names.length) (s : σ) :
    shape.readItems none s names items =
      (names.zip items).foldlM (fun s p => shape.put s p.1 p.2) s := by
  induction items generalizing names s with
  | nil => cases names <;> rfl
  | cons v vs ih =>
    cases names with
    | nil => simp at hlength
    | cons n ns =>
      rw [readItems, List.zip_cons_cons, List.foldlM_cons]
      exact congrArg _ (funext fun t => ih (by simpa using hlength) t)

/-- **A record is read from all its forms.** -/
theorem read_of_presented {fields : List Field} {fillings : List (Filling σ Outline ReadError)}
    {depth : Nat} {a : α} (hreads : shape.toRecordReader.Reads (depth + 1) id fields fillings)
    (hfinish : ∀ missing s, List.Forall₂ (Filling.Settled s) fields fillings →
      shape.finish missing s = .ok a)
    {o : Outline} (h : Presented fields o) (hfits : o.Fits depth) : shape.read o = .ok a := by
  cases h with
  | record hnamed hgives =>
    obtain ⟨s, hrun, hsettled⟩ := hreads.exists_foldlM_eq .mismatch passOver
      (fun _ => passOver_of_fits) hgives (hfits.members hnamed).2
    have hrun : _ = Except.ok s := (readMembers_eq hnamed shape.start).trans hrun
    rw [read, hrun]
    simp only [bind, Except.bind, Json.check, ReadError.ofFault, hfinish _ _ hsettled,
      ReadError.ofMismatch]
  | @list items hlists =>
    have hmem : ∀ p ∈ (fields.map Field.name).zip items, p.2.Fits (depth + 1) := fun p hp =>
      hfits.items.2 p.2 (List.of_mem_zip hp).2
    obtain ⟨s, hrun, hsettled⟩ := hreads.exists_foldlM_eq .mismatch passOver
      (fun _ => passOver_of_fits) (hlists.inOrder.gives hreads.distinct) hmem
    have hrun : _ = Except.ok s :=
      (readItems_eq (by simpa using hlists.length_le) shape.start).trans hrun
    rw [read, hreads.fieldNames_eq, hrun]
    simp only [bind, Except.bind, hfinish _ _ hsettled, ReadError.ofMismatch]

end Shape

end HintedSql
