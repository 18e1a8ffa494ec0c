import HintedSql.Proofs.Document.Record
import HintedSql.Proofs.Document.Regular
set_option relaxedAutoImplicit false
set_option autoImplicit false

/-!
# How nodes are read

Conditions and expressions are read in the same way: the fields of a node are put into a draft one
by one, from entries or by position, and the node is made of the draft in the end. What can be said
of such a run without knowing the fields is said here once: a node is read from all its
presentations if each of its fields is, and the draft in the end holds nothing but what its contents
are read as.

## Main definitions

* `HintedSql.NodeReader.fieldContent` — what stands in a field of a node.
* `HintedSql.NodeReader.Reads` — a node whose fields are read as given values.

## Main results

* `HintedSql.NodeReader.cases_of_ofContent` — what nodes are read from.
* `HintedSql.NodeReader.ofContent_of_tagged`, `HintedSql.NodeReader.ofOutline_of_tagged` — a node is
  read from all its presentations.
* `HintedSql.NodeReader.exists_draft_of_ofPayload` — where the values of a draft come from.
-/

namespace HintedSql

open Json (Outline)

namespace NodeReader

variable {κ σ α : Type} (r : NodeReader κ σ α)

/-- What stands in a field that has a given content. -/
def fieldContent (c : Content) : FieldContent α :=
  ⟨c, fun _ => r.ofContent c⟩

variable {r} {kind : κ} {s : σ}

/-- The content of an entry whose key is a text is put under that name. -/
lemma readEntries_text (name : String) (c : Content) (es : List (Content × Content)) :
    r.readEntries kind s ((.text name, c) :: es) =
      r.put kind s name (r.fieldContent c) >>= fun t => r.readEntries kind t es := by
  rw [readEntries]
  rfl

/-- An item is put under the name of its place. -/
lemma readItems_cons (name : String) (names : List String) (c : Content) (cs : List Content) :
    r.readItems kind s (name :: names) (c :: cs) =
      r.put kind s name (r.fieldContent c) >>= fun t => r.readItems kind t names cs := by
  rw [readItems]
  rfl

/-- Without items nothing is put. -/
lemma readItems_nil (names : List String) : r.readItems kind s names [] = .ok s := by
  rw [readItems]

/-- Items that have no place are left out. -/
lemma readItems_of_nil (cs : List Content) : r.readItems kind s [] cs = .ok s := by
  cases cs <;> rw [readItems]

/-- A map is a node with its entries as fields, of the kind found among them. -/
lemma ofContent_map (es : List (Content × Content)) :
    r.ofContent (.map es) =
      Tag.inRecord r.tags es >>= fun kind => r.ofPayload kind (.entries es) := by
  rw [ofContent]
  rfl

/-- A list is a node of the kind that its first item tells, with the others as fields. -/
lemma ofContent_list (k : Content) (cs : List Content) :
    r.ofContent (.list (k :: cs)) =
      Tag.ofContent r.tags k >>= fun kind => r.ofPayload kind (.items cs) := by
  rw [ofContent]
  rfl

/-- **What nodes are read from**: a map that tells its kind among its entries, or a list that tells
it first. -/
theorem cases_of_ofContent {c : Content} {a : α} (h : r.ofContent c = .ok a) :
    (∃ es kind, c = .map es ∧ Tag.inRecord r.tags es = .ok kind ∧
      r.ofPayload kind (.entries es) = .ok a) ∨
    ∃ k cs kind, c = .list (k :: cs) ∧ Tag.ofContent r.tags k = .ok kind ∧
      r.ofPayload kind (.items cs) = .ok a := by
  cases c with
  | map es =>
    rw [ofContent_map] at h
    obtain ⟨kind, hkind, h⟩ := exists_of_bind_eq_ok h
    exact .inl ⟨es, kind, rfl, hkind, h⟩
  | list items =>
    cases items with
    | nil =>
      rw [ofContent] at h
      cases h
    | cons k cs =>
      rw [ofContent_list] at h
      obtain ⟨kind, hkind, h⟩ := exists_of_bind_eq_ok h
      exact .inr ⟨k, cs, kind, rfl, hkind, h⟩
  | _ =>
    rw [ofContent.eq_def] at h
    cases h

/-! ## Reading presentations -/

variable (r) in
/-- A node of a given kind with given fields, inside `depth` lists and records: its fields are read
as given values, and a draft that holds them makes the node. -/
structure Reads (kind : κ) (depth : Nat) (fields : List Field)
    (fillings : List (Filling σ (FieldContent α) Mismatch)) (a : α) : Prop where
  record : (r.record kind).Reads depth (fun v => r.fieldContent (v.held depth)) fields fillings
  finish : ∀ missing s, List.Forall₂ (Filling.Settled s) fields fillings →
    r.finish kind missing s = .ok a

/-- The entries of a node are put one after the other. -/
lemma readEntries_map (depth : Nat) (named : List (String × Outline)) (s : σ) :
    r.readEntries kind s (named.map (entry depth)) =
      named.foldlM (fun s p => r.put kind s p.1 (r.fieldContent (p.2.held depth))) s := by
  induction named generalizing s with
  | nil =>
    rw [List.map_nil, readEntries]
    rfl
  | cons p ps ih =>
    rw [List.map_cons, entry, readEntries_text, List.foldlM_cons]
    exact congrArg _ (funext ih)

/-- The items of a node are put one after the other under the names of their places. -/
lemma readItems_map (depth : Nat) (names : List String) (items : List Outline) (s : σ) :
    r.readItems kind s names (items.map (Outline.held depth)) =
      (names.zip items).foldlM
        (fun s p => r.put kind s p.1 (r.fieldContent (p.2.held depth))) s := by
  induction items generalizing names s with
  | nil =>
    rw [List.map_nil, readItems_nil, List.zip_nil_right]
    rfl
  | cons v vs ih =>
    cases names with
    | nil =>
      rw [readItems_of_nil, List.zip_nil_left]
      rfl
    | cons n ns =>
      rw [List.map_cons, readItems_cons, List.zip_cons_cons, List.foldlM_cons]
      exact congrArg _ (funext fun t => ih ns t)

section OfTagged

variable {fields : List Field} {depth : Nat}
  {fillings : List (Filling σ (FieldContent α) Mismatch)} {a : α}

/-- A payload that gives the fields of a node is read as the node. -/
lemma ofPayload_of_holds (hreads : r.Reads kind depth fields fillings a) {payload : Payload}
    (h : payload.Holds fields depth) : r.ofPayload kind payload = .ok a := by
  cases payload with
  | entries es =>
    obtain ⟨named, rfl, hgives, hfits⟩ := h
    obtain ⟨s, hrun, hsettled⟩ :=
      hreads.record.exists_foldlM_eq id (fun _ => .ok ()) (fun _ _ => rfl) hgives hfits
    have hrun : _ = Except.ok s := (readEntries_map depth named _).trans hrun
    rw [ofPayload, hrun]
    exact hreads.finish _ s hsettled
  | items cs =>
    obtain ⟨items, rfl, hlists, hfits⟩ := h
    have hlength := hlists.length_le
    have hnames := hreads.record.fieldNames_eq
    obtain ⟨s, hrun, hsettled⟩ :=
      hreads.record.exists_foldlM_eq id (fun _ => .ok ()) (fun _ _ => rfl)
        (hlists.inOrder.gives hreads.record.distinct)
        fun p hp => hfits p.2 (List.of_mem_zip hp).2
    have hrun : _ = Except.ok s := (readItems_map depth _ items _).trans hrun
    have hsize : ¬ (r.record kind).fields.length < items.length := by
      have := congrArg List.length hnames
      rw [RecordReader.fieldNames, List.length_map, List.length_map] at this
      omega
    rw [ofPayload, hnames, hrun]
    simp [finishList, bind, Except.bind, pure, Except.pure, hreads.finish _ s hsettled, hsize]

/-- **A node inside another** is read from all its presentations. -/
theorem ofContent_of_tagged {name : String} (htag : Tag.ofName r.tags name = .ok kind)
    (hreads : r.Reads kind (depth + 1) fields fillings a) {o : Outline} (h : Tagged name fields o)
    (hfits : o.Fits depth) : r.ofContent (o.held depth) = .ok a := by
  obtain ⟨es, heq, hkind, hholds⟩ | ⟨k, cs, heq, hkind, hholds⟩ :=
    Tag.content_of_tagged htag h hfits
  · rw [heq, ofContent_map, hkind]
    exact ofPayload_of_holds hreads hholds
  · rw [heq, ofContent_list, hkind]
    exact ofPayload_of_holds hreads hholds

/-- **The outermost node** is read from all its presentations. -/
theorem ofOutline_of_tagged {name : String} (htag : Tag.ofName r.tags name = .ok kind)
    (hdistinct : Distinct (kindField name :: fields))
    (hreads : r.Reads kind (depth + 1) fields fillings a) {o : Outline} (h : Tagged name fields o)
    (hfits : o.Fits depth) : r.ofOutline depth o = .ok a := by
  obtain ⟨payload, hread, hholds⟩ := Tag.ofOutline_of_tagged htag hdistinct h hfits r.expected
  rw [ofOutline, hread]
  exact congrArg ReadError.ofMismatch (ofPayload_of_holds hreads hholds)

end OfTagged

/-! ## Where nodes come from -/

variable (r) in
/-- What stands in a field with one of given contents. -/
def IsFieldOf (cs : List Content) (f : FieldContent α) : Prop :=
  ∃ c ∈ cs, f = r.fieldContent c

/-- A draft comes from the contents of the entries that have been read into it. -/
lemma from_of_readEntries {cs : List Content} {es : List (Content × Content)} {s t : σ}
    (h : (r.record kind).From (r.IsFieldOf cs) s) (hes : ∀ e ∈ es, e.2 ∈ cs)
    (hread : r.readEntries kind s es = .ok t) : (r.record kind).From (r.IsFieldOf cs) t := by
  induction es generalizing s with
  | nil =>
    rw [readEntries] at hread
    rwa [← Except.ok.inj hread]
  | cons e rest ih =>
    have hrest := fun e he => hes e (List.mem_cons_of_mem _ he)
    rw [readEntries] at hread
    obtain ⟨field, -, hread⟩ := exists_of_bind_eq_ok hread
    cases field with
    | none => exact ih h hrest hread
    | some name =>
      obtain ⟨u, hu, hread⟩ := exists_of_bind_eq_ok hread
      exact ih (h.put ⟨e.2, hes e List.mem_cons_self, rfl⟩ hu) hrest hread

/-- A draft comes from the contents of the items that have been read into it. -/
lemma from_of_readItems {cs items : List Content} {names : List String} {s t : σ}
    (h : (r.record kind).From (r.IsFieldOf cs) s) (hitems : ∀ c ∈ items, c ∈ cs)
    (hread : r.readItems kind s names items = .ok t) :
    (r.record kind).From (r.IsFieldOf cs) t := by
  induction items generalizing names s with
  | nil =>
    rw [readItems_nil] at hread
    rwa [← Except.ok.inj hread]
  | cons c rest ih =>
    cases names with
    | nil =>
      rw [readItems_of_nil] at hread
      rwa [← Except.ok.inj hread]
    | cons name names =>
      rw [readItems_cons] at hread
      obtain ⟨u, hu, hread⟩ := exists_of_bind_eq_ok hread
      exact ih (h.put ⟨c, hitems c List.mem_cons_self, rfl⟩ hu)
        (fun c hc => hitems c (List.mem_cons_of_mem _ hc)) hread

/-- **A node is made of a draft that comes from the contents of its fields.** -/
theorem exists_draft_of_ofPayload {payload : Payload} {a : α}
    (h : r.ofPayload kind payload = .ok a) :
    ∃ s, (r.record kind).From (r.IsFieldOf payload.contents) s ∧
      ∃ missing, r.finish kind missing s = .ok a := by
  cases payload with
  | entries es =>
    obtain ⟨s, hs, h⟩ := exists_of_bind_eq_ok h
    exact ⟨s, from_of_readEntries (RecordReader.from_start _)
      (fun e he => List.mem_map_of_mem he) hs, _, h⟩
  | items cs =>
    obtain ⟨s, hs, h⟩ := exists_of_bind_eq_ok h
    obtain ⟨a', ha', h⟩ := exists_of_bind_eq_ok h
    split at h
    · cases h
    · obtain rfl := Except.ok.inj h
      exact ⟨s, from_of_readItems (RecordReader.from_start _) (fun _ hc => hc) hs, _, ha'⟩

/-- A node that is read from regular content is read from regular fields, one level in. -/
lemma exists_payload_of_ofContent {n : Nat} {c : Content} (hc : c.Regular n) {a : α}
    (h : r.ofContent c = .ok a) :
    ∃ k kind payload, n = k + 1 ∧ payload.Regular k ∧ r.ofPayload kind payload = .ok a := by
  obtain ⟨es, kind, rfl, -, h⟩ | ⟨x, xs, kind, rfl, -, h⟩ := cases_of_ofContent h
  · cases hc with
    | @map k es hes =>
      refine ⟨k, kind, .entries es, rfl, fun c hc => ?_, h⟩
      obtain ⟨e, he, rfl⟩ := List.mem_map.mp hc
      exact hes e he
  · cases hc with
    | @list k items hitems =>
      -- The first item is the kind; the fields are the others.
      exact ⟨k, kind, .items xs, rfl, fun c hc => hitems c (List.mem_cons_of_mem _ hc), h⟩

end NodeReader

end HintedSql
