import HintedSql.Proofs.Algebra.Literals
import HintedSql.Proofs.Document.Field
import HintedSql.Proofs.Number.Range
set_option relaxedAutoImplicit false
set_option autoImplicit false

/-!
# Regular contents

The content of a JSON value is regular: its numbers are integers of 64 bits or finite doubles, and
it is nested no deeper than the limit leaves room for where it stands. The fields of a node have
regular contents, with one level less.

## Main definitions

* `HintedSql.Content.Regular` — content with numbers in range that is nested at most so deep.
* `HintedSql.Payload.Regular` — fields with such contents.

## Main results

* `HintedSql.Json.Outline.regular_of_content` — the content of every JSON value is regular.
* `HintedSql.Value.isFinite_of_ofContent` — a literal read from regular content is finite.
* `HintedSql.Tag.regular_of_ofOutline` — the fields of an outermost node are regular.
-/

namespace HintedSql

open Json (Outline Quoted)

/-! ## Regular contents -/

/-- Content in which lists and maps are nested at most `n` deep and every number is one that a JSON
text can hold. -/
inductive Content.Regular : Nat → Content → Prop where
  | null (n : Nat) : Regular n null
  | bool (n : Nat) (b : Bool) : Regular n (bool b)
  | natural (n : Nat) {k : Nat} (h : k < UInt64.size) : Regular n (natural k)
  | negative (n : Nat) {k : Nat} (h : k ≤ Int64.minValue.toInt.natAbs) : Regular n (negative k)
  | float (n : Nat) {x : Double} (h : x.isFinite = true) : Regular n (float x)
  | text (n : Nat) (s : String) : Regular n (text s)
  | list {n : Nat} {items : List Content} (h : ∀ c ∈ items, Regular n c) :
    Regular (n + 1) (list items)
  | map {n : Nat} {entries : List (Content × Content)} (h : ∀ e ∈ entries, Regular n e.2) :
    Regular (n + 1) (map entries)

/-- A number in a JSON text is an integer of 64 bits or a finite double. -/
theorem Json.Number.regular_of_content {n : Json.Number} {c : Content} (h : n.content = .ok c)
    (depth : Nat) : c.Regular depth := by
  have hdouble : n.double = .ok c → c.Regular depth := by
    intro hd
    rw [Json.Number.double] at hd
    cases hs : (Decimal.ofLeading n.negative n.whole (n.fraction.getD []) n.power).scaled with
    | none =>
      rw [hs] at hd
      cases hd
    | some x =>
      rw [hs] at hd
      obtain rfl : Content.float x = c := Except.ok.inj hd
      exact .float depth (Decimal.isFinite_of_scaled (Decimal.coefficient_ofLeading_lt _ _ _ _) hs)
  rw [Json.Number.content] at h
  split at h
  · rename_i hnatural
    rw [← Except.ok.inj h]
    simp only [Bool.and_eq_true, decide_eq_true_eq] at hnatural
    exact .natural depth hnatural.2
  · split at h
    · rename_i hnegative
      rw [← Except.ok.inj h]
      simp only [Bool.and_eq_true, decide_eq_true_eq] at hnegative
      exact .negative depth hnegative.2
    · exact hdouble h

/-- Every content of a list is that of one of its items. -/
lemma Json.Outline.exists_of_mem_itemContents {depth : Nat} {items : List Outline}
    {cs : List Content} (h : itemContents depth items = .ok cs) :
    ∀ c ∈ cs, ∃ v ∈ items, v.content depth = .ok c := by
  induction items generalizing cs with
  | nil =>
    rw [← Except.ok.inj h]
    simp
  | cons v vs ih =>
    rw [itemContents] at h
    obtain ⟨d, hd, h⟩ := exists_of_bind_eq_ok h
    obtain ⟨ds, hds, h⟩ := exists_of_bind_eq_ok h
    rw [← Except.ok.inj h]
    refine List.forall_mem_cons.mpr ⟨⟨v, List.mem_cons_self, hd⟩, fun c hc => ?_⟩
    obtain ⟨w, hw, hwc⟩ := ih hds c hc
    exact ⟨w, List.mem_cons_of_mem _ hw, hwc⟩

/-- Every content of a record is that of one of its members. -/
lemma Json.Outline.exists_of_mem_memberContents {depth : Nat}
    {members : List (Quoted × Outline)} {es : List (Content × Content)}
    (h : memberContents depth members = .ok es) :
    ∀ e ∈ es, ∃ m ∈ members, m.2.content depth = .ok e.2 := by
  induction members generalizing es with
  | nil =>
    rw [← Except.ok.inj h]
    simp
  | cons m ms ih =>
    rw [memberContents] at h
    obtain ⟨name, -, h⟩ := exists_of_bind_eq_ok h
    obtain ⟨c, hc, h⟩ := exists_of_bind_eq_ok h
    obtain ⟨fs, hfs, h⟩ := exists_of_bind_eq_ok h
    rw [← Except.ok.inj h]
    refine List.forall_mem_cons.mpr ⟨⟨m, List.mem_cons_self, hc⟩, fun e he => ?_⟩
    obtain ⟨m', hm', hme⟩ := ih hfs e he
    exact ⟨m', List.mem_cons_of_mem _ hm', hme⟩

/-- **The content of every JSON value is regular**, with as many levels as are left where it
stands. -/
theorem Json.Outline.regular_of_content : ∀ (o : Outline) {depth : Nat} {c : Content},
    o.content depth = .ok c → c.Regular (depthLimit - depth)
  | broken f, _, _, h => nomatch h
  | cutNumber, _, _, h => nomatch h
  | cutWord, _, _, h => nomatch h
  | null, _, _, h => by
    rw [← Except.ok.inj h]
    exact .null _
  | bool b, _, _, h => by
    rw [← Except.ok.inj h]
    exact .bool _ b
  | number n, _, _, h => Json.Number.regular_of_content h _
  | string q, _, _, h => by
    rw [content] at h
    cases hq : q.text with
    | error f => rw [hq] at h; cases h
    | ok s =>
      rw [hq] at h
      rw [← Except.ok.inj h]
      exact .text _ s
  | list items fault, depth, c, h => by
    rw [content] at h
    split at h
    · rename_i hlt
      obtain ⟨cs, hcs, h⟩ := exists_of_bind_eq_ok h
      obtain ⟨-, -, h⟩ := exists_of_bind_eq_ok h
      rw [← Except.ok.inj h, show depthLimit - depth = depthLimit - (depth + 1) + 1 by omega]
      refine .list fun x hx => ?_
      obtain ⟨v, hv, hvx⟩ := exists_of_mem_itemContents hcs x hx
      exact regular_of_content v hvx
    · cases h
  | record members fault comma, depth, c, h => by
    rw [content] at h
    split at h
    · rename_i hlt
      obtain ⟨es, hes, h⟩ := exists_of_bind_eq_ok h
      obtain ⟨-, -, h⟩ := exists_of_bind_eq_ok h
      rw [← Except.ok.inj h, show depthLimit - depth = depthLimit - (depth + 1) + 1 by omega]
      refine .map fun e he => ?_
      obtain ⟨m, hm, hme⟩ := exists_of_mem_memberContents hes e he
      exact regular_of_content m.2 hme
    · cases h
termination_by o => sizeOf o
decreasing_by
  · have := List.sizeOf_lt_of_mem hv
    simp only [Outline.list.sizeOf_spec]
    omega
  · have := List.sizeOf_lt_of_mem hm
    obtain ⟨k, v⟩ := m
    simp only [Outline.record.sizeOf_spec, Prod.mk.sizeOf_spec] at this ⊢
    omega

/-- The value of regular content is finite: what is too great for an integer is rounded in range. -/
theorem Value.isFinite_of_ofContent {n : Nat} {c : Content} (hc : c.Regular n) {v : Value}
    (h : ofContent c = .ok v) : v.IsFinite := by
  have hint (i : Int) (hi : i.natAbs < UInt64.size) : (ofInt i).IsFinite := by
    rw [ofInt]
    split
    · trivial
    · exact Double.isFinite_ofInt hi
  have hmin : Int64.minValue.toInt.natAbs < UInt64.size := by decide
  cases hc with
  | null => rw [← Except.ok.inj h]; trivial
  | bool _ b => rw [← Except.ok.inj h]; trivial
  | natural _ hk =>
    rw [← Except.ok.inj h]
    exact hint _ (by omega)
  | negative _ hk =>
    rw [← Except.ok.inj h]
    exact hint _ (by omega)
  | float _ hx =>
    rw [← Except.ok.inj h]
    exact hx
  | text _ s => rw [← Except.ok.inj h]; trivial
  | list _ => cases h
  | map _ => cases h

/-! ## Payloads -/

namespace Payload

/-- The contents of the fields. -/
def contents : Payload → List Content
  | entries es => es.map (·.2)
  | items cs => cs

/-- Every field has a regular content. -/
def Regular (n : Nat) (payload : Payload) : Prop :=
  ∀ c ∈ payload.contents, c.Regular n

end Payload

namespace Tag

variable {α : Type} {tags : List (String × α)}

/-- The entries of an outermost node are contents of its members. -/
lemma regular_of_readMembers {depth : Nat} {members : List (Quoted × Outline)}
    {kind kind' : Option α} {entries es : List (Content × Content)}
    (hentries : ∀ e ∈ entries, e.2.Regular (Json.depthLimit - depth))
    (h : readMembers tags depth kind entries members = .ok (kind', es)) :
    ∀ e ∈ es, e.2.Regular (Json.depthLimit - depth) := by
  induction members generalizing kind entries with
  | nil =>
    obtain ⟨-, rfl⟩ := Prod.mk.inj (Except.ok.inj h)
    simpa using hentries
  | cons m ms ih =>
    obtain ⟨k, v⟩ := m
    rw [readMembers.eq_def] at h
    obtain ⟨name, -, h⟩ := exists_of_bind_eq_ok h
    split at h
    · cases kind with
      | some a => cases h
      | none =>
        obtain ⟨a, -, h⟩ := exists_of_bind_eq_ok h
        exact ih hentries h
    · obtain ⟨c, hc, h⟩ := exists_of_bind_eq_ok h
      refine ih (List.forall_mem_cons.mpr ⟨?_, hentries⟩) h
      exact v.regular_of_content (ReadError.eq_ok_of_ofFault hc)

/-- The fields of an outermost node are regular, one level further in. -/
theorem regular_of_ofOutline {expected : String} {depth : Nat} {o : Outline} {a : α}
    {payload : Payload} (h : ofOutline tags expected depth o = .ok (a, payload)) :
    depth < Json.depthLimit ∧ payload.Regular (Json.depthLimit - (depth + 1)) := by
  rw [ofOutline.eq_def] at h
  split at h
  · split at h
    · rename_i hlt
      obtain ⟨⟨kind, es⟩, hread, h⟩ := exists_of_bind_eq_ok h
      obtain ⟨-, -, h⟩ := exists_of_bind_eq_ok h
      split at h
      · obtain ⟨-, rfl⟩ := Prod.mk.inj (Except.ok.inj h)
        refine ⟨hlt, fun c hc => ?_⟩
        obtain ⟨e, he, rfl⟩ := List.mem_map.mp hc
        exact regular_of_readMembers (by simp) hread e he
      · cases h
    · cases h
  · split at h
    · obtain ⟨-, -, h⟩ := exists_of_bind_eq_ok h
      cases h
    · cases h
  · split at h
    · rename_i hlt
      obtain ⟨b, -, h⟩ := exists_of_bind_eq_ok h
      obtain ⟨cs, hcs, h⟩ := exists_of_bind_eq_ok h
      obtain ⟨-, -, h⟩ := exists_of_bind_eq_ok h
      obtain ⟨-, rfl⟩ := Prod.mk.inj (Except.ok.inj h)
      refine ⟨hlt, fun c hc => ?_⟩
      obtain ⟨v, -, hv⟩ :=
        Outline.exists_of_mem_itemContents (ReadError.eq_ok_of_ofFault hcs) c hc
      exact v.regular_of_content hv
    · cases h
  · cases h

end Tag

end HintedSql
