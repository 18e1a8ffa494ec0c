import HintedSql.Proofs.Json.Spelling
import Mathlib.Data.List.Forall2
set_option relaxedAutoImplicit false
set_option autoImplicit false

/-!
# The content of JSON values

Whether a value has a content depends on its strings, in which surrogates have to form pairs, on its
numbers, which have to be in range, and on how deep it is nested. A well-formed value has one as
long as it is not nested too deep. A complete value that is nested too deep has none, and what is
wrong with it is always that something is misplaced, since a complete value does not end too early.

## Main definitions

* `HintedSql.Json.Quoted.Says` — the text that a string stands for.
* `HintedSql.Json.Outline.depth` — how deep lists and records are nested.
* `HintedSql.Json.Outline.WellFormed` — strings and numbers stand for something.
* `HintedSql.Json.Outline.held` — the content of a value that has one.

## Main results

* `HintedSql.Json.Quoted.Says.text_eq` — a string is read as the text it stands for.
* `HintedSql.Json.Outline.WellFormed.exists_content` — a well-formed value has a content.
* `HintedSql.Json.Outline.Complete.settles` — a complete value has a content, or something in it is
  misplaced; `HintedSql.Json.Outline.Complete.depth_le_of_content` — if it has one, it is not nested
  too deep.
-/

namespace HintedSql.Json

/-! ## Strings -/

/-- The glyphs of a text: a character beyond U+FFFF may be a pair of surrogates. -/
inductive Glyph.Encodes : List Glyph → List Char → Prop where
  | nil : Encodes [] []
  | char (c : Char) {gs : List Glyph} {cs : List Char} (h : Encodes gs cs) :
    Encodes (.char c :: gs) (c :: cs)
  | pair {c : Char} (hc : 0x10000 ≤ c.toNat) {gs : List Glyph} {cs : List Char}
      (h : Encodes gs cs) :
    Encodes (.surrogate (0xD800 + (c.toNat - 0x10000) / 0x400) ::
      .surrogate (0xDC00 + (c.toNat - 0x10000) % 0x400) :: gs) (c :: cs)

/-- A string that is written to its end and stands for a text. -/
def Quoted.Says (q : Quoted) (s : String) : Prop :=
  q.fault = none ∧ Glyph.Encodes q.glyphs s.toList

/-- The characters that glyphs encode are read from them. -/
lemma Glyph.chars_of_encodes {gs : List Glyph} {cs : List Char} (h : Encodes gs cs) :
    Glyph.chars none gs = .ok cs := by
  induction h with
  | nil => rfl
  | char c _ ih => rw [chars, ih]; rfl
  | @pair c hc gs cs _ ih =>
    have hlt : c.toNat < 0x110000 := by
      have := c.valid
      simp only [UInt32.isValidChar, Nat.isValidChar] at this
      change c.val.toNat < _
      omega
    have hchar : 0x10000 + (0xD800 + (c.toNat - 0x10000) / 0x400 - 0xD800) * 0x400 +
        (0xDC00 + (c.toNat - 0x10000) % 0x400 - 0xDC00) = c.toNat := by omega
    rw [chars, if_neg (by omega), if_pos (by omega), ih, hchar, Char.ofNat_toNat]
    rfl

/-- A string is read as the text it stands for. -/
theorem Quoted.Says.text_eq {q : Quoted} {s : String} (h : q.Says s) : q.text = .ok s := by
  rw [Quoted.text, h.1, Glyph.chars_of_encodes h.2]
  exact congrArg Except.ok String.ofList_toList

/-- In a string that is written to its end only surrogates can be wrong. -/
lemma Glyph.chars_eq_ok_or (gs : List Glyph) :
    (∃ cs, Glyph.chars none gs = .ok cs) ∨ Glyph.chars none gs = .error .misplaced := by
  fun_induction Glyph.chars none gs with
  | case1 h => exact .inl ⟨_, rfl⟩
  | case2 f h => cases h
  | case3 c rest ih =>
    obtain ⟨cs, h⟩ | h := ih
    · exact .inl ⟨c :: cs, by rw [h]; rfl⟩
    · exact .inr (by rw [h]; rfl)
  | case4 => exact .inr rfl
  | case5 => exact .inr rfl
  | case6 high _ low rest _ ih =>
    obtain ⟨cs, h⟩ | h := ih
    · exact .inl ⟨_ :: cs, by rw [h]; rfl⟩
    · exact .inr (by rw [h]; rfl)
  | case7 => exact .inr rfl
  | case8 => exact .inr rfl

/-- A string without fault has a text, or an escape in it is misplaced. -/
lemma Quoted.text_eq_ok_or {q : Quoted} (h : q.fault = none) :
    (∃ s, q.text = .ok s) ∨ q.text = .error .misplaced := by
  rw [Quoted.text, h]
  obtain ⟨cs, hcs⟩ | hcs := Glyph.chars_eq_ok_or q.glyphs
  · exact .inl ⟨_, by rw [hcs]; rfl⟩
  · exact .inr (by rw [hcs]; rfl)

/-- Members whose keys say the given names. -/
def Named (members : List (Quoted × Outline)) (named : List (String × Outline)) : Prop :=
  List.Forall₂ (fun m p => m.1.Says p.1 ∧ m.2 = p.2) members named

namespace Outline

/-! ## Depth -/

mutual
/-- How deep lists and records are nested. -/
def depth : Outline → Nat
  | list items _ => itemsDepth items + 1
  | record members _ _ => membersDepth members + 1
  | _ => 0

/-- The greatest depth of an item. -/
def itemsDepth : List Outline → Nat
  | [] => 0
  | v :: vs => max v.depth (itemsDepth vs)

/-- The greatest depth of the value of a member. -/
def membersDepth : List (Quoted × Outline) → Nat
  | [] => 0
  | (_, v) :: ms => max v.depth (membersDepth ms)
end

/-- The depth of items is bounded if that of each of them is. -/
lemma itemsDepth_le_iff {items : List Outline} {n : Nat} :
    itemsDepth items ≤ n ↔ ∀ v ∈ items, v.depth ≤ n := by
  induction items with
  | nil => simp [itemsDepth]
  | cons v vs ih => rw [itemsDepth, Nat.max_le, ih, List.forall_mem_cons]

/-- The depth of members is bounded if that of each of them is. -/
lemma membersDepth_le_iff {members : List (Quoted × Outline)} {n : Nat} :
    membersDepth members ≤ n ↔ ∀ m ∈ members, m.2.depth ≤ n := by
  induction members with
  | nil => simp [membersDepth]
  | cons m ms ih => rw [membersDepth, Nat.max_le, ih, List.forall_mem_cons]

/-! ## Well-formed values -/

/-- Every string stands for a text, and every number is in range. -/
inductive WellFormed : Outline → Prop where
  | null : WellFormed null
  | bool (b : Bool) : WellFormed (bool b)
  | number {n : Number} {c : Content} (h : n.content = .ok c) : WellFormed (number n)
  | string {q : Quoted} {s : String} (h : q.Says s) : WellFormed (string q)
  | list {items : List Outline} (h : ∀ v ∈ items, WellFormed v) : WellFormed (list items none)
  | record {members : List (Quoted × Outline)} {named : List (String × Outline)}
      (hnames : Named members named) (h : ∀ p ∈ named, WellFormed p.2) :
    WellFormed (record members none false)

end Outline

/-- Every member is named. -/
lemma Named.exists_of_mem {members : List (Quoted × Outline)} {named : List (String × Outline)}
    (h : Named members named) {m : Quoted × Outline} (hm : m ∈ members) :
    ∃ p ∈ named, m.1.Says p.1 ∧ m.2 = p.2 := by
  induction h with
  | nil => cases hm
  | @cons m' p ms ps hp _ ih =>
    obtain rfl | hm := List.mem_cons.mp hm
    · exact ⟨p, List.mem_cons_self, hp⟩
    · obtain ⟨q, hq, hkey⟩ := ih hm
      exact ⟨q, List.mem_cons_of_mem _ hq, hkey⟩

/-- The depth of named members is bounded if that of each of them is. -/
lemma Named.membersDepth_le_iff {members : List (Quoted × Outline)}
    {named : List (String × Outline)} (h : Named members named) {n : Nat} :
    Outline.membersDepth members ≤ n ↔ ∀ p ∈ named, p.2.depth ≤ n := by
  induction h with
  | nil => simp [Outline.membersDepth]
  | @cons m p ms ps hp _ ih =>
    rw [Outline.membersDepth, Nat.max_le, ih, List.forall_mem_cons, hp.2]

namespace Outline

/-- A well-formed value is complete. -/
lemma WellFormed.complete {o : Outline} (h : o.WellFormed) : o.Complete := by
  induction h with
  | null => exact .null
  | bool b => exact .bool b
  | number h => exact .number _
  | @string q s h =>
    obtain ⟨gs, fault⟩ := q
    obtain rfl : fault = none := h.1
    exact .string gs
  | list _ ih => exact .list ih
  | record hnames _ ih =>
    refine .record (fun m hm => ?_) fun m hm => ?_
    · obtain ⟨p, -, hkey, -⟩ := hnames.exists_of_mem hm
      exact hkey.1
    · obtain ⟨p, hp, -, hvalue⟩ := hnames.exists_of_mem hm
      rw [hvalue]
      exact ih p hp

/-- Items that can be passed over one by one can be passed over. -/
lemma skipItems_of_forall {items : List Outline} (h : ∀ v ∈ items, v.skip = .ok ()) :
    skipItems items = .ok () := by
  induction items with
  | nil => rfl
  | cons v vs ih =>
    rw [skipItems, h v (by simp)]
    exact ih fun w hw => h w (List.mem_cons_of_mem _ hw)

/-- Members with keys without fault, whose values can be passed over, can be passed over. -/
lemma skipMembers_of_forall {members : List (Quoted × Outline)}
    (hkeys : ∀ m ∈ members, m.1.fault = none) (h : ∀ m ∈ members, m.2.skip = .ok ()) :
    skipMembers members = .ok () := by
  induction members with
  | nil => rfl
  | cons m ms ih =>
    rw [skipMembers, hkeys m (by simp), h m (by simp)]
    exact ih (fun n hn => hkeys n (List.mem_cons_of_mem _ hn))
      fun n hn => h n (List.mem_cons_of_mem _ hn)

/-- A complete value can be passed over. -/
lemma Complete.skip_eq {o : Outline} (h : o.Complete) : o.skip = .ok () := by
  induction h with
  | null | bool _ | number _ => rfl
  | string gs => rfl
  | list _ ih =>
    rw [skip, skipItems_of_forall ih]
    rfl
  | record hkeys _ ih =>
    rw [skip, skipMembers_of_forall hkeys ih]
    rfl

/-! ## Contents -/

/-- The content of a value that has one. -/
def held (depth : Nat) (o : Outline) : Content :=
  match o.content depth with
  | .ok c => c
  | .error _ => .null

/-- A value that has a content has the one it holds. -/
lemma content_eq_held {depth : Nat} {o : Outline} {c : Content} (h : o.content depth = .ok c) :
    o.content depth = .ok (o.held depth) := by
  rw [held, h]

/-- What a value with a content holds is the content. -/
lemma held_eq {depth : Nat} {o : Outline} {c : Content} (h : o.content depth = .ok c) :
    o.held depth = c := by
  rw [held, h]

/-- The contents of items that have contents. -/
lemma itemContents_of_forall {depth : Nat} {items : List Outline}
    (h : ∀ v ∈ items, ∃ c, v.content depth = .ok c) :
    itemContents depth items = .ok (items.map (held depth)) := by
  induction items with
  | nil => rfl
  | cons v vs ih =>
    obtain ⟨c, hc⟩ := h v (by simp)
    rw [itemContents, content_eq_held hc, ih fun w hw => h w (List.mem_cons_of_mem _ hw)]
    rfl

/-- The contents of named members that have contents. -/
lemma memberContents_of_forall {depth : Nat} {members : List (Quoted × Outline)}
    {named : List (String × Outline)} (hnames : Named members named)
    (h : ∀ p ∈ named, ∃ c, p.2.content depth = .ok c) :
    memberContents depth members = .ok (named.map fun p => (.text p.1, p.2.held depth)) := by
  induction hnames with
  | nil => rfl
  | @cons m p ms ps hp _ ih =>
    obtain ⟨c, hc⟩ := h p (by simp)
    rw [memberContents, hp.1.text_eq, hp.2, content_eq_held hc,
      ih fun q hq => h q (List.mem_cons_of_mem _ hq)]
    rfl

/-- The content of a list whose items have contents. -/
lemma content_list {depth : Nat} (hdepth : depth < depthLimit) {items : List Outline}
    (h : ∀ v ∈ items, ∃ c, v.content (depth + 1) = .ok c) :
    (list items none).content depth = .ok (.list (items.map (held (depth + 1)))) := by
  rw [content, if_pos hdepth, itemContents_of_forall h]
  rfl

/-- The content of a record whose members have contents. -/
lemma content_record {depth : Nat} (hdepth : depth < depthLimit)
    {members : List (Quoted × Outline)} {named : List (String × Outline)}
    (hnames : Named members named) (h : ∀ p ∈ named, ∃ c, p.2.content (depth + 1) = .ok c) :
    (record members none false).content depth =
      .ok (.map (named.map fun p => (.text p.1, p.2.held (depth + 1)))) := by
  rw [content, if_pos hdepth, memberContents_of_forall hnames h]
  rfl

/-- **A well-formed value has a content** unless it is nested too deep. -/
theorem WellFormed.exists_content {o : Outline} (h : o.WellFormed) :
    ∀ depth, depth + o.depth ≤ depthLimit → ∃ c, o.content depth = .ok c := by
  induction h with
  | null => exact fun _ _ => ⟨.null, rfl⟩
  | bool b => exact fun _ _ => ⟨.bool b, rfl⟩
  | number h => exact fun _ _ => ⟨_, h⟩
  | string h => exact fun _ _ => ⟨_, by rw [content, h.text_eq]; rfl⟩
  | @list items _ ih =>
    intro d hd
    rw [depth] at hd
    have hitems := itemsDepth_le_iff.mp (Nat.le_refl (itemsDepth items))
    exact ⟨_, content_list (by omega) fun v hv => ih v hv _ (by have := hitems v hv; omega)⟩
  | @record members named hnames _ ih =>
    intro d hd
    rw [depth] at hd
    have hmembers := hnames.membersDepth_le_iff.mp (Nat.le_refl (membersDepth members))
    exact ⟨_, content_record (by omega) hnames
      fun p hp => ih p hp _ (by have := hmembers p hp; omega)⟩

/-! ## Values that are nested too deep -/

/-- The value has a content, or something in it is misplaced. -/
def Settles (depth : Nat) (o : Outline) : Prop :=
  (∃ c, o.content depth = .ok c) ∨ o.content depth = .error .misplaced

/-- If each item has a content or is misplaced somewhere, so do the items together. -/
lemma itemContents_settles {depth : Nat} {items : List Outline}
    (h : ∀ v ∈ items, v.Settles depth) :
    (∃ cs, itemContents depth items = .ok cs) ∨
      itemContents depth items = .error .misplaced := by
  induction items with
  | nil => exact .inl ⟨[], rfl⟩
  | cons v vs ih =>
    rw [itemContents]
    obtain ⟨c, hc⟩ | hc := h v (by simp)
    · rw [hc]
      obtain ⟨cs, hcs⟩ | hcs := ih fun w hw => h w (List.mem_cons_of_mem _ hw)
      · exact .inl ⟨c :: cs, by rw [hcs]; rfl⟩
      · exact .inr (by rw [hcs]; rfl)
    · exact .inr (by rw [hc]; rfl)

/-- If each member has a content or is misplaced somewhere, so do the members together. -/
lemma memberContents_settles {depth : Nat} {members : List (Quoted × Outline)}
    (hkeys : ∀ m ∈ members, m.1.fault = none) (h : ∀ m ∈ members, m.2.Settles depth) :
    (∃ es, memberContents depth members = .ok es) ∨
      memberContents depth members = .error .misplaced := by
  induction members with
  | nil => exact .inl ⟨[], rfl⟩
  | cons m ms ih =>
    rw [memberContents]
    obtain ⟨s, hs⟩ | hs := Quoted.text_eq_ok_or (hkeys m (by simp))
    · rw [hs]
      obtain ⟨c, hc⟩ | hc := h m (by simp)
      · rw [hc]
        obtain ⟨es, hes⟩ | hes := ih (fun n hn => hkeys n (List.mem_cons_of_mem _ hn))
          fun n hn => h n (List.mem_cons_of_mem _ hn)
        · exact .inl ⟨(.text s, c) :: es, by rw [hes]; rfl⟩
        · exact .inr (by rw [hes]; rfl)
      · exact .inr (by rw [hc]; rfl)
    · exact .inr (by rw [hs]; rfl)

end Outline

/-- What is wrong with a number is that it is out of range. -/
lemma Number.content_eq_ok_or (n : Number) :
    (∃ c, n.content = .ok c) ∨ n.content = .error .misplaced := by
  have hdouble : (∃ c, n.double = .ok c) ∨ n.double = .error .misplaced := by
    rw [Number.double]
    generalize Decimal.scaled _ = r
    cases r with
    | some x => exact .inl ⟨_, rfl⟩
    | none => exact .inr rfl
  rw [Number.content]
  split
  · exact .inl ⟨_, rfl⟩
  · split
    · exact .inl ⟨_, rfl⟩
    · exact hdouble

namespace Outline

/-- A complete value has a content, or something in it is misplaced. -/
theorem Complete.settles {o : Outline} (h : o.Complete) : ∀ depth, o.Settles depth := by
  induction h with
  | null => exact fun _ => .inl ⟨.null, rfl⟩
  | bool b => exact fun _ => .inl ⟨.bool b, rfl⟩
  | number n => exact fun _ => n.content_eq_ok_or
  | string gs =>
    intro d
    obtain ⟨s, hs⟩ | hs := Quoted.text_eq_ok_or (q := ⟨gs, none⟩) rfl
    · exact .inl ⟨.text s, by rw [content, hs]; rfl⟩
    · exact .inr (by rw [content, hs]; rfl)
  | list _ ih =>
    intro d
    rw [Settles, content]
    split
    · obtain ⟨cs, hcs⟩ | hcs := itemContents_settles fun v hv => ih v hv (d + 1)
      · exact .inl ⟨.list cs, by rw [hcs]; rfl⟩
      · exact .inr (by rw [hcs]; rfl)
    · exact .inr rfl
  | record hkeys _ ih =>
    intro d
    rw [Settles, content]
    split
    · obtain ⟨es, hes⟩ | hes := memberContents_settles hkeys fun m hm => ih m hm (d + 1)
      · exact .inl ⟨.map es, by rw [hes]; rfl⟩
      · exact .inr (by rw [hes]; rfl)
    · exact .inr rfl

/-- Items that have contents together have them one by one. -/
lemma exists_content_of_itemContents {depth : Nat} {items : List Outline} {cs : List Content}
    (h : itemContents depth items = .ok cs) : ∀ v ∈ items, ∃ c, v.content depth = .ok c := by
  induction items generalizing cs with
  | nil => simp
  | cons v vs ih =>
    rw [itemContents] at h
    cases hv : v.content depth with
    | error f => rw [hv] at h; cases h
    | ok c =>
      rw [hv] at h
      cases hvs : itemContents depth vs with
      | error f => rw [hvs] at h; cases h
      | ok ds => exact List.forall_mem_cons.mpr ⟨⟨c, hv⟩, ih hvs⟩

/-- Members that have contents together have them one by one. -/
lemma exists_content_of_memberContents {depth : Nat} {members : List (Quoted × Outline)}
    {es : List (Content × Content)} (h : memberContents depth members = .ok es) :
    ∀ m ∈ members, ∃ c, m.2.content depth = .ok c := by
  induction members generalizing es with
  | nil => simp
  | cons m ms ih =>
    rw [memberContents] at h
    cases hk : m.1.text with
    | error f => rw [hk] at h; cases h
    | ok s =>
      rw [hk] at h
      cases hv : m.2.content depth with
      | error f => rw [hv] at h; cases h
      | ok c =>
        rw [hv] at h
        cases hms : memberContents depth ms with
        | error f => rw [hms] at h; cases h
        | ok fs => exact List.forall_mem_cons.mpr ⟨⟨c, hv⟩, ih hms⟩

/-- A value with a content is not nested too deep. -/
theorem Complete.depth_le_of_content {o : Outline} (h : o.Complete) :
    ∀ {depth : Nat} {c : Content}, depth ≤ depthLimit → o.content depth = .ok c →
      depth + o.depth ≤ depthLimit := by
  induction h with
  | null | bool _ | number _ | string _ => exact fun hd _ => hd
  | @list items _ ih =>
    intro d c _ hc
    rw [content] at hc
    split at hc
    · rename_i hlt
      cases hitems : itemContents (d + 1) items with
      | error f => rw [hitems] at hc; cases hc
      | ok cs =>
        have hbound : itemsDepth items ≤ depthLimit - (d + 1) := by
          refine itemsDepth_le_iff.mpr fun v hv => ?_
          obtain ⟨c', hc'⟩ := exists_content_of_itemContents hitems v hv
          have := ih v hv hlt hc'
          omega
        rw [depth]
        omega
    · cases hc
  | @record members _ _ ih =>
    intro d c _ hc
    rw [content] at hc
    split at hc
    · rename_i hlt
      cases hmembers : memberContents (d + 1) members with
      | error f => rw [hmembers] at hc; cases hc
      | ok es =>
        have hbound : membersDepth members ≤ depthLimit - (d + 1) := by
          refine membersDepth_le_iff.mpr fun m hm => ?_
          obtain ⟨c', hc'⟩ := exists_content_of_memberContents hmembers m hm
          have := ih m hm hlt hc'
          omega
        rw [depth]
        omega
    · cases hc

end Outline

end HintedSql.Json
