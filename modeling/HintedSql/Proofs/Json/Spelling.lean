import HintedSql.Json.Outline
import HintedSql.Proofs.Json.Lexeme
set_option relaxedAutoImplicit false
set_option autoImplicit false

/-!
# JSON texts and their outlines

A complete outline, one without faults, has exactly one list of tokens, and a JSON text spells the
outline if it lays out these tokens. The machine that builds outlines undoes this: with the tokens
of a value in front of it, it ends up behind that value, whatever stands on its stack.

## Main definitions

* `HintedSql.Json.Outline.Complete` — nothing is cut or misplaced.
* `HintedSql.Json.Outline.tokens` — the tokens of a complete outline.
* `HintedSql.Json.Spells` — a text spells an outline.

## Main results

* `HintedSql.Json.build_tokens` — the machine on the tokens of a value.
* `HintedSql.Json.Spells.outline_eq` — the outline of a text is the one it spells.
-/

namespace HintedSql.Json

/-! ## Complete outlines -/

namespace Outline

/-- Nothing is cut or misplaced. -/
inductive Complete : Outline → Prop where
  | null : Complete null
  | bool (b : Bool) : Complete (bool b)
  | number (n : Number) : Complete (number n)
  | string (gs : List Glyph) : Complete (string ⟨gs, none⟩)
  | list {items : List Outline} (h : ∀ v ∈ items, Complete v) : Complete (list items none)
  | record {members : List (Quoted × Outline)} (hkeys : ∀ m ∈ members, m.1.fault = none)
      (h : ∀ m ∈ members, Complete m.2) : Complete (record members none false)

mutual
/-- The tokens of a complete value. -/
def tokens : Outline → List Token
  | broken _ | cutNumber | cutWord => []
  | null => [.null]
  | bool b => [.bool b]
  | number n => [.number n]
  | string s => [.string s]
  | list items _ => .openList :: (itemTokens items ++ [.closeList])
  | record members _ _ => .openRecord :: (memberTokens members ++ [.closeRecord])

/-- The tokens of items with commas between them. -/
def itemTokens : List Outline → List Token
  | [] => []
  | [v] => v.tokens
  | v :: vs => v.tokens ++ .comma :: itemTokens vs

/-- The tokens of members with commas between them. -/
def memberTokens : List (Quoted × Outline) → List Token
  | [] => []
  | [(k, v)] => .string k :: .colon :: v.tokens
  | (k, v) :: ms => .string k :: .colon :: (v.tokens ++ .comma :: memberTokens ms)
end

/-- The tokens of a complete value do not begin with the end of a list. -/
lemma Complete.exists_tokens_eq {o : Outline} (h : o.Complete) :
    ∃ t ts, o.tokens = t :: ts ∧ t ≠ .closeList := by
  cases h <;> exact ⟨_, _, by rw [tokens], by simp⟩

end Outline

/-- A JSON text of the value that an outline describes. -/
def Spells (s : String) (o : Outline) : Prop :=
  o.Complete ∧ Layout o.tokens s.toList

/-! ## The tokens of a value are separated -/

/-- A token that is no number is separated from what follows. -/
lemma Separated.cons {t : Token} (ht : t.isNumber = false) {ts : List Token}
    (h : Separated ts) : Separated (t :: ts) := by
  refine List.isChain_cons.mpr ⟨fun u _ hn => ?_, h⟩
  simp [ht] at hn

/-- What may follow a value: the end, a comma or a closing bracket. -/
def ValueEnd (rest : List Token) : Prop :=
  Separated rest ∧ ∀ t ∈ rest.head?, t.isNumber = false ∧ t.endsNumber = true

/-- A token that can end a number, in front of separated ones, can follow a value. -/
lemma ValueEnd.cons {t : Token} (ht : t.isNumber = false) (hends : t.endsNumber = true)
    {ts : List Token} (h : Separated ts) : ValueEnd (t :: ts) := by
  refine ⟨h.cons ht, fun u hu => ?_⟩
  obtain rfl : t = u := Option.some.inj hu
  exact ⟨ht, hends⟩

/-- The tokens of items are separated if those of each item are. -/
lemma separated_items {items : List Outline}
    (ih : ∀ v ∈ items, ∀ rest, ValueEnd rest → Separated (v.tokens ++ rest)) {rest : List Token}
    (hrest : ValueEnd rest) : Separated (Outline.itemTokens items ++ rest) := by
  induction items with
  | nil => exact hrest.1
  | cons v vs ihs =>
    have hv := ih v (by simp)
    cases vs with
    | nil => exact hv rest hrest
    | cons w ws =>
      have htail := ihs fun x hx => ih x (List.mem_cons_of_mem _ hx)
      have hall := hv _ (.cons (t := .comma) rfl rfl htail)
      simpa [Outline.itemTokens] using hall

/-- The tokens of members are separated if those of each member are. -/
lemma separated_members {members : List (Quoted × Outline)}
    (ih : ∀ m ∈ members, ∀ rest, ValueEnd rest → Separated (m.2.tokens ++ rest))
    {rest : List Token} (hrest : ValueEnd rest) :
    Separated (Outline.memberTokens members ++ rest) := by
  induction members with
  | nil => exact hrest.1
  | cons m ms ihs =>
    have hm := ih m (by simp)
    cases ms with
    | nil => exact .cons rfl (.cons rfl (hm rest hrest))
    | cons n ns =>
      have htail := ihs fun x hx => ih x (List.mem_cons_of_mem _ hx)
      have hall := hm _ (.cons (t := .comma) rfl rfl htail)
      have hkey := Separated.cons (t := .string m.1) rfl (.cons (t := .colon) rfl hall)
      simpa [Outline.memberTokens] using hkey

/-- In the tokens of a value every number is followed by a comma or a closing bracket. -/
lemma Outline.Complete.separated {o : Outline} (h : o.Complete) :
    ∀ rest, ValueEnd rest → Separated (o.tokens ++ rest) := by
  induction h with
  | null => exact fun rest hrest => .cons rfl hrest.1
  | bool b => exact fun rest hrest => .cons rfl hrest.1
  | string gs => exact fun rest hrest => .cons rfl hrest.1
  | number n =>
    exact fun rest hrest => List.isChain_cons.mpr ⟨fun t ht _ => (hrest.2 t ht).2, hrest.1⟩
  | list _ ih =>
    intro rest hrest
    have := separated_items ih (.cons (t := .closeList) rfl rfl hrest.1)
    simpa [Outline.tokens] using this.cons (t := .openList) rfl
  | record _ _ ih =>
    intro rest hrest
    have := separated_members ih (.cons (t := .closeRecord) rfl rfl hrest.1)
    simpa [Outline.tokens] using this.cons (t := .openRecord) rfl

/-! ## The machine -/

/-- A token that is a scalar is read as a value. -/
lemma build_scalar {t : Token} {v : Outline} (h : t.scalar? = some v) (stack : List Frame)
    (ts : List Token) : build stack .value (t :: ts) = build stack (.after v) ts := by
  cases t <;> simp only [Token.scalar?, Option.some.injEq, reduceCtorEq] at h <;> subst h <;>
    rw [build.eq_def] <;> rfl

/-- The first item of a list is built as any value is. -/
lemma build_firstItem {t : Token} (ht : t ≠ .closeList) (stack : List Frame) (ts : List Token) :
    build stack .firstItem (t :: ts) = build stack .value (t :: ts) := by
  rw [build.eq_def]
  cases t <;> first | rfl | exact absurd rfl ht

/-- A comma after an item leads to the next item. -/
lemma build_after_comma (v : Outline) (items : List Outline) (stack : List Frame)
    (ts : List Token) :
    build (.list items :: stack) (.after v) (.comma :: ts) =
      build (.list (v :: items) :: stack) .value ts := by
  rw [build.eq_def]

/-- A closing bracket after an item ends the list. -/
lemma build_after_closeList (v : Outline) (items : List Outline) (stack : List Frame)
    (ts : List Token) :
    build (.list items :: stack) (.after v) (.closeList :: ts) =
      build stack (.after (.list (v :: items).reverse none)) ts := by
  rw [build.eq_def]

/-- A key and a colon lead to the value of a member. -/
lemma build_key (members : List (Quoted × Outline)) (k : Quoted) (stack : List Frame)
    (ts : List Token) :
    build (.record members :: stack) .nextKey (.string k :: .colon :: ts) =
      build (.member members k :: stack) .value ts := by
  rw [build.eq_def]
  dsimp only
  rw [build.eq_def]

/-- The first key of a record is read like any other. -/
lemma build_firstKey (k : Quoted) (stack : List Frame) (ts : List Token) :
    build (.record [] :: stack) .firstKey (.string k :: ts) =
      build (.record [] :: stack) .nextKey (.string k :: ts) := by
  rw [build.eq_def]
  conv_rhs => rw [build.eq_def]
  rfl

/-- A comma after a member leads to the next key. -/
lemma build_member_comma (v : Outline) (members : List (Quoted × Outline)) (k : Quoted)
    (stack : List Frame) (ts : List Token) :
    build (.member members k :: stack) (.after v) (.comma :: ts) =
      build (.record ((k, v) :: members) :: stack) .nextKey ts := by
  rw [build.eq_def]

/-- A closing bracket after a member ends the record. -/
lemma build_member_closeRecord (v : Outline) (members : List (Quoted × Outline)) (k : Quoted)
    (stack : List Frame) (ts : List Token) :
    build (.member members k :: stack) (.after v) (.closeRecord :: ts) =
      build stack (.after (.record ((k, v) :: members).reverse none false)) ts := by
  rw [build.eq_def]

/-- What the machine does with the tokens of a value, on every stack. -/
def Builds (o : Outline) : Prop :=
  ∀ stack ts, build stack .value (o.tokens ++ ts) = build stack (.after o) ts

/-- The items of a list are put on those before them. -/
lemma build_items {v : Outline} {vs : List Outline} (h : ∀ w ∈ v :: vs, Builds w)
    (acc : List Outline) (stack : List Frame) (ts : List Token) :
    build (.list acc :: stack) .value (Outline.itemTokens (v :: vs) ++ .closeList :: ts) =
      build stack (.after (.list (acc.reverse ++ v :: vs) none)) ts := by
  induction vs generalizing v acc with
  | nil =>
    rw [Outline.itemTokens, h v (by simp), build_after_closeList, List.reverse_cons]
  | cons w ws ih =>
    have hws := ih (fun x hx => h x (List.mem_cons_of_mem _ hx)) (v :: acc)
    rw [Outline.itemTokens, List.append_assoc, h v (by simp), List.cons_append, build_after_comma,
      hws]
    · simp
    · simp

/-- The members of a record are put on those before them. -/
lemma build_members {m : Quoted × Outline} {ms : List (Quoted × Outline)}
    (h : ∀ n ∈ m :: ms, Builds n.2) (acc : List (Quoted × Outline)) (stack : List Frame)
    (ts : List Token) :
    build (.record acc :: stack) .nextKey
        (Outline.memberTokens (m :: ms) ++ .closeRecord :: ts) =
      build stack (.after (.record (acc.reverse ++ m :: ms) none false)) ts := by
  induction ms generalizing m acc with
  | nil =>
    rw [Outline.memberTokens, List.cons_append, List.cons_append, build_key, h m (by simp),
      build_member_closeRecord, List.reverse_cons]
  | cons n ns ih =>
    have hns := ih (fun x hx => h x (List.mem_cons_of_mem _ hx)) (m :: acc)
    rw [Outline.memberTokens, List.cons_append, List.cons_append, List.append_assoc, build_key,
      h m (by simp), List.cons_append, build_member_comma, hns]
    · simp
    · simp

/-- **The machine ends up behind a value whose tokens it meets.**

**Proof sketch.** By induction on the value. A list that is not empty leaves the machine waiting for
an item, since no value begins with a closing bracket; its items are then put on the stack one by
one, and the same holds for the members of a record. -/
theorem build_tokens {o : Outline} (h : o.Complete) : Builds o := by
  induction h with
  | null => exact fun stack ts => build_scalar rfl stack ts
  | bool b => exact fun stack ts => build_scalar rfl stack ts
  | number n => exact fun stack ts => build_scalar rfl stack ts
  | string gs => exact fun stack ts => build_scalar rfl stack ts
  | @list items hitems ih =>
    intro stack ts
    have hopen : build stack .value ((Outline.list items none).tokens ++ ts) =
        build (.list [] :: stack) .firstItem (Outline.itemTokens items ++ .closeList :: ts) := by
      rw [Outline.tokens, List.cons_append, List.append_assoc, build.eq_def]
      rfl
    rw [hopen]
    cases items with
    | nil =>
      rw [build.eq_def]
      rfl
    | cons v vs =>
      have hfirst : ∃ t us, Outline.itemTokens (v :: vs) = t :: us ∧ t ≠ .closeList := by
        obtain ⟨t, us, htokens, ht⟩ := (hitems v (by simp)).exists_tokens_eq
        cases vs with
        | nil => exact ⟨t, us, htokens, ht⟩
        | cons w ws => exact ⟨t, _, by rw [Outline.itemTokens, htokens]; rfl; simp, ht⟩
      obtain ⟨t, us, htokens, ht⟩ := hfirst
      have hitems := build_items ih [] stack ts
      rw [htokens, List.cons_append] at hitems ⊢
      rw [build_firstItem ht, hitems]
      rfl
  | @record members _ _ ih =>
    intro stack ts
    have hopen : build stack .value ((Outline.record members none false).tokens ++ ts) =
        build (.record [] :: stack) .firstKey
          (Outline.memberTokens members ++ .closeRecord :: ts) := by
      rw [Outline.tokens, List.cons_append, List.append_assoc, build.eq_def]
      rfl
    rw [hopen]
    cases members with
    | nil =>
      rw [build.eq_def]
      rfl
    | cons m ms =>
      obtain ⟨us, htokens⟩ : ∃ us, Outline.memberTokens (m :: ms) = .string m.1 :: us := by
        cases ms with
        | nil => exact ⟨_, by rw [Outline.memberTokens]⟩
        | cons n ns => exact ⟨_, by rw [Outline.memberTokens]; simp⟩
      have hmembers := build_members ih [] stack ts
      rw [htokens, List.cons_append] at hmembers ⊢
      rw [build_firstKey, hmembers]
      rfl

/-- **The outline of a text is the one it spells**, and nothing is left over. -/
theorem Spells.outline_eq {s : String} {o : Outline} (h : Spells s o) : outline s = ⟨o, false⟩ := by
  obtain ⟨hcomplete, hlayout⟩ := h
  have hseparated : Separated o.tokens := by
    simpa using hcomplete.separated [] ⟨.nil, by simp⟩
  have hbuild := build_tokens hcomplete [] []
  rw [List.append_nil] at hbuild
  rw [outline, tokens_of_layout hlayout hseparated, hbuild, build.eq_def]
  rfl

end HintedSql.Json
