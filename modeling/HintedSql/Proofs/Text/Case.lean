import HintedSql.Text.Case
import Mathlib.Tactic.Lemma
set_option relaxedAutoImplicit false
set_option autoImplicit false

/-!
# Lower-case forms

`Lowers` says what is assumed of lower-casing: ASCII characters are lower-cased as usual, `İ`
becomes `i` with a combining dot, the Kelvin sign becomes `k`, and every other character becomes one
or more characters none of which is an ASCII letter or an underscore. All of the tables that
lower-casing needs are left open, and so is whether a character is lower-cased with regard to its
neighbours.

That is enough to tell when a text is lower-cased to a word of letters and underscores without a
`k`: it is that word in some ASCII case, so that all other characters are out of the question.

## Main definitions

* `HintedSql.Text.Lowers`, `HintedSql.Text.LowerForm` — lower-case forms of characters and texts.
* `HintedSql.Text.PlainWord` — words of letters and underscores without a `k`.

## Main results

* `HintedSql.Text.lowerForm_lowerForm` — `Text.lowerForm` is a lower-case form.
* `HintedSql.Text.LowerForm.eq_iff` — which texts are lower-cased to a plain word.
-/

namespace HintedSql.Text

/-- The lower-case forms that a character may have. -/
inductive Lowers : Char → List Char → Prop where
  | ascii {c : Char} (h : c.toNat < 128) : Lowers c [asciiLowerChar c]
  | dotted : Lowers '\u0130' ['i', '\u0307']
  | kelvin : Lowers '\u212a' ['k']
  | other {c : Char} {cs : List Char} (hc : 128 ≤ c.toNat) (hne : cs ≠ [])
      (h : ∀ d ∈ cs, d.isAlpha = false ∧ d ≠ '_') : Lowers c cs

/-- The lower-case forms that a text may have. -/
inductive LowerForm : List Char → List Char → Prop where
  | nil : LowerForm [] []
  | cons {c : Char} {cs piece ds : List Char} (h : Lowers c piece) (hs : LowerForm cs ds) :
    LowerForm (c :: cs) (piece ++ ds)

/-- A word of letters and underscores without a `k`. -/
def PlainWord (w : List Char) : Prop :=
  ∀ c ∈ w, (c.isAlpha = true ∨ c = '_') ∧ c ≠ 'k'

/-! ## ASCII characters -/

/-- Letters of the alphabet are ASCII. -/
lemma toNat_lt_of_isAlpha {c : Char} (h : c.isAlpha = true) : c.toNat < 128 := by
  obtain hupper | hlower : c.isUpper = true ∨ c.isLower = true := Bool.or_eq_true_iff.mp h
  · have hle : c.val ≤ 'Z'.val := (of_decide_eq_true hupper).2
    exact Nat.lt_of_le_of_lt (UInt32.le_iff_toNat_le.mp hle) (by decide)
  · have hle : c.val ≤ 'z'.val := of_decide_eq_true (Bool.and_eq_true_iff.mp hlower).2
    exact Nat.lt_of_le_of_lt (UInt32.le_iff_toNat_le.mp hle) (by decide)

/-- Characters beyond ASCII have no other case in ASCII. -/
lemma asciiLowerChar_of_le {c : Char} (h : 128 ≤ c.toNat) : asciiLowerChar c = c := by
  refine if_neg fun hrange => ?_
  have hle : c.toNat ≤ 90 := hrange.2
  omega

/-- Only ASCII characters are lower-cased to ASCII characters. -/
lemma toNat_lt_of_asciiLowerChar {c : Char} (h : (asciiLowerChar c).toNat < 128) :
    c.toNat < 128 := by
  rcases Nat.lt_or_ge c.toNat 128 with hc | hc
  · exact hc
  · rwa [asciiLowerChar_of_le hc] at h

/-- A plain word is ASCII. -/
lemma PlainWord.toNat_lt {w : List Char} (h : PlainWord w) : ∀ c ∈ w, c.toNat < 128 := by
  intro c hc
  rcases (h c hc).1 with halpha | rfl
  · exact toNat_lt_of_isAlpha halpha
  · decide

/-! ## Lower-case forms -/

/-- The lower-case form of a character is one that is admitted. -/
lemma lowers_lowerFormChar (c : Char) : Lowers c (lowerFormChar c) := by
  unfold lowerFormChar
  split
  · rename_i h
    exact h ▸ .dotted
  split
  · rename_i h
    exact h ▸ .kelvin
  rcases Nat.lt_or_ge c.toNat 128 with hc | hc
  · exact .ascii hc
  · rw [asciiLowerChar_of_le hc]
    refine .other hc (List.cons_ne_nil _ _) fun d hd => ?_
    obtain rfl := List.mem_singleton.mp hd
    constructor
    · rw [Bool.eq_false_iff]
      intro halpha
      have := toNat_lt_of_isAlpha halpha
      omega
    · rintro rfl
      exact absurd hc (by decide)

/-- The lower-case form that is computed is one. -/
theorem lowerForm_lowerForm (s : String) : LowerForm s.toList (lowerForm s).toList := by
  rw [lowerForm, String.toList_ofList]
  induction s.toList with
  | nil => exact .nil
  | cons c cs ih => exact .cons (lowers_lowerFormChar c) ih

/-- An ASCII text has one lower-case form. -/
lemma LowerForm.eq_map {cs ds : List Char} (h : LowerForm cs ds)
    (hascii : ∀ c ∈ cs, c.toNat < 128) : ds = cs.map asciiLowerChar := by
  induction h with
  | nil => rfl
  | @cons c cs piece ds hc _ ih =>
    obtain ⟨hlt, hrest⟩ := List.forall_mem_cons.mp hascii
    cases hc with
    | ascii _ => rw [ih hrest, List.map_cons, List.singleton_append]
    | dotted => exact absurd hlt (by decide)
    | kelvin => exact absurd hlt (by decide)
    | other hle _ _ => omega

/-- A text that is lower-cased to a plain word is that word in some ASCII case.

**Proof sketch.** By induction on the text. The forms of characters that are not ASCII do not fit
into a plain word: the dot of `İ` is no letter, a plain word has no `k`, and all other forms hold a
character that is neither a letter nor an underscore. -/
lemma LowerForm.map_eq {cs ds : List Char} (h : LowerForm cs ds) (hplain : PlainWord ds) :
    cs.map asciiLowerChar = ds := by
  induction h with
  | nil => rfl
  | @cons c cs piece ds hc _ ih =>
    obtain ⟨hpiece, hrest⟩ := List.forall_mem_append.mp hplain
    cases hc with
    | ascii _ => rw [List.map_cons, ih hrest, List.singleton_append]
    | dotted => exact absurd (hpiece '\u0307' (by simp)).1 (by decide)
    | kelvin => exact absurd rfl (hpiece 'k' (by simp)).2
    | other _ hne hother =>
      obtain ⟨d, ds', rfl⟩ := List.exists_cons_of_ne_nil hne
      obtain ⟨halpha, hunderscore⟩ := hother d (by simp)
      simpa [halpha, hunderscore] using (hpiece d (by simp)).1

/-- **Which texts are lower-cased to a plain word**: those that ASCII lower-casing maps to it. -/
theorem LowerForm.eq_iff {s t w : String} (h : LowerForm s.toList t.toList)
    (hplain : PlainWord w.toList) : t = w ↔ asciiLower s = w := by
  unfold asciiLower
  rw [← String.toList_inj, ← String.toList_inj, String.toList_ofList]
  constructor
  · intro ht
    rw [← ht]
    exact h.map_eq (ht ▸ hplain)
  · intro hs
    have hascii : ∀ c ∈ s.toList, c.toNat < 128 := by
      intro c hc
      have hmem : asciiLowerChar c ∈ w.toList := hs ▸ List.mem_map_of_mem hc
      exact toNat_lt_of_asciiLowerChar (hplain.toNat_lt _ hmem)
    rw [h.eq_map hascii, hs]

end HintedSql.Text
