import HintedSql.Text.Space
import Mathlib.Data.List.DropRight
set_option relaxedAutoImplicit false
set_option autoImplicit false

/-!
# Trimmed texts, pieces, words and lines

What is left of a text after trimming has no white space at either end, and trimming changes nothing
else. Splitting at a character is compatible with putting that character between two texts, and the
pieces hold what the text holds apart from it. Lines are the pieces between line feeds up to
differences that trimming removes: a carriage return at the end, and one empty piece behind a final
line feed.

## Main definitions

* `HintedSql.Text.IsTrimmed` — no white space at either end.
* `HintedSql.Text.IsPhrase` — not empty, trimmed and on one line.

## Main results

* `HintedSql.Text.trim_eq_self`, `HintedSql.Text.isTrimmed_trim`,
  `HintedSql.Text.trim_append_of_isSpace`, `HintedSql.Text.trim_append`.
* `HintedSql.Text.IsTrimmed.trim_ne_nil` — a trimmed text goes on behind its spaces.
* `HintedSql.Text.IsPhrase.append_append` — phrases side by side.
* `HintedSql.Text.splitWhere_eq_splitOnP` — splitting is that of the library.
* `HintedSql.Text.words_append_cons`, `HintedSql.Text.words_eq_singleton`.
* `HintedSql.Text.filterMap_lines` — lines and pieces are the same to a reader of trimmed lines.
-/

namespace HintedSql.Text

/-! ## Trimming -/

/-- No white space at either end. -/
def IsTrimmed (cs : List Char) : Prop :=
  (∀ c ∈ cs.head?, isSpace c = false) ∧ ∀ c ∈ cs.getLast?, isSpace c = false

/-- A text that is not empty, has no white space at either end and is on one line. -/
structure IsPhrase (cs : List Char) : Prop where
  ne_nil : cs ≠ []
  isTrimmed : IsTrimmed cs
  newline_notMem : '\n' ∉ cs

/-- Trimming on the right is dropping white space from the end. -/
lemma trimRight_eq_rdropWhile (cs : List Char) : trimRight cs = cs.rdropWhile isSpace := rfl

/-- The first character that is not dropped is no white space. -/
lemma isSpace_head_trimLeft {cs : List Char} {c : Char} (h : c ∈ (trimLeft cs).head?) :
    isSpace c = false := by
  have hnot := List.head?_dropWhile_not isSpace cs
  unfold trimLeft at h
  simpa [Option.mem_def.mp h] using hnot

/-- Dropping at the end keeps the first character of what is left. -/
lemma head?_trimRight {cs : List Char} {c : Char} (h : c ∈ (trimRight cs).head?) :
    c ∈ cs.head? := by
  obtain ⟨dropped, hcs⟩ := List.rdropWhile_prefix isSpace cs
  rw [← trimRight_eq_rdropWhile] at hcs
  rw [← hcs, List.head?_append, Option.mem_def.mp h]
  rfl

/-- Trimming leaves no white space at either end. -/
theorem isTrimmed_trim (cs : List Char) : IsTrimmed (trim cs) := by
  constructor
  · intro c hc
    exact isSpace_head_trimLeft (head?_trimRight hc)
  · intro c hc
    have hne : trim cs ≠ [] := by
      intro hnil
      simp [hnil] at hc
    obtain rfl : (trim cs).getLast hne = c := by
      simpa [List.getLast?_eq_some_getLast hne] using hc
    exact Bool.eq_false_iff.mpr (List.rdropWhile_last_not isSpace (trimLeft cs) hne)

/-- A trimmed text is left alone. -/
theorem trim_eq_self {cs : List Char} (h : IsTrimmed cs) : trim cs = cs := by
  have hleft : trimLeft cs = cs := by
    cases cs with
    | nil => rfl
    | cons c cs => exact List.dropWhile_cons_of_neg (by simp [h.1 c rfl])
  rw [trim, hleft, trimRight_eq_rdropWhile, List.rdropWhile_eq_self_iff]
  intro hne
  simp [h.2 _ (List.getLast?_eq_some_getLast hne)]

/-- What trimming leaves was there before. -/
lemma mem_of_mem_trim {cs : List Char} {c : Char} (h : c ∈ trim cs) : c ∈ cs :=
  (List.dropWhile_suffix isSpace).subset ((List.rdropWhile_prefix isSpace _).subset h)

/-- Only white space is trimmed to nothing. -/
lemma trim_eq_nil_iff {cs : List Char} : trim cs = [] ↔ ∀ c ∈ cs, isSpace c = true := by
  rw [trim, trimRight_eq_rdropWhile, List.rdropWhile_eq_nil_iff]
  constructor
  · intro h
    have hnil : trimLeft cs = [] := by
      cases hcs : trimLeft cs with
      | nil => rfl
      | cons c rest =>
        have hnot : isSpace c = false := isSpace_head_trimLeft (by rw [hcs]; rfl)
        have hc := h c (by simp [hcs])
        simp [hnot] at hc
    exact List.dropWhile_eq_nil_iff.mp hnil
  · intro h c hc
    exact h c ((List.dropWhile_suffix isSpace).subset hc)

/-- White space behind a text is trimmed away. -/
theorem trim_append_of_isSpace {ys : List Char} (h : ∀ c ∈ ys, isSpace c = true)
    (cs : List Char) : trim (cs ++ ys) = trim cs := by
  by_cases hnil : trimLeft cs = []
  · have hcs := List.dropWhile_eq_nil_iff.mp hnil
    have hall : ∀ c ∈ cs ++ ys, isSpace c = true := List.forall_mem_append.mpr ⟨hcs, h⟩
    rw [trim_eq_nil_iff.mpr hall, trim_eq_nil_iff.mpr hcs]
  · have hleft : trimLeft (cs ++ ys) = trimLeft cs ++ ys := by
      unfold trimLeft at hnil ⊢
      rw [List.dropWhile_append, if_neg (by simpa using hnil)]
    unfold trim trimRight
    rw [hleft, List.reverse_append, List.dropWhile_append_of_pos (by simpa using h)]

/-- White space in front of a text is trimmed away. -/
lemma trim_append_of_isSpace_left {xs : List Char} (h : ∀ c ∈ xs, isSpace c = true)
    (cs : List Char) : trim (xs ++ cs) = trim cs := by
  unfold trim trimLeft
  rw [List.dropWhile_append_of_pos h]

/-- Trimming makes no text longer. -/
lemma length_trim_le (cs : List Char) : (trim cs).length ≤ cs.length :=
  (List.rdropWhile_prefix isSpace _).length_le.trans (List.dropWhile_suffix isSpace).length_le

/-- White space that is trimmed anyway may be dropped at the end first. -/
lemma trim_trimRight (cs : List Char) : trim (trimRight cs) = trim cs := by
  have hcs : trimRight cs ++ (cs.reverse.takeWhile isSpace).reverse = cs := by
    unfold trimRight
    rw [← List.reverse_append, List.takeWhile_append_dropWhile, List.reverse_reverse]
  have hspace : ∀ c ∈ (cs.reverse.takeWhile isSpace).reverse, isSpace c = true := by
    intro c hc
    exact List.mem_takeWhile_imp (List.mem_reverse.mp hc)
  conv_rhs => rw [← hcs, trim_append_of_isSpace hspace]

/-- A text that begins with no white space and goes on with a text that is not blank is trimmed at
the end of that one. -/
theorem trim_append {xs ys : List Char} (hne : xs ≠ []) (hhead : ∀ c ∈ xs.head?, isSpace c = false)
    (hys : trim ys ≠ []) : trim (xs ++ ys) = xs ++ trimRight ys := by
  obtain ⟨c, xs, rfl⟩ := List.exists_cons_of_ne_nil hne
  have hleft : trimLeft (c :: xs ++ ys) = c :: xs ++ ys :=
    List.dropWhile_cons_of_neg (by simp [hhead c rfl])
  have hright : trimRight ys ≠ [] := by
    intro hnil
    rw [← trim_trimRight, hnil] at hys
    exact hys rfl
  unfold trim
  rw [hleft]
  unfold trimRight at hright ⊢
  rw [List.reverse_append, List.dropWhile_append, if_neg (by simpa using hright),
    List.reverse_append, List.reverse_reverse]

/-- Behind a space in a trimmed text something follows that is no white space. -/
theorem IsTrimmed.trim_ne_nil {xs ys : List Char} (h : IsTrimmed (xs ++ ys)) {c : Char}
    (hc : c ∈ xs.getLast?) (hspace : isSpace c = true) : trim ys ≠ [] := by
  intro hnil
  rw [trim_eq_nil_iff] at hnil
  -- Otherwise the text would end in white space, the one behind it or the one at its end.
  rcases List.eq_nil_or_concat ys with rfl | ⟨init, last, rfl⟩
  · have hlast := h.2 c (by simpa using hc)
    simp [hspace] at hlast
  · have hlast := h.2 last (by simp [← List.append_assoc])
    simp [hnil last (by simp)] at hlast

/-! ## Phrases -/

/-- A word is a phrase. -/
lemma IsPhrase.of_word {cs : List Char} (hne : cs ≠ []) (h : ∀ c ∈ cs, isSpace c = false) :
    IsPhrase cs := by
  refine ⟨hne, ⟨?_, ?_⟩, ?_⟩
  · intro c hc
    exact h c (List.mem_of_mem_head? hc)
  · intro c hc
    exact h c (List.mem_of_getLast? hc)
  · intro hbreak
    have hspace := h '\n' hbreak
    simp [isSpace] at hspace

/-- Two phrases are one phrase with anything on one line between them. -/
theorem IsPhrase.append_append {xs middle ys : List Char} (hx : IsPhrase xs)
    (hmiddle : '\n' ∉ middle) (hy : IsPhrase ys) : IsPhrase (xs ++ middle ++ ys) := by
  refine ⟨?_, ⟨?_, ?_⟩, ?_⟩
  · simp [hx.ne_nil]
  · intro c hc
    apply hx.isTrimmed.1
    simpa [List.head?_append, List.head?_eq_some_head hx.ne_nil] using hc
  · intro c hc
    apply hy.isTrimmed.2
    simpa [List.getLast?_append, List.getLast?_eq_some_getLast hy.ne_nil] using hc
  · simp [hx.newline_notMem, hmiddle, hy.newline_notMem]

/-! ## Pieces -/

/-- Splitting is splitting of the library. -/
theorem splitWhere_eq_splitOnP (p : Char → Bool) (cs : List Char) :
    splitWhere p cs = cs.splitOnP p := by
  induction cs with
  | nil => rfl
  | cons c cs ih =>
    rw [splitWhere, ih, List.splitOnP_cons_eq_if_modifyHead]
    split
    · rfl
    · -- There is a first piece for the character to go to.
      obtain ⟨piece, pieces, hpieces⟩ := List.exists_cons_of_ne_nil (List.splitOnP_ne_nil p cs)
      simp [hpieces]

/-- Splitting at a character is that of the standard library. -/
lemma splitOn_eq_splitOn (separator : Char) (cs : List Char) :
    splitOn separator cs = cs.splitOn separator := by
  rw [splitOn, splitWhere_eq_splitOnP, List.splitOn_eq_splitOnP]

/-- The pieces of a text hold no separator, and nothing that the text does not hold. -/
lemma of_mem_splitWhere {p : Char → Bool} {cs piece : List Char} (h : piece ∈ splitWhere p cs) :
    ∀ c ∈ piece, p c = false ∧ c ∈ cs := by
  induction cs generalizing piece with
  | nil =>
    obtain rfl : piece = [] := by simpa [splitWhere] using h
    simp
  | cons d cs ih =>
    have hrest : ∀ x ∈ splitWhere p cs, ∀ c ∈ x, p c = false ∧ c ∈ d :: cs := by
      intro x hx c hc
      exact ⟨(ih hx c hc).1, List.mem_cons_of_mem d (ih hx c hc).2⟩
    rw [splitWhere] at h
    split at h
    · rcases List.mem_cons.mp h with rfl | h
      · simp
      · exact hrest piece h
    · rename_i hd
      have hhead : p d = false ∧ d ∈ d :: cs := ⟨by simpa using hd, List.mem_cons_self⟩
      split at h
      · obtain rfl : piece = [d] := by simpa using h
        simpa using hhead
      · rename_i first pieces hpieces
        rw [hpieces] at hrest
        rcases List.mem_cons.mp h with rfl | h
        · rw [List.forall_mem_cons]
          exact ⟨hhead, hrest first List.mem_cons_self⟩
        · exact hrest piece (List.mem_cons_of_mem first h)

/-! ## Words -/

/-- White space between two texts separates their words. -/
theorem words_append_cons (xs ys : List Char) {c : Char} (hc : isSpace c = true) :
    words (xs ++ c :: ys) = words xs ++ words ys := by
  simp only [words, splitWhere_eq_splitOnP]
  rw [List.splitOnP_append_cons xs ys hc, List.filter_append]

/-- A text without white space is one word. -/
theorem words_eq_singleton {cs : List Char} (hne : cs ≠ []) (h : ∀ c ∈ cs, isSpace c = false) :
    words cs = [cs] := by
  rw [words, splitWhere_eq_splitOnP, List.splitOnP_eq_singleton h]
  simp [hne]

/-- There is no white space in a word. -/
lemma isSpace_of_mem_words {cs word : List Char} (h : word ∈ words cs) :
    ∀ c ∈ word, isSpace c = false := by
  intro c hc
  exact (of_mem_splitWhere (List.mem_of_mem_filter h) c hc).1

/-! ## Lines -/

/-- At most a carriage return is dropped at the end of a line. -/
lemma dropReturn_cases (cs : List Char) : dropReturn cs = cs ∨ cs = dropReturn cs ++ ['\r'] := by
  unfold dropReturn
  split
  · rename_i rest hrest
    right
    rw [← List.reverse_cons, ← hrest, List.reverse_reverse]
  · exact Or.inl rfl

/-- A carriage return at the end is white space, and trimmed anyway. -/
lemma trim_dropReturn (cs : List Char) : trim (dropReturn cs) = trim cs := by
  rcases dropReturn_cases cs with h | h
  · rw [h]
  · have hspace : ∀ c ∈ ['\r'], isSpace c = true := by simp [isSpace]
    rw [← trim_append_of_isSpace hspace (dropReturn cs), ← h]

/-- A reader that trims its lines and finds nothing in an empty one may as well read the pieces
between line feeds.

**Proof sketch.** The pieces before the last one are the lines up to a carriage return, which is
trimmed away. The last piece is a line unless it is empty, and then nothing is found in it. -/
theorem filterMap_lines {α : Type} {f : List Char → Option α} (hnil : f [] = none)
    (cs : List Char) :
    (lines cs).filterMap (fun line => f (trim line)) =
      (splitOn '\n' cs).filterMap fun piece => f (trim piece) := by
  have hne : splitOn '\n' cs ≠ [] := by
    rw [splitOn_eq_splitOn]
    exact List.splitOn_ne_nil '\n' cs
  have hinit : ((splitOn '\n' cs).dropLast.map dropReturn).filterMap (fun line => f (trim line)) =
      (splitOn '\n' cs).dropLast.filterMap fun piece => f (trim piece) := by
    simp only [List.filterMap_map, Function.comp_def, trim_dropReturn]
  have hlast : ∀ piece : List Char,
      ([piece].filter (!·.isEmpty)).filterMap (fun line => f (trim line)) =
        [piece].filterMap fun line => f (trim line) := by
    intro piece
    cases piece with
    | nil =>
      have htrim : trim [] = [] := rfl
      simp [htrim, hnil]
    | cons c cs => rfl
  calc (lines cs).filterMap (fun line => f (trim line))
      = (splitOn '\n' cs).dropLast.filterMap (fun piece => f (trim piece)) ++
          [(splitOn '\n' cs).getLast hne].filterMap fun piece => f (trim piece) := by
        simp only [lines, List.filterMap_append, List.getLast?_eq_some_getLast hne,
          Option.toList_some, hinit, hlast]
    _ = (splitOn '\n' cs).filterMap fun piece => f (trim piece) := by
        rw [← List.filterMap_append, List.dropLast_concat_getLast]

end HintedSql.Text
