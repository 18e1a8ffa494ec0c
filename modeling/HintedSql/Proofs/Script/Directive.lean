import HintedSql.Proofs.Text.Space
import HintedSql.Script.Directive
import Mathlib.Data.List.Nodup
import Mathlib.Tactic.Lemma
set_option relaxedAutoImplicit false
set_option autoImplicit false

/-!
# What a line can spell

A line is a directive if it begins with a keyword. The keywords differ in their first letters, so a
line begins with one of them at most, and they can be tried in any order.

A trimmed line does not end in white space, whereas every keyword does: so something follows the
keyword, and the directive is proper, that is, its texts are not empty, are trimmed and stay on one
line. Every proper directive is spelled by some line.

## Main definitions

* `HintedSql.Directive.IsLane` — texts that can stand behind `lane=`.
* `HintedSql.Directive.Proper` — the directives that lines spell.
* `HintedSql.Directive.spelling` — a line for a proper directive.

## Main results

* `HintedSql.Directive.ofLine?_eq_some_iff` — a line is a directive by any keyword it begins with.
* `HintedSql.Directive.proper_of_ofLine?` — trimmed lines spell proper directives.
* `HintedSql.Directive.ofLine?_spelling`, `HintedSql.Directive.isPhrase_spelling` — proper
  directives are spelled.
-/

namespace HintedSql.Directive

open Text (IsPhrase IsTrimmed isSpace trim)

/-! ## Keywords -/

/-- What follows a keyword follows a word that differs from it at most in the case of ASCII
letters. -/
lemma afterKeyword?_eq_some_iff {keyword line rest : List Char} :
    afterKeyword? keyword line = some rest ↔
      ∃ word, line = word ++ rest ∧
        word.map Text.asciiLowerChar = keyword.map Text.asciiLowerChar := by
  induction keyword generalizing line with
  | nil => simp [afterKeyword?, eq_comm]
  | cons k ks ih =>
    cases line with
    | nil =>
      rw [afterKeyword?]
      constructor
      · intro h
        cases h
      · rintro ⟨word, hline, hword⟩
        obtain ⟨rfl, -⟩ := List.append_eq_nil_iff.mp hline.symm
        cases hword
    | cons c cs =>
      rw [afterKeyword?]
      constructor
      · intro h
        split at h
        · rename_i hc
          obtain ⟨word, rfl, hword⟩ := ih.mp h
          exact ⟨c :: word, rfl, by simp [hc, hword]⟩
        · cases h
      · rintro ⟨word, hline, hword⟩
        cases word with
        | nil => cases hword
        | cons d word =>
          obtain ⟨rfl, rfl⟩ := List.cons.inj hline
          obtain ⟨hc, hword⟩ := List.cons.inj hword
          rw [if_pos hc.symm]
          exact ih.mpr ⟨word, rfl, hword⟩

/-- The first letter of a keyword, in lower case. -/
def initial (keyword : String) : Option Char :=
  keyword.toList.head?.map Text.asciiLowerChar

/-- No kind is left out. -/
lemma Kind.mem_all (k : Kind) : k ∈ all := by
  cases k <;> decide

/-- The keyword of a kind is the only one with its first letter. -/
lemma Kind.eq_of_initial_eq {k k' : Kind} (h : initial k.keyword = initial k'.keyword) :
    k = k' := by
  have hnodup : (all.map fun k => initial k.keyword).Nodup := by decide
  exact List.inj_on_of_nodup_map hnodup k.mem_all k'.mem_all h

/-- Every keyword is a phrase followed by one space. -/
lemma Kind.exists_isPhrase (k : Kind) :
    ∃ word, IsPhrase word ∧ k.keyword.toList = word ++ [' '] := by
  refine ⟨k.keyword.toList.dropLast, ⟨?_, ⟨?_, ?_⟩, ?_⟩, ?_⟩ <;>
    cases k <;> simp [keyword, isSpace]

/-- A directive is of the kind that made it. -/
@[simp] lemma Kind.kind_make (k : Kind) (cs : List Char) : (k.make cs).kind = k := by
  cases k with
  | source | filter | select | timeWindow => rfl
  | route =>
    rw [make, routeOf]
    split <;> rfl

/-- A line that begins with a keyword has its first letter. -/
lemma Kind.initial_of_afterKeyword? {k : Kind} {line rest : List Char}
    (h : afterKeyword? k.keyword.toList line = some rest) :
    initial k.keyword = line.head?.map Text.asciiLowerChar := by
  obtain ⟨phrase, hphrase, hkeyword⟩ := k.exists_isPhrase
  obtain ⟨word, rfl, hword⟩ := afterKeyword?_eq_some_iff.mp h
  cases word with
  | nil => simp [hkeyword] at hword
  | cons c word =>
    have hhead := congrArg List.head? hword
    rw [List.head?_map, List.head?_map] at hhead
    exact hhead.symm

/-- A line is the directive of any keyword that it begins with.

**Proof sketch.** The keywords are tried in order, but a line begins with one of them at most: two
of them would share their first letter. -/
theorem ofLine?_eq_some_iff {line : List Char} {d : Directive} :
    ofLine? line = some d ↔
      ∃ (k : Kind) (rest : List Char),
        afterKeyword? k.keyword.toList line = some rest ∧ k.make (trim rest) = d := by
  have hfound : ∀ {d}, ofLine? line = some d →
      ∃ (k : Kind) (rest : List Char),
        afterKeyword? k.keyword.toList line = some rest ∧ k.make (trim rest) = d := by
    intro d h
    obtain ⟨k, -, hd⟩ := List.exists_of_findSome?_eq_some h
    obtain ⟨rest, hrest, hmake⟩ := Option.map_eq_some_iff.mp hd
    exact ⟨k, rest, hrest, hmake⟩
  constructor
  · exact hfound
  · rintro ⟨k, rest, hrest, rfl⟩
    have hsome : (ofLine? line).isSome := by
      rw [ofLine?, List.findSome?_isSome_iff]
      exact ⟨k, k.mem_all, by simp [hrest]⟩
    obtain ⟨d, hd⟩ := Option.isSome_iff_exists.mp hsome
    obtain ⟨k', rest', hrest', rfl⟩ := hfound hd
    have hinitial : initial k'.keyword = initial k.keyword := by
      rw [Kind.initial_of_afterKeyword? hrest', Kind.initial_of_afterKeyword? hrest]
    obtain rfl := Kind.eq_of_initial_eq hinitial
    obtain rfl := Option.some.inj (hrest'.symm.trans hrest)
    exact hd

/-- An empty line is no directive. -/
lemma ofLine?_nil : ofLine? [] = none := rfl

/-! ## Trimmed lines spell proper directives -/

/-- A text without white space and equals signs. -/
def IsLane (lane : String) : Prop :=
  ∀ c ∈ lane.toList, isSpace c = false ∧ c ≠ '='

/-- The texts of a directive are phrases, its columns hold no comma, and its lane, which may be
empty, no white space and no equals sign. -/
def Proper : Directive → Prop
  | source table => IsPhrase table.toList
  | filter text => IsPhrase text.toList
  | select columns => ∀ column ∈ columns, IsPhrase column.toList ∧ ',' ∉ column.toList
  | timeWindow value => IsPhrase value.toList
  | route _ lane => ∀ l ∈ lane, IsLane l

/-- Only a space has the lower-case form of a space. -/
lemma eq_space_of_asciiLowerChar {c : Char} (h : Text.asciiLowerChar c = ' ') : c = ' ' := by
  unfold Text.asciiLowerChar at h
  split at h
  · rename_i hc
    -- The lower-case form of a letter is a letter.
    obtain ⟨hlow, hhigh⟩ := hc
    have hlow' : 65 ≤ c.toNat := hlow
    have hhigh' : c.toNat ≤ 90 := hhigh
    have hvalid : (c.toNat + 32).isValidChar := Or.inl (by omega)
    rw [Char.ofNat, dif_pos hvalid] at h
    have hnat : c.toNat + 32 = 32 := congrArg Char.toNat h
    omega
  · exact h

/-- Something that is no white space follows the keyword of a trimmed line. -/
lemma isPhrase_trim_of_afterKeyword? {k : Kind} {line rest : List Char} (hline : IsTrimmed line)
    (hbreak : '\n' ∉ line) (h : afterKeyword? k.keyword.toList line = some rest) :
    IsPhrase (trim rest) := by
  obtain ⟨phrase, -, hkeyword⟩ := k.exists_isPhrase
  obtain ⟨word, rfl, hword⟩ := afterKeyword?_eq_some_iff.mp h
  have hlast : word.getLast? = some ' ' := by
    have hmap := congrArg List.getLast? hword
    rw [List.getLast?_map, List.getLast?_map, hkeyword, List.getLast?_concat] at hmap
    obtain ⟨c, hc, hlower⟩ := Option.map_eq_some_iff.mp hmap
    rw [hc, eq_space_of_asciiLowerChar hlower]
  refine ⟨hline.trim_ne_nil hlast (by decide), Text.isTrimmed_trim rest, ?_⟩
  intro hmem
  exact hbreak (List.mem_append_right word (Text.mem_of_mem_trim hmem))

/-- The columns between commas are phrases without commas. -/
lemma proper_select {cs : List Char} (hbreak : '\n' ∉ cs) : (select (columns cs)).Proper := by
  intro column hcolumn
  obtain ⟨trimmed, htrimmed, rfl⟩ := List.mem_map.mp hcolumn
  obtain ⟨hmem, hne⟩ := List.mem_filter.mp htrimmed
  obtain ⟨piece, hpiece, rfl⟩ := List.mem_map.mp hmem
  have hchars := Text.of_mem_splitWhere hpiece
  rw [String.toList_ofList]
  refine ⟨⟨by simpa using hne, Text.isTrimmed_trim piece, ?_⟩, ?_⟩
  · intro h
    exact hbreak (hchars '\n' (Text.mem_of_mem_trim h)).2
  · intro h
    have hcomma := (hchars ',' (Text.mem_of_mem_trim h)).1
    simp at hcomma

/-- A word without white space gives a lane without white space and equals signs. -/
lemma isLane_of_lane? {word : List Char} {lane : String} (hword : ∀ c ∈ word, isSpace c = false)
    (h : lane? word = some lane) : IsLane lane := by
  unfold lane? at h
  split at h
  · rename_i rest
    obtain rfl := Option.some.inj h
    intro c hc
    rw [String.toList_ofList] at hc
    refine ⟨hword c ?_, by simpa using List.mem_takeWhile_imp hc⟩
    have hrest : c ∈ rest := (List.takeWhile_prefix _).subset hc
    simp [hrest]
  · cases h

/-- Whatever stands on a `ROUTE` line. -/
lemma proper_routeOf (cs : List Char) : (routeOf cs).Proper := by
  unfold routeOf
  split
  · intro l hl
    cases hl
  · rename_i word more hwords
    intro l hl
    obtain ⟨w, hw, hlane⟩ := List.exists_of_findSome?_eq_some hl
    have hmem : w ∈ Text.words cs := by
      rw [hwords]
      exact List.mem_cons_of_mem word hw
    exact isLane_of_lane? (Text.isSpace_of_mem_words hmem) hlane

/-- A trimmed line spells a proper directive, if it spells one. -/
theorem proper_of_ofLine? {line : List Char} {d : Directive} (hline : IsTrimmed line)
    (hbreak : '\n' ∉ line) (h : ofLine? line = some d) : d.Proper := by
  obtain ⟨k, rest, hrest, rfl⟩ := ofLine?_eq_some_iff.mp h
  have hphrase := isPhrase_trim_of_afterKeyword? hline hbreak hrest
  cases k with
  | source | filter | timeWindow => simpa [Kind.make, Proper] using hphrase
  | select => exact proper_select hphrase.newline_notMem
  | route => exact proper_routeOf _

/-! ## Proper directives are spelled -/

/-- What stands behind the keyword of a directive. There is a comma on both sides of every column
and one comma at least, so that no columns at all can be spelled too. -/
def payload : Directive → String
  | source table => table
  | filter text => text
  | select columns => "," ++ String.join (columns.map (· ++ ","))
  | timeWindow value => value
  | route target none => target.name
  | route target (some lane) => target.name ++ " " ++ ("lane=" ++ lane)

/-- A line for a directive. -/
def spelling (d : Directive) : String :=
  d.kind.keyword ++ d.payload

/-- A comma between two texts separates their columns. -/
lemma columns_append_cons (xs ys : List Char) :
    columns (xs ++ ',' :: ys) = columns xs ++ columns ys := by
  simp only [columns, Text.splitOn_eq_splitOn]
  rw [List.splitOn_append_cons_self, List.map_append, List.filter_append, List.map_append]

/-- A phrase without commas is one column. -/
lemma columns_eq_singleton {column : String} (h : IsPhrase column.toList)
    (hcomma : ',' ∉ column.toList) : columns column.toList = [column] := by
  rw [columns, Text.splitOn_eq_splitOn, List.splitOn_eq_singleton hcomma]
  simp [Text.trim_eq_self h.isTrimmed, h.ne_nil]

/-- The characters behind the keyword of a `SELECT` line. -/
lemma toList_payload_select (cols : List String) :
    (select cols).payload.toList = ',' :: cols.flatMap fun column => column.toList ++ [','] := by
  simp [payload, String.toList_join, List.flatMap_map]

/-- Columns are read back from between the commas. -/
lemma columns_payload {cols : List String} (h : (select cols).Proper) :
    columns (select cols).payload.toList = cols := by
  have hrest : columns (cols.flatMap fun column => column.toList ++ [',']) = cols := by
    induction cols with
    | nil => rfl
    | cons column cols ih =>
      obtain ⟨⟨hphrase, hcomma⟩, hcols⟩ := List.forall_mem_cons.mp h
      rw [List.flatMap_cons, List.append_assoc, List.singleton_append, columns_append_cons,
        columns_eq_singleton hphrase hcomma, ih hcols, List.singleton_append]
  rw [toList_payload_select, ← List.nil_append (',' :: _), columns_append_cons, hrest]
  rfl

/-- The name of a target is one word. -/
lemma name_word (t : Target) :
    t.name.toList ≠ [] ∧ ∀ c ∈ t.name.toList, isSpace c = false := by
  cases t <;> simp [Target.name, isSpace]

/-- The name of a target is understood in scripts. -/
lemma ofScriptWord_name (t : Target) : Target.ofScriptWord t.name = t := by
  cases t <;> decide

/-- A lane makes one word with the sign in front of it. -/
lemma lane_word {lane : String} (h : IsLane lane) :
    ("lane=" ++ lane).toList ≠ [] ∧ ∀ c ∈ ("lane=" ++ lane).toList, isSpace c = false := by
  refine ⟨by simp, ?_⟩
  rw [String.toList_append, List.forall_mem_append]
  exact ⟨by simp [isSpace], fun c hc => (h c hc).1⟩

/-- What stands behind the keyword of a proper directive is a phrase. -/
lemma isPhrase_payload {d : Directive} (h : d.Proper) : IsPhrase d.payload.toList := by
  cases d with
  | source table => exact h
  | filter text => exact h
  | timeWindow value => exact h
  | select cols =>
    rw [toList_payload_select]
    refine ⟨by simp, ⟨by simp [isSpace], ?_⟩, ?_⟩
    · -- The last character is the comma behind the last column, or the one in front of all.
      rcases List.eq_nil_or_concat cols with rfl | ⟨init, last, rfl⟩
      · simp [isSpace]
      · simp [List.getLast?_cons, isSpace]
    · simp only [List.mem_cons, List.mem_flatMap, List.mem_append, List.not_mem_nil, or_false,
        not_or]
      refine ⟨by decide, ?_⟩
      rintro ⟨column, hcolumn, hbreak | hbreak⟩
      · exact (h column hcolumn).1.newline_notMem hbreak
      · cases hbreak
  | route target lane =>
    obtain ⟨hname, hspace⟩ := name_word target
    have htarget := IsPhrase.of_word hname hspace
    cases lane with
    | none => exact htarget
    | some lane =>
      obtain ⟨hne, hspace'⟩ := lane_word (h lane rfl)
      have hlane := htarget.append_append (by decide : '\n' ∉ [' ']) (.of_word hne hspace')
      simpa [payload] using hlane

/-- The target and the lane are read back as two words. -/
lemma routeOf_payload {target : Target} {lane : Option String} (h : (route target lane).Proper) :
    routeOf (route target lane).payload.toList = route target lane := by
  obtain ⟨hname, hspace⟩ := name_word target
  have hwords := Text.words_eq_singleton hname hspace
  cases lane with
  | none => simp [routeOf, payload, hwords, ofScriptWord_name]
  | some lane =>
    obtain ⟨hne, hspace'⟩ := lane_word (h lane rfl)
    have hpayload : (route target (some lane)).payload.toList =
        target.name.toList ++ ' ' :: ("lane=" ++ lane).toList := by
      simp [payload]
    have hlane : lane? ("lane=" ++ lane).toList = some lane := by
      have htake : lane.toList.takeWhile (· ≠ '=') = lane.toList := by
        rw [List.takeWhile_eq_self_iff]
        intro c hc
        simpa using (h lane rfl c hc).2
      have hword : ("lane=" ++ lane).toList = 'l' :: 'a' :: 'n' :: 'e' :: '=' :: lane.toList := by
        simp
      rw [hword, lane?, htake, String.ofList_toList]
    rw [routeOf, hpayload, Text.words_append_cons _ _ (by decide), hwords,
      Text.words_eq_singleton hne hspace']
    simp only [List.singleton_append, List.findSome?_cons, hlane, String.ofList_toList,
      ofScriptWord_name]

/-- A proper directive is made from what stands behind its keyword. -/
lemma make_payload {d : Directive} (h : d.Proper) : d.kind.make d.payload.toList = d := by
  cases d with
  | source | filter | timeWindow => simp [kind, Kind.make, payload]
  | select cols => exact congrArg select (columns_payload h)
  | route target lane => exact routeOf_payload h

/-- The line of a proper directive is a phrase. -/
theorem isPhrase_spelling {d : Directive} (h : d.Proper) : IsPhrase d.spelling.toList := by
  obtain ⟨word, hword, hkeyword⟩ := d.kind.exists_isPhrase
  rw [spelling, String.toList_append, hkeyword]
  exact hword.append_append (by decide) (isPhrase_payload h)

/-- A proper directive is spelled by its line. -/
theorem ofLine?_spelling {d : Directive} (h : d.Proper) : ofLine? d.spelling.toList = some d := by
  have hafter : afterKeyword? d.kind.keyword.toList d.spelling.toList = some d.payload.toList :=
    afterKeyword?_eq_some_iff.mpr ⟨d.kind.keyword.toList, by simp [spelling], rfl⟩
  have htrim : trim d.payload.toList = d.payload.toList :=
    Text.trim_eq_self (isPhrase_payload h).isTrimmed
  exact ofLine?_eq_some_iff.mpr ⟨d.kind, _, hafter, by rw [htrim, make_payload h]⟩

end HintedSql.Directive
