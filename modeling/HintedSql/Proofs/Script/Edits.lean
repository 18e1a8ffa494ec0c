import HintedSql.Proofs.Script.Lines
import Mathlib.Logic.Relation
set_option relaxedAutoImplicit false
set_option autoImplicit false

/-!
# Edits that leave a script alone

A text is read line by line, lines are trimmed, and what follows a keyword is trimmed again. So the
layout of a text plays no part: lines that begin with no keyword, white space around a line and
behind its keyword, the case of keywords, carriage returns and a final line feed can all be changed
without a change to the script.

An edit is described by where it is made, with a text before and a text behind it. It is enough to
look at one edit: it changes one line to another with the same directive, or touches no directive
at all.

## Main definitions

* `HintedSql.Script.AtLineStart`, `HintedSql.Script.AtLineEnd` — where lines begin and end.
* `HintedSql.Script.IsGap` — white space within a line.
* `HintedSql.Script.LayoutEdit` — one edit.

## Main results

* `HintedSql.Directive.onLine?_of_word` — the directive of a line with a keyword.
* `HintedSql.Script.directives_line_between` — one line of a text.
* `HintedSql.Script.LayoutEdit.directives_eq` — one edit changes no directive.
* `HintedSql.Script.parse_eq_of_edits` — any number of edits, made or taken back.
-/

namespace HintedSql

/-! ## Lines with a keyword -/

namespace Directive

open Text (isSpace trim asciiLowerChar)

/-- Lower case makes no letter a space. -/
lemma isSpace_asciiLowerChar (c : Char) : isSpace (asciiLowerChar c) = isSpace c := by
  unfold asciiLowerChar
  split
  · rename_i hc
    obtain ⟨hlow, hhigh⟩ := hc
    have hlow' : 65 ≤ c.toNat := hlow
    have hhigh' : c.toNat ≤ 90 := hhigh
    have hvalid : (c.toNat + 32).isValidChar := Or.inl (by omega)
    have hnat : (Char.ofNat (c.toNat + 32)).toNat = c.toNat + 32 := by
      rw [Char.ofNat, dif_pos hvalid]
      rfl
    simp only [isSpace, hnat]
    grind
  · rfl

/-- A word that is a keyword up to case begins with no space and ends in one. -/
lemma Kind.exists_concat {k : Kind} {word : List Char}
    (hword : word.map asciiLowerChar = k.keyword.toList.map asciiLowerChar) :
    (∃ init, word = init ++ [' ']) ∧ ∀ c ∈ word.head?, isSpace c = false := by
  obtain ⟨phrase, hphrase, hkeyword⟩ := k.exists_isPhrase
  rw [hkeyword, List.map_append] at hword
  obtain ⟨init, last, rfl, hinit, hlast⟩ := List.map_eq_append_iff.mp hword
  obtain ⟨c, rfl⟩ : ∃ c, last = [c] := List.length_eq_one_iff.mp (by
    simpa using congrArg List.length hlast)
  obtain rfl := eq_space_of_asciiLowerChar (List.cons.inj hlast).1
  refine ⟨⟨init, rfl⟩, ?_⟩
  intro d hd
  cases init with
  | nil => exact absurd (List.map_eq_nil_iff.mp hinit.symm) hphrase.ne_nil
  | cons e init =>
    obtain rfl : e = d := by simpa using hd
    -- The first letter of the keyword is no space, and case does not matter for that.
    have hhead := congrArg List.head? hinit
    rw [List.map_cons, List.head?_cons, List.head?_map] at hhead
    obtain ⟨k, hk, hke⟩ := Option.map_eq_some_iff.mp hhead.symm
    rw [← isSpace_asciiLowerChar, ← hke, isSpace_asciiLowerChar]
    exact hphrase.isTrimmed.1 k hk

/-- On a line that begins with its keyword something follows the keyword. -/
lemma trim_ne_nil_of_beginsWith {k : Kind} {indent word rest : List Char}
    (hindent : ∀ c ∈ indent, isSpace c = true)
    (hword : word.map asciiLowerChar = k.keyword.toList.map asciiLowerChar)
    (h : BeginsWith k.keyword (indent ++ word ++ rest)) : trim rest ≠ [] := by
  intro hnil
  obtain ⟨⟨init, rfl⟩, -⟩ := Kind.exists_concat hword
  have hspace : ∀ c ∈ [' '], isSpace c = true := by simp [isSpace]
  -- Otherwise trimming would take the space of the keyword away.
  have htrim : trim (indent ++ (init ++ [' ']) ++ rest) = trim init := by
    rw [List.append_assoc, Text.trim_append_of_isSpace_left hindent,
      Text.trim_append_of_isSpace (Text.trim_eq_nil_iff.mp hnil),
      Text.trim_append_of_isSpace hspace]
  have hlength := h.length_le
  have hkeyword := congrArg List.length hword
  have hinit := Text.length_trim_le init
  simp only [htrim, List.length_map, List.length_append, List.length_singleton]
    at hlength hkeyword
  omega

/-- **The directive of a line with a keyword** depends on what follows the keyword, without white
space around it. -/
theorem onLine?_of_word {k : Kind} {indent word rest : List Char}
    (hindent : ∀ c ∈ indent, isSpace c = true)
    (hword : word.map asciiLowerChar = k.keyword.toList.map asciiLowerChar)
    (hrest : trim rest ≠ []) : onLine? (indent ++ word ++ rest) = some (k.make (trim rest)) := by
  obtain ⟨⟨init, hinit⟩, hhead⟩ := Kind.exists_concat hword
  have htrim : trim (indent ++ word ++ rest) = word ++ Text.trimRight rest := by
    rw [List.append_assoc, Text.trim_append_of_isSpace_left hindent,
      Text.trim_append (by simp [hinit]) hhead hrest]
  have hafter : afterKeyword? k.keyword.toList (word ++ Text.trimRight rest) =
      some (Text.trimRight rest) :=
    afterKeyword?_eq_some_iff.mpr ⟨word, rfl, hword⟩
  rw [onLine?, htrim, ofLine?_eq_some_iff]
  exact ⟨k, _, hafter, by rw [Text.trim_trimRight]⟩

end Directive

namespace Script

open Text (isSpace trim asciiLowerChar)

/-! ## Lines in a text -/

/-- A text behind which a line begins. -/
def AtLineStart (before : String) : Prop :=
  before = "" ∨ ∃ s, before = s ++ "\n"

/-- A text in front of which a line ends. -/
def AtLineEnd (after : String) : Prop :=
  after = "" ∨ ∃ s, after = "\n" ++ s

/-- An empty text has no directives. -/
lemma directives_empty : directives "" = [] := rfl

/-- A line is read by itself. -/
lemma directives_line {line : String} (h : '\n' ∉ line.toList) :
    directives line = (Directive.onLine? line.toList).toList := by
  rw [directives_eq_filterMap_splitOn, List.splitOn_eq_singleton h]
  cases hline : Directive.onLine? line.toList <;> simp [hline]

/-- A line break at the end of a text adds no directive. -/
lemma directives_append_newline (s : String) : directives (s ++ "\n") = directives s := by
  have h := directives_append s ""
  rwa [String.append_empty, directives_empty, List.append_nil] at h

/-- The directives of what follows a whole number of lines come after theirs. -/
lemma AtLineStart.directives_append {before : String} (h : AtLineStart before) (s : String) :
    directives (before ++ s) = directives before ++ directives s := by
  rcases h with rfl | ⟨b, rfl⟩
  · rw [String.empty_append, directives_empty, List.nil_append]
  · rw [Script.directives_append, directives_append_newline]

/-- The directives of what precedes a whole number of lines come before theirs. -/
lemma AtLineEnd.directives_append {after : String} (h : AtLineEnd after) (s : String) :
    directives (s ++ after) = directives s ++ directives after := by
  rcases h with rfl | ⟨a, rfl⟩
  · rw [String.append_empty, directives_empty, List.append_nil]
  · have hstart := Script.directives_append "" a
    rw [String.empty_append, directives_empty, List.nil_append] at hstart
    rw [← String.append_assoc, Script.directives_append, hstart]

/-- **One line of a text** adds its directive, if it has one, between the others. -/
theorem directives_line_between {before line after : String} (hstart : AtLineStart before)
    (hline : '\n' ∉ line.toList) (hend : AtLineEnd after) :
    directives (before ++ line ++ after) =
      directives before ++ (Directive.onLine? line.toList).toList ++ directives after := by
  rw [hend.directives_append, hstart.directives_append, directives_line hline]

/-! ## Edits -/

/-- White space within a line. -/
def IsGap (s : String) : Prop :=
  ∀ c ∈ s.toList, isSpace c = true ∧ c ≠ '\n'

/-- A gap consists of white space. -/
lemma IsGap.isSpace {s : String} (h : IsGap s) : ∀ c ∈ s.toList, isSpace c = true :=
  fun c hc => (h c hc).1

/-- A gap does not end a line. -/
lemma IsGap.newline_notMem {s : String} (h : IsGap s) : '\n' ∉ s.toList :=
  fun hc => (h '\n' hc).2 rfl

/-- A text with a carriage return in front of every line feed. -/
def withReturns (s : String) : String :=
  String.ofList (s.toList.flatMap fun c => if c = '\n' then ['\r', '\n'] else [c])

/-- A word that differs from the keyword of a kind of directives at most in case. -/
def IsKeyword (k : Directive.Kind) (word : String) : Prop :=
  word.toList.map asciiLowerChar = k.keyword.toList.map asciiLowerChar

/-- One edit of the layout of a text. -/
inductive LayoutEdit : String → String → Prop
  /-- Put in a line, blank or not, that begins with no keyword. -/
  | insertLine {before line after : String} (hstart : AtLineStart before)
      (hline : '\n' ∉ line.toList)
      (hkeyword : ∀ k : Directive.Kind, ¬ Directive.BeginsWith k.keyword line.toList) :
      LayoutEdit (before ++ after) (before ++ (line ++ "\n") ++ after)
  /-- Put white space in front of a line and behind it. -/
  | surround {before line after gap gap' : String} (hstart : AtLineStart before)
      (hline : '\n' ∉ line.toList) (hend : AtLineEnd after) (hgap : IsGap gap)
      (hgap' : IsGap gap') :
      LayoutEdit (before ++ line ++ after) (before ++ (gap ++ line ++ gap') ++ after)
  /-- Put a carriage return in front of every line feed. -/
  | addReturns (text : String) : LayoutEdit text (withReturns text)
  /-- Put a line feed at the end. -/
  | addNewline (text : String) : LayoutEdit text (text ++ "\n")
  /-- Write the keyword of a line in another case. -/
  | recase {before indent word word' rest after : String} {k : Directive.Kind}
      (hstart : AtLineStart before) (hindent : IsGap indent) (hword : IsKeyword k word)
      (hword' : IsKeyword k word') (hrest : '\n' ∉ rest.toList) (hend : AtLineEnd after)
      (hline : Directive.BeginsWith k.keyword (indent ++ word ++ rest).toList) :
      LayoutEdit (before ++ (indent ++ word ++ rest) ++ after)
        (before ++ (indent ++ word' ++ rest) ++ after)
  /-- Put white space behind the keyword of a line and its space. -/
  | widen {before indent word gap rest after : String} {k : Directive.Kind}
      (hstart : AtLineStart before) (hindent : IsGap indent) (hword : IsKeyword k word)
      (hgap : IsGap gap) (hrest : '\n' ∉ rest.toList) (hend : AtLineEnd after)
      (hline : Directive.BeginsWith k.keyword (indent ++ word ++ rest).toList) :
      LayoutEdit (before ++ (indent ++ word ++ rest) ++ after)
        (before ++ (indent ++ word ++ (gap ++ rest)) ++ after)

/-- There is no line feed in a keyword. -/
lemma IsKeyword.newline_notMem {k : Directive.Kind} {word : String} (h : IsKeyword k word) :
    '\n' ∉ word.toList := by
  intro hmem
  have hlower : asciiLowerChar '\n' ∈ word.toList.map asciiLowerChar := List.mem_map_of_mem hmem
  rw [h] at hlower
  revert hlower
  cases k <;> decide

/-- White space around a line does not change its directive. -/
lemma onLine?_surround {gap gap' : String} (hgap : IsGap gap) (hgap' : IsGap gap')
    (line : String) : Directive.onLine? (gap ++ line ++ gap').toList =
      Directive.onLine? line.toList := by
  unfold Directive.onLine?
  rw [String.toList_append, String.toList_append, Text.trim_append_of_isSpace hgap'.isSpace,
    Text.trim_append_of_isSpace_left hgap.isSpace]

/-- A line that begins with no keyword is no directive. -/
lemma onLine?_eq_none {line : List Char}
    (h : ∀ k : Directive.Kind, ¬ Directive.BeginsWith k.keyword line) :
    Directive.onLine? line = none := by
  cases hline : Directive.onLine? line with
  | none => rfl
  | some d =>
    have hkind : (Directive.onLine? line).map Directive.kind = some d.kind := by rw [hline]; rfl
    exact absurd (Directive.map_kind_onLine?_eq_some_iff.mp hkind) (h d.kind)

/-- The case of its keyword and white space behind it do not change the directive of a line. -/
lemma onLine?_keyword {indent word word' gap rest : String} {k : Directive.Kind}
    (hindent : IsGap indent) (hword : IsKeyword k word) (hword' : IsKeyword k word')
    (hgap : IsGap gap) (hline : Directive.BeginsWith k.keyword (indent ++ word ++ rest).toList) :
    Directive.onLine? (indent ++ word' ++ (gap ++ rest)).toList =
      Directive.onLine? (indent ++ word ++ rest).toList := by
  simp only [String.toList_append] at hline ⊢
  have hrest := Directive.trim_ne_nil_of_beginsWith hindent.isSpace hword hline
  have hgapped : trim (gap.toList ++ rest.toList) = trim rest.toList :=
    Text.trim_append_of_isSpace_left hgap.isSpace _
  rw [Directive.onLine?_of_word hindent.isSpace hword hrest,
    Directive.onLine?_of_word hindent.isSpace hword' (by rwa [hgapped]), hgapped]

/-- Neither do they change the directives of a text around the line. -/
lemma directives_keyword_between {before indent word word' gap rest after : String}
    {k : Directive.Kind} (hstart : AtLineStart before) (hindent : IsGap indent)
    (hword : IsKeyword k word) (hword' : IsKeyword k word') (hgap : IsGap gap)
    (hrest : '\n' ∉ rest.toList) (hend : AtLineEnd after)
    (hline : Directive.BeginsWith k.keyword (indent ++ word ++ rest).toList) :
    directives (before ++ (indent ++ word' ++ (gap ++ rest)) ++ after) =
      directives (before ++ (indent ++ word ++ rest) ++ after) := by
  have hbreak : '\n' ∉ (indent ++ word ++ rest).toList := by
    simp [hindent.newline_notMem, hword.newline_notMem, hrest]
  have hbreak' : '\n' ∉ (indent ++ word' ++ (gap ++ rest)).toList := by
    simp [hindent.newline_notMem, hword'.newline_notMem, hgap.newline_notMem, hrest]
  rw [directives_line_between hstart hbreak hend, directives_line_between hstart hbreak' hend,
    onLine?_keyword hindent hword hword' hgap hline]

/-- Line ends are changed in both parts of a text. -/
lemma withReturns_append (s t : String) :
    withReturns (s ++ t) = withReturns s ++ withReturns t := by
  simp [withReturns]

/-- A text without line ends stays as it is. -/
lemma withReturns_of_notMem {s : String} (h : '\n' ∉ s.toList) : withReturns s = s := by
  have hchars : ∀ cs : List Char, '\n' ∉ cs →
      (cs.flatMap fun c => if c = '\n' then ['\r', '\n'] else [c]) = cs := by
    intro cs hcs
    induction cs with
    | nil => rfl
    | cons c cs ih =>
      obtain ⟨hc, hcs⟩ := List.ne_and_not_mem_of_not_mem_cons hcs
      rw [List.flatMap_cons, ih hcs, if_neg (Ne.symm hc)]
      rfl
  rw [withReturns, hchars _ h, String.ofList_toList]

/-- Carriage returns are trimmed away.

**Proof sketch.** By induction on the length of the text. A text without a line feed is not changed;
otherwise its first line gets a carriage return behind it, which is white space, and the rest is a
shorter text. -/
lemma directives_withReturns (s : String) : directives (withReturns s) = directives s := by
  obtain ⟨n, hn⟩ : ∃ n, s.toList.length = n := ⟨_, rfl⟩
  induction n using Nat.strong_induction_on generalizing s with
  | _ n ih =>
    by_cases hmem : '\n' ∈ s.toList
    · obtain ⟨first, more, hs, hfirst⟩ := List.eq_append_cons_of_mem hmem
      have hsplit : s = String.ofList first ++ "\n" ++ String.ofList more := by
        rw [← String.toList_inj, hs]
        simp
      have hline : '\n' ∉ (String.ofList first).toList := by rwa [String.toList_ofList]
      have hreturn : IsGap "\r" := by simp [IsGap, isSpace]
      have hgap : IsGap "" := by simp [IsGap]
      have hlines : withReturns s =
          "" ++ String.ofList first ++ "\r" ++ "\n" ++ withReturns (String.ofList more) := by
        have hnewline : withReturns "\n" = "\r" ++ "\n" := rfl
        rw [hsplit, withReturns_append, withReturns_append, withReturns_of_notMem hline, hnewline,
          String.empty_append, ← String.append_assoc]
      have hfirstLine : directives ("" ++ String.ofList first ++ "\r") =
          directives (String.ofList first) := by
        rw [directives_line hline, directives_line, onLine?_surround hgap hreturn]
        simpa using hfirst
      have hmore := ih more.length (by simp [← hn, hs]; omega) (String.ofList more) (by simp)
      rw [hlines, directives_append, hfirstLine, hmore, hsplit, directives_append]
    · rw [withReturns_of_notMem hmem]

/-- **One edit changes no directive.** -/
theorem LayoutEdit.directives_eq {text text' : String} (h : LayoutEdit text text') :
    directives text' = directives text := by
  cases h with
  | @insertLine before line after hstart hline hkeyword =>
    have hnone : directives (line ++ "\n") = [] := by
      rw [directives_append_newline, directives_line hline, onLine?_eq_none hkeyword]
      rfl
    have hmiddle : AtLineStart (before ++ (line ++ "\n")) :=
      .inr ⟨before ++ line, String.append_assoc.symm⟩
    rw [hmiddle.directives_append, hstart.directives_append, hnone, List.append_nil,
      hstart.directives_append]
  | @surround before line after gap gap' hstart hline hend hgap hgap' =>
    have hline' : '\n' ∉ (gap ++ line ++ gap').toList := by
      simp [hline, hgap.newline_notMem, hgap'.newline_notMem]
    rw [directives_line_between hstart hline hend, directives_line_between hstart hline' hend,
      onLine?_surround hgap hgap']
  | addReturns => exact directives_withReturns text
  | addNewline => exact directives_append_newline text
  | @recase before indent word word' rest after k hstart hindent hword hword' hrest hend hline =>
    have hgap : IsGap "" := by simp [IsGap]
    have hread := directives_keyword_between hstart hindent hword hword' hgap hrest hend hline
    rwa [String.empty_append] at hread
  | @widen before indent word gap rest after k hstart hindent hword hgap hrest hend hline =>
    exact directives_keyword_between hstart hindent hword hword hgap hrest hend hline

/-- **The layout of a text plays no part.** Texts that can be turned into each other by edits of
their layout, made or taken back in any number and order, have the same directives and spell the
same script. -/
theorem parse_eq_of_edits (text text' : String) (h : Relation.EqvGen LayoutEdit text text') :
    directives text' = directives text ∧ parse text' = parse text := by
  have hdirectives : directives text' = directives text := by
    induction h with
    | rel _ _ h => exact h.directives_eq
    | refl _ => rfl
    | symm _ _ _ ih => exact ih.symm
    | trans _ _ _ _ _ ih ih' => exact ih'.trans ih
  refine ⟨hdirectives, ?_⟩
  unfold parse
  rw [hdirectives]

/-- A script with a remark. -/
def plainText : String :=
  "OPEN users\n# all of them\nFILTER a = 1"

/-- The same script without it, with small letters, white space and other line ends. -/
def loosenedText : String :=
  "  open   users\r\n\r\nFILTER a = 1\t\r\n"

/-- The edits between the two texts. The remark is taken away first. -/
lemma plainText_edits : Relation.EqvGen LayoutEdit plainText loosenedText := by
  have hgap : ∀ s ∈ ["", "  ", "\t"], IsGap s := by simp [IsGap, isSpace]
  have hrest : AtLineEnd "\nFILTER a = 1" := .inr ⟨"FILTER a = 1", rfl⟩
  have hopen : IsKeyword .source "open " := rfl
  have hremark : LayoutEdit "OPEN users\nFILTER a = 1" plainText :=
    @LayoutEdit.insertLine "OPEN users\n" "# all of them" "FILTER a = 1" (.inr ⟨"OPEN users", rfl⟩)
      (by simp) (by intro k; cases k <;> decide)
  have hrecase : LayoutEdit "OPEN users\nFILTER a = 1" "open users\nFILTER a = 1" :=
    @LayoutEdit.recase "" "" "OPEN " "open " "users" "\nFILTER a = 1" .source (.inl rfl)
      (hgap _ (by simp)) rfl hopen (by simp) hrest (by decide)
  have hwiden : LayoutEdit "open users\nFILTER a = 1" "open   users\nFILTER a = 1" :=
    @LayoutEdit.widen "" "" "open " "  " "users" "\nFILTER a = 1" .source (.inl rfl)
      (hgap _ (by simp)) hopen (hgap _ (by simp)) (by simp) hrest (by decide)
  have hindent : LayoutEdit "open   users\nFILTER a = 1" "  open   users\nFILTER a = 1" :=
    @LayoutEdit.surround "" "open   users" "\nFILTER a = 1" "  " "" (.inl rfl) (by simp) hrest
      (hgap _ (by simp)) (hgap _ (by simp))
  have htab : LayoutEdit "  open   users\nFILTER a = 1" "  open   users\nFILTER a = 1\t" :=
    @LayoutEdit.surround "  open   users\n" "FILTER a = 1" "" "" "\t" (.inr ⟨"  open   users", rfl⟩)
      (by simp) (.inl rfl) (hgap _ (by simp)) (hgap _ (by simp))
  have hblank : LayoutEdit "  open   users\nFILTER a = 1\t" "  open   users\n\nFILTER a = 1\t" :=
    @LayoutEdit.insertLine "  open   users\n" "" "FILTER a = 1\t" (.inr ⟨"  open   users", rfl⟩)
      (by simp) (by intro k; cases k <;> decide)
  have hnewline : LayoutEdit "  open   users\n\nFILTER a = 1\t"
      "  open   users\n\nFILTER a = 1\t\n" := .addNewline _
  have hreturns : LayoutEdit "  open   users\n\nFILTER a = 1\t\n" loosenedText := .addReturns _
  refine .trans _ _ _ (.symm _ _ (.rel _ _ hremark)) ?_
  refine .trans _ _ _ (.rel _ _ hrecase) (.trans _ _ _ (.rel _ _ hwiden) ?_)
  refine .trans _ _ _ (.rel _ _ hindent) (.trans _ _ _ (.rel _ _ htab) ?_)
  exact .trans _ _ _ (.rel _ _ hblank) (.trans _ _ _ (.rel _ _ hnewline) (.rel _ _ hreturns))

/-- Both texts spell the same script. -/
theorem loosenedText_parse :
    Relation.EqvGen LayoutEdit plainText loosenedText ∧ parse loosenedText = parse plainText :=
  ⟨plainText_edits, (parse_eq_of_edits _ _ plainText_edits).2⟩

end Script

end HintedSql
