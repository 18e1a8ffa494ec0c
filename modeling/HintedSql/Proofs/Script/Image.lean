import HintedSql.Proofs.Script.ClosedForm
set_option relaxedAutoImplicit false
set_option autoImplicit false

/-!
# Which scripts are spelled by a text

The directives of a text are proper, and a proper directive keeps a script proper. So the texts of
a parsed script are phrases, its columns hold no comma, its lane holds no white space and no equals
sign, and it has a lane only if it has a target. Nothing else is demanded: a script with these
properties is spelled by the lines of directives that add up to it.

## Main definitions

* `HintedSql.Script.Proper` — the invariant.
* `HintedSql.Script.toDirectives`, `HintedSql.Script.spelling` — directives that add up to a script,
  and a text with them.

## Main results

* `HintedSql.Script.Proper.apply`, `HintedSql.Script.Proper.foldl` — what a directive keeps, and
  what a run of them keeps.
* `HintedSql.Script.foldl_apply_toDirectives`, `HintedSql.Script.directives_unlines` — the way back.
* `HintedSql.Script.exists_parse_eq_iff` — the scripts of texts are the proper ones.
-/

namespace HintedSql.Script

open Text (IsPhrase)

/-- The properties of a script that some text spells. -/
structure Proper (s : Script) : Prop where
  table : ∀ t ∈ s.table, IsPhrase t.toList
  filters : ∀ text ∈ s.filters, IsPhrase text.toList
  columns : ∀ column ∈ s.columns, IsPhrase column.toList ∧ ',' ∉ column.toList
  timeWindow : ∀ value ∈ s.timeWindow, IsPhrase value.toList
  lane : ∀ l ∈ s.lane, l ≠ "" ∧ Directive.IsLane l
  target : s.lane.isSome → s.target.isSome

/-! ## Texts spell proper scripts -/

/-- A script without directives is proper. -/
lemma proper_empty : empty.Proper where
  table _ h := nomatch h
  filters _ h := nomatch h
  columns _ h := nomatch h
  timeWindow _ h := nomatch h
  lane _ h := nomatch h
  target h := nomatch h

/-- A proper directive keeps a script proper. -/
theorem Proper.apply {s : Script} (hs : s.Proper) {d : Directive} (hd : d.Proper) :
    (s.apply d).Proper := by
  cases d with
  | source table =>
    refine { hs with table := ?_ }
    intro t ht
    obtain rfl := Option.some.inj ht
    exact hd
  | filter text =>
    refine { hs with filters := ?_ }
    intro f hf
    rcases List.mem_append.mp hf with hf | hf
    · exact hs.filters f hf
    · obtain rfl := List.mem_singleton.mp hf
      exact hd
  | select columns =>
    refine { hs with columns := ?_ }
    intro column hcolumn
    rcases List.mem_append.mp hcolumn with hcolumn | hcolumn
    · exact hs.columns column hcolumn
    · exact hd column hcolumn
  | timeWindow value =>
    refine { hs with timeWindow := ?_ }
    intro w hw
    obtain rfl := Option.some.inj hw
    exact hd
  | route target lane =>
    cases lane with
    | none => exact { hs with target := fun _ => rfl }
    | some lane =>
      refine { hs with lane := ?_, target := fun _ => rfl }
      intro l hl
      -- An empty lane takes the lane away, so that only a lane with characters is kept.
      by_cases hempty : lane = ""
      · simp [Script.apply, hempty] at hl
      · obtain rfl : lane = l := by simpa [Script.apply, hempty] using hl
        exact ⟨hempty, hd lane rfl⟩

/-- Proper directives keep a script proper. -/
theorem Proper.foldl {s : Script} (hs : s.Proper) {ds : List Directive}
    (hds : ∀ d ∈ ds, d.Proper) : (ds.foldl Script.apply s).Proper := by
  induction ds generalizing s with
  | nil => exact hs
  | cons d ds ih =>
    obtain ⟨hd, hrest⟩ := List.forall_mem_cons.mp hds
    exact ih (hs.apply hd) hrest

/-- The directives of a text are proper: each is on one trimmed line. -/
lemma proper_of_mem_directives {text : String} {d : Directive} (h : d ∈ directives text) :
    d.Proper := by
  rw [directives_eq_filterMap_splitOn, ← Text.splitOn_eq_splitOn] at h
  obtain ⟨piece, hpiece, hline⟩ := List.mem_filterMap.mp h
  have hbreak : '\n' ∉ Text.trim piece := by
    intro hmem
    have hnot := (Text.of_mem_splitWhere hpiece '\n' (Text.mem_of_mem_trim hmem)).1
    simp at hnot
  exact Directive.proper_of_ofLine? (Text.isTrimmed_trim piece) hbreak hline

/-- Whatever is parsed is proper. -/
lemma proper_parse (text : String) : (parse text).Proper :=
  proper_empty.foldl fun _ hd => proper_of_mem_directives hd

/-! ## Proper scripts are spelled -/

/-- Directives that add up to a script. -/
def toDirectives (s : Script) : List Directive :=
  (s.table.map .source).toList ++ s.filters.map .filter ++ [.select s.columns]
    ++ (s.timeWindow.map .timeWindow).toList ++ (s.target.map (.route · s.lane)).toList

/-- Conditions add up in order. -/
lemma foldl_apply_filters (s : Script) (texts : List String) :
    (texts.map Directive.filter).foldl Script.apply s =
      { s with filters := s.filters ++ texts } := by
  induction texts generalizing s with
  | nil => simp
  | cons text texts ih =>
    rw [List.map_cons, List.foldl_cons, ih]
    simp [Script.apply]

/-- The directives of a proper script add up to it. -/
theorem foldl_apply_toDirectives {s : Script} (h : s.Proper) :
    s.toDirectives.foldl Script.apply empty = s := by
  obtain ⟨table, filters, columns, timeWindow, target, lane⟩ := s
  simp only [toDirectives, List.foldl_append, foldl_apply_filters]
  cases target with
  | none =>
    obtain rfl : lane = none := by simpa using h.target
    cases table <;> cases timeWindow <;> rfl
  | some target =>
    cases lane with
    | none => cases table <;> cases timeWindow <;> rfl
    | some lane =>
      have hlane : lane ≠ "" := (h.lane lane rfl).1
      cases table <;> cases timeWindow <;> simp [Script.apply, empty, hlane]

/-- The directives of a proper script are proper. -/
lemma proper_of_mem_toDirectives {s : Script} (h : s.Proper) {d : Directive}
    (hd : d ∈ s.toDirectives) : d.Proper := by
  simp only [toDirectives, List.mem_append, Option.mem_toList, Option.map_eq_some_iff,
    List.mem_map, List.mem_singleton] at hd
  rcases hd with (((⟨t, ht, rfl⟩ | ⟨text, htext, rfl⟩) | rfl) | ⟨w, hw, rfl⟩) | ⟨t, -, rfl⟩
  · exact h.table t ht
  · exact h.filters text htext
  · exact h.columns
  · exact h.timeWindow w hw
  · intro l hl
    exact (h.lane l hl).2

/-- Proper directives, one to a line. -/
theorem directives_unlines {ds : List Directive} (h : ∀ d ∈ ds, d.Proper) :
    directives (String.intercalate "\n" (ds.map Directive.spelling)) = ds := by
  rw [directives_eq_filterMap_splitOn, String.toList_intercalate, List.map_map]
  by_cases hds : ds = []
  · subst hds
    rfl
  · have hbreaks : ∀ line ∈ ds.map (String.toList ∘ Directive.spelling), '\n' ∉ line := by
      intro line hline
      obtain ⟨d, hd, rfl⟩ := List.mem_map.mp hline
      exact (Directive.isPhrase_spelling (h d hd)).newline_notMem
    have hread : ∀ d ∈ ds, Directive.onLine? d.spelling.toList = some d := by
      intro d hd
      rw [Directive.onLine?, Text.trim_eq_self (Directive.isPhrase_spelling (h d hd)).isTrimmed]
      exact Directive.ofLine?_spelling (h d hd)
    have hlines := List.splitOn_intercalate '\n' hbreaks (by simpa using hds)
    have hnewline : "\n".toList = ['\n'] := rfl
    rw [hnewline, hlines, List.filterMap_map]
    exact (List.filterMap_congr hread).trans List.filterMap_some

/-- A text that spells a proper script. -/
def spelling (s : Script) : String :=
  String.intercalate "\n" (s.toDirectives.map Directive.spelling)

/-- A proper script is parsed from its spelling. -/
lemma parse_spelling {s : Script} (h : s.Proper) : parse s.spelling = s := by
  have hds : ∀ d ∈ s.toDirectives, d.Proper := fun _ hd => proper_of_mem_toDirectives h hd
  rw [parse, spelling, directives_unlines hds, foldl_apply_toDirectives h]

/-- **The scripts of texts.** A script is spelled by some text exactly if its table, its time window
and its conditions are phrases, its columns are phrases without commas, its lane is not empty and
holds no white space and no equals sign, and it has a lane only if it has a target. -/
theorem exists_parse_eq_iff (s : Script) : (∃ text, parse text = s) ↔ s.Proper := by
  constructor
  · rintro ⟨text, rfl⟩
    exact proper_parse text
  · intro h
    exact ⟨s.spelling, parse_spelling h⟩

end HintedSql.Script
