import HintedSql.Proofs.Script.Image
import HintedSql.Proofs.Sql.HintBlock
set_option relaxedAutoImplicit false
set_option autoImplicit false

/-!
# The lines of a rendered script

The query of a script is written line by line, with texts of the script copied into the lines as
they are. These texts come from single trimmed lines, so none of them is empty or has a line feed,
and the query has the lines that were written and no others. Which of them are there can be told
from the script text directly: a keyword at the start of a trimmed line makes a directive of its
kind, and nothing else does.

## Main definitions

* `HintedSql.Directive.BeginsWith` — a line that begins with a keyword.
* `HintedSql.Script.HasLine` — a text with such a line.
* `HintedSql.Script.LaidOut` — the layout of a rendered script.

## Main results

* `HintedSql.Directive.map_kind_onLine?_eq_some_iff` — the kind of a line is told by its keyword.
* `HintedSql.Script.filterMap_directives_ne_nil_iff` — what directives of one kind give is there if
  the text has a line with their keyword.
* `HintedSql.Script.splitOn_sql` — the lines of a query.
* `HintedSql.Script.ofText_laidOut` — all of this for rendered texts.
-/

namespace HintedSql

namespace Directive

/-! ## Keywords of lines -/

/-- A line that begins, once trimmed, with a keyword, up to the case of ASCII letters. -/
def BeginsWith (keyword : String) (line : List Char) : Prop :=
  keyword.toList.map Text.asciiLowerChar <+: (Text.trim line).map Text.asciiLowerChar

instance (keyword : String) (line : List Char) : Decidable (BeginsWith keyword line) :=
  inferInstanceAs (Decidable (_ <+: _))

/-- A line begins with a keyword if something follows the keyword once the line is trimmed. -/
lemma beginsWith_iff {keyword : String} {line : List Char} :
    BeginsWith keyword line ↔
      ∃ rest, afterKeyword? keyword.toList (Text.trim line) = some rest := by
  simp only [afterKeyword?_eq_some_iff]
  constructor
  · rintro ⟨tail, htail⟩
    obtain ⟨word, rest, hline, hword, -⟩ := List.map_eq_append_iff.mp htail.symm
    exact ⟨rest, word, hline, hword⟩
  · rintro ⟨rest, word, hline, hword⟩
    exact ⟨rest.map Text.asciiLowerChar, by rw [hline, List.map_append, hword]⟩

/-- **The kind of a line** is the one whose keyword it begins with. -/
theorem map_kind_onLine?_eq_some_iff {line : List Char} {k : Kind} :
    (onLine? line).map kind = some k ↔ BeginsWith k.keyword line := by
  rw [Option.map_eq_some_iff, beginsWith_iff]
  constructor
  · rintro ⟨d, hd, rfl⟩
    obtain ⟨k, rest, hrest, rfl⟩ := ofLine?_eq_some_iff.mp hd
    exact ⟨rest, by rw [Kind.kind_make]; exact hrest⟩
  · rintro ⟨rest, hrest⟩
    have hline : ofLine? (Text.trim line) = some (k.make (Text.trim rest)) :=
      ofLine?_eq_some_iff.mpr ⟨k, rest, hrest, rfl⟩
    exact ⟨_, hline, k.kind_make _⟩

end Directive

namespace Script

open Text (IsPhrase)

/-- Some line of a text begins, once trimmed, with a keyword. -/
def HasLine (keyword text : String) : Prop :=
  ∃ line ∈ Text.lines text.toList, Directive.BeginsWith keyword line

instance (keyword text : String) : Decidable (HasLine keyword text) :=
  inferInstanceAs (Decidable (∃ line ∈ Text.lines text.toList, Directive.BeginsWith keyword line))

/-- A text has a directive of a kind exactly if it has a line with the keyword of that kind. -/
lemma exists_mem_directives_iff {text : String} {k : Directive.Kind} :
    (∃ d ∈ directives text, d.kind = k) ↔ HasLine k.keyword text := by
  simp only [HasLine, directives_eq_filterMap_lines, List.mem_filterMap,
    ← Directive.map_kind_onLine?_eq_some_iff, Option.map_eq_some_iff]
  constructor
  · rintro ⟨d, ⟨line, hline, hd⟩, hk⟩
    exact ⟨line, hline, d, hd, hk⟩
  · rintro ⟨line, hline, d, hd, hk⟩
    exact ⟨d, ⟨line, hline, hd⟩, hk⟩

/-- What the directives of one kind give is there exactly if the text has a line with the keyword of
that kind. -/
theorem filterMap_directives_ne_nil_iff {α : Type} {f : Directive → Option α} {k : Directive.Kind}
    (hf : ∀ d : Directive, (f d).isSome ↔ d.kind = k) (text : String) :
    (directives text).filterMap f ≠ [] ↔ HasLine k.keyword text := by
  rw [← exists_mem_directives_iff, Ne, List.filterMap_eq_nil_iff]
  simp only [not_forall, ← hf, Option.isSome_iff_ne_none, exists_prop, ne_eq]

/-- The last of these things is there under the same condition. -/
lemma isSome_getLast?_directives_iff {α : Type} {f : Directive → Option α} {k : Directive.Kind}
    (hf : ∀ d : Directive, (f d).isSome ↔ d.kind = k) (text : String) :
    ((directives text).filterMap f).getLast?.isSome ↔ HasLine k.keyword text := by
  rw [List.getLast?_isSome, filterMap_directives_ne_nil_iff hf]

/-- A script is made of the directives of its text. -/
lemma parse_eq_ofDirectives (text : String) : parse text = ofDirectives (directives text) :=
  foldl_apply_empty _

/-- A script has a table if one of its lines opens one. -/
lemma isSome_table_iff (text : String) : (parse text).table.isSome ↔ HasLine "OPEN " text := by
  simp only [parse_eq_ofDirectives, ofDirectives]
  have hkind : ∀ d : Directive, (Directive.table? d).isSome ↔ d.kind = .source := by
    intro d
    cases d <;> simp [Directive.kind]
  exact isSome_getLast?_directives_iff hkind text

/-- A script has conditions if one of its lines is a filter. -/
lemma filters_ne_nil_iff (text : String) :
    (parse text).filters ≠ [] ↔ HasLine "FILTER " text := by
  simp only [parse_eq_ofDirectives, ofDirectives]
  have hkind : ∀ d : Directive, (Directive.filter? d).isSome ↔ d.kind = .filter := by
    intro d
    cases d <;> simp [Directive.kind]
  exact filterMap_directives_ne_nil_iff hkind text

/-- A script has a time window if one of its lines sets one. -/
lemma isSome_timeWindow_iff (text : String) :
    (parse text).timeWindow.isSome ↔ HasLine "TIME WINDOW " text := by
  simp only [parse_eq_ofDirectives, ofDirectives]
  have hkind : ∀ d : Directive, (Directive.timeWindow? d).isSome ↔ d.kind = .timeWindow := by
    intro d
    cases d <;> simp [Directive.kind]
  exact isSome_getLast?_directives_iff hkind text

/-- A script has a route if one of its lines sets one. -/
lemma isSome_route_iff (text : String) : (parse text).route.isSome ↔ HasLine "ROUTE " text := by
  simp only [route, Option.isSome_map, parse_eq_ofDirectives, ofDirectives]
  have hkind : ∀ d : Directive, (Directive.target? d).isSome ↔ d.kind = .route := by
    intro d
    cases d <;> simp [Directive.kind]
  exact isSome_getLast?_directives_iff hkind text

/-! ## The lines of a query -/

/-- Phrases with a separator between them are one phrase. -/
lemma isPhrase_intercalate {separator : String} (hseparator : '\n' ∉ separator.toList)
    {texts : List String} (hne : texts ≠ []) (h : ∀ text ∈ texts, IsPhrase text.toList) :
    IsPhrase (String.intercalate separator texts).toList := by
  induction texts with
  | nil => exact absurd rfl hne
  | cons text texts ih =>
    obtain ⟨htext, htexts⟩ := List.forall_mem_cons.mp h
    by_cases hnil : texts = []
    · subst hnil
      simpa using htext
    · rw [String.intercalate_cons_of_ne_nil hnil, String.toList_append, String.toList_append]
      exact htext.append_append hseparator (ih hnil htexts)

/-- A list of columns that are phrases is a phrase. -/
lemma isPhrase_columnList {columns : List String}
    (h : ∀ column ∈ columns, IsPhrase column.toList) :
    IsPhrase (Sql.columnList columns).toList := by
  unfold Sql.columnList
  by_cases hnil : columns = []
  · subst hnil
    exact .of_word (by simp) (by simp [Text.isSpace])
  · rw [if_neg (by simpa using hnil)]
    exact isPhrase_intercalate (by simp) hnil h

/-- The condition of a script: all its filters. -/
def condition? (s : Script) : Option String :=
  if s.filters = [] then none else some (String.intercalate " AND " s.filters)

/-- The condition of a proper script is a phrase. -/
lemma Proper.isPhrase_condition {s : Script} (hs : s.Proper) {c : String}
    (hc : c ∈ s.condition?) : IsPhrase c.toList := by
  unfold condition? at hc
  split at hc
  · cases hc
  · rename_i hne
    obtain rfl := Option.some.inj hc
    exact isPhrase_intercalate (by simp) hne hs.filters

/-- A proper script has hints without line feeds. -/
lemma Proper.onOneLine {s : Script} (hs : s.Proper) : s.options.OnOneLine := by
  constructor
  · intro value hvalue
    exact (hs.timeWindow value hvalue).newline_notMem
  · intro r hr lane hlane hmem
    obtain ⟨target, -, rfl⟩ := Option.map_eq_some_iff.mp hr
    have hspace := ((hs.lane lane hlane).2 '\n' hmem).1
    simp [Text.isSpace] at hspace

/-- **The lines of a query** are the columns, the table, the condition if there is one, and the
hints: no text that is copied into a line has a line feed of its own. -/
theorem splitOn_sql {s : Script} (hs : s.Proper) {table sql : String}
    (htable : s.table = some table) (hsql : s.toSql = .ok sql) :
    (Text.splitOn '\n' sql.toList).map String.ofList =
      ["SELECT " ++ Sql.columnList s.columns, "FROM " ++ table]
        ++ (s.condition?.map ("WHERE " ++ ·)).toList ++ Sql.hints s.options := by
  have hcondition :
      (if s.filters.isEmpty then [] else ["WHERE " ++ String.intercalate " AND " s.filters]) =
        (s.condition?.map ("WHERE " ++ ·)).toList := by
    by_cases hnil : s.filters = [] <;> simp [condition?, hnil]
  unfold toSql at hsql
  rw [htable] at hsql
  obtain rfl := Except.ok.inj hsql
  rw [hcondition]
  set lines := ["SELECT " ++ Sql.columnList s.columns, "FROM " ++ table]
    ++ (s.condition?.map ("WHERE " ++ ·)).toList ++ Sql.hints s.options with hlines
  have hbreaks : ∀ line ∈ lines.map String.toList, '\n' ∉ line := by
    have hcolumns := isPhrase_columnList fun c hc => (hs.columns c hc).1
    simp only [hlines, List.map_append, List.forall_mem_append, List.forall_mem_map]
    refine ⟨⟨?_, ?_⟩, Sql.newline_notMem_hints hs.onOneLine⟩
    · simp [hcolumns.newline_notMem, (hs.table table htable).newline_notMem]
    · intro line hline
      obtain ⟨c, hc, rfl⟩ := Option.map_eq_some_iff.mp (Option.mem_toList.mp hline)
      simp [(hs.isPhrase_condition hc).newline_notMem]
  have hsplit := List.splitOn_intercalate '\n' hbreaks (by simp [hlines])
  have hnewline : "\n".toList = ['\n'] := rfl
  rw [Text.splitOn_eq_splitOn, String.toList_intercalate, hnewline, hsplit]
  simp

/-! ## Rendered texts -/

/-- The layout of a rendered text: its query has a line with columns and one with the table, and
then a line for the conditions, the time window and the route each exactly if the text has a line
with the keyword for it. The last two are the hint lines of the options. The text is kept as it is.
-/
structure LaidOut (text : String) (r : Rendering) : Prop where
  lines : ∃ columns table, ∃ condition : Option String,
    (Text.splitOn '\n' r.sql.toList).map String.ofList =
      ["SELECT " ++ columns, "FROM " ++ table] ++ (condition.map ("WHERE " ++ ·)).toList
        ++ (r.options.timeBlock.map Sql.timeHint).toList
        ++ (r.options.route.map Sql.routeHint).toList ∧
    (parse text).table = some table ∧ IsPhrase table.toList ∧ IsPhrase columns.toList ∧
    (∀ c ∈ condition, IsPhrase c.toList) ∧ (condition.isSome ↔ HasLine "FILTER " text)
  timeBlock : r.options.timeBlock.isSome ↔ HasLine "TIME WINDOW " text
  route : r.options.route.isSome ↔ HasLine "ROUTE " text
  hints : Sql.hints r.options =
    (r.options.timeBlock.map Sql.timeHint).toList ++ (r.options.route.map Sql.routeHint).toList
  text : r.text = text

/-- A script that is translated is laid out line by line. -/
lemma laidOut_of_toSql {text sql : String} (h : (parse text).toSql = .ok sql) :
    LaidOut text ⟨sql, (parse text).options, text⟩ := by
  have hs := proper_parse text
  have htime := isSome_timeWindow_iff text
  have hroute := isSome_route_iff text
  have hfilters := filters_ne_nil_iff text
  generalize hparse : parse text = s at *
  refine ⟨?_, htime, hroute, rfl, rfl⟩
  obtain ⟨table, htable⟩ : ∃ table, s.table = some table := by
    cases htable : s.table with
    | none => simp [toSql, htable] at h
    | some table => exact ⟨table, rfl⟩
  refine ⟨Sql.columnList s.columns, table, s.condition?, ?_, by rw [hparse, htable],
    hs.table table htable, isPhrase_columnList fun c hc => (hs.columns c hc).1,
    fun c hc => hs.isPhrase_condition hc, ?_⟩
  · rw [splitOn_sql hs htable h, Sql.hints, List.append_assoc _ (Option.toList _) (Option.toList _)]
  · rw [← hfilters]
    by_cases hnil : s.filters = [] <;> simp [condition?, hnil]

/-- **The layout of rendered texts.** A text is not rendered exactly if no line of it, once trimmed,
begins with `OPEN ` in any case; every text that is rendered is laid out by its lines. -/
theorem ofText_laidOut (text : String) :
    (Rendering.ofText text = .error .missingTable ↔ ¬ HasLine "OPEN " text) ∧
      ∀ r, Rendering.ofText text = .ok r → LaidOut text r := by
  rw [Rendering.ofText_eq, ← isSome_table_iff]
  constructor
  · cases htable : (parse text).table <;> simp [toSql, htable, Except.map]
  · intro r hr
    cases hsql : (parse text).toSql with
    | error e => simp [hsql, Except.map] at hr
    | ok sql =>
      obtain rfl : (⟨sql, (parse text).options, text⟩ : Rendering) = r := by
        simpa [hsql, Except.map] using hr
      exact laidOut_of_toSql hsql

/-- A text with line ends of both sorts, a remark and keywords in small letters. -/
def weeklyText : String :=
  "open users\r\n# weekly\n  FILTER a = 1\nfilter b > 2 \nTime Window LAST_7_DAYS\nROUTE gcs lane=hot"

/-- A weekly report, with everything that a script can have, and its layout. -/
theorem weeklyText_laidOut :
    ∃ r, Rendering.ofText weeklyText = .ok r ∧
      r.sql = "SELECT *\nFROM users\nWHERE a = 1 AND b > 2\n@time(block => LAST_7_DAYS)\n"
        ++ "@route(target => 'gcs', lane => 'hot')" ∧ LaidOut weeklyText r := by
  have hrender : Rendering.ofText weeklyText = .ok
      ⟨"SELECT *\nFROM users\nWHERE a = 1 AND b > 2\n@time(block => LAST_7_DAYS)\n"
        ++ "@route(target => 'gcs', lane => 'hot')",
        ⟨some "LAST_7_DAYS", some ⟨.gcs, some "hot"⟩⟩, weeklyText⟩ := by
    decide +kernel
  exact ⟨_, hrender, rfl, (ofText_laidOut weeklyText).2 _ hrender⟩

end Script

end HintedSql
