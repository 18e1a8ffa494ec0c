import HintedSql.Proofs.Script.Directive
import HintedSql.Script.Rendering
import Mathlib.Data.List.Induction
set_option relaxedAutoImplicit false
set_option autoImplicit false

/-!
# Scripts in closed form

A script is a fold over its directives, and every part of it depends on the directives of one kind
only: the last one for what is replaced, all of them for what adds up. For the lane it is the last
route that gives one, where an empty lane counts as none.

A text is read line by line, so that texts one below the other have the directives of both, and
lines of different kinds can change places.

## Main definitions

* `HintedSql.Directive.onLine?` — the directive on a line of a text.
* `HintedSql.Script.ofDirectives` — the closed form.
* `HintedSql.Script.Reordered` — lines in another order, the same one for lines of one kind.

## Main results

* `HintedSql.Script.ofDirectives_concat`, `HintedSql.Script.foldl_apply_empty` — one more directive,
  and a list of them.
* `HintedSql.Script.directives_append` — the directives of two texts one below the other.
* `HintedSql.Script.ofDirectives_congr` — only the order within each kind matters.
* `HintedSql.Script.parse_closed_form` — all of this for texts.
-/

namespace HintedSql

namespace Directive

/-! ## Parts of directives -/

/-- The table that a directive names. -/
@[simp] def table? : Directive → Option String
  | source table => some table
  | _ => none

/-- The condition that a directive adds. -/
@[simp] def filter? : Directive → Option String
  | filter text => some text
  | _ => none

/-- The columns that a directive adds. -/
@[simp] def columns? : Directive → Option (List String)
  | select columns => some columns
  | _ => none

/-- The time window that a directive sets. -/
@[simp] def timeWindow? : Directive → Option String
  | timeWindow value => some value
  | _ => none

/-- The target that a directive routes to. -/
@[simp] def target? : Directive → Option Target
  | route target _ => some target
  | _ => none

/-- The lane that a directive gives, which may be empty. -/
@[simp] def givenLane? : Directive → Option String
  | route _ lane => lane
  | _ => none

/-- The directive on a line of a text. -/
def onLine? (line : List Char) : Option Directive :=
  ofLine? (Text.trim line)

/-- What only directives of one kind have is found among the directives of that kind. -/
lemma filterMap_eq_filterMap_filter {α : Type} {f : Directive → Option α} {k : Kind}
    (hf : ∀ d : Directive, d.kind ≠ k → f d = none) (ds : List Directive) :
    ds.filterMap f = (ds.filter (·.kind = k)).filterMap f := by
  rw [List.filterMap_filter]
  apply List.filterMap_congr
  intro d _
  by_cases hk : d.kind = k
  · simp [hk]
  · simp [hk, hf d hk]

end Directive

namespace Script

/-! ## The fold -/

/-- The script of a list of directives: the last table, all conditions, all columns, the last time
window, the last target, and the last lane that is given, if that one is not empty. -/
def ofDirectives (ds : List Directive) : Script where
  table := (ds.filterMap Directive.table?).getLast?
  filters := ds.filterMap Directive.filter?
  columns := (ds.filterMap Directive.columns?).flatten
  timeWindow := (ds.filterMap Directive.timeWindow?).getLast?
  target := (ds.filterMap Directive.target?).getLast?
  lane := (ds.filterMap Directive.givenLane?).getLast?.filter (!·.isEmpty)

/-- One more directive is applied to the closed form. -/
theorem ofDirectives_concat (ds : List Directive) (d : Directive) :
    ofDirectives (ds ++ [d]) = (ofDirectives ds).apply d := by
  cases d with
  | source table | filter text | select columns | timeWindow value => simp [ofDirectives, apply]
  | route target lane =>
    cases lane with
    | none => simp [ofDirectives, apply]
    | some lane => by_cases hlane : lane = "" <;> simp [ofDirectives, apply, hlane]

/-- A script is the closed form of its directives. -/
theorem foldl_apply_empty (ds : List Directive) : ds.foldl apply empty = ofDirectives ds := by
  induction ds using List.reverseRecOn with
  | nil => rfl
  | append_singleton ds d ih => rw [List.foldl_concat, ih, ofDirectives_concat]

/-- Directives in another order add up to the same script if each kind of them keeps its order. -/
theorem ofDirectives_congr {ds ds' : List Directive}
    (h : ∀ k, ds.filter (·.kind = k) = ds'.filter (·.kind = k)) :
    ofDirectives ds = ofDirectives ds' := by
  have hpart : ∀ {α : Type} (f : Directive → Option α) (k : Directive.Kind),
      (∀ d : Directive, d.kind ≠ k → f d = none) → ds.filterMap f = ds'.filterMap f := by
    intro α f k hf
    rw [Directive.filterMap_eq_filterMap_filter hf ds, h k,
      ← Directive.filterMap_eq_filterMap_filter hf ds']
  unfold ofDirectives
  rw [hpart Directive.table? .source, hpart Directive.filter? .filter,
    hpart Directive.columns? .select, hpart Directive.timeWindow? .timeWindow,
    hpart Directive.target? .route, hpart Directive.givenLane? .route]
  all_goals
    intro d hd
    cases d <;> simp_all [Directive.kind]

/-! ## The directives of a text -/

/-- Blank lines are no directives and numbers play no part: each line is read by itself. -/
lemma directives_eq_filterMap_lines (text : String) :
    directives text = (Text.lines text.toList).filterMap Directive.onLine? := by
  have hread : ∀ (line : List Char) (n : Nat),
      ((if line.isEmpty then none else some (n, line)).bind fun p => Directive.ofLine? p.2) =
        Directive.ofLine? line := by
    intro line n
    cases line with
    | nil => rfl
    | cons c cs => rfl
  have hnumbers := List.zipIdx_map_fst 1 ((Text.lines text.toList).map Text.trim)
  calc directives text
      = (((Text.lines text.toList).map Text.trim).zipIdx 1).filterMap
          fun p => Directive.ofLine? p.1 := by
        unfold directives numberedLines
        rw [List.filterMap_filterMap]
        simp only [hread]
    _ = ((Text.lines text.toList).map Text.trim).filterMap Directive.ofLine? := by
        conv_rhs => rw [← hnumbers]
        rw [List.filterMap_map]
        rfl
    _ = (Text.lines text.toList).filterMap Directive.onLine? := by
        rw [List.filterMap_map]
        rfl

/-- Line ends play no part either: the pieces between line feeds are read as the lines are. -/
lemma directives_eq_filterMap_splitOn (text : String) :
    directives text = (text.toList.splitOn '\n').filterMap Directive.onLine? := by
  rw [directives_eq_filterMap_lines, ← Text.splitOn_eq_splitOn]
  exact Text.filterMap_lines Directive.ofLine?_nil text.toList

/-- Of two texts one below the other the directives follow each other. -/
theorem directives_append (s t : String) :
    directives (s ++ "\n" ++ t) = directives s ++ directives t := by
  have hlist : (s ++ "\n" ++ t).toList = s.toList ++ '\n' :: t.toList := by simp
  simp only [directives_eq_filterMap_splitOn, hlist]
  rw [List.splitOn_append_cons_self, List.filterMap_append]

/-! ## Reordered lines -/

/-- The same lines in another order, which is the same order for the lines of each kind. Lines that
are no directives may go anywhere. -/
structure Reordered (xs ys : List (List Char)) : Prop where
  perm : xs.Perm ys
  sameOrder : ∀ k : Directive.Kind,
    xs.filter (fun line => (Directive.onLine? line).map Directive.kind = some k) =
      ys.filter fun line => (Directive.onLine? line).map Directive.kind = some k

/-- The directives of one kind are those on the lines of that kind. -/
lemma filter_kind_filterMap_onLine? (lines : List (List Char)) (k : Directive.Kind) :
    (lines.filterMap Directive.onLine?).filter (·.kind = k) =
      (lines.filter fun line => (Directive.onLine? line).map Directive.kind = some k).filterMap
        Directive.onLine? := by
  rw [List.filter_filterMap, List.filterMap_filter]
  apply List.filterMap_congr
  intro line _
  cases hline : Directive.onLine? line with
  | none => simp
  | some d => by_cases hk : d.kind = k <;> simp [hk]

/-- Reordered lines spell the same script. -/
lemma parse_eq_of_reordered {text text' : String}
    (h : Reordered (Text.lines text.toList) (Text.lines text'.toList)) :
    parse text' = parse text := by
  unfold parse
  rw [foldl_apply_empty, foldl_apply_empty]
  apply ofDirectives_congr
  intro k
  simp only [directives_eq_filterMap_lines, filter_kind_filterMap_onLine?, h.sameOrder k]

/-- What is rendered besides the text itself depends on the script alone. -/
lemma Rendering.map_ofText (text : String) :
    (Rendering.ofText text).map (fun r => (r.sql, r.options)) =
      (parse text).toSql.map fun sql => (sql, (parse text).options) := by
  rw [Rendering.ofText_eq]
  cases (parse text).toSql <;> rfl

/-- **Scripts in closed form.** The script of a text has, from the directives on its lines in order,
the last table, all conditions, all columns, the last time window, the last target, and the last
lane that is given if it is not empty. So a text below another one adds its directives to the
script of that one, and lines of different kinds can change places without any effect on the script,
its query and its hints. -/
theorem parse_closed_form (text : String) :
    directives text = (Text.lines text.toList).filterMap Directive.onLine? ∧
    parse text = ofDirectives (directives text) ∧
    (∀ more : String, parse (text ++ "\n" ++ more) = (directives more).foldl apply (parse text)) ∧
    ∀ text' : String, Reordered (Text.lines text.toList) (Text.lines text'.toList) →
      parse text' = parse text ∧
      (Rendering.ofText text').map (fun r => (r.sql, r.options)) =
        (Rendering.ofText text).map fun r => (r.sql, r.options) := by
  refine ⟨directives_eq_filterMap_lines text, foldl_apply_empty _, ?_, ?_⟩
  · intro more
    unfold parse
    rw [directives_append, List.foldl_append]
  · intro text' h
    have hparse := parse_eq_of_reordered h
    refine ⟨hparse, ?_⟩
    rw [Rendering.map_ofText, Rendering.map_ofText, hparse]

/-- Two routes, with a table and a remark between them. -/
def routedText : String :=
  "ROUTE gcs lane=hot\nOPEN users\n# note\nROUTE sql\r\n"

/-- The same lines with other line ends; the routes are still in order. -/
def reroutedText : String :=
  "# note\r\nROUTE gcs lane=hot\nROUTE sql\nOPEN users"

/-- The last route gives the target, and the lane of the first one stays. -/
theorem reroutedText_parse :
    Reordered (Text.lines routedText.toList) (Text.lines reroutedText.toList) ∧
      parse reroutedText = parse routedText ∧
      parse reroutedText =
        { table := some "users", filters := [], columns := [], timeWindow := none,
          target := some .cloudsql, lane := some "hot" } := by
  have hlines : Reordered (Text.lines routedText.toList) (Text.lines reroutedText.toList) := by
    refine ⟨by decide, ?_⟩
    intro k
    cases k <;> decide
  exact ⟨hlines, ((parse_closed_form routedText).2.2.2 reroutedText hlines).1, by decide +kernel⟩

end Script

end HintedSql
