import HintedSql.Sql.Hint
import HintedSql.Proofs.Sql.Quoted
import HintedSql.Proofs.Routing.Target
import Mathlib.Tactic.Lemma
set_option relaxedAutoImplicit false
set_option autoImplicit false

/-!
# The hint block determines the hints

Time block and lane are copied into their lines as they are, quotes and brackets included. Still the
block tells them: a line feed can only come from between two lines, the second character of a line
says which hint it is, and what follows the copied text in its line is fixed. The target stands in
quotes and has none of its own, so the lane begins behind the first quote that closes it.

An empty lane is not written, so it cannot be told from none.

## Main definitions

* `HintedSql.Route.shownLane` — the lane that a hint line shows.
* `HintedSql.Options.OnOneLine` — hints without line feeds.
* `HintedSql.Sql.hintBlock` — the hint lines as one text.

## Main results

* `HintedSql.Sql.routeHint_eq_iff`, `HintedSql.Sql.hints_eq_iff` — what equal hint lines have in
  common.
* `HintedSql.Sql.hintBlock_determines` — equal blocks come from the same hints.
-/

namespace HintedSql

/-- The lane that a hint line shows: an empty one counts as none. -/
def Route.shownLane (r : Route) : Option String :=
  if r.lane = some "" then none else r.lane

/-- Neither the time block nor the lane has a line feed. -/
structure Options.OnOneLine (o : Options) : Prop where
  timeBlock : ∀ value ∈ o.timeBlock, '\n' ∉ value.toList
  lane : ∀ r ∈ o.route, ∀ lane ∈ r.lane, '\n' ∉ lane.toList

namespace Sql

/-- The hint lines as one text. -/
def hintBlock (o : Options) : String :=
  String.intercalate "\n" (hints o)

/-! ## Single lines -/

/-- What follows the quoted target in the line of a route. -/
def afterTarget : Option String → String
  | none => ")"
  | some lane => ", lane => '" ++ lane ++ "')"

/-- The line of a route shows the target in quotes and then the lane, unless that is empty. -/
lemma routeHint_eq_append (r : Route) :
    routeHint r = "@route(target => '" ++ (r.target.name ++ "'" ++ afterTarget r.shownLane) := by
  unfold routeHint Route.shownLane
  split
  · rename_i hlane
    simp [hlane, afterTarget, String.append_assoc]
  · rename_i hlane
    simp [hlane, afterTarget, String.append_assoc]
  · rename_i lane hne hlane
    have hshown : ¬ some lane = some "" := by simpa using hne
    rw [hlane, if_neg hshown]
    apply String.toList_inj.mp
    simp [afterTarget]

/-- A time block can be read off its line. -/
lemma timeHint_injective : Function.Injective timeHint := by
  intro value value' h
  unfold timeHint at h
  rwa [String.append_left_inj, String.append_right_inj] at h

/-- A lane is told by a comma, and then it ends in front of the last two characters. -/
lemma afterTarget_injective : Function.Injective afterTarget := by
  intro lane lane' h
  have hlist := congrArg String.toList h
  cases lane with
  | none =>
    cases lane' with
    | none => rfl
    | some lane' => simp [afterTarget] at hlist
  | some lane =>
    cases lane' with
    | none => simp [afterTarget] at hlist
    | some lane' =>
      unfold afterTarget at h
      rw [String.append_left_inj, String.append_right_inj] at h
      rw [h]

/-- Scanning from the quote that opens the target gives the target's name and what follows it. -/
lemma scanQuoted_target (r : Route) :
    scanQuoted (r.target.name ++ "'" ++ afterTarget r.shownLane).toList =
      some (r.target.name.toList, (afterTarget r.shownLane).toList) := by
  have hname : escape r.target.name.toList = r.target.name.toList := by
    cases r.target <;> decide
  have hhead : (afterTarget r.shownLane).toList.head? ≠ some '\'' := by
    cases r.shownLane <;> simp [afterTarget]
  have hscan := scanQuoted_escape r.target.name.toList _ hhead
  rw [hname] at hscan
  simpa using hscan

/-- **Equal route lines** show the same target and the same lane. -/
theorem routeHint_eq_iff {r r' : Route} :
    routeHint r = routeHint r' ↔ r.target = r'.target ∧ r.shownLane = r'.shownLane := by
  rw [routeHint_eq_append, routeHint_eq_append, String.append_right_inj]
  constructor
  · intro h
    have hscan := scanQuoted_target r
    rw [h, scanQuoted_target r'] at hscan
    obtain ⟨hname, hafter⟩ := Prod.mk.inj (Option.some.inj hscan)
    refine ⟨Target.name_injective (String.toList_inj.mp hname.symm), ?_⟩
    exact afterTarget_injective (String.toList_inj.mp hafter.symm)
  · rintro ⟨htarget, hlane⟩
    rw [htarget, hlane]

/-- The second character tells a time line from a route line. -/
lemma timeHint_ne_routeHint (value : String) (r : Route) : timeHint value ≠ routeHint r := by
  rw [routeHint_eq_append]
  intro h
  have hlist := congrArg String.toList h
  unfold timeHint at hlist
  simp at hlist

/-! ## All lines -/

/-- **Equal hint lines** come from the same time block, target and shown lane. -/
theorem hints_eq_iff {o o' : Options} :
    hints o = hints o' ↔
      o.timeBlock = o'.timeBlock ∧ o.route.map Route.target = o'.route.map Route.target ∧
        o.route.bind Route.shownLane = o'.route.bind Route.shownLane := by
  obtain ⟨timeBlock, route⟩ := o
  obtain ⟨timeBlock', route'⟩ := o'
  cases timeBlock <;> cases timeBlock' <;> cases route <;> cases route' <;>
    simp [hints, timeHint_injective.eq_iff, routeHint_eq_iff, timeHint_ne_routeHint,
      (timeHint_ne_routeHint _ _).symm]

/-- The line of a time block is one line if its value is. -/
lemma newline_notMem_timeHint {value : String} (h : '\n' ∉ value.toList) :
    '\n' ∉ (timeHint value).toList := by
  unfold timeHint
  simp [h]

/-- The line of a route is one line if its lane is. -/
lemma newline_notMem_routeHint {r : Route} (h : ∀ lane ∈ r.lane, '\n' ∉ lane.toList) :
    '\n' ∉ (routeHint r).toList := by
  have hname : '\n' ∉ r.target.name.toList := Target.notMem_name (by decide) r.target
  have hafter : '\n' ∉ (afterTarget r.shownLane).toList := by
    cases hlane : r.shownLane with
    | none => simp [afterTarget]
    | some lane =>
      have hmem : lane ∈ r.lane := by
        unfold Route.shownLane at hlane
        split at hlane
        · cases hlane
        · exact hlane
      simp [afterTarget, h lane hmem]
  rw [routeHint_eq_append]
  simp [hname, hafter]

/-- Hints without line feeds stay on their lines. -/
lemma newline_notMem_hints {o : Options} (ho : o.OnOneLine) :
    ∀ line ∈ hints o, '\n' ∉ line.toList := by
  intro line hline
  simp only [hints, List.mem_append, Option.mem_toList, Option.map_eq_some_iff] at hline
  rcases hline with ⟨value, hvalue, rfl⟩ | ⟨r, hr, rfl⟩
  · exact newline_notMem_timeHint (ho.timeBlock value hvalue)
  · exact newline_notMem_routeHint (ho.lane r hr)

/-- No line of hints is empty. -/
lemma ne_empty_of_mem_hints {o : Options} {line : String} (h : line ∈ hints o) : line ≠ "" := by
  simp only [hints, List.mem_append, Option.mem_toList, Option.map_eq_some_iff] at h
  rcases h with ⟨value, -, rfl⟩ | ⟨r, -, rfl⟩
  · unfold timeHint
    simp
  · rw [routeHint_eq_append]
    simp

/-- The only block without lines is the empty one. -/
lemma hintBlock_eq_empty_iff {o : Options} : hintBlock o = "" ↔ hints o = [] := by
  unfold hintBlock
  constructor
  · intro h
    cases hlines : hints o with
    | nil => rfl
    | cons line lines =>
      have hline : line ≠ "" := ne_empty_of_mem_hints (by rw [hlines]; exact List.mem_cons_self)
      rw [hlines] at h
      cases lines <;> simp_all [String.intercalate_cons_cons]
  · intro h
    rw [h, String.intercalate_nil]

/-- The other blocks are split at their line feeds into their lines. -/
lemma splitOn_hintBlock {o : Options} (ho : o.OnOneLine) (hne : hints o ≠ []) :
    (hintBlock o).toList.splitOn '\n' = (hints o).map String.toList := by
  have hbreaks : ∀ line ∈ (hints o).map String.toList, '\n' ∉ line := by
    simpa using newline_notMem_hints ho
  have hsplit := List.splitOn_intercalate '\n' hbreaks (by simpa using hne)
  have hnewline : "\n".toList = ['\n'] := rfl
  rw [hintBlock, String.toList_intercalate, hnewline, hsplit]

/-- **The lines can be told from the block.** -/
theorem hints_eq_of_hintBlock_eq {o o' : Options} (ho : o.OnOneLine) (ho' : o'.OnOneLine)
    (h : hintBlock o = hintBlock o') : hints o = hints o' := by
  by_cases hnil : hints o = []
  · have hempty : hintBlock o' = "" := h ▸ hintBlock_eq_empty_iff.mpr hnil
    rw [hnil, hintBlock_eq_empty_iff.mp hempty]
  · have hnil' : hints o' ≠ [] := by
      intro hnil'
      apply hnil
      rw [← hintBlock_eq_empty_iff, h, hintBlock_eq_empty_iff, hnil']
    have hlines := splitOn_hintBlock ho hnil
    rw [h, splitOn_hintBlock ho' hnil'] at hlines
    exact (List.map_inj_right fun _ _ => String.toList_inj.mp).mp hlines.symm

/-- **The hint block determines the hints.** Whatever the time blocks and lanes hold, equal blocks
come from the same time block, the same target and the same lane, where an empty lane is none; so
the same hints are there, and equally many. Conversely, nothing else changes the block. -/
theorem hintBlock_determines {o o' : Options} (ho : o.OnOneLine) (ho' : o'.OnOneLine) :
    (hintBlock o = hintBlock o' ↔
      o.timeBlock = o'.timeBlock ∧ o.route.map Route.target = o'.route.map Route.target ∧
        o.route.bind Route.shownLane = o'.route.bind Route.shownLane) ∧
    (hintBlock o = hintBlock o' → (hints o).length = (hints o').length ∧
      o.timeBlock.isSome = o'.timeBlock.isSome ∧ o.route.isSome = o'.route.isSome) := by
  have hlines : hintBlock o = hintBlock o' ↔ hints o = hints o' := by
    refine ⟨hints_eq_of_hintBlock_eq ho ho', fun h => ?_⟩
    rw [hintBlock, h, ← hintBlock]
  refine ⟨hlines.trans hints_eq_iff, fun h => ?_⟩
  have heq := hlines.mp h
  obtain ⟨htime, htarget, -⟩ := hints_eq_iff.mp heq
  refine ⟨by rw [heq], by rw [htime], ?_⟩
  simpa using congrArg Option.isSome htarget

/-- Hints with a time block that imitates a route line. -/
def imitatingHints (lane : Option String) : Options :=
  ⟨some "Q1)@route(target => 'gcs'", some ⟨.gcs, lane⟩⟩

/-- A time block that looks like a route is told from one, and an empty lane is not told from
none. -/
theorem imitatingHints_determined :
    (∀ lane ∈ [none, some "", some "')"], (imitatingHints lane).OnOneLine) ∧
    hintBlock (imitatingHints (some "")) = hintBlock (imitatingHints none) ∧
    hintBlock (imitatingHints (some "')")) ≠ hintBlock (imitatingHints none) := by
  have honLine : ∀ lane : Option String, (∀ text ∈ lane, '\n' ∉ text.toList) →
      (imitatingHints lane).OnOneLine := by
    intro lane hlane
    exact ⟨by simp [imitatingHints], by simpa [imitatingHints] using hlane⟩
  have hnone := honLine none (by simp)
  have hempty := honLine (some "") (by simp)
  have hquote := honLine (some "')") (by simp)
  refine ⟨by simp [hnone, hempty, hquote], ?_, ?_⟩
  · rw [(hintBlock_determines hempty hnone).1]
    simp [imitatingHints, Route.shownLane]
  · rw [Ne, (hintBlock_determines hquote hnone).1]
    simp [imitatingHints, Route.shownLane]

end Sql

end HintedSql
