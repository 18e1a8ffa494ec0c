import HintedSql.Proofs.Sql.HintBlock
import Mathlib.Tactic.Lemma
set_option relaxedAutoImplicit false
set_option autoImplicit false

/-!
# Lanes as literals

In the line of a route the lane stands between single quotes, and it is copied there as it is. Read
as a literal, with the quoting rule of values, it is therefore what it looks like only if it has no
quotes of its own. A lane in which all quotes are doubled is closed where it should be, and read as
the text that it spells. Any other lane ends too early and leaves the rest of itself in the line, or
swallows the closing quote and never ends.

## Main definitions

* `HintedSql.Sql.laneOpening` — the line of a route up to the quote that opens the lane.
* `HintedSql.Sql.laneTail` — what stands behind that quote.

## Main results

* `HintedSql.Sql.toList_routeHint_of_lane` — a lane is copied between its quotes.
* `HintedSql.Sql.scanQuoted_lane` — what a lane is read as, for every lane.
-/

namespace HintedSql.Sql

/-- The line of a route up to the quote that opens the lane. -/
def laneOpening (t : Target) : String :=
  "@route(target => '" ++ t.name ++ "', lane => "

/-- What stands behind the quote that opens a lane. -/
def laneTail (lane : String) : List Char :=
  lane.toList ++ ['\'', ')']

/-- A lane is copied between its quotes. -/
theorem toList_routeHint_of_lane (t : Target) {lane : String} (hne : lane ≠ "") :
    (routeHint ⟨t, some lane⟩).toList = (laneOpening t).toList ++ '\'' :: laneTail lane := by
  have hshown : Route.shownLane ⟨t, some lane⟩ = some lane := by simp [Route.shownLane, hne]
  rw [routeHint_eq_append, hshown]
  unfold laneOpening afterTarget laneTail
  simp

/-! ## What is read behind the opening quote -/

variable {lane : String} {s : List Char}

/-- The literal ends with the lane if the lane spells it. -/
lemma scanQuoted_laneTail_whole_iff :
    scanQuoted (laneTail lane) = some (s, [')']) ↔ lane.toList = escape s := by
  have hclose : laneTail lane = lane.toList ++ '\'' :: [')'] := rfl
  rw [scanQuoted_eq_some_iff, hclose, List.append_cancel_right_eq]
  exact ⟨And.left, fun h => ⟨h, by simp⟩⟩

/-- The literal ends inside the lane if a quote that is not doubled stands there. -/
lemma scanQuoted_laneTail_part_iff {more : List Char} (hmore : more ≠ []) :
    scanQuoted (laneTail lane) = some (s, more ++ ['\'', ')']) ↔
      lane.toList = escape s ++ '\'' :: more ∧ more.head? ≠ some '\'' := by
  have hclose : escape s ++ '\'' :: (more ++ ['\'', ')']) =
      (escape s ++ '\'' :: more) ++ ['\'', ')'] := by simp
  have hhead : (more ++ ['\'', ')']).head? = more.head? := by
    cases more with
    | nil => exact absurd rfl hmore
    | cons c cs => rfl
  rw [scanQuoted_eq_some_iff, laneTail, hclose, List.append_cancel_right_eq, hhead]

/-- Every lane spells a text with doubled quotes, up to a single quote if it has one. -/
lemma lane_cases (lane : String) :
    (∃ s, lane.toList = escape s) ∨ (∃ s, lane.toList = escape s ++ ['\'']) ∨
      ∃ s more, more ≠ [] ∧ lane.toList = escape s ++ '\'' :: more ∧ more.head? ≠ some '\'' := by
  cases hscan : scanQuoted lane.toList with
  | none => exact .inl (scanQuoted_eq_none_iff.mp hscan)
  | some p =>
    obtain ⟨hlane, hhead⟩ := scanQuoted_eq_some_iff.mp hscan
    by_cases hmore : p.2 = []
    · exact .inr (.inl ⟨p.1, by rw [hlane, hmore]⟩)
    · exact .inr (.inr ⟨p.1, p.2, hmore, hlane, hhead⟩)

/-- A last quote that is not doubled makes the closing quote a doubled one. -/
lemma scanQuoted_laneTail_of_last (h : lane.toList = escape s ++ ['\'']) :
    scanQuoted (laneTail lane) = none := by
  refine scanQuoted_eq_none_iff.mpr ⟨s ++ ['\'', ')'], ?_⟩
  rw [laneTail, h, escape_append]
  simp [escape]

/-- The literal never ends if the lane spells it up to a last quote. -/
lemma scanQuoted_laneTail_none_iff :
    scanQuoted (laneTail lane) = none ↔ ∃ s, lane.toList = escape s ++ ['\''] := by
  refine ⟨fun h => ?_, fun ⟨_, hs⟩ => scanQuoted_laneTail_of_last hs⟩
  obtain ⟨s, hs⟩ | hlast | ⟨s, more, hmore, hpart⟩ := lane_cases lane
  · rw [scanQuoted_laneTail_whole_iff.mpr hs] at h
    cases h
  · exact hlast
  · rw [(scanQuoted_laneTail_part_iff hmore).mpr hpart] at h
    cases h

/-- What is left behind a literal is the closing bracket, or the rest of the lane before it. -/
lemma rest_of_scanQuoted_laneTail {rest : List Char}
    (h : scanQuoted (laneTail lane) = some (s, rest)) :
    rest = [')'] ∨ ∃ more, more ≠ [] ∧ rest = more ++ ['\'', ')'] := by
  obtain ⟨t, ht⟩ | ⟨t, ht⟩ | ⟨t, more, hmore, hpart⟩ := lane_cases lane
  · rw [scanQuoted_laneTail_whole_iff.mpr ht] at h
    exact .inl (Prod.mk.inj (Option.some.inj h)).2.symm
  · rw [scanQuoted_laneTail_of_last ht] at h
    cases h
  · rw [(scanQuoted_laneTail_part_iff hmore).mpr hpart] at h
    exact .inr ⟨more, hmore, (Prod.mk.inj (Option.some.inj h)).2.symm⟩

/-- **The lane as a literal.** Scanned from the quote that opens it, a lane is read as exactly its
own text, up to exactly the closing bracket, if and only if it has no quotes. In general the literal
is read up to the closing bracket as the text that the lane spells with doubled quotes; it ends
inside the lane at the first quote that is not doubled and leaves the rest of the lane in the line;
or it never ends, because the lane ends in such a quote. -/
theorem scanQuoted_lane (t : Target) {lane : String} (hne : lane ≠ "") :
    ∃ tail, (routeHint ⟨t, some lane⟩).toList = (laneOpening t).toList ++ '\'' :: tail ∧
      (scanQuoted tail = some (lane.toList, [')']) ↔ '\'' ∉ lane.toList) ∧
      (∀ s, scanQuoted tail = some (s, [')']) ↔ lane.toList = escape s) ∧
      (∀ s rest, rest ≠ [')'] → (scanQuoted tail = some (s, rest) ↔
        ∃ more, more ≠ [] ∧ rest = more ++ ['\'', ')'] ∧
          lane.toList = escape s ++ '\'' :: more ∧ more.head? ≠ some '\'')) ∧
      (scanQuoted tail = none ↔ ∃ s, lane.toList = escape s ++ ['\'']) := by
  refine ⟨laneTail lane, toList_routeHint_of_lane t hne, ?_,
    fun s => scanQuoted_laneTail_whole_iff, fun s rest hrest => ?_, scanQuoted_laneTail_none_iff⟩
  · rw [scanQuoted_laneTail_whole_iff, eq_comm, escape_eq_self_iff]
  · constructor
    · intro h
      obtain hclose | ⟨more, hmore, rfl⟩ := rest_of_scanQuoted_laneTail h
      · exact absurd hclose hrest
      · exact ⟨more, hmore, rfl, (scanQuoted_laneTail_part_iff hmore).mp h⟩
    · rintro ⟨more, hmore, rfl, hlane⟩
      exact (scanQuoted_laneTail_part_iff hmore).mpr hlane

/-- A lane with a doubled quote in it is read as one with a single quote. -/
theorem doubledQuote_lane :
    ∃ tail, (routeHint ⟨.gcs, some "o''clock"⟩).toList =
        (laneOpening .gcs).toList ++ '\'' :: tail ∧
      scanQuoted tail ≠ some ("o''clock".toList, [')']) ∧
      scanQuoted tail = some ("o'clock".toList, [')']) := by
  have hne : "o''clock" ≠ "" := by decide
  obtain ⟨tail, hline, hexact, hwhole, -, -⟩ := scanQuoted_lane .gcs hne
  refine ⟨tail, hline, ?_, (hwhole _).mpr (by decide)⟩
  rw [Ne, hexact]
  decide

/-- A lane with quotes of its own closes its literal and forges an argument: it is read as `hot`,
and a second lane is left in the line. -/
theorem forgedLane_closes_early :
    routeHint ⟨.gcs, some "hot', lane => 'cold"⟩ =
        laneOpening .gcs ++ "'" ++ "hot', lane => 'cold')" ∧
      scanQuoted "hot', lane => 'cold')".toList =
        some ("hot".toList, ", lane => 'cold')".toList) ∧
      scanQuoted "hot', lane => 'cold')".toList ≠
        some ("hot', lane => 'cold".toList, [')']) := by
  have hscan : scanQuoted "hot', lane => 'cold')".toList =
      some ("hot".toList, ", lane => 'cold')".toList) := by decide
  refine ⟨by decide, hscan, ?_⟩
  rw [hscan]
  decide

end HintedSql.Sql
