import HintedSql.Settings.Override
import Mathlib.Tactic.Lemma
set_option relaxedAutoImplicit false
set_option autoImplicit false

/-!
# Layers of environment variables

A default route is a target and a lane in one record, but the two are overridden by variables of
their own. Seen as two parts, of which the lane needs the target, overriding acts on each part
alone: a variable that is set replaces the part, and one that is not leaves it. So overriding with
one layer of variables after another is overriding with both at once, where the later layer goes
first.

What can go wrong is that the route variable names no target, or that there is a lane without a
target from either side. If overriding fails, it has replaced the texts and nothing else.

## Main definitions

* `HintedSql.Variables.overlay` — two layers of variables as one.
* `HintedSql.Settings.withParts` — settings with a default route in two parts.
* `HintedSql.Settings.layered` — settings in which each part is replaced.

## Main results

* `HintedSql.Settings.overridden_eq_ok_iff`, `HintedSql.Settings.exists_overridden_eq_error_iff` —
  when overriding succeeds, with what, and when it fails.
* `HintedSql.Settings.layered_layered` — two layers are one.
* `HintedSql.Settings.override_override_self` — a layer applied twice.
* `HintedSql.Settings.override_layers` — all of this for overriding.
-/

namespace HintedSql

/-- Two layers of variables as one: what the upper layer does not set is looked up in the lower. -/
def Variables.overlay (upper lower : Variables) : Variables :=
  fun name => (upper name).or (lower name)

/-- A variable has the value of the upper layer, or else that of the lower one. -/
@[simp] lemma Variables.overlay_apply (upper lower : Variables) (name : String) :
    upper.overlay lower name = (upper name).or (lower name) := rfl

/-- A layer laid on itself adds nothing. -/
@[simp] lemma Variables.overlay_self (vars : Variables) : vars.overlay vars = vars := by
  funext name
  simp

/-- The default target that variables set, if they set one. -/
def Variables.target (vars : Variables) : Except UnknownTarget (Option Target) :=
  (vars "RABRIDGE_DEFAULT_ROUTE").mapM Target.parse

/-- Where the route is not set there is no target. -/
lemma Variables.target_of_none {vars : Variables} (h : vars "RABRIDGE_DEFAULT_ROUTE" = none) :
    vars.target = .ok none := by
  rw [target, h]
  rfl

/-- A route that names a target sets the target. -/
lemma Variables.target_of_parse {vars : Variables} {name : String} {t : Target}
    (h : vars "RABRIDGE_DEFAULT_ROUTE" = some name) (hparse : Target.parse name = .ok t) :
    vars.target = .ok (some t) := by
  rw [target, h, Option.mapM_some, hparse]
  rfl

/-- A route that names no target is an error. -/
lemma Variables.target_of_parse_error {vars : Variables} {name : String} {e : UnknownTarget}
    (h : vars "RABRIDGE_DEFAULT_ROUTE" = some name) (hparse : Target.parse name = .error e) :
    vars.target = .error e := by
  rw [target, h, Option.mapM_some, hparse]
  rfl

/-- The default lane that variables set, if they set one. -/
def Variables.lane (vars : Variables) : Option String :=
  vars "RABRIDGE_DEFAULT_LANE"

/-- The lane comes from the upper layer, or else from the lower one. -/
@[simp] lemma Variables.lane_overlay (upper lower : Variables) :
    (upper.overlay lower).lane = upper.lane.or lower.lane := rfl

namespace Settings

/-! ## A default route in two parts -/

/-- The default target. -/
def target (s : Settings) : Option Target :=
  s.defaults.route.map Route.target

/-- The default lane. -/
def lane (s : Settings) : Option String :=
  s.defaults.route.bind Route.lane

/-- Settings with another default route, given in two parts; without a target there is no route. -/
def withParts (s : Settings) (target : Option Target) (lane : Option String) : Settings :=
  { s with defaults := { s.defaults with route := target.map fun t => ⟨t, lane⟩ } }

/-- A lane stands beside a target. -/
lemma isSome_target_of_lane {s : Settings} (h : s.lane.isSome) : s.target.isSome := by
  unfold lane at h
  unfold target
  cases hroute : s.defaults.route with
  | none => simp [hroute] at h
  | some r => simp

/-- Settings keep their own target and lane. -/
@[simp] lemma withParts_self (s : Settings) : s.withParts s.target s.lane = s := by
  obtain ⟨logging, timeBlock, route⟩ := s
  cases route <;> rfl

/-- The target that is set is the target. -/
@[simp] lemma target_withParts (s : Settings) (target : Option Target) (lane : Option String) :
    (s.withParts target lane).target = target := by
  cases target <;> rfl

/-- The lane that is set is the lane, if there is a target to go with it. -/
lemma lane_withParts {target : Option Target} {lane : Option String}
    (h : lane.isSome → target.isSome) (s : Settings) : (s.withParts target lane).lane = lane := by
  cases target with
  | some t => rfl
  | none =>
    cases lane with
    | none => rfl
    | some l => simp at h

/-- Of two changes of target and lane the last one counts. -/
@[simp] lemma withParts_withParts (s : Settings) (target target' : Option Target)
    (lane lane' : Option String) :
    (s.withParts target lane).withParts target' lane' = s.withParts target' lane' := rfl

/-! ## One layer -/

/-- The texts of the log settings do not touch the target. -/
@[simp] lemma target_overrideTexts (s : Settings) (vars : Variables) :
    (s.overrideTexts vars).target = s.target := rfl

/-- The texts of the log settings do not touch the lane. -/
@[simp] lemma lane_overrideTexts (s : Settings) (vars : Variables) :
    (s.overrideTexts vars).lane = s.lane := rfl

/-- The target and the lane do not touch the texts of the log settings. -/
lemma overrideTexts_withParts (s : Settings) (vars : Variables) (target : Option Target)
    (lane : Option String) :
    (s.withParts target lane).overrideTexts vars =
      (s.overrideTexts vars).withParts target lane := rfl

/-- Texts are overridden one by one, so that two layers are one. -/
lemma overrideTexts_overrideTexts (s : Settings) (lower upper : Variables) :
    (s.overrideTexts lower).overrideTexts upper = s.overrideTexts (upper.overlay lower) := by
  simp [overrideTexts, LogSettings.override, Option.getD_or, Option.or_assoc]

/-- A target from the variables takes the place of the one that was there. -/
lemma overrideTarget_eq {vars : Variables} {target : Option Target}
    (h : vars.target = .ok target) (s : Settings) :
    s.overrideTarget vars = (s.withParts (target.or s.target) s.lane, none) := by
  unfold overrideTarget
  cases hroute : vars "RABRIDGE_DEFAULT_ROUTE" with
  | none =>
    rw [Variables.target_of_none hroute] at h
    obtain rfl : none = target := Except.ok.inj h
    simp
  | some name =>
    cases hparse : Target.parse name with
    | error e =>
      rw [Variables.target_of_parse_error hroute hparse] at h
      cases h
    | ok t =>
      rw [Variables.target_of_parse hroute hparse] at h
      obtain rfl : some t = target := Except.ok.inj h
      simp only [hparse]
      rfl

/-- A route that names no target is reported, and changes nothing. -/
lemma overrideTarget_of_error {vars : Variables} {e : UnknownTarget}
    (h : vars.target = .error e) (s : Settings) :
    s.overrideTarget vars = (s, some (.route e)) := by
  unfold overrideTarget
  cases hroute : vars "RABRIDGE_DEFAULT_ROUTE" with
  | none =>
    rw [Variables.target_of_none hroute] at h
    cases h
  | some name =>
    cases hparse : Target.parse name with
    | error e' =>
      rw [Variables.target_of_parse_error hroute hparse] at h
      obtain rfl : e' = e := Except.error.inj h
      simp only [hparse]
    | ok t =>
      rw [Variables.target_of_parse hroute hparse] at h
      cases h

/-- A lane from the variables takes the place of the one that was there, if there is a target. -/
lemma overrideLane_eq {s : Settings} {vars : Variables}
    (h : vars.lane.isSome → s.target.isSome) :
    s.overrideLane vars = (s.withParts s.target (vars.lane.or s.lane), none) := by
  unfold Variables.lane at *
  unfold overrideLane
  cases hlane : vars "RABRIDGE_DEFAULT_LANE" with
  | none => simp
  | some lane =>
    cases hroute : s.defaults.route with
    | none => simp [hlane, target, hroute] at h
    | some r =>
      have htarget : s.target = some r.target := by simp [target, hroute]
      rw [htarget]
      rfl

/-- A lane without a target is reported, and changes nothing. -/
lemma overrideLane_of_none {s : Settings} {vars : Variables} (hlane : vars.lane.isSome)
    (htarget : s.target = none) : s.overrideLane vars = (s, some .lane) := by
  obtain ⟨lane, hlane⟩ := Option.isSome_iff_exists.mp hlane
  unfold Variables.lane at hlane
  have hroute : s.defaults.route = none := by simpa [target] using htarget
  unfold overrideLane
  rw [hlane, hroute]

/-- Settings in which variables with a given target have replaced each part that they set. -/
def layered (s : Settings) (vars : Variables) (target : Option Target) : Settings :=
  (s.overrideTexts vars).withParts (target.or s.target) (vars.lane.or s.lane)

/-- There is a target for the lane that variables set. -/
def Lands (s : Settings) (vars : Variables) (target : Option Target) : Prop :=
  vars.lane.isSome → (target.or s.target).isSome

/-- **A layer that can be used** replaces each part that it sets. -/
theorem override_of_lands {s : Settings} {vars : Variables} {target : Option Target}
    (h : vars.target = .ok target) (hlands : s.Lands vars target) :
    s.override vars = (s.layered vars target, none) := by
  have hlane : s.lane.isSome → (target.or s.target).isSome := by
    intro hlane
    simp [isSome_target_of_lane hlane]
  unfold override
  rw [overrideTarget_eq h, target_overrideTexts, lane_overrideTexts]
  dsimp only
  rw [overrideLane_eq (by rw [target_withParts]; exact hlands), target_withParts,
    lane_withParts hlane, withParts_withParts]
  rfl

/-- A layer that cannot be used has replaced the texts and nothing else. -/
lemma override_of_not_lands {s : Settings} {vars : Variables} {target : Option Target}
    (h : vars.target = .ok target) (hlands : ¬ s.Lands vars target) :
    s.override vars = (s.overrideTexts vars, some .lane) := by
  unfold Lands at hlands
  obtain ⟨hlane, hnone⟩ := Classical.not_imp.mp hlands
  obtain ⟨rfl, htarget⟩ : target = none ∧ s.target = none := by simpa using hnone
  unfold override
  rw [overrideTarget_eq h, Option.none_or, withParts_self]
  exact overrideLane_of_none hlane htarget

/-- After a route that names no target the lane is not looked at. -/
lemma override_of_error {s : Settings} {vars : Variables} {e : UnknownTarget}
    (h : vars.target = .error e) :
    s.override vars = (s.overrideTexts vars, some (.route e)) := by
  unfold override
  rw [overrideTarget_of_error h]

/-- Settings are overridden without an error exactly if nothing is reported. -/
lemma overridden_eq_ok_iff_override {s s' : Settings} {vars : Variables} :
    s.overridden vars = .ok s' ↔ s.override vars = (s', none) := by
  unfold overridden
  rcases s.override vars with ⟨t, _ | e⟩ <;> simp

/-- **When overriding succeeds**, and with what. -/
theorem overridden_eq_ok_iff {s s' : Settings} {vars : Variables} :
    s.overridden vars = .ok s' ↔
      ∃ target, vars.target = .ok target ∧ s.Lands vars target ∧ s.layered vars target = s' := by
  rw [overridden_eq_ok_iff_override]
  cases htarget : vars.target with
  | error e => simp [override_of_error htarget]
  | ok target =>
    by_cases hlands : s.Lands vars target
    · simp [override_of_lands htarget hlands, hlands]
    · simp [override_of_not_lands htarget hlands, hlands]

/-- Overriding fails where it does not succeed: with a name of no target, or with a lane for which
neither the variables nor the settings have a target. -/
theorem exists_overridden_eq_error_iff {s : Settings} {vars : Variables} :
    (∃ e, s.overridden vars = .error e) ↔
      (∃ name, vars "RABRIDGE_DEFAULT_ROUTE" = some name ∧ ∃ e, Target.parse name = .error e) ∨
        ((vars "RABRIDGE_DEFAULT_LANE").isSome ∧ vars "RABRIDGE_DEFAULT_ROUTE" = none ∧
          s.defaults.route = none) := by
  have hfails : (∃ e, s.overridden vars = .error e) ↔
      ¬ ∃ target, vars.target = .ok target ∧ s.Lands vars target := by
    cases hresult : s.overridden vars with
    | ok s' =>
      obtain ⟨target, htarget, hlands, -⟩ := overridden_eq_ok_iff.mp hresult
      simpa using ⟨target, htarget, hlands⟩
    | error e =>
      suffices h : ¬ ∃ target, vars.target = .ok target ∧ s.Lands vars target by simpa using h
      rintro ⟨target, htarget, hlands⟩
      rw [overridden_eq_ok_iff.mpr ⟨target, htarget, hlands, rfl⟩] at hresult
      cases hresult
  rw [hfails]
  cases hroute : vars "RABRIDGE_DEFAULT_ROUTE" with
  | none => simp [Variables.target_of_none hroute, Lands, Variables.lane, target]
  | some name =>
    cases hparse : Target.parse name with
    | error e => simp [Variables.target_of_parse_error hroute hparse, hparse]
    | ok t => simp [Variables.target_of_parse hroute hparse, hparse, Lands]

/-! ## Two layers -/

/-- A target that the upper layer does not set is that of the lower. -/
lemma target_overlay {lower upper : Variables} {target target' : Option Target}
    (h : lower.target = .ok target) (h' : upper.target = .ok target') :
    (upper.overlay lower).target = .ok (target'.or target) := by
  cases hroute : upper "RABRIDGE_DEFAULT_ROUTE" with
  | none =>
    rw [Variables.target_of_none hroute] at h'
    obtain rfl : none = target' := Except.ok.inj h'
    rw [Option.none_or, ← h, Variables.target, Variables.overlay_apply, hroute, Option.none_or]
    rfl
  | some name =>
    have hname : upper.overlay lower "RABRIDGE_DEFAULT_ROUTE" = some name := by simp [hroute]
    cases hparse : Target.parse name with
    | error e =>
      rw [Variables.target_of_parse_error hroute hparse] at h'
      cases h'
    | ok t =>
      rw [Variables.target_of_parse hroute hparse] at h'
      obtain rfl : some t = target' := Except.ok.inj h'
      exact Variables.target_of_parse hname hparse

/-- **Two layers are one.** What the lower layer leaves in each part is there for the upper one. -/
theorem layered_layered {s : Settings} {lower : Variables} {target : Option Target}
    (hlands : s.Lands lower target) (upper : Variables) (target' : Option Target) :
    (s.layered lower target).layered upper target' =
      s.layered (upper.overlay lower) (target'.or target) := by
  have hlane : (lower.lane.or s.lane).isSome → (target.or s.target).isSome := by
    intro h
    obtain h | h : lower.lane.isSome ∨ s.lane.isSome := by simpa using h
    · exact hlands h
    · simp [isSome_target_of_lane h]
  unfold layered
  rw [target_withParts, lane_withParts hlane, overrideTexts_withParts, withParts_withParts,
    overrideTexts_overrideTexts, Option.or_assoc]
  rw [Variables.lane_overlay, Option.or_assoc]

/-- A lane of either layer has a target in one of them or in the settings. -/
lemma Lands.overlay {s : Settings} {lower upper : Variables} {target target' : Option Target}
    (h : s.Lands lower target) (h' : (s.layered lower target).Lands upper target') :
    s.Lands (upper.overlay lower) (target'.or target) := by
  unfold Lands layered at *
  rw [target_withParts] at h'
  intro hlane
  rw [Option.or_assoc]
  obtain hlane | hlane : upper.lane.isSome ∨ lower.lane.isSome := by simpa using hlane
  · exact h' hlane
  · simp [h hlane]

/-- A layer that has been used can be used again, and does nothing then. -/
lemma layered_self {s : Settings} {vars : Variables} {target : Option Target}
    (hlands : s.Lands vars target) :
    (s.layered vars target).Lands vars target ∧
      (s.layered vars target).layered vars target = s.layered vars target := by
  constructor
  · intro hlane
    unfold layered
    simp [hlands hlane]
  · rw [layered_layered hlands, Variables.overlay_self, Option.or_self]

/-- A second run starts over from the texts that the first has left. -/
lemma override_overrideTexts (s : Settings) (vars : Variables) :
    (s.overrideTexts vars).override vars = s.override vars := by
  unfold override
  rw [overrideTexts_overrideTexts, Variables.overlay_self]

/-- **A layer applied twice** does what it does once, with the same error if it cannot be used. -/
theorem override_override_self (s : Settings) (vars : Variables) :
    (s.override vars).1.override vars = s.override vars := by
  have hstop : ∀ e, s.override vars = (s.overrideTexts vars, some e) →
      (s.override vars).1.override vars = s.override vars := by
    intro e h
    rw [h]
    exact (s.override_overrideTexts vars).trans h
  cases htarget : vars.target with
  | error e => exact hstop _ (override_of_error htarget)
  | ok target =>
    by_cases hlands : s.Lands vars target
    · obtain ⟨hagain, hsame⟩ := layered_self hlands
      rw [override_of_lands htarget hlands]
      exact (override_of_lands htarget hagain).trans (by rw [hsame])
    · exact hstop _ (override_of_not_lands htarget hlands)

/-- **Layers of environment variables.** Overriding fails exactly if the route variable is set to a
text that names no target, or the lane variable is set while neither the route variable nor the
settings give a target. Overriding with one layer and then with another, where both succeed, is
overriding with their overlay. And a layer applied twice does what it does once, whether or not it
can be used. -/
theorem override_layers (s : Settings) (lower upper : Variables) :
    ((∃ e, s.overridden lower = .error e) ↔
      (∃ name, lower "RABRIDGE_DEFAULT_ROUTE" = some name ∧ ∃ e, Target.parse name = .error e) ∨
        ((lower "RABRIDGE_DEFAULT_LANE").isSome ∧ lower "RABRIDGE_DEFAULT_ROUTE" = none ∧
          s.defaults.route = none)) ∧
    (∀ s₁ s₂, s.overridden lower = .ok s₁ → s₁.overridden upper = .ok s₂ →
      s.overridden (upper.overlay lower) = .ok s₂) ∧
    (∀ s₁, s.overridden lower = .ok s₁ → s₁.overridden lower = .ok s₁) ∧
    (s.override lower).1.override lower = s.override lower := by
  refine ⟨exists_overridden_eq_error_iff, ?_, ?_, s.override_override_self lower⟩
  · intro s₁ s₂ h₁ h₂
    obtain ⟨target, htarget, hlands, rfl⟩ := overridden_eq_ok_iff.mp h₁
    obtain ⟨target', htarget', hlands', rfl⟩ := overridden_eq_ok_iff.mp h₂
    rw [overridden_eq_ok_iff]
    exact ⟨_, target_overlay htarget htarget', hlands.overlay hlands',
      (layered_layered hlands upper target').symm⟩
  · intro s₁ h₁
    obtain ⟨target, htarget, hlands, rfl⟩ := overridden_eq_ok_iff.mp h₁
    rw [overridden_eq_ok_iff]
    exact ⟨target, htarget, layered_self hlands⟩

/-- Settings with a default route that has a lane. -/
def timelineSettings : Settings where
  defaults := ⟨none, some ⟨.bigquery, some "timeline"⟩⟩

/-- A target that keeps its lane, and then a lane that keeps its target. -/
theorem timelineSettings_layers :
    timelineSettings.overridden (.ofList [("RABRIDGE_DEFAULT_ROUTE", " GCS ")]) =
        .ok ⟨{}, ⟨none, some ⟨.gcs, some "timeline"⟩⟩⟩ ∧
      Settings.overridden ⟨{}, ⟨none, some ⟨.gcs, some "timeline"⟩⟩⟩
        (.ofList [("RABRIDGE_DEFAULT_LANE", "hot"), ("RUST_LOG", "debug")]) =
          .ok ⟨{ level := "debug" }, ⟨none, some ⟨.gcs, some "hot"⟩⟩⟩ ∧
      timelineSettings.overridden
        ((Variables.ofList [("RABRIDGE_DEFAULT_LANE", "hot"), ("RUST_LOG", "debug")]).overlay
          (.ofList [("RABRIDGE_DEFAULT_ROUTE", " GCS ")])) =
          .ok ⟨{ level := "debug" }, ⟨none, some ⟨.gcs, some "hot"⟩⟩⟩ := by
  have hlower : timelineSettings.overridden (.ofList [("RABRIDGE_DEFAULT_ROUTE", " GCS ")]) =
      .ok ⟨{}, ⟨none, some ⟨.gcs, some "timeline"⟩⟩⟩ :=
    overridden_eq_ok_iff_override.mpr (by decide +kernel)
  have hupper : Settings.overridden ⟨{}, ⟨none, some ⟨.gcs, some "timeline"⟩⟩⟩
      (.ofList [("RABRIDGE_DEFAULT_LANE", "hot"), ("RUST_LOG", "debug")]) =
        .ok ⟨{ level := "debug" }, ⟨none, some ⟨.gcs, some "hot"⟩⟩⟩ :=
    overridden_eq_ok_iff_override.mpr (by decide +kernel)
  exact ⟨hlower, hupper, (override_layers timelineSettings _ _).2.1 _ _ hlower hupper⟩

end Settings

end HintedSql
