import HintedSql.Proofs.Document.Notations
import HintedSql.Proofs.Sql.ClosedForm
import HintedSql.Settings.Basic
set_option relaxedAutoImplicit false
set_option autoImplicit false

/-!
# Where the hints of a compiled request come from

A request is compiled with or without its hint lines. Both ways it fails for the same reasons, and
with hint lines it is the same statement with the lines behind it. The time block of the hints comes
from the first of command line, document and settings that has one, and so does the route. A route
is taken as a whole: a target never gets the lane of another source.

## Main definitions

* `HintedSql.Options.first` — each hint from the first source that has it.
* `HintedSql.CompileCommand.bare`, `HintedSql.CompileCommand.full` — a command without and with
  hint lines.

## Main results

* `HintedSql.CompileCommand.resolve_options` — the sources of the hints, in their order.
* `HintedSql.CompileCommand.run_full_bare` — what a command writes with and without hint lines.
-/

namespace HintedSql

/-! ## Sources of hints -/

/-- Each hint from the first source that has it. -/
def Options.first (sources : List Options) : Options where
  timeBlock := sources.findSome? Options.timeBlock
  route := sources.findSome? Options.route

/-- What a source does not say is left to the sources after it. -/
lemma Options.first_cons (o : Options) (sources : List Options) :
    first (o :: sources) = o.orElse (first sources) := by
  rcases o with ⟨timeBlock, route⟩
  cases timeBlock <;> cases route <;> rfl

/-- Three layers of hints may be merged in either grouping. -/
lemma Options.orElse_assoc (o p q : Options) :
    (o.orElse p).orElse q = o.orElse (p.orElse q) := by
  simp only [orElse, Option.or_assoc]

/-- A single layer of hints is merged to itself. -/
lemma Options.first_singleton (o : Options) : first [o] = o := by
  rcases o with ⟨timeBlock, route⟩
  cases timeBlock <;> cases route <;> rfl

/-! ## Hint lines -/

/-- Lines behind a first one, each behind a line feed. -/
lemma intercalate_newline_cons (line : String) (lines : List String) :
    String.intercalate "\n" (line :: lines) = line ++ String.join (lines.map ("\n" ++ ·)) := by
  induction lines generalizing line with
  | nil => simp
  | cons next rest ih =>
    rw [String.intercalate_cons_cons, ih, List.map_cons, String.join_cons]
    simp only [String.append_assoc]

/-! ## Commands -/

namespace CompileCommand

/-- The command that leaves the hint lines out. -/
def bare (c : CompileCommand) : CompileCommand :=
  { c with bodyOnly := true }

/-- The command that writes the hint lines. -/
def full (c : CompileCommand) : CompileCommand :=
  { c with bodyOnly := false }

/-- The hints of a resolved request come from the command first, then from the request, then from
the settings. -/
theorem resolve_options (c : CompileCommand) (defaults : Options) (r : Request) :
    (c.resolve defaults r).options = Options.first [c.options, r.options, defaults] := by
  rw [Options.first_cons, Options.first_cons, Options.first_singleton]
  exact Options.orElse_assoc c.options r.options defaults

variable {c : CompileCommand} {source : String}

/-- A command fails if its request cannot be read. -/
lemma run_of_read_error {e : RequestError} (h : Request.read c.input source = .error e)
    (defaults : Options) : c.run defaults source = .error (.request c.input e) := by
  rw [run, h]

/-- A command that reads its request writes the text it resolves to, or fails to compile it. -/
lemma run_of_read_ok {r : Request} (h : Request.read c.input source = .ok r)
    (defaults : Options) :
    c.run defaults source = (c.text (c.resolve defaults r)).mapError (.compile c.input) := by
  rw [run, h]
  cases htext : c.text (c.resolve defaults r) <;> simp [htext, Except.mapError]

/-- Without hint lines only the expression counts. -/
lemma run_bare {r : Request} (h : Request.read c.input source = .ok r) (defaults : Options) :
    c.bare.run defaults source = (Sql.compile r.expression).mapError (.compile c.input) :=
  run_of_read_ok (c := c.bare) h defaults

/-- With hint lines they are put behind the same statement. -/
lemma run_full {r : Request} (h : Request.read c.input source = .ok r) (defaults : Options) :
    c.full.run defaults source =
      (· ++ String.join ((Sql.hints (Options.first [c.options, r.options, defaults])).map
        ("\n" ++ ·))) <$> c.bare.run defaults source := by
  have htext : c.full.text (c.full.resolve defaults r) =
      Sql.toSql r.expression (Options.first [c.options, r.options, defaults]) := by
    rw [← c.resolve_options defaults r]
    rfl
  simp only [← intercalate_newline_cons]
  rw [run_bare h, run_of_read_ok (c := c.full) h, htext, Sql.toSql_eq_map_compile]
  cases Sql.compile r.expression <;> rfl

/-- With and without hint lines a command fails alike. -/
lemma run_full_eq_error_iff {defaults : Options} {e : CommandError} :
    c.full.run defaults source = .error e ↔ c.bare.run defaults source = .error e := by
  cases hread : Request.read c.input source with
  | error err =>
    rw [run_of_read_error (c := c.full) hread, run_of_read_error (c := c.bare) hread]
    rfl
  | ok r =>
    rw [run_full hread]
    cases c.bare.run defaults source <;> simp [Functor.map, Except.map]

/-- A command with hints writes what it writes without them, and then the hints, each on a line of
its own. -/
lemma run_full_eq_ok_iff {defaults : Options} {sql : String} :
    c.full.run defaults source = .ok sql ↔
      ∃ r body, Request.read c.input source = .ok r ∧ c.bare.run defaults source = .ok body ∧
        sql = body ++ String.join
          ((Sql.hints (Options.first [c.options, r.options, defaults])).map ("\n" ++ ·)) := by
  cases hread : Request.read c.input source with
  | error err =>
    rw [run_of_read_error (c := c.full) hread]
    simp
  | ok r =>
    rw [run_full hread]
    cases c.bare.run defaults source <;> simp [Functor.map, Except.map, eq_comm]

/-- Hints count for nothing when hint lines are left out, not even for what goes wrong. -/
lemma run_bare_eq_of_input_eq {c' : CompileCommand} (h : c'.input = c.input)
    (defaults defaults' : Options) :
    c'.bare.run defaults' source = c.bare.run defaults source := by
  cases hread : Request.read c.input source with
  | error err =>
    rw [run_of_read_error (c := c.bare) hread,
      run_of_read_error (c := c'.bare) (h ▸ hread : Request.read c'.input source = .error err)]
    exact congrArg (fun input => Except.error (CommandError.request input err)) h
  | ok r => rw [run_bare hread, run_bare (h ▸ hread : Request.read c'.input source = .ok r), h]

end CompileCommand

/-! ## Precedence -/

/-- The first source with a route gives the target and the lane. -/
lemma CompileCommand.first_route (c : CompileCommand) (document defaults : Options) :
    (∀ target, c.target = some target →
      (Options.first [c.options, document, defaults]).route = some ⟨target, c.lane⟩) ∧
    (c.target = none → ∀ route, document.route = some route →
      (Options.first [c.options, document, defaults]).route = some route) ∧
    (c.target = none → document.route = none →
      (Options.first [c.options, document, defaults]).route = defaults.route) := by
  refine ⟨fun target h => ?_, fun h route hroute => ?_, fun h hroute => ?_⟩
  · simp [Options.first, options, h]
  · simp [Options.first, options, h, hroute]
  · simp only [Options.first, options, h, hroute, List.findSome?_cons, Option.map_none]
    cases defaults.route <;> rfl

/-- **Resolution of hints.** With and without hint lines a command fails together, with the same
error. Otherwise the full text is the bare one followed by the hint lines, each behind a line feed,
of the hints that come first in command line, document and settings; a route comes with its own
lane. The bare text is that of the expression: it is the same under all other flags and settings,
and for all documents with that expression. -/
theorem CompileCommand.run_full_bare (c : CompileCommand) (settings : Settings)
    (source : String) :
    (∀ e, c.full.run settings.defaults source = .error e ↔
      c.bare.run settings.defaults source = .error e) ∧
    (∀ sql, c.full.run settings.defaults source = .ok sql ↔
      ∃ r body, Request.read c.input source = .ok r ∧
        c.bare.run settings.defaults source = .ok body ∧
        sql = body ++ String.join
          ((Sql.hints (Options.first [c.options, r.options, settings.defaults])).map
            ("\n" ++ ·))) ∧
    (∀ r : Request,
      (∀ target, c.target = some target →
        (Options.first [c.options, r.options, settings.defaults]).route =
          some ⟨target, c.lane⟩) ∧
      (c.target = none → ∀ route, r.options.route = some route →
        (Options.first [c.options, r.options, settings.defaults]).route = some route) ∧
      (c.target = none → r.options.route = none →
        (Options.first [c.options, r.options, settings.defaults]).route =
          settings.defaults.route)) ∧
    (∀ (c' : CompileCommand) (settings' : Settings), c'.input = c.input →
      c'.bare.run settings'.defaults source = c.bare.run settings.defaults source) ∧
    (∀ (c' : CompileCommand) (settings' : Settings) (source' : String) (r r' : Request),
      Request.read c.input source = .ok r → Request.read c'.input source' = .ok r' →
      r'.expression = r.expression →
      (∀ body, c'.bare.run settings'.defaults source' = .ok body ↔
        c.bare.run settings.defaults source = .ok body) ∧
      (∀ e, c'.bare.run settings'.defaults source' = .error (.compile c'.input e) ↔
        c.bare.run settings.defaults source = .error (.compile c.input e))) := by
  refine ⟨fun e => run_full_eq_error_iff, fun sql => run_full_eq_ok_iff,
    fun r => c.first_route r.options settings.defaults,
    fun c' settings' h => run_bare_eq_of_input_eq h _ _, ?_⟩
  intro c' settings' source' r r' hread hread' hexpression
  rw [run_bare hread, run_bare hread', hexpression]
  cases Sql.compile r.expression <;> simp [Except.mapError]

/-- A request with a route of its own. -/
def coldRequest : Request where
  expression := .table ⟨"t", none⟩
  options := ⟨none, some ⟨.bigquery, some "cold"⟩⟩

/-- A command that routes elsewhere and names no lane. -/
def rerouting : CompileCommand where
  input := "query.json"
  target := some .gcs

/-- Settings with a time block and a lane. -/
def hotSettings : Settings where
  defaults := ⟨some "day", some ⟨.gcs, some "hot"⟩⟩

/-- A command whose own route replaces that of its request, with and without hints. -/
theorem coldRequest_rerouted :
    rerouting.bare.run hotSettings.defaults coldRequest.canonical = .ok "SELECT *\nFROM t" ∧
      rerouting.full.run hotSettings.defaults coldRequest.canonical =
        .ok "SELECT *\nFROM t\n@time(block => day)\n@route(target => 'gcs')" := by
  have hvalues : coldRequest.expression.values = [] := rfl
  have hjson : Request.ofJson coldRequest.canonical = .ok coldRequest := by
    apply Request.ofJson_canonical
    · simp [Expression.IsFinite, hvalues]
    · simp [ReadBack, hvalues]
    · decide
  have hread : Request.read rerouting.input coldRequest.canonical = .ok coldRequest := by
    have hpath : Path.isYaml rerouting.input = false := by decide +kernel
    rw [Request.read, hpath, hjson]
    rfl
  have hbare : rerouting.bare.run hotSettings.defaults coldRequest.canonical =
      .ok "SELECT *\nFROM t" := by
    rw [CompileCommand.run_bare hread]
    rfl
  refine ⟨hbare, ?_⟩
  rw [(rerouting.run_full_bare hotSettings coldRequest.canonical).2.1]
  refine ⟨coldRequest, _, hread, hbare, ?_⟩
  decide +kernel

end HintedSql
