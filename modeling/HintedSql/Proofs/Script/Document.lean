import HintedSql.Command.Basic
import HintedSql.Proofs.Document.Field
import HintedSql.Proofs.Json.Pretty
import HintedSql.Proofs.Yaml.Content
set_option relaxedAutoImplicit false
set_option autoImplicit false

/-!
# Rendered scripts as documents

A rendered script is written as its query alone, or as a document that also holds its hints and its
text. Both ways it fails for the same reason. The document is a JSON text whatever the script holds,
and it is read back as what went into it: the query that is written alone, the text of the script
character for character, and the hints of the script that the text spells, each of them there if and
only if the script has it.

## Main definitions

* `HintedSql.Json.contentOf` — the content of a JSON text, read as a whole.
* `HintedSql.Datum.Textual` — data in which texts are the only scalars.
* `HintedSql.Script.metadata` — what a document says about a script besides its query.
* `HintedSql.ScriptCommand.bare`, `HintedSql.ScriptCommand.documented` — the two ways to write a
  rendered script.

## Main results

* `HintedSql.Datum.Textual.contentOf_pretty` — indented texts are read back.
* `HintedSql.ScriptCommand.run_documented` — what the document of a script says.
-/

namespace HintedSql

/-- The content of a JSON text: one value, and nothing after it. -/
def Json.contentOf (s : String) : Except ReadError Content :=
  (outline s).read fun o => ReadError.ofFault (o.content 0)

/-! ## Data of texts -/

namespace Datum

open Json (Outline)

/-- Texts, and records of such data. -/
inductive Textual : Datum → Prop where
  | text (s : String) : Textual (text s)
  | record {fields : List (String × Datum)} (h : ∀ f ∈ fields, Textual f.2) :
    Textual (record fields)

/-- Members are read one after the other. -/
lemma memberContents_fieldOutlines {fields : List (String × Datum)} {depth : Nat}
    (h : ∀ f ∈ fields, f.2.outline.content depth = .ok f.2.content) :
    Outline.memberContents depth (fieldOutlines fields) = .ok (fieldContents fields) := by
  induction fields with
  | nil => rfl
  | cons f fs ih =>
    obtain ⟨k, d⟩ := f
    obtain ⟨hd, hfs⟩ := List.forall_mem_cons.mp h
    rw [fieldOutlines, Outline.memberContents, (Json.Quoted.says_ofText k).text_eq, hd, ih hfs]
    rfl

/-- The outline of such data says what the data say, unless it is nested too deep. -/
lemma Textual.content_outline {d : Datum} (h : d.Textual) {depth : Nat}
    (hdepth : depth + d.depth ≤ Json.depthLimit) : d.outline.content depth = .ok d.content := by
  induction h generalizing depth with
  | text s =>
    rw [outline, Outline.content, (Json.Quoted.says_ofText s).text_eq]
    rfl
  | @record fields _ ih =>
    rw [Datum.depth] at hdepth
    have hmembers : ∀ f ∈ fields, f.2.outline.content (depth + 1) = .ok f.2.content := by
      intro f hf
      have hf' := depth_le_of_mem_fields (Nat.le_refl (fieldsDepth fields)) f hf
      exact ih f hf (by omega)
    rw [outline, Outline.content, if_pos (by omega), memberContents_fieldOutlines hmembers]
    rfl

/-- **Indented texts are read back**, whatever characters they hold. -/
theorem Textual.contentOf_pretty {d : Datum} (h : d.Textual) (hdepth : d.depth ≤ Json.depthLimit) :
    Json.contentOf d.pretty = .ok d.content := by
  rw [Json.contentOf, d.spells_pretty.read_eq, h.content_outline (by omega)]
  rfl

end Datum

/-! ## The document of a script -/

namespace Script

/-- What a document says about a script besides its query: the time window and the route with its
lane, as far as the script has them, and the text that spells the script. -/
def metadata (s : Script) (text : String) : Content :=
  .map ((s.timeWindow.map fun window =>
      (.text "time_block", .map [(.text "value", .text window)])).toList
    ++ (s.target.map fun target =>
      (.text "route", .map ((.text "target", .text target.name) ::
        (s.lane.map fun lane => (.text "lane", .text lane)).toList))).toList
    ++ [(.text "original_script", .text text)])

/-- Only a script without a table has no query. -/
lemma table_of_toSql_eq_error {s : Script} {e : ScriptError} (h : s.toSql = .error e) :
    s.table = none := by
  unfold toSql at h
  split at h
  · assumption
  · cases h

namespace Rendering

/-- The document of a rendering has no numbers in it. -/
lemma textual_toDatum (r : Rendering) : r.toDatum.Textual := by
  obtain ⟨sql, ⟨timeBlock, route⟩, text⟩ := r
  have hblock (value : String) : (timeBlockDatum value).Textual :=
    .record (by simp [Datum.Textual.text])
  have hroute (route : Route) : route.toDatum.Textual := by
    refine .record ?_
    cases route.lane <;> simp [optionalField, Datum.Textual.text]
  have hmetadata : (Datum.record (optionalField "time_block" (timeBlock.map timeBlockDatum)
      ++ optionalField "route" (route.map Route.toDatum)
      ++ [("original_script", .text text)])).Textual := by
    refine .record ?_
    cases timeBlock <;> cases route <;> simp [optionalField, hblock, hroute, Datum.Textual.text]
  exact .record (List.forall_mem_cons.mpr ⟨.text sql, List.forall_mem_singleton.mpr hmetadata⟩)

/-- A route stands in the metadata, and those in the document. -/
lemma depth_toDatum_le (r : Rendering) : r.toDatum.depth ≤ 3 := by
  obtain ⟨sql, ⟨timeBlock, route⟩, text⟩ := r
  rcases timeBlock with _ | value <;> rcases route with _ | ⟨target, _ | lane⟩ <;>
    simp [toDatum, optionalField, timeBlockDatum, Route.toDatum, Datum.depth, Datum.fieldsDepth]

/-- The content of the document of a rendering: its SQL text, and the metadata of its script. -/
lemma content_toDatum (s : Script) (sql text : String) :
    (Rendering.mk sql s.options text).toDatum.content =
      .map [(.text "sql", .text sql), (.text "metadata", s.metadata text)] := by
  obtain ⟨table, filters, columns, timeWindow, target, lane⟩ := s
  cases timeWindow <;> cases target <;> cases lane <;> rfl

end Rendering

end Script

/-! ## Both ways to write a script -/

namespace ScriptCommand

/-- The command that writes the query alone. -/
def bare (c : ScriptCommand) : ScriptCommand :=
  { c with json := false }

/-- The command that writes the document. -/
def documented (c : ScriptCommand) : ScriptCommand :=
  { c with json := true }

variable {c : ScriptCommand} {source : String}

/-- A command fails if its script is not complete. -/
lemma run_of_error {e : ScriptError} (h : (Script.parse source).toSql = .error e) :
    c.run source = .error (.script c.input e) := by
  rw [run, Script.Rendering.ofText_eq, h]
  rfl

/-- A command writes the SQL text of its script, or a document with it. -/
lemma run_of_ok {sql : String} (h : (Script.parse source).toSql = .ok sql) :
    c.run source = .ok (if c.json
      then (Script.Rendering.mk sql (Script.parse source).options source).toDatum.pretty
      else sql) := by
  rw [run, Script.Rendering.ofText_eq, h]
  rfl

/-- **The document of a script loses nothing.** Without a table a command fails with and without the
document, with the same error; otherwise it succeeds both ways. Then the document is a JSON text,
and it is read as a record of exactly two members: the query that is written without the document,
and a record with the time block and the route of the script that the text spells, as far as it has
them, and the text itself. -/
theorem run_documented (c : ScriptCommand) (source : String) :
    ((Script.parse source).table = none ∧
      ∃ e, c.bare.run source = .error e ∧ c.documented.run source = .error e) ∨
    ∃ sql text, c.bare.run source = .ok sql ∧ c.documented.run source = .ok text ∧
      (∃ o, Json.Spells text o) ∧
      Json.contentOf text = .ok (.map [(.text "sql", .text sql),
        (.text "metadata", (Script.parse source).metadata source)]) := by
  cases hsql : (Script.parse source).toSql with
  | error e =>
    exact .inl ⟨Script.table_of_toSql_eq_error hsql, _, run_of_error hsql, run_of_error hsql⟩
  | ok sql =>
    refine .inr ⟨sql, _, run_of_ok hsql, run_of_ok hsql, ⟨_, Datum.spells_pretty _⟩, ?_⟩
    have hdepth := Script.Rendering.depth_toDatum_le ⟨sql, (Script.parse source).options, source⟩
    rw [← Script.Rendering.content_toDatum]
    exact (Script.Rendering.textual_toDatum _).contentOf_pretty (Nat.le_trans hdepth (by decide))

-- A run that succeeds both ways; there is no time block, and the line feeds are escaped.
example :
    run ⟨"-", false⟩ "OPEN users\nROUTE gcs lane=hot" =
        .ok "SELECT *\nFROM users\n@route(target => 'gcs', lane => 'hot')" ∧
      run ⟨"-", true⟩ "OPEN users\nROUTE gcs lane=hot" =
        .ok ("\x7b\n"
          ++ "  \"sql\": \"SELECT *\\nFROM users\\n@route(target => 'gcs', lane => 'hot')\",\n"
          ++ "  \"metadata\": \x7b\n    \"route\": \x7b\n      \"target\": \"gcs\",\n"
          ++ "      \"lane\": \"hot\"\n    \x7d,\n"
          ++ "    \"original_script\": \"OPEN users\\nROUTE gcs lane=hot\"\n  \x7d\n\x7d") := by
  decide +kernel

end ScriptCommand

end HintedSql
