import HintedSql.Document.Yaml
import HintedSql.Proofs.Document.Field
import HintedSql.Proofs.Routing.Target
import HintedSql.Proofs.Text.Case
set_option relaxedAutoImplicit false
set_option autoImplicit false

/-!
# The three readings of a target's name

A target is named exactly in documents, up to ASCII case and surrounding white space on the command
line and in the environment, and loosely in scripts, where lower-casing is that of Unicode, there
are further names, and an unknown name means `bigquery`. Each reading extends the one before: what a
document accepts is accepted everywhere, as the same target.

The names in scripts are plain words, so lower-casing beyond ASCII makes no other text one of them.

## Main definitions

* `HintedSql.Target.NamedInDocument` — a document names a target by a text.
* `HintedSql.Target.scriptNames` — the names in scripts of targets other than `bigquery`.

## Main results

* `HintedSql.Target.namedInDocument_iff`, `HintedSql.Target.parse_eq_ok_iff` — which texts name a
  target exactly and strictly.
* `HintedSql.Target.ofLowerWord_of_lowerForm` — every lower-case form of a word means the same.
* `HintedSql.Target.readings_agree` — how the three readings are related on every text.
-/

namespace HintedSql.Target

/-! ## In documents -/

/-- A document in which a text is read as a target: the text of a string, the only key of a record
with null in it, or the name by which a node chooses. -/
inductive NamedInDocument (s : String) (t : Target) : Prop where
  | string {q : Json.Quoted} (hq : q.Says s) (h : ofOutline (.string q) = .ok t)
  | key {q : Json.Quoted} (hq : q.Says s) (h : ofOutline (.record [(q, .null)] none false) = .ok t)
  | node {n : Yaml.Node} (hn : n.choice? = some s) (h : ofNode n = .ok t)

/-- In a document only the exact name of a target is read as the target. -/
lemma ofDocument_eq_ok_iff {s : String} {t : Target} : ofDocument s = .ok t ↔ s = t.name := by
  constructor
  · intro h
    unfold ofDocument Tag.ofName at h
    split at h
    · rename_i tag hfind
      obtain rfl := Except.ok.inj h
      have hname : tag.1 = s := by simpa using List.find?_some hfind
      obtain ⟨u, -, rfl⟩ := List.mem_map.mp (List.mem_of_find?_eq_some hfind)
      exact hname.symm
    · cases h
  · rintro rfl
    cases t <;> rfl

/-- All three forms of a document come down to the text. -/
lemma namedInDocument_iff_ofDocument {s : String} {t : Target} :
    NamedInDocument s t ↔ ofDocument s = .ok t := by
  have hstring {q : Json.Quoted} (hq : q.Says s) :
      ofOutline (.string q) = ReadError.ofMismatch (ofDocument s) := by
    rw [ofOutline, hq.text_eq]
    rfl
  have hkey {q : Json.Quoted} (hq : q.Says s) :
      ofOutline (.record [(q, .null)] none false) = ReadError.ofMismatch (ofDocument s) := by
    rw [ofOutline, hq.text_eq]
    change (ReadError.ofMismatch (ofDocument s) >>= Except.ok) = _
    cases ofDocument s <;> rfl
  have hnode {n : Yaml.Node} (hn : n.choice? = some s) :
      ofNode n = Yaml.ofMismatch (ofDocument s) := by
    rw [ofNode, hn]
  constructor
  · rintro (⟨hq, h⟩ | ⟨hq, h⟩ | ⟨hn, h⟩)
    · exact ReadError.eq_ok_of_ofMismatch (hstring hq ▸ h)
    · exact ReadError.eq_ok_of_ofMismatch (hkey hq ▸ h)
    · rw [hnode hn] at h
      cases hs : ofDocument s with
      | error m => rw [hs] at h; cases h
      | ok u => rw [hs] at h; exact congrArg Except.ok (Except.ok.inj h)
  · intro h
    have hplain : (Yaml.Node.plain s).choice? = some s := rfl
    exact .node hplain (by rw [hnode hplain, h]; rfl)

/-- **A document names a target by its exact name.** -/
theorem namedInDocument_iff {s : String} {t : Target} : NamedInDocument s t ↔ s = t.name :=
  namedInDocument_iff_ofDocument.trans ofDocument_eq_ok_iff

/-! ## On the command line -/

/-- The names of targets are in lower case. -/
lemma asciiLower_name (t : Target) : Text.asciiLower t.name = t.name := by
  cases t <;> decide

/-- The names of targets have no white space around them. -/
lemma trimmed_name (t : Target) : Text.trimmed t.name = t.name := by
  cases t <;> decide

/-- Only the name of a target is found as the target. -/
lemma ofName?_eq_some_iff {w : String} {t : Target} : ofName? w = some t ↔ w = t.name := by
  constructor
  · intro h
    have hname : t.name = w := by simpa using List.find?_some h
    exact hname.symm
  · rintro rfl
    cases t <;> rfl

/-- **A text names a target strictly** if it is its name in some ASCII case, but for white space. -/
theorem parse_eq_ok_iff {s : String} {t : Target} :
    parse s = .ok t ↔ Text.asciiLower (Text.trimmed s) = t.name := by
  have hfind : (all.find? fun t => Text.sameIgnoringCase t.name (Text.trimmed s)) =
      ofName? (Text.asciiLower (Text.trimmed s)) := by
    simp only [Text.sameIgnoringCase, asciiLower_name]
    rfl
  rw [← ofName?_eq_some_iff]
  unfold parse
  rw [hfind]
  cases ofName? (Text.asciiLower (Text.trimmed s)) <;> simp

/-! ## In scripts -/

/-- The names in scripts of targets other than `bigquery`. -/
def scriptNames : List String :=
  ["cloudsql", "cloud_sql", "sql", "firestore", "gcs", "storage"]

/-- A name of a target means the target in scripts. -/
lemma ofLowerWord_name (t : Target) : ofLowerWord t.name = t := by
  cases t <;> decide

/-- A word that is no name in scripts means `bigquery`. -/
lemma ofLowerWord_of_notMem {w : String} (h : w ∉ scriptNames) : ofLowerWord w = bigquery := by
  unfold ofLowerWord
  split <;> simp [scriptNames] at h ⊢

/-- The names lead away from `bigquery`, and nothing else does. -/
lemma ofLowerWord_ne_bigquery_iff {w : String} :
    ofLowerWord w ≠ bigquery ↔ w ∈ scriptNames := by
  refine ⟨fun h => ?_, fun h => ?_⟩
  · by_contra hmem
    exact h (ofLowerWord_of_notMem hmem)
  · revert w
    decide

/-- The names are plain words. -/
lemma plainWord_of_mem {w : String} (h : w ∈ scriptNames) : Text.PlainWord w.toList := by
  have hall : scriptNames.all fun w => w.toList.all fun c =>
      (c.isAlpha || c == '_') && c != 'k' := by decide
  intro c hc
  simpa using List.all_eq_true.mp (List.all_eq_true.mp hall w h) c hc

/-- **Every lower-case form of a word means what its ASCII lower-case form means.** -/
theorem ofLowerWord_of_lowerForm {s w : String} (h : Text.LowerForm s.toList w.toList) :
    ofLowerWord w = ofLowerWord (Text.asciiLower s) := by
  by_cases hmem : w ∈ scriptNames
  · rw [(h.eq_iff (plainWord_of_mem hmem)).mp rfl]
  · have hmem' : Text.asciiLower s ∉ scriptNames := by
      intro hmem'
      rw [← (h.eq_iff (plainWord_of_mem hmem')).mpr rfl] at hmem'
      exact hmem hmem'
    rw [ofLowerWord_of_notMem hmem, ofLowerWord_of_notMem hmem']

/-- A word of a script means what its ASCII lower-case form means. -/
lemma ofScriptWord_eq (s : String) : ofScriptWord s = ofLowerWord (Text.asciiLower s) := by
  rw [ofScriptWord]
  exact ofLowerWord_of_lowerForm (Text.lowerForm_lowerForm s)

/-- A text with a character beyond ASCII is none of the names. -/
lemma asciiLower_notMem_scriptNames {s : String} {c : Char} (hc : c ∈ s.toList)
    (hle : 128 ≤ c.toNat) : Text.asciiLower s ∉ scriptNames := by
  intro hmem
  have hlower : c ∈ (Text.asciiLower s).toList := by
    rw [Text.asciiLower, String.toList_ofList, ← Text.asciiLowerChar_of_le hle]
    exact List.mem_map_of_mem hc
  have := (plainWord_of_mem hmem).toNat_lt c hlower
  omega

/-! ## All readings -/

/-- **The readings of a target's name agree.** What a document accepts is accepted strictly, as the
same target; what is accepted strictly means the same target in scripts, without the white space
around it; in scripts a text leads away from `bigquery` if and only if it is one of six names in
some ASCII case, and never if it has a character beyond ASCII. None of this depends on how other
characters are lower-cased. -/
theorem readings_agree (s : String) :
    (∀ t, NamedInDocument s t → parse s = .ok t) ∧
    (∀ t, parse s = .ok t → ofScriptWord (Text.trimmed s) = t) ∧
    (ofScriptWord s ≠ bigquery ↔
      Text.asciiLower s ∈ ["cloudsql", "cloud_sql", "sql", "firestore", "gcs", "storage"]) ∧
    ((∃ c ∈ s.toList, 128 ≤ c.toNat) → ofScriptWord s = bigquery) ∧
    (∀ w : String, Text.LowerForm s.toList w.toList → ofScriptWord s = ofLowerWord w) := by
  refine ⟨fun t h => ?_, fun t h => ?_, ?_, ?_, fun w hw => ?_⟩
  · rw [namedInDocument_iff.mp h, parse_eq_ok_iff, trimmed_name, asciiLower_name]
  · rw [ofScriptWord_eq, parse_eq_ok_iff.mp h, ofLowerWord_name]
  · rw [ofScriptWord_eq]
    exact ofLowerWord_ne_bigquery_iff
  · rintro ⟨c, hc, hle⟩
    rw [ofScriptWord_eq, ofLowerWord_of_notMem (asciiLower_notMem_scriptNames hc hle)]
  · rw [ofScriptWord_eq, ofLowerWord_of_lowerForm hw]

/-- A name with white space around it, an exact one, and one with a character beyond ASCII. -/
theorem spacedName_readings :
    parse " CloudSQL\n" = .ok cloudsql ∧ ofScriptWord (Text.trimmed " CloudSQL\n") = cloudsql ∧
      NamedInDocument "gcs" gcs ∧ parse "gcs" = .ok gcs ∧
      ofScriptWord "\u017fql" = bigquery ∧ ofLowerWord "\u017fql" = bigquery := by
  have hstrict : parse " CloudSQL\n" = .ok cloudsql := parse_eq_ok_iff.mpr (by decide)
  have hexact : NamedInDocument "gcs" gcs := namedInDocument_iff.mpr rfl
  have hlong : ofScriptWord "\u017fql" = bigquery :=
    (readings_agree _).2.2.2.1 ⟨'\u017f', by simp, by decide⟩
  have hform : Text.LowerForm "\u017fql".toList "\u017fql".toList :=
    Text.lowerForm_lowerForm "\u017fql"
  refine ⟨hstrict, (readings_agree _).2.1 _ hstrict, hexact, (readings_agree _).1 _ hexact,
    hlong, ?_⟩
  rw [← (readings_agree _).2.2.2.2 _ hform, hlong]

end HintedSql.Target
