import HintedSql.Document.Encode
import HintedSql.Script.Basic
set_option relaxedAutoImplicit false
set_option autoImplicit false

/-!
# Rendered scripts

A rendered script is its query, together with its hints and its text.

## Main definitions

* `HintedSql.Script.Rendering`, `HintedSql.Script.Rendering.ofText`.
* `HintedSql.Script.Rendering.toDatum` — the rendered script as a document.
-/

namespace HintedSql.Script

/-- The query of a script, its hints and its text. -/
structure Rendering where
  sql : String
  options : Options
  text : String
deriving DecidableEq, Repr

namespace Rendering

/-- Render the text of a script. -/
def ofText (text : String) : Except ScriptError Rendering := do
  let script := parse text
  let sql ← script.toSql
  return ⟨sql, script.options, text⟩

/-- A rendered script is the query of the script with its hints and its text beside it. -/
theorem ofText_eq (text : String) :
    ofText text = (parse text).toSql.map fun sql => ⟨sql, (parse text).options, text⟩ := by
  unfold ofText
  dsimp only
  cases (parse text).toSql <;> rfl

/-- The rendered script as a document. -/
def toDatum (r : Rendering) : Datum :=
  .record [("sql", .text r.sql),
    ("metadata", .record (optionalField "time_block" (r.options.timeBlock.map timeBlockDatum)
      ++ optionalField "route" (r.options.route.map Route.toDatum)
      ++ [("original_script", .text r.text)]))]

end Rendering

end HintedSql.Script
