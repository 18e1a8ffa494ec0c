import HintedSql.Number.Double
set_option relaxedAutoImplicit false
set_option autoImplicit false

/-!
# The content of a document

What a JSON or YAML text says, before it is read as a value, condition or expression. A whole
number with a minus sign is kept apart from one without, since only the latter can stand for a
place in a list of names. The keys of a map can be anything, although in JSON they are texts.

## Main definitions

* `HintedSql.Content`.
-/

namespace HintedSql

/-- What a text says. -/
inductive Content where
  | null
  | bool (b : Bool)
  | natural (n : Nat)
  /-- A whole number with a minus sign, `-n`. -/
  | negative (n : Nat)
  | float (x : Double)
  | text (s : String)
  | list (items : List Content)
  | map (entries : List (Content × Content))
deriving Repr

end HintedSql
