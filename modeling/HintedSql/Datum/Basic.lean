import HintedSql.Number.Double
set_option relaxedAutoImplicit false
set_option autoImplicit false

/-!
# Data trees

The data that a document holds, whatever its notation: scalars, lists, and records whose fields
keep their order and may repeat.

## Main definitions

* `HintedSql.Datum`.
* `HintedSql.Datum.depth` — how deep lists and records are nested.
-/

namespace HintedSql

/-- The data of a document. -/
inductive Datum where
  | null
  | bool (b : Bool)
  | int (i : Int)
  | float (x : Double)
  | text (s : String)
  | list (items : List Datum)
  | record (fields : List (String × Datum))
deriving Repr

namespace Datum

mutual
/-- How deep lists and records are nested. -/
def depth : Datum → Nat
  | list items => itemsDepth items + 1
  | record fields => fieldsDepth fields + 1
  | _ => 0

/-- The greatest depth of an item. -/
def itemsDepth : List Datum → Nat
  | [] => 0
  | d :: ds => max d.depth (itemsDepth ds)

/-- The greatest depth of a field. -/
def fieldsDepth : List (String × Datum) → Nat
  | [] => 0
  | (_, d) :: fs => max d.depth (fieldsDepth fs)
end

end Datum

end HintedSql
