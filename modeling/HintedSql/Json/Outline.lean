import HintedSql.Json.Token
import HintedSql.Number.Scaling
import HintedSql.Document.Content
set_option relaxedAutoImplicit false
set_option autoImplicit false

/-!
# Outlines of JSON texts

An outline is what can be made out of a JSON text when it is read from left to right: a tree like
the one the text denotes, in which a fault stands at the place where the text goes wrong. Reading
an outline from left to right therefore meets the first fault exactly where a reader of the text
would meet it, and whatever such a reader finds wrong before that place is found first.

The outline is built from the tokens by a machine with a stack of open lists and records, which
visits every token once.

Two things are left to whoever reads an outline. A text is only asked for its characters, and a
number only for its value, by a reader that wants them; `Outline.skip` passes over a value and
minds the grammar only. The limit on nesting concerns `Outline.content`, which reads a whole value.

## Main definitions

* `HintedSql.Json.Outline`, `HintedSql.Json.Document`.
* `HintedSql.Json.build` — the machine; `HintedSql.Json.outline` — the outline of a text.
* `HintedSql.Json.Outline.skip`, `HintedSql.Json.Outline.content`.
-/

namespace HintedSql.Json

/-- A JSON value as far as it is written. A list or record with a fault is cut after its last item
or member, and `comma` tells whether a record is cut after a comma. -/
inductive Outline where
  /-- Nothing that could be a value. -/
  | broken (f : Fault)
  | cutNumber
  | cutWord
  | null
  | bool (b : Bool)
  | number (n : Number)
  | string (s : Quoted)
  | list (items : List Outline) (fault : Option Fault)
  | record (members : List (Quoted × Outline)) (fault : Option Fault) (comma : Bool)
deriving Repr

/-- The outline of a text, and whether text follows the value. -/
structure Document where
  root : Outline
  extra : Bool := false

/-! ## Building an outline -/

/-- A list or record that is open; what it holds is kept latest first. -/
inductive Frame where
  | list (items : List Outline)
  | record (members : List (Quoted × Outline))
  /-- A record in which a key has been read and its value has not. -/
  | member (members : List (Quoted × Outline)) (key : Quoted)
deriving Repr

/-- What the machine waits for. -/
inductive Phase where
  /-- A value. -/
  | value
  /-- The first item of a list, or its end. -/
  | firstItem
  /-- The first key of a record, or its end. -/
  | firstKey
  /-- A key, after a comma. -/
  | nextKey
  /-- The colon after a key. -/
  | colon
  /-- What follows a complete value. -/
  | after (v : Outline)
deriving Repr

/-- The first item of a list is awaited as any value is, once the list is known to go on. -/
def Phase.rank : Phase → Nat
  | firstItem => 1
  | _ => 0

/-- Give up at a fault: what is open is closed with that fault. -/
def abandon (f : Fault) (v : Outline) : List Frame → Outline
  | [] => v
  | .list items :: stack => abandon f (.list (v :: items).reverse (some f)) stack
  | .member members key :: stack =>
    abandon f (.record ((key, v) :: members).reverse (some f) false) stack
  | .record members :: stack =>
    abandon f (.record members.reverse (some f) (!members.isEmpty)) stack

/-- The fault of meeting these tokens where none of them may stand. -/
def faultAt : List Token → Fault
  | [] => .ended
  | _ :: _ => .misplaced

/-- The scalar a token stands for. -/
def Token.scalar? : Token → Option Outline
  | .null => some .null
  | .bool b => some (.bool b)
  | .number n => some (.number n)
  | .cutNumber => some .cutNumber
  | .cutWord => some .cutWord
  | .string s => some (.string s)
  | _ => none

/-- Read tokens in a phase, with a stack of open lists and records. -/
def build (stack : List Frame) : Phase → List Token → Document
  | .value, .openList :: ts => build (.list [] :: stack) .firstItem ts
  | .value, .openRecord :: ts => build (.record [] :: stack) .firstKey ts
  | .value, .fault f :: _ => ⟨abandon f (.broken f) stack, false⟩
  | .value, t :: ts =>
    match t.scalar? with
    | some v => build stack (.after v) ts
    | none => ⟨abandon .misplaced (.broken .misplaced) stack, false⟩
  | .value, [] => ⟨abandon .ended (.broken .ended) stack, false⟩
  | .firstItem, .closeList :: ts => build stack.tail (.after (.list [] none)) ts
  | .firstItem, [] => ⟨abandon .ended (.list [] (some .ended)) stack.tail, false⟩
  | .firstItem, ts => build stack .value ts
  | .firstKey, .closeRecord :: ts => build stack.tail (.after (.record [] none false)) ts
  | .firstKey, .string key :: ts => build (.member [] key :: stack.tail) .colon ts
  | .firstKey, ts => ⟨abandon (faultAt ts) (.broken (faultAt ts)) stack, false⟩
  | .nextKey, .string key :: ts =>
    match stack with
    | .record members :: rest => build (.member members key :: rest) .colon ts
    | _ => ⟨abandon .misplaced (.broken .misplaced) stack, false⟩
  | .nextKey, ts => ⟨abandon (faultAt ts) (.broken (faultAt ts)) stack, false⟩
  | .colon, .colon :: ts => build stack .value ts
  | .colon, ts => ⟨abandon (faultAt ts) (.broken (faultAt ts)) stack, false⟩
  | .after v, ts =>
    match stack, ts with
    | [], _ => ⟨v, !ts.isEmpty⟩
    | .list items :: rest, .comma :: ts => build (.list (v :: items) :: rest) .value ts
    | .list items :: rest, .closeList :: ts =>
      build rest (.after (.list (v :: items).reverse none)) ts
    | .member members key :: rest, .comma :: ts =>
      build (.record ((key, v) :: members) :: rest) .nextKey ts
    | .member members key :: rest, .closeRecord :: ts =>
      build rest (.after (.record ((key, v) :: members).reverse none false)) ts
    | _, _ => ⟨abandon (faultAt ts) v stack, false⟩
termination_by phase ts => (ts.length, phase.rank)
decreasing_by all_goals decreasing_with first | decreasing_trivial | decide

/-- The outline of a text. -/
def outline (s : String) : Document :=
  build [] .value (tokens s.toList)

/-! ## Reading an outline -/

/-- How deep lists and records may be nested. -/
def depthLimit : Nat := 127

/-- Whether a number is written without fraction and exponent. -/
def Number.isInteger (n : Number) : Bool :=
  n.fraction.isNone && n.exponent.isNone

/-- The power of ten that a number is scaled by as it is written. -/
def Number.power (n : Number) : Int :=
  match n.exponent with
  | none => 0
  | some (false, ds) => Decimal.ofDigits ds
  | some (true, ds) => -(Decimal.ofDigits ds : Int)

/-- The content of a double that has been read; there is none if it is not finite. -/
def doubleContent : Option Double → Except Fault Content
  | some x => .ok (.float x)
  | none => .error .misplaced

/-- The double that a number is read as, which has to be finite. -/
def Number.double (n : Number) : Except Fault Content :=
  doubleContent (Decimal.ofLeading n.negative n.whole (n.fraction.getD []) n.power).scaled

/-- The value of a number: an integer if it is written as one and is at least `-2 ^ 63` and less
than `2 ^ 64`, and else a double. Minus zero is a double. -/
def Number.content (n : Number) : Except Fault Content :=
  let v := Decimal.ofDigits n.whole
  if n.isInteger && !n.negative && v < UInt64.size then .ok (.natural v)
  else if n.isInteger && n.negative && 0 < v && v ≤ Int64.minValue.toInt.natAbs then
    .ok (.negative v)
  else n.double

/-- Fail with a fault, if there is one. -/
def check : Option Fault → Except Fault Unit
  | none => .ok ()
  | some f => .error f

namespace Outline

mutual
/-- Pass over a value, minding the grammar only. The end of the text inside a number counts as a
misplaced character here. -/
def skip : Outline → Except Fault Unit
  | broken f => .error f
  | cutNumber => .error .misplaced
  | cutWord => .error .ended
  | null | bool _ | number _ => .ok ()
  | string s => check s.fault
  | list items fault => do
    skipItems items
    check fault
  | record members fault _ => do
    skipMembers members
    check fault

/-- Pass over the items of a list. -/
def skipItems : List Outline → Except Fault Unit
  | [] => .ok ()
  | v :: vs => do
    skip v
    skipItems vs

/-- Pass over the members of a record. -/
def skipMembers : List (Quoted × Outline) → Except Fault Unit
  | [] => .ok ()
  | (k, v) :: ms => do
    check k.fault
    skip v
    skipMembers ms
end

mutual
/-- The content of a value that stands inside `depth` lists and records. -/
def content (depth : Nat) : Outline → Except Fault Content
  | broken f => .error f
  | cutNumber | cutWord => .error .ended
  | null => .ok .null
  | bool b => .ok (.bool b)
  | number n => n.content
  | string s => Content.text <$> s.text
  | list items fault =>
    if depth < depthLimit then do
      let cs ← itemContents (depth + 1) items
      check fault
      return .list cs
    else .error .misplaced
  | record members fault _ =>
    if depth < depthLimit then do
      let es ← memberContents (depth + 1) members
      check fault
      return .map es
    else .error .misplaced

/-- The contents of the items of a list. -/
def itemContents (depth : Nat) : List Outline → Except Fault (List Content)
  | [] => .ok []
  | v :: vs => do
    let c ← content depth v
    let cs ← itemContents depth vs
    return c :: cs

/-- The contents of the members of a record. -/
def memberContents (depth : Nat) :
    List (Quoted × Outline) → Except Fault (List (Content × Content))
  | [] => .ok []
  | (k, v) :: ms => do
    let name ← k.text
    let c ← content depth v
    let es ← memberContents depth ms
    return (.text name, c) :: es
end

end Outline

end HintedSql.Json
