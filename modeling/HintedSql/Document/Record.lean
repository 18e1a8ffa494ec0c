import HintedSql.Document.Mismatch
set_option relaxedAutoImplicit false
set_option autoImplicit false

/-!
# Records

A record is read member by member into a draft, which keeps what has been read so far. A field of a
record has a place of its own in the draft, so that it can be told whether it has been given before,
and nothing else changes when it is.

## Main definitions

* `HintedSql.FieldReader` — how one field is read and where its value is kept.
* `HintedSql.FieldReader.Apart` — fields that do not interfere with each other.
* `HintedSql.RecordReader`, `HintedSql.RecordReader.put` — how the members of a record are read.
-/

namespace HintedSql

/-- A field of a record that is read from a `β` into a draft `σ`: its name, other names it may be
given under, where its value is kept, and how it is read. -/
structure FieldReader (σ β ε : Type) where
  name : String
  otherNames : List String := []
  Value : Type
  kept : σ → Option Value
  keep : σ → Value → σ
  read : β → Except ε Value
  kept_keep : ∀ s x, kept (keep s x) = some x := by intros; rfl

namespace FieldReader

variable {σ β ε : Type}

/-- All names of a field. -/
def names (f : FieldReader σ β ε) : List String :=
  f.name :: f.otherNames

/-- Fields that share no name, and of which neither changes what the other has kept. -/
structure Apart (f g : FieldReader σ β ε) : Prop where
  names : ∀ n ∈ f.names, n ∉ g.names
  left : ∀ s y, f.kept (g.keep s y) = f.kept s
  right : ∀ s x, g.kept (f.keep s x) = g.kept s

/-- To be apart is three conditions at once, so that it can be decided for given fields. -/
theorem apart_iff (f g : FieldReader σ β ε) : f.Apart g ↔ (∀ n ∈ f.names, n ∉ g.names) ∧
    (∀ s y, f.kept (g.keep s y) = f.kept s) ∧ ∀ s x, g.kept (f.keep s x) = g.kept s :=
  ⟨fun h => ⟨h.names, h.left, h.right⟩, fun h => ⟨h.1, h.2.1, h.2.2⟩⟩

/-- Read a field, which may be given once. -/
def put (f : FieldReader σ β ε) (report : Mismatch → ε) (draft : σ) (v : β) : Except ε σ :=
  match f.kept draft with
  | some _ => .error (report (.duplicateField f.name))
  | none => f.keep draft <$> f.read v

end FieldReader

/-- How a record is read: the empty draft, and the fields in order. -/
structure RecordReader (σ β ε : Type) where
  start : σ
  fields : List (FieldReader σ β ε)
  fresh : ∀ f ∈ fields, f.kept start = none
  apart : fields.Pairwise FieldReader.Apart

namespace RecordReader

variable {σ β ε : Type}

/-- The names of the fields in order. -/
def fieldNames (r : RecordReader σ β ε) : List String :=
  r.fields.map (·.name)

/-- Read the member with a given name, and pass over it if it is no field. -/
def put (r : RecordReader σ β ε) (report : Mismatch → ε) (pass : β → Except ε Unit) (draft : σ)
    (name : String) (v : β) : Except ε σ :=
  match r.fields.find? (·.names.contains name) with
  | some f => f.put report draft v
  | none => do
    pass v
    return draft

end RecordReader

/-- A field that has to be given. -/
def required {α : Type} (missing : String → Mismatch) (name : String) :
    Option α → Except Mismatch α
  | some a => .ok a
  | none => .error (missing name)

end HintedSql
