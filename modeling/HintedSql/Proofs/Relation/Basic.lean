import HintedSql.Algebra.Expression
import Mathlib.Data.List.Basic
set_option relaxedAutoImplicit false
set_option autoImplicit false

/-!
# Relations

A relation has a header of column names and a list of rows over it; a cell of a row is null or holds
a value. A join concatenates matching rows. Depending on its kind it also keeps the rows of one side
that match nothing, with nulls on the other side.

## Main definitions

* `HintedSql.Row`, `HintedSql.Relation`.
* `HintedSql.Relation.restrict`, `HintedSql.Relation.project`, `HintedSql.Relation.join`.
* `HintedSql.JoinKind.padsLeft`, `HintedSql.JoinKind.padsRight` — which input of a join may be
  replaced by nulls; `HintedSql.JoinKind.unpad` — the kind that does so for fewer inputs.

## Main results

* `HintedSql.Relation.restrict_join` — what tests that read one side each make of a join, if a test
  of a padded side lets all rows pass or no row of nulls.
* `HintedSql.Relation.join_restrict` — restrictions of the inputs of a join can be made after it, if
  they read one side only and that side is not padded.
-/

namespace HintedSql

/-- Named cells in order; an absent value is null. -/
abbrev Row (α : Type) := List (String × Option α)

/-- The row of nulls over a header. -/
def Row.nulls {α : Type} (header : List String) : Row α :=
  header.map fun name => (name, none)

/-- Rows over a common header. -/
@[ext]
structure Relation (α : Type) where
  header : List String
  rows : List (Row α)
  names_eq_header : ∀ row ∈ rows, row.map Prod.fst = header

namespace JoinKind

/-- Whether rows of the right input are kept with nulls in place of a row of the left one. -/
def padsLeft : JoinKind → Bool
  | right | full => true
  | inner | left => false

/-- Whether rows of the left input are kept with nulls in place of a row of the right one. -/
def padsRight : JoinKind → Bool
  | left | full => true
  | inner | right => false

/-- The kind that pads given inputs. -/
def ofPads : Bool → Bool → JoinKind
  | false, false => inner
  | false, true => left
  | true, false => right
  | true, true => full

/-- The kind that pads given inputs pads the left one if it should. -/
@[simp] lemma padsLeft_ofPads (l r : Bool) : (ofPads l r).padsLeft = l := by
  cases l <;> cases r <;> rfl

/-- The kind that pads given inputs pads the right one if it should. -/
@[simp] lemma padsRight_ofPads (l r : Bool) : (ofPads l r).padsRight = r := by
  cases l <;> cases r <;> rfl

/-- A kind is determined by the inputs it pads. -/
@[simp] lemma ofPads_pads (kind : JoinKind) : ofPads kind.padsLeft kind.padsRight = kind := by
  cases kind <;> rfl

/-- The kind of a join that no longer pads its left input, its right input, or both. -/
def unpad (kind : JoinKind) (left right : Bool) : JoinKind :=
  ofPads (kind.padsLeft && !left) (kind.padsRight && !right)

end JoinKind

namespace Relation

variable {α : Type}

/-- The row of nulls of a relation. -/
def nulls (R : Relation α) : Row α :=
  Row.nulls R.header

/-- The rows that pass a test. -/
def restrict (R : Relation α) (keep : Row α → Bool) : Relation α where
  header := R.header
  rows := R.rows.filter keep
  names_eq_header row h := R.names_eq_header row (List.mem_filter.mp h).1

/-- Given columns of every row, found by `cell`; no columns stand for all of them. -/
def project (R : Relation α) (cell : String → Row α → Option α) (columns : List String) :
    Relation α :=
  if columns = [] then R
  else
    { header := columns
      rows := R.rows.map fun row => columns.map fun name => (name, cell name row)
      names_eq_header := by simp [Function.comp_def] }

/-! ## Joins -/

/-- The concatenations of matching rows. -/
def matched (L R : Relation α) (on : Row α → Bool) : List (Row α) :=
  L.rows.flatMap fun x => (R.rows.filter fun y => on (x ++ y)).map (x ++ ·)

/-- The left rows that match nothing, with nulls to the right. -/
def leftAlone (L R : Relation α) (on : Row α → Bool) : List (Row α) :=
  (L.rows.filter fun x => !R.rows.any fun y => on (x ++ y)).map (· ++ R.nulls)

/-- The right rows that match nothing, with nulls to the left. -/
def rightAlone (L R : Relation α) (on : Row α → Bool) : List (Row α) :=
  (R.rows.filter fun y => !L.rows.any fun x => on (x ++ y)).map (L.nulls ++ ·)

/-- A row of nulls has the columns of its relation. -/
lemma names_nulls (R : Relation α) : R.nulls.map Prod.fst = R.header := by
  simp [nulls, Row.nulls, Function.comp_def]

/-- A pair of matching rows has the columns of both inputs. -/
lemma names_of_mem_matched {L R : Relation α} {on : Row α → Bool} {row : Row α}
    (h : row ∈ L.matched R on) : row.map Prod.fst = L.header ++ R.header := by
  simp only [matched, List.mem_flatMap, List.mem_map, List.mem_filter] at h
  obtain ⟨x, hx, y, ⟨hy, _⟩, rfl⟩ := h
  rw [List.map_append, L.names_eq_header x hx, R.names_eq_header y hy]

/-- A row of the left input without a match has the columns of both inputs. -/
lemma names_of_mem_leftAlone {L R : Relation α} {on : Row α → Bool} {row : Row α}
    (h : row ∈ L.leftAlone R on) : row.map Prod.fst = L.header ++ R.header := by
  simp only [leftAlone, List.mem_map, List.mem_filter] at h
  obtain ⟨x, ⟨hx, _⟩, rfl⟩ := h
  rw [List.map_append, L.names_eq_header x hx, R.names_nulls]

/-- A row of the right input without a match has the columns of both inputs. -/
lemma names_of_mem_rightAlone {L R : Relation α} {on : Row α → Bool} {row : Row α}
    (h : row ∈ L.rightAlone R on) : row.map Prod.fst = L.header ++ R.header := by
  simp only [rightAlone, List.mem_map, List.mem_filter] at h
  obtain ⟨y, ⟨hy, _⟩, rfl⟩ := h
  rw [List.map_append, L.names_nulls, R.names_eq_header y hy]

/-- The join of two relations: matching rows, and rows of either side that match nothing if the
other side is padded. -/
def join (kind : JoinKind) (L R : Relation α) (on : Row α → Bool) : Relation α where
  header := L.header ++ R.header
  rows :=
    L.matched R on ++ (if kind.padsRight then L.leftAlone R on else [])
      ++ (if kind.padsLeft then L.rightAlone R on else [])
  names_eq_header row h := by
    simp only [List.mem_append, List.mem_ite_nil_right] at h
    obtain (h | ⟨_, h⟩) | ⟨_, h⟩ := h
    · exact names_of_mem_matched h
    · exact names_of_mem_leftAlone h
    · exact names_of_mem_rightAlone h

/-! ## Restrictions below and above a join -/

/-- A test that every row passes restricts nothing. -/
lemma restrict_of_forall {R : Relation α} {keep : Row α → Bool} (h : ∀ row, keep row = true) :
    R.restrict keep = R := by
  ext1
  · rfl
  · exact List.filter_eq_self.mpr fun row _ => h row

/-- A restriction of a restriction is one by both tests. -/
lemma restrict_restrict (R : Relation α) (p q : Row α → Bool) :
    (R.restrict p).restrict q = R.restrict fun row => p row && q row := by
  simp [restrict, List.filter_filter, Bool.and_comm]

/-- Rows that are dropped contribute nothing. -/
private lemma flatMap_filter {β γ : Type} (xs : List β) (p : β → Bool) (f : β → List γ) :
    (xs.filter p).flatMap f = xs.flatMap fun x => if p x then f x else [] := by
  induction xs with
  | nil => rfl
  | cons x xs ih => by_cases h : p x <;> simp [h, ih]

/-- The partners of one row in a restricted relation, if the row itself passes. -/
private lemma map_filter_partners {R : Relation α} {on p q : Row α → Bool} {x : Row α}
    (hp : ∀ y ∈ R.rows, p (x ++ y) = p x) (hq : ∀ y ∈ R.rows, q (x ++ y) = q y) :
    (if p x then ((R.restrict q).rows.filter fun y => on (x ++ y)).map (x ++ ·) else []) =
      ((R.rows.filter fun y => on (x ++ y)).map (x ++ ·)).filter fun row => p row && q row := by
  rw [List.filter_map, List.filter_filter]
  have hrow : (R.rows.filter fun y => ((fun row => p row && q row) ∘ (x ++ ·)) y && on (x ++ y)) =
      R.rows.filter fun y => p x && (on (x ++ y) && q y) := by
    refine List.filter_congr fun y hy => ?_
    rw [Function.comp_apply, hp y hy, hq y hy, Bool.and_assoc, Bool.and_comm (q y)]
  rw [hrow]
  cases p x with
  | false => simp
  | true => simp [restrict, List.filter_filter]

/-- Matching rows of restricted inputs are those matching rows that pass both tests. -/
lemma matched_restrict {L R : Relation α} {on p q : Row α → Bool}
    (hp : ∀ x ∈ L.rows, ∀ y ∈ R.rows, p (x ++ y) = p x)
    (hq : ∀ x ∈ L.rows, ∀ y ∈ R.rows, q (x ++ y) = q y) :
    (L.restrict p).matched (R.restrict q) on =
      (L.matched R on).filter fun row => p row && q row := by
  rw [matched, matched, List.filter_flatMap]
  change (L.rows.filter p).flatMap _ = _
  rw [flatMap_filter]
  exact List.flatMap_congr fun x hx => map_filter_partners (hp x hx) (hq x hx)

/-- Left rows without a partner, if the right input is not restricted. -/
lemma leftAlone_restrict {L R : Relation α} {on p q : Row α → Bool}
    (hp : ∀ x ∈ L.rows, p (x ++ R.nulls) = p x) (hq : ∀ row, q row = true) :
    (L.restrict p).leftAlone (R.restrict q) on =
      (L.leftAlone R on).filter fun row => p row && q row := by
  rw [restrict_of_forall hq, leftAlone, leftAlone, List.filter_map, List.filter_filter]
  change List.map _ (List.filter _ (L.rows.filter p)) = _
  rw [List.filter_filter]
  congr 1
  refine List.filter_congr fun x hx => ?_
  simp [hp x hx, hq, Bool.and_comm]

/-- Right rows without a partner, if the left input is not restricted. -/
lemma rightAlone_restrict {L R : Relation α} {on p q : Row α → Bool}
    (hp : ∀ row, p row = true) (hq : ∀ y ∈ R.rows, q (L.nulls ++ y) = q y) :
    (L.restrict p).rightAlone (R.restrict q) on =
      (L.rightAlone R on).filter fun row => p row && q row := by
  rw [restrict_of_forall hp, rightAlone, rightAlone, List.filter_map, List.filter_filter]
  change List.map _ (List.filter _ (R.rows.filter q)) = _
  rw [List.filter_filter]
  congr 1
  refine List.filter_congr fun y hy => ?_
  simp [hp, hq y hy, Bool.and_comm]

/-- A test that rejects nulls to the right leaves no left row without a partner. -/
lemma filter_leftAlone_eq_nil {L R : Relation α} {on p q : Row α → Bool}
    (hq : ∀ x ∈ L.rows, q (x ++ R.nulls) = false) :
    ((L.leftAlone R on).filter fun row => p row && q row) = [] := by
  rw [List.filter_eq_nil_iff]
  intro row hrow
  obtain ⟨x, hx, rfl⟩ := List.mem_map.mp hrow
  simp [hq x (List.mem_of_mem_filter hx)]

/-- A test that rejects nulls to the left leaves no right row without a partner. -/
lemma filter_rightAlone_eq_nil {L R : Relation α} {on p q : Row α → Bool}
    (hp : ∀ y ∈ R.rows, p (L.nulls ++ y) = false) :
    ((L.rightAlone R on).filter fun row => p row && q row) = [] := by
  rw [List.filter_eq_nil_iff]
  intro row hrow
  obtain ⟨y, hy, rfl⟩ := List.mem_map.mp hrow
  simp [hp y (List.mem_of_mem_filter hy)]

/-- **Tests after a join, each of which reads one side.** They are restrictions of the inputs, and
where the test of a padded side rejects nulls, that side is no longer padded; otherwise it has to
let all rows pass.

**Proof sketch.** Matching rows are pairs, and both tests can be made on the pair. A row that is
kept without a partner has nulls on the other side. If the test of that side rejects them, the row
is gone. If the test rejects nothing, the side in which the row found no partner is not restricted,
so the row finds none before or after, and its own test does not see the nulls. -/
theorem restrict_join {kind : JoinKind} {L R : Relation α} {on p q : Row α → Bool}
    (dropLeft dropRight : Bool)
    (hp : ∀ x ∈ L.rows, ∀ y, y ∈ R.rows ∨ kind.padsRight ∧ y = R.nulls → p (x ++ y) = p x)
    (hq : ∀ y ∈ R.rows, ∀ x, x ∈ L.rows ∨ kind.padsLeft ∧ x = L.nulls → q (x ++ y) = q y)
    (hleft : kind.padsLeft →
      if dropLeft then ∀ y ∈ R.rows, p (L.nulls ++ y) = false else ∀ row, p row = true)
    (hright : kind.padsRight →
      if dropRight then ∀ x ∈ L.rows, q (x ++ R.nulls) = false else ∀ row, q row = true) :
    (L.join kind R on).restrict (fun row => p row && q row) =
      (L.restrict p).join (kind.unpad dropLeft dropRight) (R.restrict q) on := by
  ext1
  · rfl
  have hmatched : (L.restrict p).matched (R.restrict q) on =
      (L.matched R on).filter fun row => p row && q row :=
    matched_restrict (fun x hx y hy => hp x hx y (.inl hy)) (fun x hx y hy => hq y hy x (.inl hx))
  have hl : (if kind.padsRight && !dropRight then (L.restrict p).leftAlone (R.restrict q) on
      else []) = (if kind.padsRight then L.leftAlone R on else []).filter
        fun row => p row && q row := by
    by_cases hpad : kind.padsRight
    · have hright := hright hpad
      cases dropRight with
      | false =>
        simpa [hpad] using
          leftAlone_restrict (fun x hx => hp x hx _ (.inr ⟨hpad, rfl⟩)) hright
      | true => simp only [hpad, if_true, filter_leftAlone_eq_nil hright]; rfl
    · simp [hpad]
  have hr : (if kind.padsLeft && !dropLeft then (L.restrict p).rightAlone (R.restrict q) on
      else []) = (if kind.padsLeft then L.rightAlone R on else []).filter
        fun row => p row && q row := by
    by_cases hpad : kind.padsLeft
    · have hleft := hleft hpad
      cases dropLeft with
      | false =>
        simpa [hpad] using
          rightAlone_restrict hleft (fun y hy => hq y hy _ (.inr ⟨hpad, rfl⟩))
      | true => simp only [hpad, if_true, filter_rightAlone_eq_nil hleft]; rfl
    · simp [hpad]
  simp only [join, restrict, JoinKind.unpad, JoinKind.padsLeft_ofPads, JoinKind.padsRight_ofPads,
    List.filter_append] at hmatched hl hr ⊢
  rw [hmatched, hl, hr]

/-- **Restrictions of the inputs of a join can be made after the join** if each of them reads its
own side only and restricts no side that is padded. -/
theorem join_restrict {kind : JoinKind} {L R : Relation α} {on p q : Row α → Bool}
    (hp : ∀ x ∈ L.rows, ∀ y, y ∈ R.rows ∨ kind.padsRight ∧ y = R.nulls → p (x ++ y) = p x)
    (hq : ∀ y ∈ R.rows, ∀ x, x ∈ L.rows ∨ kind.padsLeft ∧ x = L.nulls → q (x ++ y) = q y)
    (hleft : kind.padsLeft → ∀ row, p row = true)
    (hright : kind.padsRight → ∀ row, q row = true) :
    (L.restrict p).join kind (R.restrict q) on =
      (L.join kind R on).restrict fun row => p row && q row := by
  have hkind : kind.unpad false false = kind := by simp [JoinKind.unpad]
  rw [restrict_join false false hp hq hleft hright, hkind]

end Relation

end HintedSql
