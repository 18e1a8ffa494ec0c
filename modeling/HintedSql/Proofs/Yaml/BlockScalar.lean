import HintedSql.Yaml.BlockScalar
import HintedSql.Proofs.Yaml.Scalar
set_option relaxedAutoImplicit false
set_option autoImplicit false

/-!
# Texts in lines of their own

After `|` a text stands in a YAML document as it is: its lines one below the other, indented to one
column. It is read back without the indentation, whatever its lines hold, as long as the first of
them does not begin with a blank, from which the column could not be told.

The reader goes through the text character by character. Blanks in front of a line are passed over
up to the column, the characters of a line are kept one by one, and a line break leads to the next
line.

## Main definitions

* `HintedSql.Yaml.IsLine`, `HintedSql.Yaml.indented` — lines, and how they are written.
* `HintedSql.Yaml.Lines.addLine` — what has been read after one more line.

## Main results

* `HintedSql.Yaml.linesFrom_line` — one line.
* `HintedSql.Yaml.linesFrom_indented` — all lines.
* `HintedSql.Yaml.blockScalar_literal` — a text in lines of its own is read as it stands.
-/

namespace HintedSql.Yaml

/-! ## Lines -/

/-- The characters of a line: there are some, and none of them ends it. -/
def IsLine (line : List Char) : Prop :=
  line ≠ [] ∧ ∀ c ∈ line, isBreak c = false

/-- Lines with a line break behind each of them. -/
def unlines (lines : List (List Char)) : List Char :=
  lines.flatMap fun line => line ++ ['\n']

/-- Lines that are indented to a column. -/
def indented (column : Nat) (lines : List (List Char)) : List Char :=
  unlines (lines.map (List.replicate column ' ' ++ ·))

/-- What may follow an indented text: nothing, or something at the start of a line. -/
def EndsIndented (rest : List Char) : Prop :=
  ∀ c ∈ rest.head?, isBreak c = false ∧ isBlank c = false

/-- A character that ends no line is no carriage return. -/
lemma ne_return_of_not_isBreak {c : Char} (h : isBreak c = false) : c ≠ '\r' := by
  rintro rfl
  cases h

/-- A line feed leads to the start of a line. -/
lemma Position.column_after_newline (p : Position) (rest : List Char) :
    (p.after '\n' rest).column = 0 := by
  simp [Position.after, isBreak]

namespace Lines

/-- A text after `|` inside what stands in column `outer`, before anything has been read of it. -/
def unread (outer : Nat) : Lines :=
  { literal := true, least := outer, column := none }

/-- What has been read of a text after `|`, once there is one more line with its line break. -/
def addLine (column : Nat) (l : Lines) (line : List Char) : Lines :=
  { l with
    column := some column
    text := line.reverse ++ (l.ended ++ l.text)
    indented := line.head?.any isBlank
    ended := ['\n']
    empty := [] }

/-- After some lines with their line breaks. -/
lemma text_foldl_addLine (column : Nat) (lines : List (List Char)) (l : Lines) :
    (lines.foldl (addLine column) l).ended ++ (lines.foldl (addLine column) l).text =
      (unlines lines).reverse ++ (l.ended ++ l.text) := by
  induction lines generalizing l with
  | nil => rfl
  | cons line lines ih =>
    rw [List.foldl_cons, ih]
    simp [addLine, unlines]

/-- A text in lines ends with one line break. -/
lemma ended_foldl_addLine (column : Nat) {lines : List (List Char)} (h : lines ≠ []) (l : Lines) :
    (lines.foldl (addLine column) l).ended = ['\n'] ∧
      (lines.foldl (addLine column) l).empty = [] := by
  induction lines generalizing l with
  | nil => exact absurd rfl h
  | cons line lines ih =>
    cases lines with
    | nil => exact ⟨rfl, rfl⟩
    | cons line' lines => exact ih (by simp) _

end Lines

/-! ## One line -/

/-- Blanks in front of a line are passed over up to its column. -/
lemma linesFrom_margin {l : Lines} {n : Nat} {p : Position}
    (h : ∀ i < n, l.isMargin (p.column + i) = true) (cs : List Char) :
    linesFrom false l p (List.replicate n ' ' ++ cs) = linesFrom false l (p.past n) cs := by
  induction n generalizing p with
  | zero => rfl
  | succ n ih =>
    have hfirst : l.isMargin p.column = true := h 0 (by omega)
    rw [List.replicate_succ, List.cons_append, linesFrom]
    · simp only [Position.after_of_not_isBreak (c := ' ') rfl]
      rw [if_neg (by decide), if_neg (by decide), if_pos (by simp [hfirst]), ih]
      · rw [Position.past_past, Nat.add_comm]
      · intro i hi
        rw [Position.column_past, Nat.add_assoc, Nat.add_comm 1]
        exact h (i + 1) (by omega)
    · intro _ hreturn
      cases hreturn

/-- The first character of a line begins it. -/
lemma linesFrom_begin {c : Char} (hc : isBreak c = false) {l : Lines} {p : Position}
    (hblank : isBlank c = true → l.isMargin p.column = false)
    (hcolumn : l.columnAt p.column = p.column) (cs : List Char) :
    linesFrom false l p (c :: cs) = linesFrom true (l.beginLine p.column c) (p.past 1) cs := by
  have hspace : (c == ' ' && l.isMargin p.column) = false := by
    by_cases h : c = ' '
    · simp [hblank (by simp [isBlank, h])]
    · simp [h]
  have htab : (c == '\t' && l.isMargin p.column) = false := by
    by_cases h : c = '\t'
    · simp [hblank (by simp [isBlank, h])]
    · simp [h]
  rw [linesFrom]
  · simp [hc, hspace, htab, hcolumn, Position.after_of_not_isBreak hc]
  · intro _ hreturn
    exact absurd hreturn (ne_return_of_not_isBreak hc)

/-- The rest of a line is kept as it is, up to the line break. -/
lemma linesFrom_inside {cs : List Char} (hcs : ∀ c ∈ cs, isBreak c = false) (l : Lines)
    (p : Position) (rest : List Char) :
    linesFrom true l p (cs ++ '\n' :: rest) =
      linesFrom false { l with text := cs.reverse ++ l.text, ended := ['\n'] }
        ((p.past cs.length).after '\n' rest) rest := by
  induction cs generalizing l p with
  | nil =>
    rw [List.nil_append, linesFrom]
    · rfl
    · intro _ hreturn
      cases hreturn
  | cons c cs ih =>
    obtain ⟨hc, hcs⟩ := List.forall_mem_cons.mp hcs
    rw [List.cons_append, linesFrom]
    · rw [if_neg (by simp [hc]), if_pos rfl, ih hcs, Position.after_of_not_isBreak hc]
      simp [Lines.push, Nat.add_comm]
    · intro _ hreturn
      exact absurd hreturn (ne_return_of_not_isBreak hc)

/-- **One line** of a text after `|` is added to it. A line that begins with a blank has to come
after others, since the blank would be passed over as long as the column is not known. -/
theorem linesFrom_line {line : List Char} (hline : IsLine line) {l : Lines} (hliteral : l.literal)
    (hempty : l.empty = []) {column : Nat} (hmargin : ∀ i < column, l.isMargin i = true)
    (hblank : line.head?.any isBlank = true → l.isMargin column = false)
    (hcolumn : l.columnAt column = column) {p : Position} (hp : p.column = 0)
    (rest : List Char) :
    ∃ q : Position, q.column = 0 ∧
      linesFrom false l p (List.replicate column ' ' ++ line ++ '\n' :: rest) =
        linesFrom false (l.addLine column line) q rest := by
  obtain ⟨c, cs, rfl⟩ := List.exists_cons_of_ne_nil hline.1
  obtain ⟨hc, hcs⟩ := List.forall_mem_cons.mp hline.2
  have hstart : (p.past column).column = column := by simp [hp]
  refine ⟨_, Position.column_after_newline ((p.past column).past (1 + cs.length)) rest, ?_⟩
  rw [List.append_assoc, linesFrom_margin (by simpa [hp] using hmargin), List.cons_append,
    linesFrom_begin hc (by rw [hstart]; exact hblank) (by rw [hstart]; exact hcolumn),
    linesFrom_inside hcs, hstart]
  simp [Lines.beginLine, Lines.joined, Lines.addLine, hliteral, hempty, Nat.add_assoc]

/-! ## All lines -/

/-- The text ends where something stands in front of its column. -/
lemma linesFrom_end {rest : List Char} (hrest : EndsIndented rest) {l : Lines} {column : Nat}
    (hl : l.column = some column) (hcolumn : 0 < column) {p : Position} (hp : p.column = 0) :
    linesFrom false l p rest = .ok (l, ⟨rest, p, true⟩) := by
  cases rest with
  | nil => rfl
  | cons c cs =>
    obtain ⟨hc, hblank⟩ := hrest c rfl
    simp only [isBlank, Bool.or_eq_false_iff, beq_eq_false_iff_ne, ne_eq] at hblank
    rw [linesFrom]
    · simp [hc, hblank, Lines.columnAt, hl, hp, Nat.ne_of_gt hcolumn]
    · intro _ hreturn
      exact absurd hreturn (ne_return_of_not_isBreak hc)

/-- **All lines** of a text after `|` are added to it, once its column is known. -/
theorem linesFrom_indented {lines : List (List Char)} (hlines : ∀ line ∈ lines, IsLine line)
    {l : Lines} (hliteral : l.literal) (hempty : l.empty = []) {column : Nat}
    (hl : l.column = some column) (hcolumn : 0 < column) {rest : List Char}
    (hrest : EndsIndented rest) {p : Position} (hp : p.column = 0) :
    ∃ q, linesFrom false l p (indented column lines ++ rest) =
      .ok (lines.foldl (Lines.addLine column) l, ⟨rest, q, true⟩) := by
  induction lines generalizing l p with
  | nil => exact ⟨p, linesFrom_end hrest hl hcolumn hp⟩
  | cons line lines ih =>
    obtain ⟨hline, hlines⟩ := List.forall_mem_cons.mp hlines
    have hat : l.columnAt column = column := by simp [Lines.columnAt, hl]
    obtain ⟨q, hq, hread⟩ := linesFrom_line hline hliteral hempty (by simp [Lines.isMargin, hl])
      (by simp [Lines.isMargin, hl]) hat hp (indented column lines ++ rest)
    obtain ⟨r, hr⟩ := ih hlines (l := l.addLine column line) hliteral rfl rfl hq
    refine ⟨r, ?_⟩
    rw [List.foldl_cons, ← hr, ← hread]
    simp [indented, unlines]

/-! ## Whole texts -/

namespace Chomping

/-- The sign for the treatment of the end. -/
def sign : Chomping → List Char
  | strip => ['-']
  | clip => []
  | keep => ['+']

/-- What is left of a text that ends with a line break. -/
def cut : Chomping → List Char → List Char
  | strip, cs => cs.dropLast
  | clip, cs | keep, cs => cs

end Chomping

/-- The text that has been read after some lines. -/
lemma Lines.toString_foldl_addLine (column : Nat) {lines : List (List Char)} (hlines : lines ≠ [])
    {l : Lines} (htext : l.text = []) (hended : l.ended = []) (chomping : Chomping) :
    (lines.foldl (addLine column) l).toString chomping =
      String.ofList (chomping.cut (unlines lines)) := by
  obtain ⟨hend, hempty⟩ := ended_foldl_addLine column hlines l
  have hall := text_foldl_addLine column lines l
  rw [hend, htext, hended, List.append_nil, List.append_nil, List.singleton_append] at hall
  have hkept : (lines.foldl (addLine column) l).text.reverse = (unlines lines).dropLast := by
    rw [← List.reverse_reverse (unlines lines), ← hall]
    simp
  cases chomping with
  | strip => rw [toString, Chomping.cut, hkept]
  | clip => rw [toString, Chomping.cut, hend, List.singleton_append, hall, List.reverse_reverse]
  | keep =>
    rw [toString, Chomping.cut, hend, hempty, List.nil_append, List.singleton_append, hall,
      List.reverse_reverse]

/-- The lines of a text after `|`, of which the first tells the column. -/
lemma linesFrom_text {line : List Char} {lines : List (List Char)} (hline : IsLine line)
    (hfirst : line.head?.any isBlank = false) (hlines : ∀ line ∈ lines, IsLine line)
    {outer column : Nat} (houter : outer ≤ column) (hcolumn : 0 < column) {rest : List Char}
    (hrest : EndsIndented rest) {p : Position} (hp : p.column = 0) :
    ∃ q, linesFrom false (.unread outer) p (indented column (line :: lines) ++ rest) =
      .ok ((line :: lines).foldl (Lines.addLine column) (.unread outer), ⟨rest, q, true⟩) := by
  have hat : (Lines.unread outer).columnAt column = column := by
    simp only [Lines.columnAt, Lines.unread, Option.getD_none]
    omega
  obtain ⟨q, hq, hone⟩ := linesFrom_line hline rfl rfl (fun _ _ => rfl) (by simp [hfirst]) hat hp
    (indented column lines ++ rest)
  obtain ⟨r, hr⟩ := linesFrom_indented hlines (l := (Lines.unread outer).addLine column line)
    rfl rfl rfl hcolumn hrest hq
  refine ⟨r, ?_⟩
  rw [List.foldl_cons, ← hr, ← hone]
  simp [indented, unlines]

/-- **A text in lines of its own is read as it stands.** Its lines are indented to a column beyond
what it belongs to, the first does not begin with a blank, and something else follows at the start
of a line, if anything does.

**Proof sketch.** The column is that of the first line, and then each line in turn is added to the
text without the blanks in front of it. -/
theorem blockScalar_literal {line : List Char} {lines : List (List Char)} (hline : IsLine line)
    (hfirst : line.head?.any isBlank = false) (hlines : ∀ line ∈ lines, IsLine line)
    {outer column : Nat} (houter : outer ≤ column) (hcolumn : 0 < column) {rest : List Char}
    (hrest : EndsIndented rest) (chomping : Chomping) (p : Position) (fresh : Bool) :
    ∃ q, blockScalar outer
        ⟨'|' :: (chomping.sign ++ '\n' :: (indented column (line :: lines) ++ rest)), p, fresh⟩ =
      .ok (String.ofList (chomping.cut (unlines (line :: lines))), ⟨rest, q, true⟩) := by
  have hheader (body : List Char) : BlockHeader.read (chomping.sign ++ '\n' :: body) =
      (⟨chomping, none⟩, chomping.sign.length) := by
    cases chomping <;> rfl
  have hend (body : List Char) :
      (Cursor.past ⟨'|' :: (chomping.sign ++ '\n' :: body), p, fresh⟩
        (1 + chomping.sign.length)).lineEnd =
          .ok ⟨'\n' :: body, p.past (1 + chomping.sign.length), false⟩ := by
    cases chomping <;> rfl
  obtain ⟨q, hq⟩ := linesFrom_text hline hfirst hlines houter hcolumn hrest
    (Position.column_after_newline (p.past (1 + chomping.sign.length))
      (indented column (line :: lines) ++ rest))
  refine ⟨q, ?_⟩
  rw [← Lines.toString_foldl_addLine column (List.cons_ne_nil line lines)
    (l := .unread outer) rfl rfl chomping]
  rw [Lines.unread] at hq ⊢
  simp [blockScalar, hheader, hend, BlockHeader.column?, hq, bind, Except.bind, pure, Except.pure]

end HintedSql.Yaml
