import HintedSql.Yaml.Scalar
import HintedSql.Proofs.Json.Numeral
set_option relaxedAutoImplicit false
set_option autoImplicit false

/-!
# JSON scalars as YAML scalars

A JSON text of printable characters is a double-quoted YAML scalar: of the characters that JSON
escapes only the quote and the backslash are printable, and YAML escapes them in the same way. The
other JSON scalars are words without white space, which are read as plain scalars.

The reader stays on one line, so places are told by how far they are behind the first one.

## Main definitions

* `HintedSql.Text.IsPrintable` — printable ASCII.
* `HintedSql.Yaml.Position.past` — the position some characters further.
* `HintedSql.Yaml.isSolid` — characters that no gap swallows.
* `HintedSql.Yaml.IsWord` — what is one plain scalar inside brackets.

## Main results

* `HintedSql.Yaml.doubleFrom_quoted` — quoted texts.
* `HintedSql.Yaml.plainFrom_word` — words.
* `HintedSql.Yaml.isWord_of_numberSpelling` — a number is a word.
-/

namespace HintedSql

namespace Text

/-- A text of printable ASCII characters and spaces. -/
def IsPrintable (cs : List Char) : Prop :=
  ∀ c ∈ cs, 0x20 ≤ c.toNat ∧ c.toNat ≤ 0x7E

instance (cs : List Char) : Decidable (IsPrintable cs) :=
  List.decidableBAll (fun c : Char => 0x20 ≤ c.toNat ∧ c.toNat ≤ 0x7E) cs

end Text

namespace Yaml

open Text (IsPrintable)

/-! ## Characters -/

section Printable

variable {c : Char} (hc : 0x20 ≤ c.toNat ∧ c.toNat ≤ 0x7E)

include hc

/-- A printable character is none of the others. -/
lemma ne_of_printable {d : Char} (hd : d.toNat < 0x20 ∨ 0x7E < d.toNat) : c ≠ d := by
  rintro rfl
  omega

/-- A printable character ends no line. -/
lemma isBreak_of_printable : isBreak c = false := by
  have h {d : Char} (hd : d.toNat < 0x20 ∨ 0x7E < d.toNat) : c ≠ d := ne_of_printable hc hd
  simp [isBreak, h]

/-- A YAML text may hold every printable character. -/
lemma isAllowed_of_printable : isAllowed c = true := by
  simp [isAllowed, hc]

/-- Of the printable characters only quotes and backslashes are escaped. -/
lemma escape_of_printable :
    Json.escape c = if c = '"' then ['\\', '"'] else if c = '\\' then ['\\', '\\'] else [c] := by
  have h {d : Char} (hd : d.toNat < 0x20 ∨ 0x7E < d.toNat) : c ≠ d := ne_of_printable hc hd
  simp [Json.escape, h, Nat.not_lt.mpr hc.1]

end Printable

/-- The characters with which a JSON value begins. -/
def openers : List Char :=
  "\"[\x7b-ntf0123456789".toList

/-- The characters of JSON numbers. -/
def numberChars : List Char :=
  "+-.eE0123456789".toList

/-- A digit has what each of the ten digits has. -/
@[elab_as_elim]
lemma of_isDigit {p : Char → Prop} [DecidablePred p] {c : Char}
    (h : Decimal.isDigit c = true)
    (hall : "0123456789".toList.all (fun d => decide (p d)) = true) : p c := by
  have hbounds : 48 ≤ c.toNat ∧ c.toNat ≤ 57 := by
    simpa [Decimal.isDigit, Char.le_def, UInt32.le_iff_toNat_le] using h
  have hdigits : ∀ k < 10, Char.ofNat (48 + k) ∈ "0123456789".toList := by decide
  obtain ⟨k, hk, hc⟩ : ∃ k < 10, c.toNat = 48 + k := ⟨c.toNat - 48, by omega, by omega⟩
  rw [← Char.ofNat_toNat c, hc]
  exact of_decide_eq_true (List.all_eq_true.mp hall _ (hdigits k hk))

/-! ## Places on one line -/

/-- The position `n` characters further on the same line. -/
def Position.past (p : Position) (n : Nat) : Position :=
  ⟨p.index + n, p.line, p.column + n⟩

/-- A position is no characters past itself. -/
@[simp] lemma Position.past_zero (p : Position) : p.past 0 = p := rfl

/-- Characters are passed one after the other. -/
@[simp] lemma Position.past_past (p : Position) (m n : Nat) :
    (p.past m).past n = p.past (m + n) := by
  simp [past, Nat.add_assoc]

/-- Passing characters moves on by as many columns. -/
@[simp] lemma Position.column_past (p : Position) (n : Nat) :
    (p.past n).column = p.column + n := rfl

/-- A character that ends no line takes up one column. -/
lemma Position.after_of_not_isBreak {c : Char} (h : isBreak c = false) (p : Position)
    (next : List Char) : p.after c next = p.past 1 := by
  simp [after, past, h]

/-- The place after the first character. -/
@[simp] lemma Cursor.past_one (c : Char) (cs : List Char) (p : Position) (fresh : Bool) :
    Cursor.past ⟨c :: cs, p, fresh⟩ 1 = ⟨cs, p.past 1, false⟩ := rfl

/-- What stands after the start of a line is no document marker. -/
lemma Cursor.atMarker_of_column_pos {p : Position} (h : 0 < p.column) (cs : List Char)
    (fresh : Bool) : Cursor.atMarker ⟨cs, p, fresh⟩ = false := by
  have hcolumn : p.column ≠ 0 := by omega
  simp [atMarker, atOpening, atClosing, column, hcolumn]

/-- Whether a gap ends in front of a character wherever that stands. -/
def isSolid (c : Char) : Bool :=
  !isBreak c && c != ' ' && c != '\t' && c != '\ufeff' && c != '#'

/-- No gap begins in front of a solid character. -/
lemma Cursor.gap_of_isSolid {c : Char} (h : isSolid c = true) (flow : Bool) (cs : List Char)
    (p : Position) (fresh : Bool) :
    Cursor.gap flow ⟨c :: cs, p, fresh⟩ = ⟨c :: cs, p, fresh⟩ := by
  simp only [isSolid, Bool.and_eq_true, Bool.not_eq_true', bne_iff_ne, ne_eq] at h
  simp [gap, gapFrom, h]

/-- What values begin with is solid. -/
lemma isSolid_of_mem_openers : ∀ c ∈ openers, isSolid c = true :=
  List.all_eq_true.mp (by decide)

/-- No gap begins in front of what separates values. -/
lemma Cursor.gap_separator {c : Char} (h : c ∈ [',', ':', ']', '\x7d']) (flow : Bool)
    (cs : List Char) (p : Position) (fresh : Bool) :
    Cursor.gap flow ⟨c :: cs, p, fresh⟩ = ⟨c :: cs, p, fresh⟩ := by
  have hsolid : ∀ c ∈ [',', ':', ']', '\x7d'], isSolid c = true :=
    List.all_eq_true.mp (by decide)
  exact gap_of_isSolid (hsolid c h) flow cs p fresh

/-! ## Double-quoted scalars -/

namespace Fold

/-- No line has ended since the last character. -/
def OnLine (f : Fold) : Prop :=
  f.broken = false ∧ f.escaped = false

/-- A character is added to the text. -/
@[simp] lemma text_push (f : Fold) (c : Char) : (f.push c).text = c :: f.text := rfl

/-- After a character a scalar is on its line. -/
lemma onLine_push (f : Fold) (c : Char) : (f.push c).OnLine := ⟨rfl, rfl⟩

/-- After a blank a scalar is still on its line. -/
lemma OnLine.blank {f : Fold} (h : f.OnLine) (c : Char) : (f.blank c).OnLine := by
  rw [Fold.blank, if_neg (by simp [h.1])]
  exact h

/-- On a line a blank is added to the text. -/
lemma OnLine.text_blank {f : Fold} (h : f.OnLine) (c : Char) :
    (f.blank c).text = c :: f.text := by
  simp [Fold.blank, text, h.1, h.2]

end Fold

/-- A printable character is read back from its spelling. -/
lemma doubleFrom_escape {c : Char} (hc : 0x20 ≤ c.toNat ∧ c.toNat ≤ 0x7E) {f : Fold}
    (hf : f.OnLine) (p : Position) (rest : List Char) :
    ∃ g : Fold, g.OnLine ∧ g.text = c :: f.text ∧
      doubleFrom .text f p (Json.escape c ++ rest) =
        doubleFrom .text g (p.past (Json.escape c).length) rest := by
  have hbreak := isBreak_of_printable hc
  by_cases hspecial : c = '"' ∨ c = '\\'
  · refine ⟨f.push c, f.onLine_push c, f.text_push c, ?_⟩
    rcases hspecial with rfl | rfl <;> rfl
  · obtain ⟨hquote, hbackslash⟩ := not_or.mp hspecial
    rw [escape_of_printable hc, if_neg hquote, if_neg hbackslash]
    by_cases hblank : isBlank c = true
    · refine ⟨f.blank c, hf.blank c, hf.text_blank c, ?_⟩
      simp [doubleFrom, hquote, hbackslash, hbreak, hblank, Position.after_of_not_isBreak]
    · refine ⟨f.push c, f.onLine_push c, f.text_push c, ?_⟩
      simp [doubleFrom, hquote, hbackslash, hbreak, hblank, hf.1, Position.after_of_not_isBreak]

/-- **A written text** of printable characters is read back up to its closing quote. -/
theorem doubleFrom_quoted {cs : List Char} (hcs : IsPrintable cs) {f : Fold} (hf : f.OnLine)
    (p : Position) (rest : List Char) :
    doubleFrom .text f p (cs.flatMap Json.escape ++ '"' :: rest) =
      .ok (String.ofList (f.text.reverse ++ cs),
        ⟨rest, p.past ((cs.flatMap Json.escape).length + 1), false⟩) := by
  induction cs generalizing f p with
  | nil => simp [doubleFrom, Fold.toString, Position.after_of_not_isBreak, isBreak]
  | cons c cs ih =>
    obtain ⟨hc, hcs⟩ := List.forall_mem_cons.mp hcs
    obtain ⟨g, hg, htext, hstep⟩ :=
      doubleFrom_escape hc hf p (cs.flatMap Json.escape ++ '"' :: rest)
    rw [List.flatMap_cons, List.append_assoc, hstep, ih hcs hg, htext]
    simp [Nat.add_assoc]

/-! ## Plain scalars -/

/-- Whether a character inside a word can be told from what stands around the word. -/
def isInner (c : Char) : Bool :=
  !isBreak c && !isBlank c && !isFlowEnd c && c != ':'

/-- A word that is read as one plain scalar inside brackets. -/
structure IsWord (w : List Char) : Prop where
  starts : ∀ rest, startsPlain true (w ++ rest) = true
  inner : ∀ c ∈ w, isInner c = true

/-- A text with which a list or record goes on or ends. -/
def Closes (rest : List Char) : Prop :=
  ∃ c cs, rest = c :: cs ∧ isFlowEnd c = true

/-- **A word** is read up to where the list or record goes on. -/
theorem plainFrom_word {w : List Char} (hw : ∀ c ∈ w, isInner c = true) {rest : List Char}
    (hrest : Closes rest) (least : Nat) {f : Fold} (hf : f.OnLine) (hblanks : f.blanks = [])
    (p : Position) :
    plainFrom true least f p (w ++ rest) =
      .ok (String.ofList (f.settled.reverse ++ w), ⟨rest, p.past w.length, false⟩) := by
  induction w generalizing f p with
  | nil =>
    obtain ⟨c, cs, rfl, hend⟩ := hrest
    have hc : isBreak c = false ∧ isBlank c = false ∧ c ≠ ':' := by
      simp only [isFlowEnd, Bool.or_eq_true, beq_iff_eq] at hend
      rcases hend with (((rfl | rfl) | rfl) | rfl) | rfl <;> decide
    simp [plainFrom, hc, hend, hf.1, hblanks, Fold.trimmed]
  | cons c w ih =>
    obtain ⟨hc, hw⟩ := List.forall_mem_cons.mp hw
    simp only [isInner, Bool.and_eq_true, Bool.not_eq_true', bne_iff_ne, ne_eq] at hc
    obtain ⟨⟨⟨hbreak, hblank⟩, hend⟩, hcolon⟩ := hc
    have hstep : plainFrom true least f p (c :: w ++ rest) =
        plainFrom true least (f.push c) (p.past 1) (w ++ rest) := by
      simp [plainFrom, hbreak, hblank, hend, hcolon, hf.1, hblanks, Position.after_of_not_isBreak]
    have hsettled : (f.push c).settled = c :: f.settled := by
      simp [Fold.push, Fold.text, hf.1, hf.2, hblanks]
    rw [hstep, ih hw (f.onLine_push c) rfl, hsettled]
    simp [Nat.add_comm]

/-- What a number begins with. -/
lemma exists_digit_of_numberSpelling {n : Json.Number} {w : List Char}
    (h : Json.NumberSpelling n w) :
    ∃ d ds, Decimal.isDigit d = true ∧ w = signed n.negative (d :: ds) := by
  cases h with
  | mk negative hwhole _ _ _ =>
    obtain ⟨d, ds, rfl⟩ := List.exists_cons_of_ne_nil hwhole.1
    exact ⟨d, _, hwhole.2 d List.mem_cons_self, rfl⟩

/-- Digits are among the characters of numbers. -/
lemma mem_numberChars_of_isDigits {ds : List Char} (h : ∀ d ∈ ds, Decimal.isDigit d = true) :
    ∀ d ∈ ds, d ∈ numberChars :=
  fun d hd => of_isDigit (h d hd) (by decide)

/-- A number consists of the characters of numbers. -/
lemma mem_numberChars_of_numberSpelling {n : Json.Number} {w : List Char}
    (h : Json.NumberSpelling n w) : ∀ c ∈ w, c ∈ numberChars := by
  cases h with
  | @mk negative whole fs es fraction exponent hwhole _ hfraction hexponent =>
    have hfs : ∀ c ∈ fs, c ∈ numberChars := by
      cases hfraction with
      | none => simp
      | some hds =>
        exact List.forall_mem_cons.mpr ⟨by decide, mem_numberChars_of_isDigits hds.2⟩
    have hes : ∀ c ∈ es, c ∈ numberChars := by
      cases hexponent with
      | none => simp
      | @some mark negative sign ds hmark hsign hds =>
        have hsigns : ∀ c ∈ sign, c ∈ numberChars := by
          simp only [List.mem_cons, Prod.mk.injEq, List.not_mem_nil, or_false] at hsign
          rcases hsign with ⟨-, rfl⟩ | ⟨-, rfl⟩ | ⟨-, rfl⟩
          · exact List.forall_mem_singleton.mpr (by decide)
          · exact List.forall_mem_singleton.mpr (by decide)
          · exact List.forall_mem_nil _
        refine List.forall_mem_cons.mpr ⟨?_, List.forall_mem_append.mpr
          ⟨hsigns, mem_numberChars_of_isDigits hds.2⟩⟩
        rcases hmark with rfl | rfl <;> decide
    have hunsigned : ∀ c ∈ whole ++ (fs ++ es), c ∈ numberChars :=
      List.forall_mem_append.mpr ⟨mem_numberChars_of_isDigits hwhole.2,
        List.forall_mem_append.mpr ⟨hfs, hes⟩⟩
    cases negative with
    | false => exact hunsigned
    | true => exact List.forall_mem_cons.mpr ⟨by decide, hunsigned⟩

/-- A number is a word. -/
theorem isWord_of_numberSpelling {n : Json.Number} {w : List Char} (h : Json.NumberSpelling n w) :
    IsWord w := by
  have hinner : ∀ c ∈ numberChars, isInner c = true := List.all_eq_true.mp (by decide)
  refine ⟨fun rest => ?_, fun c hc => hinner c (mem_numberChars_of_numberSpelling h c hc)⟩
  obtain ⟨d, ds, hd, rfl⟩ := exists_digit_of_numberSpelling h
  have hfacts : isBlank d = false ∧ isBreak d = false ∧ isIndicator d = false ∧ d ≠ '-' ∧
      d ≠ '?' ∧ d ≠ ':' := of_isDigit hd (by decide)
  cases n.negative <;> simp [signed, startsPlain, startsBlank, hfacts]

end Yaml

end HintedSql
