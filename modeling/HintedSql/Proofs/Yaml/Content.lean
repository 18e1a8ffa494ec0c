import HintedSql.Proofs.Number.Range
import HintedSql.Proofs.Yaml.Flow
set_option relaxedAutoImplicit false
set_option autoImplicit false

/-!
# The content of JSON text in YAML

A plain scalar may be null, a truth value, a whole number or a double. What JSON writes as one of
these is the same in YAML: a written integer has no leading zero, and a written double has a
fraction or an exponent, so that it is no whole number, and is the nearest double to its exact
value.

## Main definitions

* `HintedSql.Datum.content` — what data say.

## Main results

* `HintedSql.Decimal.toDouble_eq_finite` — a numeral that reads back, whatever its power of ten.
* `HintedSql.Yaml.readUnsigned_of_spelling` — the exact value of a number.
* `HintedSql.Yaml.resolve_int`, `HintedSql.Yaml.resolve_float` — written numbers.
* `HintedSql.Datum.Portable.content_node` — the content of the node of portable data.
-/

namespace HintedSql

/-! ## Numerals that read back -/

/-- A positive multiple of a large power of ten is beyond all doubles. -/
lemma Decimal.le_nearestCode {c n : Nat} (hc : 0 < c) (hn : 400 ≤ n) :
    2047 * Nat.pow 2 52 ≤ Double.nearestCode (c * Nat.pow 10 n) 1 := by
  have hlarge : 2047 * Nat.pow 2 52 ≤ Double.nearestCode (Nat.pow 10 200 * Nat.pow 10 200) 1 := by
    decide +kernel
  have hpow : Nat.pow 10 200 * Nat.pow 10 200 ≤ Nat.pow 10 n := by
    obtain ⟨k, rfl⟩ : ∃ k, n = 200 + k := ⟨n - 200, by omega⟩
    have hk : Nat.pow 10 200 ≤ Nat.pow 10 k := natPow_le_natPow (by decide) (by omega)
    exact (Nat.mul_le_mul_left _ hk).trans_eq (Nat.pow_add 10 200 k).symm
  have hmul : Nat.pow 10 n ≤ c * Nat.pow 10 n := Nat.le_mul_of_pos_left _ hc
  exact hlarge.trans (Double.nearestCode_mono Nat.one_pos Nat.one_pos
    (by rw [Nat.mul_one, Nat.mul_one]; exact hpow.trans hmul))

/-- The power of ten of a numeral that reads back is not large. -/
lemma Magnitude.le_of_readsBack {m : Magnitude} {c : Nat} {e : Int} (hc : c ≠ 0)
    (h : m.readsBack c e) : e ≤ 400 := by
  by_contra hlarge
  obtain ⟨n, rfl⟩ : ∃ n : Nat, e = n := ⟨e.toNat, by omega⟩
  have hcode : Double.nearestCode (c * Nat.pow 10 n) 1 = m.code := by
    rw [← readsBack_iff.mp h, Decimal.ratio_natCast]
  have hle := Decimal.le_nearestCode (Nat.pos_of_ne_zero hc) (by omega : 400 ≤ n)
  have hlt := m.code_lt
  omega

/-- A numeral that reads back has its double as the nearest one, whatever its power of ten. -/
theorem Decimal.toDouble_eq_finite {d : Decimal} {m : Magnitude}
    (h : m.readsBack d.coefficient d.exponent) : d.toDouble = .finite d.negative m := by
  obtain ⟨negative, c, e⟩ := d
  by_cases hc : c = 0
  · obtain rfl := hc
    rw [Magnitude.eq_zero_of_readsBack h]
    rfl
  · exact toDouble_of_readsBack (Magnitude.le_of_readsBack hc h) h

namespace Yaml

/-! ## Reading numbers -/

/-- Digits begin with a digit. -/
lemma head_of_isDigits {ds : List Char} (h : Json.IsDigits ds) :
    ∃ d es, ds = d :: es ∧ Decimal.isDigit d = true := by
  obtain ⟨d, es, rfl⟩ := List.exists_cons_of_ne_nil h.1
  exact ⟨d, es, rfl, h.2 d List.mem_cons_self⟩

/-- A number that begins with a digit has no sign. -/
lemma readSign_of_isDigit {d : Char} (h : Decimal.isDigit d = true) (cs : List Char) :
    Decimal.readSign (d :: cs) = (false, d :: cs) := by
  have hd : d ≠ '-' ∧ d ≠ '+' := of_isDigit h (by decide)
  unfold Decimal.readSign
  split <;> simp_all

/-- The power of ten of an exponent is read. -/
lemma readExponent_of_exponentSpelling {exponent : Option (Bool × List Char)} {es : List Char}
    (h : Json.ExponentSpelling exponent es) (negative : Bool) (whole : List Char)
    (fraction : Option (List Char)) :
    Decimal.readExponent es = some (Json.Number.power ⟨negative, whole, fraction, exponent⟩) := by
  cases h with
  | none => rfl
  | @some mark minus sign ds hmark hsign hds =>
    have hsigned : Decimal.readSign (sign ++ ds) = (minus, ds) := by
      obtain ⟨d, ds, rfl, hd⟩ := head_of_isDigits hds
      simp only [List.mem_cons, Prod.mk.injEq, List.not_mem_nil, or_false] at hsign
      rcases hsign with ⟨rfl, rfl⟩ | ⟨rfl, rfl⟩ | ⟨rfl, rfl⟩
      · rfl
      · rfl
      · exact readSign_of_isDigit hd ds
    have hall : ds.all Decimal.isDigit = true := List.all_eq_true.mpr hds.2
    cases minus <;> simp [Decimal.readExponent, hmark, hsigned, hds.1, hall, Json.Number.power]

/-- **The exact value of a number** is read from what follows its sign. -/
theorem readUnsigned_of_spelling (negative : Bool) {whole fs es : List Char}
    {fraction : Option (List Char)} {exponent : Option (Bool × List Char)}
    (hwhole : Json.IsDigits whole) (hf : Json.FractionSpelling fraction fs)
    (he : Json.ExponentSpelling exponent es) :
    Decimal.readUnsigned negative (whole ++ (fs ++ es)) =
      some (Json.Number.decimal ⟨negative, whole, fraction, exponent⟩) := by
  have hexponent := readExponent_of_exponentSpelling he negative whole fraction
  have hes : ∀ c ∈ es.head?, Decimal.isDigit c = false ∧ c ≠ '.' := by
    cases he with
    | none => simp
    | some hmark _ _ => rcases hmark with rfl | rfl <;> simp [Decimal.isDigit]
  cases hf with
  | none =>
    obtain ⟨htake, hdrop⟩ := Json.takeWhile_digits hwhole.2 fun c hc => (hes c hc).1
    have hfraction : ∀ tail, es ≠ '.' :: tail := by
      rintro tail rfl
      exact (hes '.' rfl).2 rfl
    unfold Decimal.readUnsigned
    dsimp only [List.nil_append]
    rw [htake, hdrop]
    split
    · exact absurd rfl (hfraction _)
    · simp [hwhole.1, hexponent, Json.Number.decimal]
  | @some ds hds =>
    have hpoint : ∀ c ∈ ('.' :: ds ++ es).head?, Decimal.isDigit c = false := by
      simp [Decimal.isDigit]
    obtain ⟨htake, hdrop⟩ := Json.takeWhile_digits hwhole.2 hpoint
    obtain ⟨htake', hdrop'⟩ := Json.takeWhile_digits hds.2 fun c hc => (hes c hc).1
    unfold Decimal.readUnsigned
    dsimp only
    rw [htake, hdrop, List.cons_append]
    simp [htake', hdrop', hwhole.1, hexponent, Json.Number.decimal]

/-! ## Whole numbers -/

/-- A digit adds its value. -/
lemma hexValue_of_isDigit {d : Char} (h : Decimal.isDigit d = true) :
    hexValue d = some (Decimal.digitValue d) ∧ Decimal.digitValue d < 10 :=
  of_isDigit h (by decide)

/-- Digits are read as their number. -/
lemma natOfDigits?_of_isDigits {ds : List Char} (h : Json.IsDigits ds) :
    natOfDigits? 10 ds = some (Decimal.ofDigits ds) := by
  obtain ⟨hne, hdigits⟩ := h
  rw [natOfDigits?, if_neg (by simpa using hne), Decimal.ofDigits]
  generalize 0 = n
  clear hne
  induction ds generalizing n with
  | nil => rfl
  | cons d ds ih =>
    obtain ⟨hd, hds⟩ := List.forall_mem_cons.mp hdigits
    obtain ⟨hvalue, hlt⟩ := hexValue_of_isDigit hd
    rw [List.foldl_cons, List.foldl_cons, ← ih hds]
    simp [hvalue, hlt]

/-- A fold that has failed once stays failed. -/
lemma foldl_eq_none {α β : Type} {f : Option α → β → Option α} (hnone : ∀ b, f none b = none)
    {b : β} (hb : ∀ a, f a b = none) {bs : List β} (hmem : b ∈ bs) (a : Option α) :
    bs.foldl f a = none := by
  have hrest (ds : List β) : ds.foldl f none = none := by
    induction ds with
    | nil => rfl
    | cons d ds ih => rw [List.foldl_cons, hnone, ih]
  obtain ⟨before, after, rfl⟩ := List.append_of_mem hmem
  rw [List.foldl_append, List.foldl_cons, hb, hrest]

/-- What is no decimal digit is in no whole number. -/
lemma natOfDigits?_eq_none {cs : List Char} {c : Char} (hc : c ∈ cs)
    (h : ∀ d ∈ hexValue c, 10 ≤ d) : natOfDigits? 10 cs = none := by
  rw [natOfDigits?, if_neg (by simpa using List.ne_nil_of_mem hc)]
  refine foldl_eq_none (fun _ => rfl) (fun n => ?_) hc _
  split
  · rename_i d hd
    exact if_neg (Nat.not_lt.mpr (h d hd))
  · rfl

/-- Whether digits after a zero make a numeral a text is only asked of digits. -/
lemma hasLeadingZero_eq_false {cs : List Char} {c : Char} (hc : c ∈ cs)
    (h : Decimal.isDigit c = false) : hasLeadingZero cs = false := by
  unfold hasLeadingZero
  split
  · rename_i rest
    have hrest : c ∈ rest := by
      rcases List.mem_cons.mp hc with rfl | hrest
      · exact absurd h (by decide)
      · exact hrest
    have hall : rest.all Decimal.isDigit = false := by
      rw [List.all_eq_false]
      exact ⟨c, hrest, by simp [h]⟩
    rw [hall, Bool.and_false]
  · rfl

/-- Only decimal numerals consist of characters of numbers. -/
lemma natOfNumeral?_of_numberChars {cs : List Char} (h : ∀ c ∈ cs, c ∈ numberChars) :
    natOfNumeral? cs = if hasLeadingZero cs then none else natOfDigits? 10 cs := by
  unfold natOfNumeral?
  split
  · exact absurd (h 'x' (by simp)) (by decide)
  · exact absurd (h 'o' (by simp)) (by decide)
  · exact absurd (h 'b' (by simp)) (by decide)
  · rfl

/-! ## Plain numbers -/

/-- Whether a text begins like a number. -/
def startsNumber : List Char → Bool
  | [] => false
  | c :: _ => c == '-' || Decimal.isDigit c

/-- What begins like a number is none of the words that do not. -/
lemma contains_eq_false {words : List String}
    (hwords : ∀ w ∈ words, startsNumber w.toList = false) {s : String}
    (hs : startsNumber s.toList = true) : words.contains s = false := by
  rw [List.contains_eq_mem, decide_eq_false_iff_not]
  intro hmem
  rw [hwords s hmem] at hs
  cases hs

/-- A number is neither null nor a truth value. -/
lemma resolve_of_startsNumber {s : String} (hs : startsNumber s.toList = true) :
    isNull s = false ∧ truth? s = none := by
  have htrue : ["true", "True", "TRUE"].contains s = false := contains_eq_false (by decide) hs
  have hfalse : ["false", "False", "FALSE"].contains s = false := contains_eq_false (by decide) hs
  have hnull : ["", "~", "null", "Null", "NULL"].contains s = false :=
    contains_eq_false (by decide) hs
  refine ⟨by simpa [isNull, isNullWord] using hnull, ?_⟩
  rw [truth?, htrue, hfalse]
  rfl

/-- What a number consists of. -/
lemma exists_parts {n : Json.Number} {w : List Char} (h : Json.NumberSpelling n w) :
    ∃ fs es, w = signed n.negative (n.whole ++ (fs ++ es)) ∧ Json.IsDigits n.whole ∧
      (n.whole.head? = some '0' → n.whole = ['0']) ∧ Json.FractionSpelling n.fraction fs ∧
      Json.ExponentSpelling n.exponent es := by
  cases h with
  | mk negative hwhole hzero hfraction hexponent =>
    exact ⟨_, _, rfl, hwhole, hzero, hfraction, hexponent⟩

/-- Digits begin like a number. -/
lemma startsNumber_of_isDigits {ds : List Char} (h : Json.IsDigits ds) (rest : List Char) :
    startsNumber (ds ++ rest) = true := by
  obtain ⟨d, ds, rfl, hd⟩ := head_of_isDigits h
  simp [startsNumber, hd]

/-- With a sign in front of it a number still begins like one. -/
lemma startsNumber_signed {u : List Char} (h : startsNumber u = true) (negative : Bool) :
    startsNumber (signed negative u) = true := by
  cases negative with
  | false => exact h
  | true => rfl

/-- A number begins like a number. -/
lemma startsNumber_of_numberSpelling {n : Json.Number} {w : List Char}
    (h : Json.NumberSpelling n w) : startsNumber w = true := by
  obtain ⟨fs, es, rfl, hwhole, -⟩ := exists_parts h
  exact startsNumber_signed (startsNumber_of_isDigits hwhole _) n.negative

/-- The sign of a number is read off it. -/
lemma readSign_number {n : Json.Number} (hwhole : Json.IsDigits n.whole) (rest : List Char) :
    Decimal.readSign (signed n.negative (n.whole ++ rest)) = (n.negative, n.whole ++ rest) := by
  obtain ⟨d, ds, hds, hd⟩ := head_of_isDigits hwhole
  refine Sql.readSign_signed n.negative fun c hc => ?_
  rw [hds, List.cons_append, List.head?_cons, Option.mem_some_iff] at hc
  rwa [← hc]

/-- A number without fraction and exponent is a whole number. -/
lemma resolve_of_isInteger {n : Json.Number} {s : String}
    (h : Json.NumberSpelling n s.toList) (hinteger : n.isInteger = true) {c : Content}
    (hc : whole? n.negative (Decimal.ofDigits n.whole) = .ok (some c)) : resolve s = .ok c := by
  obtain ⟨hnull, htruth⟩ := resolve_of_startsNumber (startsNumber_of_numberSpelling h)
  obtain ⟨fs, es, hs, hwhole, hzero, hfraction, hexponent⟩ := exists_parts h
  obtain ⟨negative, whole, fraction, exponent⟩ := n
  obtain ⟨rfl, rfl⟩ : fraction = none ∧ exponent = none := by
    simpa [Json.Number.isInteger] using hinteger
  cases hfraction
  cases hexponent
  have hsign := readSign_number hwhole []
  have hleading : hasLeadingZero whole = false := by
    unfold hasLeadingZero
    split
    · simp_all
    · rfl
  have hnat : natOfNumeral? whole = some (Decimal.ofDigits whole) := by
    rw [natOfNumeral?_of_numberChars (mem_numberChars_of_isDigits hwhole.2), hleading]
    exact natOfDigits?_of_isDigits hwhole
  simp only [List.append_nil] at hs hsign
  have hread : integer? s = .ok (some c) := by
    simp only [integer?, hs, hsign, hnat, hc]
  rw [resolve, if_neg (by simp [hnull]), htruth, hread]
  rfl

/-- The point or the letter in a number with a fraction or an exponent. -/
lemma exists_mark {n : Json.Number} (hinteger : n.isInteger = false) {fs es : List Char}
    (hfraction : Json.FractionSpelling n.fraction fs)
    (hexponent : Json.ExponentSpelling n.exponent es) : ∃ c ∈ fs ++ es, c ∈ ['.', 'e', 'E'] := by
  obtain ⟨negative, whole, fraction, exponent⟩ := n
  cases hfraction with
  | none =>
    cases hexponent with
    | none => cases hinteger
    | @some mark _ _ _ hmark => exact ⟨mark, by simp, by simpa using .inr hmark⟩
  | some _ => exact ⟨'.', by simp, by simp⟩

/-- Characters of numbers with such a mark among them are no whole number. -/
lemma natOfNumeral?_eq_none {cs : List Char} (hchars : ∀ c ∈ cs, c ∈ numberChars) {c : Char}
    (hc : c ∈ cs) (hmark : c ∈ ['.', 'e', 'E']) :
    hasLeadingZero cs = false ∧ natOfNumeral? cs = none := by
  obtain ⟨hdigit, hhex⟩ : Decimal.isDigit c = false ∧ ∀ d ∈ hexValue c, 10 ≤ d := by
    simp only [List.mem_cons, List.not_mem_nil, or_false] at hmark
    rcases hmark with rfl | rfl | rfl <;> decide
  have hleading := hasLeadingZero_eq_false hc hdigit
  rw [natOfNumeral?_of_numberChars hchars, hleading]
  exact ⟨rfl, natOfDigits?_eq_none hc hhex⟩

/-- The double of a number that does not begin with a zero before other digits. -/
lemma float?_of_parts {n : Json.Number} {fs es : List Char} (hwhole : Json.IsDigits n.whole)
    (hfraction : Json.FractionSpelling n.fraction fs)
    (hexponent : Json.ExponentSpelling n.exponent es)
    (hleading : hasLeadingZero (n.whole ++ (fs ++ es)) = false)
    (hfinite : n.decimal.toDouble.isFinite = true) :
    float? (signed n.negative (n.whole ++ (fs ++ es))) = some n.decimal.toDouble := by
  have hread := readUnsigned_of_spelling n.negative hwhole hfraction hexponent
  have hsign := readSign_number hwhole (fs ++ es)
  have hstarts := startsNumber_of_isDigits hwhole (fs ++ es)
  have hinf : [".inf", ".Inf", ".INF"].contains (String.ofList (n.whole ++ (fs ++ es))) = false :=
    contains_eq_false (by decide) (by rwa [String.toList_ofList])
  have hnan : [".nan", ".NaN", ".NAN"].contains
      (String.ofList (signed n.negative (n.whole ++ (fs ++ es)))) = false :=
    contains_eq_false (by decide)
      (by rw [String.toList_ofList]; exact startsNumber_signed hstarts n.negative)
  rw [float?, hsign]
  simp only [hinf, hnan, hleading, hread]
  simp [hfinite]

/-- A number with a fraction or an exponent is a double. -/
lemma resolve_of_not_isInteger {n : Json.Number} {s : String}
    (h : Json.NumberSpelling n s.toList) (hinteger : n.isInteger = false)
    (hfinite : n.decimal.toDouble.isFinite = true) :
    resolve s = .ok (.float n.decimal.toDouble) := by
  obtain ⟨hnull, htruth⟩ := resolve_of_startsNumber (startsNumber_of_numberSpelling h)
  have hchars := mem_numberChars_of_numberSpelling h
  obtain ⟨fs, es, hs, hwhole, -, hfraction, hexponent⟩ := exists_parts h
  obtain ⟨c, hc, hmark⟩ := exists_mark hinteger hfraction hexponent
  have hunsigned : ∀ d ∈ n.whole ++ (fs ++ es), d ∈ numberChars := by
    intro d hd
    refine hchars d ?_
    rw [hs]
    cases n.negative
    · exact hd
    · exact List.mem_cons_of_mem _ hd
  obtain ⟨hleading, hnat⟩ :=
    natOfNumeral?_eq_none hunsigned (List.mem_append_right _ hc) hmark
  have hfloat := float?_of_parts hwhole hfraction hexponent hleading hfinite
  have hsign := readSign_number hwhole (fs ++ es)
  have hread : integer? s = .ok none := by
    simp only [integer?, hs, hsign, hnat]
  rw [resolve, if_neg (by simp [hnull]), htruth, hread, hs, hfloat]
  rfl

/-- **A written integer** that fits in 64 bits is a whole number. -/
theorem resolve_int {i : Int} (h : -9223372036854775808 ≤ i ∧ i < 18446744073709551616) :
    resolve (toString i) = .ok (if i < 0 then .negative i.natAbs else .natural i.natAbs) := by
  refine resolve_of_isInteger (Json.numberSpelling_ofInt i) rfl ?_
  have hmin : Nat.pow 2 63 = 9223372036854775808 := by decide
  have hmax : Nat.pow 2 64 = 18446744073709551616 := by decide
  rw [Json.Number.ofInt, Decimal.ofDigits_digits]
  unfold whole?
  by_cases hneg : i < 0
  · rw [if_pos (by simpa using hneg), if_pos (by omega), if_pos hneg]
  · rw [if_neg (by simpa using hneg), if_pos (by omega), if_neg hneg]

/-- **A written double** is that double. -/
theorem resolve_float {x : Double} (h : x.isFinite = true) :
    resolve (Json.float x) = .ok (.float x) := by
  cases x with
  | finite negative m =>
    have hspelling := m.numberSpelling_numeral .even negative
    rw [← String.toList_ofList (l := signed negative _)] at hspelling
    have hdouble := Decimal.toDouble_eq_finite (m.readsBack_number .even negative)
    rw [show ((m.numeral .even).number negative).decimal.negative = negative from
      (m.numeral .even).negative_number negative] at hdouble
    have hread := resolve_of_not_isInteger hspelling ((m.numeral .even).isInteger_number negative)
      (by rw [hdouble]; rfl)
    rwa [hdouble] at hread
  | infinite negative => cases h
  | nan => cases h

end Yaml

/-! ## Nodes -/

namespace Datum

mutual
/-- What data say. -/
def content : Datum → Content
  | null => .null
  | bool b => .bool b
  | int i => if i < 0 then .negative i.natAbs else .natural i.natAbs
  | float x => .float x
  | text s => .text s
  | list items => .list (itemContents items)
  | record fields => .map (fieldContents fields)

/-- What items say. -/
def itemContents : List Datum → List Content
  | [] => []
  | d :: ds => d.content :: itemContents ds

/-- What fields say, with their keys as texts. -/
def fieldContents : List (String × Datum) → List (Content × Content)
  | [] => []
  | (k, d) :: fs => (.text k, d.content) :: fieldContents fs
end

/-- Items are read one after the other. -/
lemma itemContents_itemNodes {items : List Datum} {room : Nat}
    (h : ∀ d ∈ items, d.node.content room = .ok d.content) :
    Yaml.Node.itemContents room (itemNodes items) = .ok (itemContents items) := by
  induction items with
  | nil => rfl
  | cons d ds ih =>
    obtain ⟨hd, hds⟩ := List.forall_mem_cons.mp h
    rw [itemNodes, Yaml.Node.itemContents, hd, ih hds]
    rfl

/-- Fields are read one after the other. -/
lemma entryContents_fieldNodes {fields : List (String × Datum)} {room : Nat}
    (h : ∀ f ∈ fields, f.2.node.content room = .ok f.2.content) :
    Yaml.Node.entryContents room (fieldNodes fields) = .ok (fieldContents fields) := by
  induction fields with
  | nil => rfl
  | cons f fs ih =>
    obtain ⟨k, d⟩ := f
    obtain ⟨hd, hfs⟩ := List.forall_mem_cons.mp h
    rw [fieldNodes, Yaml.Node.entryContents, hd, ih hfs]
    rfl

/-- The items of a list are nested no deeper than they are together. -/
lemma depth_le_of_mem_items {items : List Datum} {n : Nat} (h : itemsDepth items ≤ n) :
    ∀ d ∈ items, d.depth ≤ n := by
  induction items with
  | nil => simp
  | cons e es ih =>
    rw [itemsDepth] at h
    exact List.forall_mem_cons.mpr ⟨by omega, ih (by omega)⟩

/-- The fields of a record are nested no deeper than they are together. -/
lemma depth_le_of_mem_fields {fields : List (String × Datum)} {n : Nat}
    (h : fieldsDepth fields ≤ n) : ∀ f ∈ fields, f.2.depth ≤ n := by
  induction fields with
  | nil => simp
  | cons g gs ih =>
    rw [fieldsDepth] at h
    exact List.forall_mem_cons.mpr ⟨by omega, ih (by omega)⟩

/-- **The content of the node of portable data** is what the data say, if there is room for all
lists and records. -/
theorem Portable.content_node {d : Datum} (h : d.Portable) {room : Nat} (hdepth : d.depth ≤ room) :
    d.node.content room = .ok d.content := by
  induction h generalizing room with
  | null => rfl
  | bool b => cases b <;> rfl
  | int hi => exact Yaml.resolve_int hi
  | float hx => exact Yaml.resolve_float hx
  | text _ => rfl
  | @list items _ ih =>
    rw [depth] at hdepth
    obtain ⟨room, rfl⟩ : ∃ n, room = n + 1 := ⟨room - 1, by omega⟩
    have hitems := itemContents_itemNodes fun d hd =>
      ih d hd (depth_le_of_mem_items (n := room) (by omega) d hd)
    rw [node, Yaml.Node.content, hitems]
    rfl
  | @record fields _ _ ih =>
    rw [depth] at hdepth
    obtain ⟨room, rfl⟩ : ∃ n, room = n + 1 := ⟨room - 1, by omega⟩
    have hfields := entryContents_fieldNodes fun f hf =>
      ih f hf (depth_le_of_mem_fields (n := room) (by omega) f hf)
    rw [node, Yaml.Node.content, hfields]
    rfl

end Datum

end HintedSql
