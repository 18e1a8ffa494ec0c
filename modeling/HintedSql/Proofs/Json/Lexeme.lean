import HintedSql.Datum.Writer
import HintedSql.Json.Token
import Mathlib.Data.List.Chain
import Mathlib.Data.List.TakeWhile
set_option relaxedAutoImplicit false
set_option autoImplicit false

/-!
# How JSON tokens are spelled

The lexical grammar of JSON, said without reading anything: which texts spell a token, and which
texts lay out a list of tokens with white space around them. A string may spell each of its glyphs
in several ways, and a number its exponent.

The reader takes a number to run as far as it can, so a text lays out its tokens in one way only if
no number runs into the next token. In JSON a number is always followed by a comma, a closing
bracket or the end.

## Main definitions

* `HintedSql.Json.Glyph.Spelling`, `HintedSql.Json.GlyphsSpelling` — inside of strings.
* `HintedSql.Json.NumberSpelling` — numbers.
* `HintedSql.Json.Lexeme` — tokens; `HintedSql.Json.Layout` — texts.
* `HintedSql.Json.Separated` — no number runs into what follows it.

## Main results

* `HintedSql.Json.readString_of_spelling`, `HintedSql.Json.readNumber_of_spelling`.
* `HintedSql.Json.tokens_of_layout` — a text is read as the tokens it lays out.
-/

namespace HintedSql.Json

/-! ## The grammar of strings -/

/-- A hexadecimal digit of either case, and its value. -/
def IsHexDigit (c : Char) (v : Nat) : Prop :=
  v < 16 ∧ (c = hexDigit v ∨ c = (hexDigit v).toUpper)

/-- Four hexadecimal digits. -/
inductive HexSpelling (u : Nat) : List Char → Prop where
  | digits {a b c d : Char} (ha : IsHexDigit a (u / 0x1000)) (hb : IsHexDigit b (u / 0x100 % 0x10))
      (hc : IsHexDigit c (u / 0x10 % 0x10)) (hd : IsHexDigit d (u % 0x10)) :
    HexSpelling u [a, b, c, d]

/-- The letters that may follow a backslash, with the characters they stand for. -/
def shortEscapes : List (Char × Char) :=
  [('"', '"'), ('\\', '\\'), ('/', '/'), ('b', '\x08'), ('f', '\x0c'), ('n', '\n'), ('r', '\r'),
   ('t', '\t')]

/-- The spellings of a glyph. A character may stand for itself unless it is a quote, a backslash or
a control character. -/
inductive Glyph.Spelling : Glyph → List Char → Prop where
  | plain {c : Char} (hc : 0x20 ≤ c.toNat) (hquote : c ≠ '"') (hbackslash : c ≠ '\\') :
    Spelling (.char c) [c]
  | short {e c : Char} (h : (e, c) ∈ shortEscapes) : Spelling (.char c) ['\\', e]
  | unit {c : Char} {cs : List Char} (h : HexSpelling c.toNat cs) :
    Spelling (.char c) ('\\' :: 'u' :: cs)
  | surrogate {u : Nat} {cs : List Char} (hlow : 0xD800 ≤ u) (hhigh : u ≤ 0xDFFF)
      (h : HexSpelling u cs) : Spelling (.surrogate u) ('\\' :: 'u' :: cs)

/-- The inside of a string, glyph by glyph. -/
inductive GlyphsSpelling : List Glyph → List Char → Prop where
  | nil : GlyphsSpelling [] []
  | cons {g : Glyph} {gs : List Glyph} {cs ds : List Char} (h : g.Spelling cs)
      (hs : GlyphsSpelling gs ds) : GlyphsSpelling (g :: gs) (cs ++ ds)

/-! ## The grammar of numbers -/

/-- One digit or several. -/
def IsDigits (ds : List Char) : Prop :=
  ds ≠ [] ∧ ∀ d ∈ ds, Decimal.isDigit d = true

/-- The fraction of a number, if there is one. -/
inductive FractionSpelling : Option (List Char) → List Char → Prop where
  | none : FractionSpelling none []
  | some {ds : List Char} (h : IsDigits ds) : FractionSpelling (some ds) ('.' :: ds)

/-- The exponent of a number, if there is one. -/
inductive ExponentSpelling : Option (Bool × List Char) → List Char → Prop where
  | none : ExponentSpelling none []
  | some {mark : Char} {negative : Bool} {sign ds : List Char} (hmark : mark = 'e' ∨ mark = 'E')
      (hsign : (negative, sign) ∈ [(true, ['-']), (false, ['+']), (false, [])])
      (h : IsDigits ds) : ExponentSpelling (some (negative, ds)) (mark :: (sign ++ ds))

/-- A number. Its whole part begins with zero only if it is zero. -/
inductive NumberSpelling : Number → List Char → Prop where
  | mk (negative : Bool) {whole fs es : List Char} {fraction : Option (List Char)}
      {exponent : Option (Bool × List Char)} (hwhole : IsDigits whole)
      (hzero : whole.head? = some '0' → whole = ['0']) (hfraction : FractionSpelling fraction fs)
      (hexponent : ExponentSpelling exponent es) :
    NumberSpelling ⟨negative, whole, fraction, exponent⟩ (signed negative (whole ++ (fs ++ es)))

/-! ## The grammar of tokens -/

/-- The tokens of one character. -/
def marks : List (Token × Char) :=
  [(.openList, '['), (.closeList, ']'), (.openRecord, '\x7b'), (.closeRecord, '\x7d'),
   (.comma, ','), (.colon, ':')]

/-- The tokens that are words. -/
def words : List (Token × List Char) :=
  [(.null, ['n', 'u', 'l', 'l']), (.bool true, ['t', 'r', 'u', 'e']),
   (.bool false, ['f', 'a', 'l', 's', 'e'])]

/-- A spelled token. -/
inductive Lexeme : Token → List Char → Prop where
  | mark {t : Token} {c : Char} (h : (t, c) ∈ marks) : Lexeme t [c]
  | word {t : Token} {w : List Char} (h : (t, w) ∈ words) : Lexeme t w
  | string {gs : List Glyph} {cs : List Char} (h : GlyphsSpelling gs cs) :
    Lexeme (.string ⟨gs, none⟩) ('"' :: (cs ++ ['"']))
  | number {n : Number} {cs : List Char} (h : NumberSpelling n cs) : Lexeme (.number n) cs

/-- White space. -/
def Blanks (ws : List Char) : Prop :=
  ∀ c ∈ ws, c ∈ [' ', '\t', '\n', '\r']

/-- A text that consists of the given tokens and white space before, between and after them. -/
inductive Layout : List Token → List Char → Prop where
  | done {ws : List Char} (h : Blanks ws) : Layout [] ws
  | token {t : Token} {ts : List Token} {ws cs rest : List Char} (hws : Blanks ws)
      (h : Lexeme t cs) (hrest : Layout ts rest) : Layout (t :: ts) (ws ++ (cs ++ rest))

/-- What may follow a number. -/
def Token.endsNumber : Token → Bool
  | .comma | .closeList | .closeRecord => true
  | _ => false

/-- Whether a token is a number. -/
def Token.isNumber : Token → Bool
  | .number _ => true
  | _ => false

/-- No number runs into the token behind it. -/
def Separated (ts : List Token) : Prop :=
  ts.IsChain fun t u => t.isNumber = true → u.endsNumber = true

/-! ## Reading strings -/

/-- The value of a hexadecimal digit. -/
lemma hexValue?_of_isHexDigit {c : Char} {v : Nat} (h : IsHexDigit c v) :
    hexValue? c = some v := by
  have hall : ∀ v < 16, hexValue? (hexDigit v) = some v ∧
      hexValue? (hexDigit v).toUpper = some v := by decide
  obtain ⟨hv, rfl | rfl⟩ := h
  · exact (hall v hv).1
  · exact (hall v hv).2

/-- Four hexadecimal digits spell a unit. -/
lemma hexUnit?_of_digits {u : Nat} {a b c d : Char} (h : HexSpelling u [a, b, c, d]) :
    hexUnit? a b c d = some u := by
  obtain ⟨ha, hb, hc, hd⟩ := h
  have hu : ((u / 0x1000 * 16 + u / 0x100 % 0x10) * 16 + u / 0x10 % 0x10) * 16 + u % 0x10 = u := by
    omega
  rw [hexUnit?, hexValue?_of_isHexDigit ha, hexValue?_of_isHexDigit hb, hexValue?_of_isHexDigit hc,
    hexValue?_of_isHexDigit hd]
  exact congrArg some hu

/-- A `\u` escape is read as the glyph of its unit. -/
lemma readString_unit {u : Nat} {cs : List Char} (h : HexSpelling u cs) (rest : List Char) :
    readString ('\\' :: 'u' :: cs ++ rest) = Quoted.cons (.ofUnit u) (readString rest) := by
  obtain ⟨a, b, c, d, rfl⟩ : ∃ a b c d, cs = [a, b, c, d] := by
    cases h
    exact ⟨_, _, _, _, rfl⟩
  have hunit := hexUnit?_of_digits h
  simp [readString, hunit]

/-- The unit of a character stands for the character. -/
lemma Glyph.ofUnit_toNat (c : Char) : Glyph.ofUnit c.toNat = .char c := by
  have hc : ¬(0xD800 ≤ c.toNat ∧ c.toNat ≤ 0xDFFF) := by
    have := c.valid
    simp only [UInt32.isValidChar, Nat.isValidChar] at this
    change ¬(0xD800 ≤ c.val.toNat ∧ c.val.toNat ≤ 0xDFFF)
    omega
  rw [Glyph.ofUnit, if_neg hc, Char.ofNat_toNat]

/-- A character without a meaning of its own stands for itself in a string. -/
lemma readString_plain {c : Char} (hc : 0x20 ≤ c.toNat) (hquote : c ≠ '"')
    (hbackslash : c ≠ '\\') (rest : List Char) :
    readString (c :: rest) = Quoted.cons (.char c) (readString rest) := by
  rw [readString.eq_def]
  split
  · simp_all
  · simp_all
  · simp_all
  · simp_all
  · simp_all
  · rename_i heq
    obtain ⟨rfl, rfl⟩ := List.cons.inj heq
    rw [if_neg (by omega)]

/-- A spelled glyph is read as this glyph, whatever follows it. -/
lemma readString_glyph {g : Glyph} {cs : List Char} (h : g.Spelling cs) (rest : List Char) :
    readString (cs ++ rest) = Quoted.cons g (readString rest) := by
  cases h with
  | plain hc hquote hbackslash => exact readString_plain hc hquote hbackslash rest
  | short h =>
    simp only [shortEscapes, List.mem_cons, Prod.mk.injEq, List.not_mem_nil, or_false] at h
    rcases h with ⟨rfl, rfl⟩ | ⟨rfl, rfl⟩ | ⟨rfl, rfl⟩ | ⟨rfl, rfl⟩ | ⟨rfl, rfl⟩ | ⟨rfl, rfl⟩ |
      ⟨rfl, rfl⟩ | ⟨rfl, rfl⟩ <;> simp [readString, simpleEscape?]
  | unit h => rw [readString_unit h, Glyph.ofUnit_toNat]
  | surrogate hlow hhigh h =>
    rw [readString_unit h, Glyph.ofUnit, if_pos ⟨hlow, hhigh⟩]

/-- A spelled string is read to its closing quote. -/
theorem readString_of_spelling {gs : List Glyph} {cs : List Char} (h : GlyphsSpelling gs cs)
    (rest : List Char) : readString (cs ++ '"' :: rest) = (⟨gs, none⟩, rest) := by
  induction h with
  | nil => simp [readString]
  | cons hg _ ih => rw [List.append_assoc, readString_glyph hg, ih]; rfl

/-! ## Reading numbers -/

/-- Nothing follows that a number could go on with. -/
def NumberEnd (rest : List Char) : Prop :=
  ∀ c ∈ rest.head?, Decimal.isDigit c = false ∧ c ≠ '.' ∧ c ≠ 'e' ∧ c ≠ 'E'

/-- Digits end where something else begins. -/
lemma takeWhile_digits {ds rest : List Char} (hds : ∀ d ∈ ds, Decimal.isDigit d = true)
    (hrest : ∀ c ∈ rest.head?, Decimal.isDigit c = false) :
    (ds ++ rest).takeWhile Decimal.isDigit = ds ∧
      (ds ++ rest).dropWhile Decimal.isDigit = rest := by
  rw [List.takeWhile_append_of_pos hds, List.dropWhile_append_of_pos hds]
  cases rest with
  | nil => simp
  | cons c rest => simp [hrest c rfl]

/-- An exponent is read as it is spelled. -/
lemma readExponent_of_spelling {exponent : Option (Bool × List Char)} {es : List Char}
    (h : ExponentSpelling exponent es) {n : Number} (hn : n.exponent = none) {rest : List Char}
    (hrest : NumberEnd rest) :
    readExponent n (es ++ rest) = (.number { n with exponent := exponent }, rest) := by
  cases h with
  | none =>
    cases rest with
    | nil => simp [readExponent, ← hn]
    | cons c rest =>
      obtain ⟨-, -, he, hE⟩ := hrest c rfl
      simp [readExponent, he, hE, ← hn]
  | @some mark negative sign ds hmark hsign hds =>
    obtain ⟨hne, hdigits⟩ := hds
    obtain ⟨htake, hdrop⟩ := takeWhile_digits hdigits fun c hc => (hrest c hc).1
    simp only [List.mem_cons, Prod.mk.injEq, List.not_mem_nil, or_false] at hsign
    rcases hsign with ⟨rfl, rfl⟩ | ⟨rfl, rfl⟩ | ⟨rfl, rfl⟩
    · simp [readExponent, hmark, htake, hdrop, hne]
    · simp [readExponent, hmark, htake, hdrop, hne]
    · -- Without a sign the first digit is looked at, which is no sign.
      obtain ⟨d, ds', rfl⟩ := List.exists_cons_of_ne_nil hne
      have hd := hdigits d (by simp)
      have hminus : d ≠ '-' := by
        rintro rfl
        exact absurd hd (by decide)
      have hplus : d ≠ '+' := by
        rintro rfl
        exact absurd hd (by decide)
      simp only [List.cons_append] at htake hdrop
      simp [readExponent, hmark, hminus, hplus, htake, hdrop]

/-- A fraction is read as it is spelled, with the exponent behind it. -/
lemma readFraction_of_spelling {fraction : Option (List Char)} {fs : List Char}
    {exponent : Option (Bool × List Char)} {es : List Char} (hf : FractionSpelling fraction fs)
    (he : ExponentSpelling exponent es) {n : Number} (hfraction : n.fraction = none)
    (hexponent : n.exponent = none) {rest : List Char} (hrest : NumberEnd rest) :
    readFraction n (fs ++ (es ++ rest)) =
      (.number { n with fraction := fraction, exponent := exponent }, rest) := by
  -- Neither a digit nor a point begins an exponent.
  have hhead : ∀ c ∈ (es ++ rest).head?, Decimal.isDigit c = false ∧ c ≠ '.' := by
    cases he with
    | none => exact fun c hc => ⟨(hrest c hc).1, (hrest c hc).2.1⟩
    | some hmark _ _ =>
      intro c hc
      obtain rfl : _ = c := Option.some.inj hc
      obtain rfl | rfl := hmark <;> decide
  cases hf with
  | none =>
    have hpoint : ∀ tail, es ++ rest ≠ '.' :: tail := by
      intro tail htail
      exact (hhead '.' (by rw [htail]; rfl)).2 rfl
    rw [List.nil_append, readFraction.eq_def]
    split
    · exact absurd ‹_› (hpoint _)
    · rw [readExponent_of_spelling he hexponent hrest, ← hfraction]
  | some hds =>
    obtain ⟨hne, hdigits⟩ := hds
    obtain ⟨htake, hdrop⟩ := takeWhile_digits hdigits fun c hc => (hhead c hc).1
    simp [readFraction, htake, hdrop, hne, readExponent_of_spelling he _ hrest, hexponent]

/-- A spelled number is read to its end from behind its sign. -/
theorem readNumber_of_spelling (negative : Bool) {whole fs es : List Char}
    {fraction : Option (List Char)} {exponent : Option (Bool × List Char)}
    (hwhole : IsDigits whole) (hzero : whole.head? = some '0' → whole = ['0'])
    (hf : FractionSpelling fraction fs) (he : ExponentSpelling exponent es) {rest : List Char}
    (hrest : NumberEnd rest) :
    readNumber negative (whole ++ (fs ++ es) ++ rest) =
      (.number ⟨negative, whole, fraction, exponent⟩, rest) := by
  obtain ⟨hne, hdigits⟩ := hwhole
  have hhead : ∀ c ∈ (fs ++ (es ++ rest)).head?, Decimal.isDigit c = false := by
    cases hf with
    | some hds =>
      intro c hc
      obtain rfl : '.' = c := Option.some.inj hc
      decide
    | none =>
      cases he with
      | none => exact fun c hc => (hrest c hc).1
      | some hmark _ _ =>
        intro c hc
        obtain rfl : _ = c := Option.some.inj hc
        obtain rfl | rfl := hmark <;> decide
  obtain ⟨htake, hdrop⟩ := takeWhile_digits hdigits hhead
  rw [List.append_assoc, List.append_assoc, readNumber]
  simp only [htake, hdrop]
  split
  · exact absurd rfl hne
  · rename_i heq
    exact absurd (hzero (by simp)) (by simp)
  · exact readFraction_of_spelling hf he rfl rfl hrest

/-! ## Reading tokens -/

/-- An empty text has no tokens. -/
@[simp] lemma tokens_nil : tokens [] = [] := by
  rw [tokens.eq_def]

/-- A blank in front of a text is no token. -/
lemma tokens_cons_blank {c : Char} (h : isBlank c = true) (rest : List Char) :
    tokens (c :: rest) = tokens rest := by
  rw [tokens.eq_def]
  exact if_pos h

/-- Blanks in front of a text are no tokens. -/
lemma tokens_blanks {ws : List Char} (h : Blanks ws) (rest : List Char) :
    tokens (ws ++ rest) = tokens rest := by
  induction ws with
  | nil => rfl
  | cons c ws ih =>
    have hc : isBlank c = true := by
      have := h c (by simp)
      simp only [List.mem_cons, List.not_mem_nil, or_false] at this
      rcases this with rfl | rfl | rfl | rfl <;> decide
    rw [List.cons_append, tokens_cons_blank hc]
    exact ih fun d hd => h d (List.mem_cons_of_mem _ hd)

/-- A token is read from its first character on. -/
lemma tokens_cons_of_readToken {c : Char} {cs rest : List Char} {t : Token}
    (hc : isBlank c = false) (h : readToken c cs = (t, rest)) :
    tokens (c :: cs) = t :: tokens rest := by
  rw [tokens.eq_def]
  simp [hc, h]

/-- A digit begins a number and is no white space. -/
lemma readToken_digit {c : Char} (h : Decimal.isDigit c = true) (rest : List Char) :
    isBlank c = false ∧ readToken c rest = readNumber false (c :: rest) := by
  have hne : ∀ d, Decimal.isDigit d = false → c ≠ d := by
    rintro d hd rfl
    simp [h] at hd
  constructor
  · simp [isBlank, hne ' ' (by decide), hne '\t' (by decide), hne '\n' (by decide),
      hne '\r' (by decide)]
  · simp [readToken, h, hne '[' (by decide), hne ']' (by decide), hne '\x7b' (by decide),
      hne '\x7d' (by decide), hne ',' (by decide), hne ':' (by decide), hne '"' (by decide),
      hne '-' (by decide)]

/-- A number is read as it is spelled, if it ends there. -/
lemma tokens_number {n : Number} {cs : List Char} (h : NumberSpelling n cs) {rest : List Char}
    (hrest : NumberEnd rest) : tokens (cs ++ rest) = .number n :: tokens rest := by
  obtain @⟨negative, whole, fs, es, fraction, exponent, hwhole, hzero, hf, he⟩ := h
  have hread := readNumber_of_spelling negative hwhole hzero hf he hrest
  cases negative with
  | true => exact tokens_cons_of_readToken (by decide) (by simpa [readToken] using hread)
  | false =>
    obtain ⟨d, ds, rfl⟩ := List.exists_cons_of_ne_nil hwhole.1
    obtain ⟨hblank, htoken⟩ := readToken_digit (hwhole.2 d (by simp)) (ds ++ (fs ++ es) ++ rest)
    exact tokens_cons_of_readToken hblank (htoken.trans hread)

/-- A spelled token is read as this token. Behind a number the rest matters. -/
lemma tokens_lexeme {t : Token} {cs : List Char} (h : Lexeme t cs) {rest : List Char}
    (hrest : t.isNumber = true → NumberEnd rest) : tokens (cs ++ rest) = t :: tokens rest := by
  cases h with
  | mark h =>
    simp only [marks, List.mem_cons, Prod.mk.injEq, List.not_mem_nil, or_false] at h
    rcases h with ⟨rfl, rfl⟩ | ⟨rfl, rfl⟩ | ⟨rfl, rfl⟩ | ⟨rfl, rfl⟩ | ⟨rfl, rfl⟩ | ⟨rfl, rfl⟩ <;>
      exact tokens_cons_of_readToken (by decide) (by simp [readToken])
  | word h =>
    simp only [words, List.mem_cons, Prod.mk.injEq, List.not_mem_nil, or_false] at h
    rcases h with ⟨rfl, rfl⟩ | ⟨rfl, rfl⟩ | ⟨rfl, rfl⟩ <;>
      exact tokens_cons_of_readToken (by decide) (by simp [readToken, Decimal.isDigit, readWord])
  | string h =>
    have hread := readString_of_spelling h rest
    refine tokens_cons_of_readToken (by decide) ?_
    simp [readToken, hread]
  | number h => exact tokens_number h (hrest rfl)

/-- Where a number is followed by another token or by blanks, it ends. -/
lemma Layout.numberEnd {t : Token} {ts : List Token} {cs : List Char} (h : Layout ts cs)
    (hts : Separated (t :: ts)) (ht : t.isNumber = true) : NumberEnd cs := by
  -- White space and the tokens that may follow a number all begin with a character that ends it.
  have hends : ∀ c ∈ [' ', '\t', '\n', '\r'] ++ [']', '\x7d', ','],
      Decimal.isDigit c = false ∧ c ≠ '.' ∧ c ≠ 'e' ∧ c ≠ 'E' := by simp [Decimal.isDigit]
  intro c hc
  apply hends
  cases h with
  | done hws => exact List.mem_append_left _ (hws c (List.mem_of_mem_head? hc))
  | @token u us ws ds rest hws hu hrest =>
    cases ws with
    | cons b ws =>
      obtain rfl : b = c := Option.some.inj hc
      exact List.mem_append_left _ (hws b (by simp))
    | nil =>
      have hu' : u.endsNumber = true := (List.isChain_cons_cons.mp hts).1 ht
      cases hu with
      | mark h =>
        obtain rfl : _ = c := Option.some.inj hc
        simp only [marks, List.mem_cons, Prod.mk.injEq, List.not_mem_nil, or_false] at h
        rcases h with ⟨rfl, rfl⟩ | ⟨rfl, rfl⟩ | ⟨rfl, rfl⟩ | ⟨rfl, rfl⟩ | ⟨rfl, rfl⟩ | ⟨rfl, rfl⟩
          <;> simp_all [Token.endsNumber]
      | word h =>
        simp only [words, List.mem_cons, Prod.mk.injEq, List.not_mem_nil, or_false] at h
        rcases h with ⟨rfl, rfl⟩ | ⟨rfl, rfl⟩ | ⟨rfl, rfl⟩ <;> cases hu'
      | string _ => cases hu'
      | number _ => cases hu'

/-- **A text is read as the tokens it lays out.**

**Proof sketch.** By induction on the layout: white space is passed over, and each token is read
whatever follows it, except that a number needs to end there. -/
theorem tokens_of_layout {ts : List Token} {cs : List Char} (h : Layout ts cs)
    (hts : Separated ts) : tokens cs = ts := by
  induction h with
  | done hws => simpa using tokens_blanks hws []
  | token hws ht hrest ih =>
    rw [tokens_blanks hws, tokens_lexeme ht fun hn => hrest.numberEnd hts hn,
      ih (hts.tail)]

end HintedSql.Json
