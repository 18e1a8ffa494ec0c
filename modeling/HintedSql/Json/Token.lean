import HintedSql.Number.Decimal
set_option relaxedAutoImplicit false
set_option autoImplicit false

/-!
# JSON tokens

A JSON text is a sequence of tokens with white space (space, tab, line feed, carriage return)
between them. A text that is not JSON still has tokens up to the place where it goes wrong, and the
last of them says how: by ending too early, or by a character that may not stand there.

A string is kept as its `Glyph`s, so that an escaped surrogate is still visible: whether surrogates
pair up is decided by whoever wants the characters. In the same way a number is kept as its
digits.

## Main definitions

* `HintedSql.Json.Fault` — how a text fails to be JSON.
* `HintedSql.Json.Quoted` — a string as written, possibly cut.
* `HintedSql.Json.Number` — a number as written.
* `HintedSql.Json.Token`, `HintedSql.Json.tokens`.
* `HintedSql.Json.Quoted.text`, `HintedSql.Json.Number.isInteger`.
-/

namespace HintedSql.Json

/-- How a text fails to be JSON. -/
inductive Fault where
  /-- The text ends where more is needed. -/
  | ended
  /-- Something stands where it may not. -/
  | misplaced
deriving DecidableEq, Repr

/-- An element of a string as written: a character, or an escaped UTF-16 surrogate. -/
inductive Glyph where
  | char (c : Char)
  | surrogate (unit : Nat)
deriving DecidableEq, Repr

/-- A string as far as it is written, and what cuts it short, if anything does. -/
structure Quoted where
  glyphs : List Glyph
  fault : Option Fault := none
deriving DecidableEq, Repr

/-- A number as written: sign, whole digits, fraction digits, and sign and digits of the
exponent. -/
structure Number where
  negative : Bool
  whole : List Char
  fraction : Option (List Char) := none
  exponent : Option (Bool × List Char) := none
deriving DecidableEq, Repr

/-- A token, or the fault at which the tokens end. -/
inductive Token where
  | openList
  | closeList
  | openRecord
  | closeRecord
  | comma
  | colon
  | null
  | bool (b : Bool)
  | number (n : Number)
  /-- A number that the end of the text cuts after a sign, a point or an exponent mark. -/
  | cutNumber
  /-- One of the words `null`, `true` and `false` that the end of the text cuts. -/
  | cutWord
  | string (s : Quoted)
  | fault (f : Fault)
deriving DecidableEq, Repr

/-- White space between tokens. -/
def isBlank (c : Char) : Bool :=
  c == ' ' || c == '\t' || c == '\n' || c == '\r'

/-- The value of a hexadecimal digit. -/
def hexValue? (c : Char) : Option Nat :=
  if '0' ≤ c ∧ c ≤ '9' then some (c.toNat - '0'.toNat)
  else if 'a' ≤ c ∧ c ≤ 'f' then some (c.toNat - 'a'.toNat + 10)
  else if 'A' ≤ c ∧ c ≤ 'F' then some (c.toNat - 'A'.toNat + 10)
  else none

/-- The number that four hexadecimal digits spell. -/
def hexUnit? (a b c d : Char) : Option Nat := do
  let a ← hexValue? a
  let b ← hexValue? b
  let c ← hexValue? c
  let d ← hexValue? d
  return ((a * 16 + b) * 16 + c) * 16 + d

/-- The glyph of a UTF-16 unit. -/
def Glyph.ofUnit (u : Nat) : Glyph :=
  if 0xD800 ≤ u ∧ u ≤ 0xDFFF then .surrogate u else .char (Char.ofNat u)

/-- The character that a one-letter escape stands for. -/
def simpleEscape? (c : Char) : Option Char :=
  if c = '"' then some '"'
  else if c = '\\' then some '\\'
  else if c = '/' then some '/'
  else if c = 'b' then some '\x08'
  else if c = 'f' then some '\x0c'
  else if c = 'n' then some '\n'
  else if c = 'r' then some '\r'
  else if c = 't' then some '\t'
  else none

/-- The number of UTF-8 bytes of a text. -/
def byteCount (cs : List Char) : Nat :=
  cs.foldl (fun n c => n + c.utf8Size) 0

/-- Put a glyph in front of what has been read. -/
def Quoted.cons (g : Glyph) (r : Quoted × List Char) : Quoted × List Char :=
  ({ r.1 with glyphs := g :: r.1.glyphs }, r.2)

/-- A string that is cut before its next glyph. -/
def Quoted.cut (f : Fault) : Quoted × List Char :=
  (⟨[], some f⟩, [])

/-- Read a string from behind its opening quote; the rest stands behind the closing quote. A `\u`
escape needs four bytes before the end of the text. -/
def readString : List Char → Quoted × List Char
  | [] => Quoted.cut .ended
  | '"' :: rest => (⟨[], none⟩, rest)
  | '\\' :: 'u' :: a :: b :: c :: d :: rest =>
    match hexUnit? a b c d with
    | some u => Quoted.cons (.ofUnit u) (readString rest)
    | none => Quoted.cut .misplaced
  | '\\' :: c :: rest =>
    match simpleEscape? c with
    | some e => Quoted.cons (.char e) (readString rest)
    | none => Quoted.cut (if c = 'u' ∧ byteCount rest < 4 then .ended else .misplaced)
  | ['\\'] => Quoted.cut .ended
  | c :: rest =>
    if c.toNat < 0x20 then Quoted.cut .misplaced else Quoted.cons (.char c) (readString rest)

/-- The characters of a string that is written to its end and in which the surrogates form pairs;
otherwise the first fault. -/
def Glyph.chars (fault : Option Fault) : List Glyph → Except Fault (List Char)
  | [] =>
    match fault with
    | none => .ok []
    | some f => .error f
  | .char c :: rest => (c :: ·) <$> chars fault rest
  | .surrogate high :: rest =>
    if 0xDC00 ≤ high then .error .misplaced
    else
      match rest with
      | [] => .error (fault.getD .misplaced)
      | .surrogate low :: rest =>
        if 0xDC00 ≤ low then
          (Char.ofNat (0x10000 + (high - 0xD800) * 0x400 + (low - 0xDC00)) :: ·)
            <$> chars fault rest
        else .error .misplaced
      | .char _ :: _ => .error .misplaced

/-- The text of a string, or the first fault in it. -/
def Quoted.text (s : Quoted) : Except Fault String :=
  String.ofList <$> Glyph.chars s.fault s.glyphs

/-- The token for a number part that has no digits: the text ends there, or goes on wrongly. -/
def missingDigits (rest : List Char) : Token × List Char :=
  if rest.isEmpty then (.cutNumber, []) else (.fault .misplaced, [])

/-- Read the exponent part of a number, if there is one. -/
def readExponent (n : Number) (cs : List Char) : Token × List Char :=
  match cs with
  | c :: tail =>
    if c = 'e' ∨ c = 'E' then
      let (negative, tail) :=
        match tail with
        | '-' :: t => (true, t)
        | '+' :: t => (false, t)
        | t => (false, t)
      let digits := tail.takeWhile Decimal.isDigit
      let rest := tail.dropWhile Decimal.isDigit
      if digits.isEmpty then missingDigits rest
      else (.number { n with exponent := some (negative, digits) }, rest)
    else (.number n, cs)
  | [] => (.number n, [])

/-- Read the fraction of a number, if there is one, and what follows it. -/
def readFraction (n : Number) (cs : List Char) : Token × List Char :=
  match cs with
  | '.' :: tail =>
    let digits := tail.takeWhile Decimal.isDigit
    let rest := tail.dropWhile Decimal.isDigit
    if digits.isEmpty then missingDigits rest
    else readExponent { n with fraction := some digits } rest
  | _ => readExponent n cs

/-- Read a number from behind its sign. A whole part of several digits does not begin with zero. -/
def readNumber (negative : Bool) (cs : List Char) : Token × List Char :=
  let whole := cs.takeWhile Decimal.isDigit
  let rest := cs.dropWhile Decimal.isDigit
  match whole with
  | [] => missingDigits rest
  | '0' :: _ :: _ => (.fault .misplaced, [])
  | _ => readFraction { negative, whole } rest

/-- Read the rest of a word that has to stand for a token. -/
def readWord (t : Token) : List Char → List Char → Token × List Char
  | [], rest => (t, rest)
  | _ :: _, [] => (.cutWord, [])
  | w :: ws, c :: cs => if w = c then readWord t ws cs else (.fault .misplaced, [])

/-- Read one token that begins with `c`. -/
def readToken (c : Char) (rest : List Char) : Token × List Char :=
  if c = '[' then (.openList, rest)
  else if c = ']' then (.closeList, rest)
  else if c = '\x7b' then (.openRecord, rest)
  else if c = '\x7d' then (.closeRecord, rest)
  else if c = ',' then (.comma, rest)
  else if c = ':' then (.colon, rest)
  else if c = '"' then (.string (readString rest).1, (readString rest).2)
  else if c = '-' then readNumber true rest
  else if Decimal.isDigit c then readNumber false (c :: rest)
  else if c = 'n' then readWord .null ['u', 'l', 'l'] rest
  else if c = 't' then readWord (.bool true) ['r', 'u', 'e'] rest
  else if c = 'f' then readWord (.bool false) ['a', 'l', 's', 'e'] rest
  else (.fault .misplaced, [])

/-! ## A token leaves less text -/

/-- What is left after a string is no longer than what was there. -/
theorem length_readString (cs : List Char) : (readString cs).2.length ≤ cs.length := by
  fun_induction readString cs <;>
    simp_all only [Quoted.cut, Quoted.cons, List.length_cons, List.length_nil] <;> omega

/-- Dropping characters does not make a text longer. -/
theorem length_dropWhile_le {α : Type} (p : α → Bool) (l : List α) :
    (l.dropWhile p).length ≤ l.length :=
  (List.dropWhile_sublist p).length_le

/-- Nothing is left where a digit is missing. -/
theorem length_missingDigits (rest : List Char) : (missingDigits rest).2.length = 0 := by
  unfold missingDigits
  split <;> rfl

/-- What is left after an exponent is no longer than what was there. -/
theorem length_readExponent (n : Number) (cs : List Char) :
    (readExponent n cs).2.length ≤ cs.length := by
  unfold readExponent
  split
  · rename_i c tail
    split
    · split
      rename_i negative t h
      have ht : t.length ≤ tail.length := by
        split at h <;> simp_all
      have hd := length_dropWhile_le Decimal.isDigit t
      simp only
      split
      · rw [length_missingDigits]; omega
      · simp only [List.length_cons]; omega
    · simp
  · simp

/-- What is left after a fraction is no longer than what was there. -/
theorem length_readFraction (n : Number) (cs : List Char) :
    (readFraction n cs).2.length ≤ cs.length := by
  unfold readFraction
  split
  · rename_i tail
    have hd := length_dropWhile_le Decimal.isDigit tail
    simp only
    split
    · rw [length_missingDigits]; omega
    · have he := length_readExponent
        { n with fraction := some (tail.takeWhile Decimal.isDigit) }
        (tail.dropWhile Decimal.isDigit)
      simp only [List.length_cons]; omega
  · exact length_readExponent n cs

/-- What is left after a number is no longer than what was there. -/
theorem length_readNumber (negative : Bool) (cs : List Char) :
    (readNumber negative cs).2.length < cs.length + 1 := by
  unfold readNumber
  have hd := length_dropWhile_le Decimal.isDigit cs
  simp only
  split
  · rw [length_missingDigits]; omega
  · simp
  · have hf := length_readFraction
      { negative, whole := cs.takeWhile Decimal.isDigit } (cs.dropWhile Decimal.isDigit)
    omega

/-- A digit at the start of a number is consumed. -/
theorem length_readNumber_digit {c : Char} (rest : List Char) (h : Decimal.isDigit c = true) :
    (readNumber false (c :: rest)).2.length ≤ rest.length := by
  unfold readNumber
  have hd := length_dropWhile_le Decimal.isDigit rest
  simp only [List.takeWhile_cons, List.dropWhile_cons, h, if_true]
  split
  · rw [length_missingDigits]; omega
  · simp
  · have hf := length_readFraction
      { negative := false, whole := c :: rest.takeWhile Decimal.isDigit }
      (rest.dropWhile Decimal.isDigit)
    omega

/-- What is left after a word is no longer than what was there. -/
theorem length_readWord (t : Token) (ws cs : List Char) :
    (readWord t ws cs).2.length ≤ cs.length := by
  fun_induction readWord t ws cs <;> simp_all
  omega

/-- A bound on what is left holds for a choice if it holds for both of its outcomes. -/
theorem length_ite_le {p : Prop} [Decidable p] {s t : Token × List Char} {n : Nat}
    (hs : p → s.2.length ≤ n) (ht : t.2.length ≤ n) : (if p then s else t).2.length ≤ n := by
  by_cases h : p
  · rw [if_pos h]; exact hs h
  · rw [if_neg h]; exact ht

/-- A token takes at least its first character. -/
theorem length_readToken (c : Char) (rest : List Char) :
    (readToken c rest).2.length ≤ rest.length := by
  unfold readToken
  iterate 6 refine length_ite_le (fun _ => Nat.le_refl _) ?_
  refine length_ite_le (fun _ => length_readString rest) ?_
  refine length_ite_le (fun _ => Nat.lt_succ_iff.mp (length_readNumber true rest)) ?_
  refine length_ite_le (fun h => length_readNumber_digit rest h) ?_
  iterate 3 refine length_ite_le (fun _ => length_readWord _ _ rest) ?_
  exact Nat.zero_le _

/-- The tokens of a text, up to the first fault. -/
def tokens : List Char → List Token
  | [] => []
  | c :: rest =>
    if isBlank c then tokens rest
    else (readToken c rest).1 :: tokens (readToken c rest).2
termination_by cs => cs.length
decreasing_by
  · simp
  · have := length_readToken c rest
    simp only [List.length_cons]; omega

end HintedSql.Json
