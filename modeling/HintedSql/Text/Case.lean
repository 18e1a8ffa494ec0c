set_option relaxedAutoImplicit false
set_option autoImplicit false

/-!
# Letter case

`asciiLower` maps `A`–`Z` to `a`–`z` and leaves every other character alone. `lowerForm` is the
lower-case form of a character as far as names written in ASCII can tell: apart from `A`–`Z`, the
only characters whose lower-case form contains an ASCII letter are `İ`, which becomes `i` with a
combining dot, and the Kelvin sign, which becomes `k`; every other character stands for itself.

## Main definitions

* `HintedSql.Text.asciiLower`, `HintedSql.Text.sameIgnoringCase`.
* `HintedSql.Text.lowerForm`.
-/

namespace HintedSql.Text

/-- Lower-case an ASCII letter. -/
def asciiLowerChar (c : Char) : Char :=
  if 'A' ≤ c ∧ c ≤ 'Z' then Char.ofNat (c.toNat + 32) else c

/-- Lower-case the ASCII letters of a text. -/
def asciiLower (s : String) : String :=
  String.ofList (s.toList.map asciiLowerChar)

/-- Two texts that differ at most in the case of ASCII letters. -/
def sameIgnoringCase (s t : String) : Bool :=
  asciiLower s == asciiLower t

/-- The lower-case form of a character, exact wherever that form holds an ASCII letter. -/
def lowerFormChar (c : Char) : List Char :=
  if c = '\u0130' then ['i', '\u0307']
  else if c = '\u212a' then ['k']
  else [asciiLowerChar c]

/-- The lower-case form of a text, exact wherever that form holds an ASCII letter. -/
def lowerForm (s : String) : String :=
  String.ofList (s.toList.flatMap lowerFormChar)

end HintedSql.Text
