import HintedSql.Datum.Basic
import HintedSql.Number.Notation
set_option relaxedAutoImplicit false
set_option autoImplicit false

/-!
# Data trees as JSON text

`Datum.compact` writes no white space at all; `Datum.pretty` puts every item and field on a line of
its own, indented by two spaces per level. In strings the quote, the backslash and the characters
below U+0020 are escaped, and all else stands for itself.

## Main definitions

* `HintedSql.Json.float` — doubles.
* `HintedSql.Json.quote` — strings.
* `HintedSql.Datum.compact`, `HintedSql.Datum.pretty`.
-/

namespace HintedSql

namespace Json

/-- Lower-case hexadecimal digits. -/
def hexDigit (n : Nat) : Char :=
  if n < 10 then Char.ofNat (n + '0'.toNat) else Char.ofNat (n - 10 + 'a'.toNat)

/-- The spelling of one character inside a string. -/
def escape (c : Char) : List Char :=
  if c = '"' then ['\\', '"']
  else if c = '\\' then ['\\', '\\']
  else if c = '\x08' then ['\\', 'b']
  else if c = '\t' then ['\\', 't']
  else if c = '\n' then ['\\', 'n']
  else if c = '\x0c' then ['\\', 'f']
  else if c = '\r' then ['\\', 'r']
  else if c.toNat < 0x20 then
    ['\\', 'u', '0', '0', hexDigit (c.toNat / 16), hexDigit (c.toNat % 16)]
  else [c]

/-- A string between quotes. -/
def quote (s : String) : String :=
  "\"" ++ String.ofList (s.toList.flatMap escape) ++ "\""

/-- The numeral of a finite magnitude: written out in full, with a fraction, while the power of ten
of the first digit is from -5 to 15, and with a signed exponent otherwise. -/
def numeral (n : Numeral) : List Char :=
  if -5 ≤ n.leading ∧ n.leading ≤ 15 then n.positionalPoint else n.scientific

/-- A double; of two equally short and near numerals the one with an even last digit. What is not
finite is `null`. -/
def float : Double → String
  | .finite negative m => String.ofList (signed negative (numeral (m.numeral .even)))
  | _ => "null"

end Json

namespace Datum

/-- A scalar as JSON text; lists and records are left to the two layouts. -/
def scalar : Datum → String
  | null => "null"
  | bool true => "true"
  | bool false => "false"
  | int i => toString i
  | float x => Json.float x
  | text s => Json.quote s
  | list _ | record _ => ""

mutual
/-- JSON text without white space. -/
def compact : Datum → String
  | list items => "[" ++ compactItems items ++ "]"
  | record fields => "\x7b" ++ compactFields fields ++ "\x7d"
  | d => scalar d

/-- Items separated by commas. -/
def compactItems : List Datum → String
  | [] => ""
  | [d] => d.compact
  | d :: ds => d.compact ++ "," ++ compactItems ds

/-- Fields separated by commas. -/
def compactFields : List (String × Datum) → String
  | [] => ""
  | [(k, d)] => Json.quote k ++ ":" ++ d.compact
  | (k, d) :: fs => Json.quote k ++ ":" ++ d.compact ++ "," ++ compactFields fs
end

/-- A new line, indented by two spaces per level. -/
def newLine (level : Nat) : String :=
  "\n" ++ String.ofList (List.replicate (2 * level) ' ')

mutual
/-- JSON text with every item and field on its own line. -/
def prettyAt (level : Nat) : Datum → String
  | list [] => "[]"
  | list (d :: ds) => "[" ++ prettyItems level (d :: ds) ++ newLine level ++ "]"
  | record [] => "\x7b\x7d"
  | record (f :: fs) => "\x7b" ++ prettyFields level (f :: fs) ++ newLine level ++ "\x7d"
  | d => scalar d

/-- The items of a list at a level, each on its own line. -/
def prettyItems (level : Nat) : List Datum → String
  | [] => ""
  | [d] => newLine (level + 1) ++ d.prettyAt (level + 1)
  | d :: ds => newLine (level + 1) ++ d.prettyAt (level + 1) ++ "," ++ prettyItems level ds

/-- The fields of a record at a level, each on its own line. -/
def prettyFields (level : Nat) : List (String × Datum) → String
  | [] => ""
  | [(k, d)] => newLine (level + 1) ++ Json.quote k ++ ": " ++ d.prettyAt (level + 1)
  | (k, d) :: fs =>
    newLine (level + 1) ++ Json.quote k ++ ": " ++ d.prettyAt (level + 1) ++ ","
      ++ prettyFields level fs
end

/-- JSON text with every item and field on its own line. -/
def pretty (d : Datum) : String :=
  d.prettyAt 0

end Datum

end HintedSql
