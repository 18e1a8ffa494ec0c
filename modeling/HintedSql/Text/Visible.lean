import HintedSql.Text.Unseen
set_option relaxedAutoImplicit false
set_option autoImplicit false

/-!
# Quoting for messages

A text quoted in a message shows characters that would not be seen by themselves as escapes: four
of them have a sign of their own, and the others are shown by their number. Quotation marks and
backslashes are escaped as well.

## Main definitions

* `HintedSql.Text.shown` — a text quoted for a message.
-/

namespace HintedSql.Text

/-- The way a message shows a character. -/
def shownChar (c : Char) : List Char :=
  if c = '\x00' then ['\\', '0']
  else if c = '\t' then ['\\', 't']
  else if c = '\r' then ['\\', 'r']
  else if c = '\n' then ['\\', 'n']
  else if c = '"' then ['\\', '"']
  else if c = '\\' then ['\\', '\\']
  else if isUnseen c then ['\\', 'u', '\x7b'] ++ Nat.toDigits 16 c.toNat ++ ['\x7d']
  else [c]

/-- A text quoted for a message. -/
def shown (s : String) : String :=
  "\"" ++ String.ofList (s.toList.flatMap shownChar) ++ "\""

end HintedSql.Text
