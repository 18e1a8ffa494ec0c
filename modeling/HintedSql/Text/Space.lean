set_option relaxedAutoImplicit false
set_option autoImplicit false

/-!
# White space, words and lines

White space is the Unicode property `White_Space`. Texts are cut as character lists: `trim` drops
white space at both ends, `words` splits at runs of it, `splitOn` splits at one character, and
`lines` splits at line feeds, where one carriage return before a line feed belongs to the line end
and a final line feed opens no further line.

## Main definitions

* `HintedSql.Text.isSpace` — the property `White_Space`.
* `HintedSql.Text.trim`, `HintedSql.Text.words`, `HintedSql.Text.splitOn`, `HintedSql.Text.lines`.
-/

namespace HintedSql.Text

/-- The twenty-five characters with the Unicode property `White_Space`. -/
def isSpace (c : Char) : Bool :=
  let n := c.toNat
  (9 ≤ n && n ≤ 13) || n == 0x20 || n == 0x85 || n == 0xA0 || n == 0x1680
    || (0x2000 ≤ n && n ≤ 0x200A) || n == 0x2028 || n == 0x2029 || n == 0x202F
    || n == 0x205F || n == 0x3000

/-- Drop white space at the start. -/
def trimLeft (cs : List Char) : List Char :=
  cs.dropWhile isSpace

/-- Drop white space at the end. -/
def trimRight (cs : List Char) : List Char :=
  (cs.reverse.dropWhile isSpace).reverse

/-- Drop white space at both ends. -/
def trim (cs : List Char) : List Char :=
  trimRight (trimLeft cs)

/-- The maximal runs of characters that do not satisfy `p`, together with the empty runs between
two neighbouring separators: `n` separators give `n + 1` pieces. -/
def splitWhere (p : Char → Bool) : List Char → List (List Char)
  | [] => [[]]
  | c :: cs =>
    if p c then [] :: splitWhere p cs
    else
      match splitWhere p cs with
      | [] => [[c]]
      | piece :: pieces => (c :: piece) :: pieces

/-- The pieces between the occurrences of one character. -/
def splitOn (separator : Char) (cs : List Char) : List (List Char) :=
  splitWhere (· == separator) cs

/-- The non-empty pieces between runs of white space. -/
def words (cs : List Char) : List (List Char) :=
  (splitWhere isSpace cs).filter (!·.isEmpty)

/-- Drop one carriage return at the end. -/
def dropReturn (cs : List Char) : List Char :=
  match cs.reverse with
  | '\r' :: rest => rest.reverse
  | _ => cs

/-- The lines of a text, without their ends. -/
def lines (cs : List Char) : List (List Char) :=
  let pieces := splitOn '\n' cs
  pieces.dropLast.map dropReturn ++ pieces.getLast?.toList.filter (!·.isEmpty)

/-- The characters of a list as a string, trimmed at both ends. -/
def trimmed (s : String) : String :=
  String.ofList (trim s.toList)

end HintedSql.Text
