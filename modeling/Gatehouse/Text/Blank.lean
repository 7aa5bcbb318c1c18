/-!
# Blank characters

The Unicode property White_Space: the characters that separate the words of a request line
and that are trimmed from header values, numbers in query strings and configuration values.
It has 25 members, ASCII and beyond (NEL, NO-BREAK SPACE, the spaces of the General
Punctuation block, IDEOGRAPHIC SPACE).

The operations here are the ones the server needs: trimming at either end, and splitting a
text into its blank-separated words.
-/

namespace Gatehouse.Text.Blank

/-- Whether a character has the Unicode property White_Space. -/
def isBlank (c : Char) : Bool :=
  let n := c.toNat
  (0x09 ≤ n && n ≤ 0x0D) || n == 0x20 || n == 0x85 || n == 0xA0 || n == 0x1680
    || (0x2000 ≤ n && n ≤ 0x200A) || n == 0x2028 || n == 0x2029 || n == 0x202F
    || n == 0x205F || n == 0x3000

/-- The characters after the leading blanks. -/
def dropLeading (cs : List Char) : List Char :=
  cs.dropWhile isBlank

/-- The characters before the trailing blanks. -/
def dropTrailing (cs : List Char) : List Char :=
  ((cs.reverse).dropWhile isBlank).reverse

/-- A text without its leading blanks. -/
def trimStart (s : String) : String :=
  String.ofList (dropLeading s.toList)

/-- A text without its trailing blanks. -/
def trimEnd (s : String) : String :=
  String.ofList (dropTrailing s.toList)

/-- A text without blanks at either end. -/
def trim (s : String) : String :=
  String.ofList (dropTrailing (dropLeading s.toList))

/-- The words of a character list: the maximal runs of non-blank characters, in order. -/
def words (cs : List Char) : List (List Char) :=
  (cs.splitOnP isBlank).filter (fun w => !w.isEmpty)

/-- The blank-separated words of a text. -/
def fields (s : String) : List String :=
  (words s.toList).map String.ofList

end Gatehouse.Text.Blank
