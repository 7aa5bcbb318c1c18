import Gatehouse.Text.Blank

/-!
# Header lines

A header line is `key: value`.  Reading one drops the trailing CR and LF characters, splits at
the first `:`, and refuses an empty key or one longer than 256 bytes.  The value is what follows
the colon without its leading blanks, cut to at most 1024 bytes at a character boundary.
Printing gives `key: value` and CRLF.
-/

namespace Gatehouse.Http

open Gatehouse.Text

/-- The longest key a header may have, in bytes. -/
def maxKeyBytes : Nat := 256

/-- The longest value a header keeps, in bytes. -/
def maxValueBytes : Nat := 1024

/-- The most headers a request keeps. -/
def maxHeaders : Nat := 64

/-- A header: a key and its value. -/
structure Header where
  key : String
  value : String
  deriving DecidableEq, Repr

/-- The number of bytes a list of characters takes in UTF-8. -/
def byteCount (cs : List Char) : Nat :=
  cs.foldl (fun acc c => acc + c.utf8Size) 0

/-- The longest prefix of the characters that takes at most `budget` bytes. -/
def takeBytes : Nat → List Char → List Char
  | _, [] => []
  | budget, c :: cs =>
    if c.utf8Size ≤ budget then c :: takeBytes (budget - c.utf8Size) cs else []

/-- Whether a character ends a line. -/
def isLineEnd (c : Char) : Bool :=
  c == '\r' || c == '\n'

/-- The characters without the CR and LF characters at their end. -/
def dropLineEnd (cs : List Char) : List Char :=
  (cs.reverse.dropWhile isLineEnd).reverse

namespace Header

/-- Reads a header line; `none` when it has no colon or its key is empty or too long. -/
def parse? (line : String) : Option Header :=
  match (dropLineEnd line.toList).span (· != ':') with
  | (_, []) => none
  | (key, _ :: after) =>
    if key.isEmpty || maxKeyBytes < byteCount key then none
    else some ⟨String.ofList key, String.ofList (takeBytes maxValueBytes (Blank.dropLeading after))⟩

/-- The printed line of a header. -/
def line (h : Header) : String :=
  h.key ++ ": " ++ h.value ++ "\r\n"

end Header

end Gatehouse.Http
