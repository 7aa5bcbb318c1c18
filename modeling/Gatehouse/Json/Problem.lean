import Gatehouse.Decimal.Shortest
import Gatehouse.Text.Quoted

/-!
# Problems in JSON input

Why a JSON text cannot be read, and where.  A syntax problem is found at a byte of the input
and is reported with the line (from 1) and the column (bytes since the last line feed) of that
point.  A problem with the shape of the data (a missing or repeated field, a value of the wrong
kind) is made without a place, and takes the place the reader has reached when it is reported.

A place is kept as the number of input bytes still unread there, so that the reading code
passes along only the unread rest; `Failure.describe` turns it into a line and column.
-/

namespace Gatehouse.Json

open Gatehouse.Decimal
open Gatehouse.Text

/-- What went wrong. -/
inductive Problem where
  | eofWhileParsingList
  | eofWhileParsingObject
  | eofWhileParsingString
  | eofWhileParsingValue
  | expectedColon
  | expectedListCommaOrEnd
  | expectedObjectCommaOrEnd
  | expectedSomeIdent
  | expectedSomeValue
  | invalidEscape
  | invalidNumber
  | numberOutOfRange
  | invalidUnicodeCodePoint
  | controlCharacterWhileParsingString
  | keyMustBeAString
  | loneLeadingSurrogateInHexEscape
  | trailingComma
  | trailingCharacters
  | unexpectedEndOfHexEscape
  /-- A problem with the shape of the data, in words. -/
  | shape (message : String)
  deriving DecidableEq, Repr

/-- The wording of each problem. -/
def Problem.message : Problem → String
  | .eofWhileParsingList => "EOF while parsing a list"
  | .eofWhileParsingObject => "EOF while parsing an object"
  | .eofWhileParsingString => "EOF while parsing a string"
  | .eofWhileParsingValue => "EOF while parsing a value"
  | .expectedColon => "expected `:`"
  | .expectedListCommaOrEnd => "expected `,` or `]`"
  | .expectedObjectCommaOrEnd => "expected `,` or `\x7d`"
  | .expectedSomeIdent => "expected ident"
  | .expectedSomeValue => "expected value"
  | .invalidEscape => "invalid escape"
  | .invalidNumber => "invalid number"
  | .numberOutOfRange => "number out of range"
  | .invalidUnicodeCodePoint => "invalid unicode code point"
  | .controlCharacterWhileParsingString =>
    "control character (\\u0000-\\u001F) found while parsing a string"
  | .keyMustBeAString => "key must be a string"
  | .loneLeadingSurrogateInHexEscape => "lone leading surrogate in hex escape"
  | .trailingComma => "trailing comma"
  | .trailingCharacters => "trailing characters"
  | .unexpectedEndOfHexEscape => "unexpected end of hex escape"
  | .shape m => m

/-- A problem and, once known, the number of input bytes unread at its place. -/
structure Failure where
  problem : Problem
  remaining : Option Nat
  deriving DecidableEq, Repr

/-- A problem at the point where `rest` is unread. -/
def Failure.here (p : Problem) (rest : List UInt8) : Failure :=
  ⟨p, some rest.length⟩

/-- A problem at the byte after the next one of `rest`: the place of a byte looked at and
found wrong (the end of the input if there is no such byte). -/
def Failure.ahead (p : Problem) (rest : List UInt8) : Failure :=
  ⟨p, some (rest.length - 1)⟩

/-- A problem with the shape of the data, without a place yet. -/
def Failure.shape (message : String) : Failure :=
  ⟨.shape message, none⟩

/-- The failure with the place where `rest` is unread, unless it has a place already. -/
def Failure.settle (f : Failure) (rest : List UInt8) : Failure :=
  match f.remaining with
  | some _ => f
  | none => { f with remaining := some rest.length }

/-- The line (from 1) and column (bytes since the last line feed) of the byte at `index`. -/
def lineAndColumn (input : List UInt8) (index : Nat) : Nat × Nat :=
  let before := input.take index
  (1 + before.count 10, (before.reverse.takeWhile (· != 10)).length)

/-- The text of a failure in reading `input`: the problem, then its line and column. -/
def Failure.describe (f : Failure) (input : List UInt8) : String :=
  match f.remaining with
  | none => f.problem.message
  | some r =>
    let (line, column) := lineAndColumn input (input.length - r)
    f.problem.message ++ " at line " ++ toString line ++ " column " ++ toString column

/-- A value found where another kind was expected, as the message names it. -/
inductive Unexpected where
  | null
  | bool (b : Bool)
  | unsigned (n : Nat)
  | signed (n : Int)
  | float (f : Float)
  | text (s : String)
  | sequence
  | map

/-- How a message names an unexpected value: a number in backquotes, a float with its shortest
digits in the scientific layout, a text quoted. -/
def Unexpected.describe : Unexpected → String
  | .null => "null"
  | .bool b => "boolean `" ++ (if b then "true" else "false") ++ "`"
  | .unsigned n => "integer `" ++ toString n ++ "`"
  | .signed n => "integer `" ++ toString n ++ "`"
  | .float f => "floating point `" ++ scientific.text f ++ "`"
  | .text s => "string " ++ Quoted.quote s
  | .sequence => "sequence"
  | .map => "map"

/-- The problem of a value of the wrong kind. -/
def invalidType (found : Unexpected) (expected : String) : Failure :=
  .shape ("invalid type: " ++ found.describe ++ ", expected " ++ expected)

end Gatehouse.Json
