import Gatehouse.Toml.Document
import Gatehouse.Toml.Failure
import Gatehouse.Decimal.Binary64
import Gatehouse.Decimal.Shortest
import Gatehouse.Text.Utf8

/-!
# Reading TOML text

A reader for TOML 1.0 over the bytes of a text, with the positions and messages of its
failures fixed exactly.  Each reader takes the unread bytes and gives a value with the rest, or
a `Failure`; a committed failure ends the whole reading, a soft one lets a caller try another
reading from the same point.

* Blanks are spaces and tabs; a line ends with LF or CRLF; a comment runs from `#` to the end
  of its line and may hold no control character but tab.
* A key is bare (letters, digits, `-`, `_`) or quoted, and dotted keys join such parts with
  `.`, blanks allowed around each part.
* A value is chosen by its first character: quotes start a string, `[` an array, `{` an inline
  table, a sign or digit a date, time, float or integer (tried in that order), `t`/`f` a
  boolean, `i`/`n` infinity and NaN.
* Integers are decimal (no leading zero), or `0x`, `0o`, `0b` with digits; underscores stand
  only between digits.  They must fit 64 signed bits.  A float has a fraction, an exponent or
  both, and may not round to positive infinity.
* Arrays and inline tables nest at most 79 deep.
-/

namespace Gatehouse.Toml

open Gatehouse.Decimal
open Gatehouse.Text

/-! ## Bytes -/

/-- Space and tab. -/
def isBlank (b : UInt8) : Bool := b == 32 || b == 9

/-- The bytes after the blanks at the start. -/
def skipBlank (s : List UInt8) : List UInt8 := s.dropWhile isBlank

/-- ASCII digits. -/
def isDigit (b : UInt8) : Bool := 48 ≤ b && b ≤ 57

/-- Hex digits in either case. -/
def isHexDigit (b : UInt8) : Bool := isDigit b || (65 ≤ b && b ≤ 70) || (97 ≤ b && b ≤ 102)

/-- Octal digits. -/
def isOctalDigit (b : UInt8) : Bool := 48 ≤ b && b ≤ 55

/-- Binary digits. -/
def isBinaryDigit (b : UInt8) : Bool := b == 48 || b == 49

/-- The value of a hex digit. -/
def hexDigitValue (b : UInt8) : Nat :=
  if isDigit b then b.toNat - 48 else if b ≤ 70 then b.toNat - 55 else b.toNat - 87

/-- The value of digits in a base. -/
def digitsValue (base : Nat) (ds : List UInt8) : Nat :=
  ds.foldl (fun acc b => acc * base + hexDigitValue b) 0

/-- Bytes a comment may hold. -/
def isCommentByte (b : UInt8) : Bool := b == 9 || (32 ≤ b && b ≤ 126) || 128 ≤ b

/-- Bytes of a bare key. -/
def isKeyByte (b : UInt8) : Bool :=
  (65 ≤ b && b ≤ 90) || (97 ≤ b && b ≤ 122) || isDigit b || b == 45 || b == 95

/-- Bytes that stand for themselves in a basic string. -/
def isBasicByte (b : UInt8) : Bool :=
  b == 32 || b == 9 || b == 33 || (35 ≤ b && b ≤ 91) || (93 ≤ b && b ≤ 126) || 128 ≤ b

/-- Bytes of a literal string. -/
def isLiteralByte (b : UInt8) : Bool :=
  b == 9 || (32 ≤ b && b ≤ 38) || (40 ≤ b && b ≤ 126) || 128 ≤ b

/-- The bytes read from `s` up to `rest`. -/
def readBetween (s rest : List UInt8) : List UInt8 :=
  s.take (s.length - rest.length)

/-- The span from `s` to `rest` in a text of `n` bytes. -/
def spanBetween (n : Nat) (s rest : List UInt8) : Span :=
  ⟨n - s.length, n - rest.length⟩

/-- The text of bytes known to be UTF-8. -/
def textOf (bytes : List UInt8) : String :=
  Utf8.decodeLossy bytes

/-! ## Line structure -/

/-- A comment, from its `#`. -/
def comment : List UInt8 → Parse Unit
  | 35 :: tl => .ok ((), tl.dropWhile isCommentByte)
  | s => .error (.soft s)

/-- A line break, LF or CRLF. -/
def newline : List UInt8 → Parse Unit
  | 10 :: tl => .ok ((), tl)
  | 13 :: tl =>
    match tl with
    | 10 :: r => .ok ((), r)
    | _ => .error (.soft tl)
  | _ :: tl => .error (.soft tl)
  | [] => .error (.soft [])

/-- A line break or the end of the text. -/
def lineEnding (s : List UInt8) : Parse Unit :=
  match newline s with
  | .ok r => .ok r
  | .error _ => if s.isEmpty then .ok ((), []) else .error (.soft s)

/-- What may end a line after its content: blanks, a comment, the line break. -/
def lineTrailing (s : List UInt8) : Parse Unit :=
  let s := skipBlank s
  let s := match comment s with
    | .ok ((), r) => r
    | .error _ => s
  lineEnding s

/-- Blanks, comments and line breaks, as between the values of an array. -/
def blankLines : Nat → List UInt8 → Except Failure (List UInt8)
  | 0, s => .ok s
  | fuel + 1, s =>
    let s := skipBlank s
    match s with
    | 35 :: _ =>
      match comment s with
      | .error e => .error e
      | .ok ((), r) =>
        match newline r with
        | .ok ((), r2) => blankLines fuel r2
        | .error e => .error e
    | 10 :: _ =>
      match newline s with
      | .ok ((), r) => blankLines fuel r
      | .error e => .error e
    | 13 :: _ =>
      match newline s with
      | .ok ((), r) => blankLines fuel r
      | .error e => .error e
    | _ => .ok s

/-- Blanks and line breaks. -/
def blanksAndBreaks : List UInt8 → List UInt8
  | 32 :: tl => blanksAndBreaks tl
  | 9 :: tl => blanksAndBreaks tl
  | 10 :: tl => blanksAndBreaks tl
  | 13 :: 10 :: tl => blanksAndBreaks tl
  | s => s

/-! ## Strings -/

/-- The UTF-8 bytes of a Unicode scalar value. -/
def scalarBytes? (n : Nat) : Option (List UInt8) :=
  if n < 0xD800 ∨ (0xE000 ≤ n ∧ n ≤ 0x10FFFF) then some (String.utf8EncodeChar (Char.ofNat n))
  else none

/-- The cause of a number or date outside its range. -/
def outOfRange : String := "value is out of range"

/-- A `\u` or `\U` escape after its letter: `width` hex digits naming a scalar value. -/
def hexEscape (width : Nat) (label : String) (s : List UInt8) : Parse (List UInt8) :=
  let digits := (s.takeWhile isHexDigit).take width
  if digits.length < width then .error (.hard [.label label] s)
  else
    match scalarBytes? (digitsValue 16 digits) with
    | some bytes => .ok (bytes, s.drop width)
    | none => .error ⟨true, [.label label], some outOfRange, s.length⟩

/-- The letters that may follow a backslash. -/
def escapeLetters : List Char := ['b', 'f', 'n', 'r', 't', 'u', 'U', '\\', '"']

/-- An escape after its backslash. -/
def escapeSequence : List UInt8 → Parse (List UInt8)
  | [] => .error (.soft [])
  | b :: tl =>
    if b = 98 then .ok ([8], tl)
    else if b = 102 then .ok ([12], tl)
    else if b = 110 then .ok ([10], tl)
    else if b = 114 then .ok ([13], tl)
    else if b = 116 then .ok ([9], tl)
    else if b = 92 then .ok ([92], tl)
    else if b = 34 then .ok ([34], tl)
    else if b = 117 then hexEscape 4 "unicode 4-digit hex code" tl
    else if b = 85 then hexEscape 8 "unicode 8-digit hex code" tl
    else .error (.hard (.label "escape sequence" :: escapeLetters.map fun c => .expected (.char c)) tl)

/-- An escape, from its backslash. -/
def escaped : List UInt8 → Parse (List UInt8)
  | 92 :: tl => escapeSequence tl
  | s => .error (.soft s)

/-- The body of a basic string up to its closing quote; `acc` holds what is read, reversed. -/
def basicBody : Nat → List UInt8 → List UInt8 → Parse (List UInt8)
  | 0, _, s => .error (.hard [.label "basic string"] s)
  | fuel + 1, acc, s =>
    let run := s.takeWhile isBasicByte
    if run.isEmpty then
      match escaped s with
      | .ok (bytes, r) => basicBody fuel (bytes.reverse ++ acc) r
      | .error f =>
        if f.committed then .error f
        else
          match s with
          | 34 :: r => .ok (acc.reverse, r)
          | _ => .error (.hard [.label "basic string"] s)
    else basicBody fuel (run.reverse ++ acc) (s.drop run.length)

/-- A basic string, from its quote. -/
def basicString (s : List UInt8) : Parse (List UInt8) :=
  match s with
  | 34 :: tl => basicBody (tl.length + 1) [] tl
  | _ => .error (.soft s)

/-- A literal string, from its apostrophe. -/
def literalString (s : List UInt8) : Parse (List UInt8) :=
  match s with
  | 39 :: tl =>
    let body := tl.takeWhile isLiteralByte
    match tl.drop body.length with
    | 39 :: r => .ok (body, r)
    | r => .error (.hard [.label "literal string"] r)
  | _ => .error (.soft s)

/-- One or two quote bytes `q` followed by what `after` accepts, two if possible. -/
def quotesBefore (q : UInt8) (after : List UInt8 → Bool) (s : List UInt8) :
    Option (List UInt8 × List UInt8) :=
  let one : Option (List UInt8 × List UInt8) :=
    match s with
    | a :: r => if a = q ∧ after r then some ([q], r) else none
    | [] => none
  match s with
  | a :: b :: r => if a = q ∧ b = q ∧ after r then some ([q, q], r) else one
  | _ => one

/-- Whether the bytes start with something other than `q`. -/
def startsOtherThan (q : UInt8) : List UInt8 → Bool
  | c :: _ => c != q
  | [] => false

/-- Escaped line breaks: a backslash, blanks, a line break, then blanks and breaks, once or
more. -/
def escapedLineBreaks : Nat → Bool → List UInt8 → Except Failure (List UInt8)
  | 0, _, s => .ok s
  | fuel + 1, first, s =>
    let once : Except Failure (List UInt8) :=
      match s with
      | 92 :: tl =>
        match newline (skipBlank tl) with
        | .ok ((), r) => .ok (blanksAndBreaks r)
        | .error e => .error e
      | _ => .error (.soft s)
    match once with
    | .ok r => escapedLineBreaks fuel false r
    | .error e => if first then .error e else .ok s

/-- One piece of a multi-line basic string. -/
def multiBasicPiece (s : List UInt8) : Parse (List UInt8) :=
  let run := s.takeWhile isBasicByte
  if !run.isEmpty then .ok (run, s.drop run.length)
  else
    match escapedLineBreaks (s.length + 1) true s with
    | .ok r => .ok ([], r)
    | .error _ =>
      match escaped s with
      | .ok r => .ok r
      | .error f =>
        if f.committed then .error f
        else
          match newline s with
          | .ok ((), r) => .ok ([10], r)
          | .error e => .error e

/-- As many pieces as follow; `acc` holds what is read, reversed. -/
def multiBasicPieces : Nat → List UInt8 → List UInt8 → Parse (List UInt8)
  | 0, acc, s => .ok (acc, s)
  | fuel + 1, acc, s =>
    match multiBasicPiece s with
    | .ok (bytes, r) => multiBasicPieces fuel (bytes.reverse ++ acc) r
    | .error f => if f.committed then .error f else .ok (acc, s)

/-- The body of a multi-line basic string: pieces, with runs of one or two quotes between
them, and up to two quotes before the closing delimiter. -/
def multiBasicBody : Nat → List UInt8 → List UInt8 → Parse (List UInt8)
  | 0, acc, s => .ok (acc.reverse, s)
  | fuel + 1, acc, s =>
    match multiBasicPieces (s.length + 1) acc s with
    | .error f => .error f
    | .ok (acc, s) =>
      match quotesBefore 34 (startsOtherThan 34) s with
      | some (q, r) =>
        match multiBasicPiece r with
        | .ok (bytes, r2) => multiBasicBody fuel (bytes.reverse ++ q.reverse ++ acc) r2
        | .error f => if f.committed then .error f else .ok (acc.reverse, r)
      | none =>
        match quotesBefore 34 (fun r => [34, 34, 34].isPrefixOf r) s with
        | some (q, r) => .ok ((q.reverse ++ acc).reverse, r)
        | none => .ok (acc.reverse, s)

/-- A multi-line basic string, from its three quotes. -/
def multiBasicString (s : List UInt8) : Parse (List UInt8) :=
  let label : List Context := [.label "multiline basic string"]
  let r := s.drop 3
  let r := match newline r with
    | .ok ((), r2) => r2
    | .error _ => r
  match withContext label (multiBasicBody (r.length + 1) [] r) with
  | .error f => .error { f with committed := true }
  | .ok (bytes, r2) =>
    if [34, 34, 34].isPrefixOf r2 then .ok (bytes, r2.drop 3)
    else .error (.hard label r2)

/-- One piece of a multi-line literal string: a byte or a line break. -/
def multiLiteralPiece (s : List UInt8) : Except Failure (List UInt8) :=
  match s with
  | b :: tl => if isLiteralByte b then .ok tl else (newline s).map (·.2)
  | [] => .error (.soft [])

/-- As many pieces as follow. -/
def multiLiteralPieces : Nat → List UInt8 → List UInt8
  | 0, s => s
  | fuel + 1, s =>
    match multiLiteralPiece s with
    | .ok r => multiLiteralPieces fuel r
    | .error _ => s

/-- The body of a multi-line literal string. -/
def multiLiteralBody : Nat → List UInt8 → List UInt8
  | 0, s => s
  | fuel + 1, s =>
    let s := multiLiteralPieces (s.length + 1) s
    match quotesBefore 39 (startsOtherThan 39) s with
    | some (_, r) =>
      let r2 := multiLiteralPieces (r.length + 1) r
      if r2.length < r.length then multiLiteralBody fuel r2
      else
        match quotesBefore 39 (fun r => [39, 39, 39].isPrefixOf r) s with
        | some (_, r3) => r3
        | none => s
    | none =>
      match quotesBefore 39 (fun r => [39, 39, 39].isPrefixOf r) s with
      | some (_, r) => r
      | none => s

/-- Replaces each CRLF by LF. -/
def unixBreaks : List UInt8 → List UInt8
  | 13 :: 10 :: tl => 10 :: unixBreaks tl
  | b :: tl => b :: unixBreaks tl
  | [] => []

/-- A multi-line literal string, from its three apostrophes. -/
def multiLiteralString (s : List UInt8) : Parse (List UInt8) :=
  let r := s.drop 3
  let r := match newline r with
    | .ok ((), r2) => r2
    | .error _ => r
  let rest := multiLiteralBody (r.length + 1) r
  if [39, 39, 39].isPrefixOf rest then .ok (unixBreaks (readBetween r rest), rest.drop 3)
  else .error (.hard [.label "multiline literal string"] rest)

/-- A string of any of the four kinds. -/
def string (s : List UInt8) : Parse (List UInt8) :=
  if [34, 34, 34].isPrefixOf s then multiBasicString s
  else if [34].isPrefixOf s then basicString s
  else if [39, 39, 39].isPrefixOf s then multiLiteralString s
  else literalString s

/-! ## Numbers -/

/-- Digits after a first one, with single underscores between digits. -/
def digitRun (isD : UInt8 → Bool) : List UInt8 → Except Failure (List UInt8)
  | [] => .ok []
  | b :: tl =>
    if isD b then digitRun isD tl
    else if b = 95 then
      match tl with
      | c :: r => if isD c then digitRun isD r else .error (.hard [.expected (.description "digit")] tl)
      | [] => .error (.hard [.expected (.description "digit")] [])
    else .ok (b :: tl)

/-- A decimal integer with an optional sign and no leading zero. -/
def decimalInteger (s : List UInt8) : Except Failure (List UInt8) :=
  let s1 := match s with
    | 43 :: r => r
    | 45 :: r => r
    | _ => s
  withContext [.label "integer"] <|
    match s1 with
    | b :: tl =>
      if 49 ≤ b ∧ b ≤ 57 then digitRun isDigit tl
      else if b = 48 then .ok tl
      else .error (.soft s1)
    | [] => .error (.soft s1)

/-- Digits with underscores between them, leading zeros allowed. -/
def digitsAllowingZero (s : List UInt8) : Except Failure (List UInt8) :=
  match s with
  | b :: tl => if isDigit b then digitRun isDigit tl else .error (.soft s)
  | [] => .error (.soft s)

/-- An exponent, from its `e`. -/
def exponentPart (s : List UInt8) : Except Failure (List UInt8) :=
  match s with
  | e :: tl =>
    if e = 101 ∨ e = 69 then
      let r := match tl with
        | 43 :: r => r
        | 45 :: r => r
        | _ => tl
      commit (digitsAllowingZero r)
    else .error (.soft s)
  | [] => .error (.soft s)

/-- A fraction, from its point. -/
def fractionPart (s : List UInt8) : Except Failure (List UInt8) :=
  match s with
  | 46 :: tl => withContext [.expected (.description "digit")] (commit (digitsAllowingZero tl))
  | _ => .error (.soft s)

/-- The text of a float: an integer part, then an exponent, or a fraction and maybe an
exponent. -/
def floatBody (s : List UInt8) : Except Failure (List UInt8) :=
  match decimalInteger s with
  | .error f => .error f
  | .ok r =>
    match exponentPart r with
    | .ok r2 => .ok r2
    | .error f =>
      if f.committed then .error f
      else
        match fractionPart r with
        | .error f => .error f
        | .ok r2 =>
          match exponentPart r2 with
          | .ok r3 => .ok r3
          | .error f => if f.committed then .error f else .ok r2

/-- The double nearest to a decimal `digits · 10^exponent`, with its sign; magnitudes beyond
the doubles go to infinity or zero without computing them. -/
def scaledDecimal (negative : Bool) (digits : Nat) (exponent : Int) : Float :=
  let size : Int := exponent + digitCount digits
  if digits = 0 then (if negative then -0.0 else 0.0)
  else if size > 310 then (if negative then -(1.0 / 0.0) else 1.0 / 0.0)
  else if size < -330 then (if negative then -0.0 else 0.0)
  else ofDecimal negative digits exponent

/-- The value of a float's text. -/
def floatValue (text : List UInt8) : Float :=
  let t := text.filter (· != 95)
  let (negative, t) := match t with
    | 45 :: r => (true, r)
    | 43 :: r => (false, r)
    | _ => (false, t)
  let whole := t.takeWhile isDigit
  let t := t.drop whole.length
  let (fraction, t) := match t with
    | 46 :: r => (r.takeWhile isDigit, r.dropWhile isDigit)
    | _ => ([], t)
  let exponent : Int := match t with
    | _ :: 45 :: r => -(digitsValue 10 r : Int)
    | _ :: 43 :: r => digitsValue 10 r
    | _ :: r => digitsValue 10 r
    | [] => 0
  scaledDecimal negative (digitsValue 10 (whole ++ fraction)) (exponent - fraction.length)

/-- Whether a double is positive infinity. -/
def isPositiveInfinity (f : Float) : Bool :=
  f.toBits.toNat == infinityBits

/-- `inf` or `nan` with an optional sign. -/
def specialFloat (s : List UInt8) : Parse Float :=
  let (negative, s1) := match s with
    | 45 :: r => (true, r)
    | 43 :: r => (false, r)
    | _ => (false, s)
  if [105, 110, 102].isPrefixOf s1 then
    .ok ((if negative then -(1.0 / 0.0) else 1.0 / 0.0), s1.drop 3)
  else if [110, 97, 110].isPrefixOf s1 then .ok (0.0 / 0.0, s1.drop 3)
  else .error (.soft s1)

/-- A float. -/
def float (s : List UInt8) : Parse Float :=
  withContext [.label "floating-point number"] <|
    match floatBody s with
    | .ok r =>
      let f := floatValue (readBetween s r)
      if isPositiveInfinity f then .error (.hard [] s) else .ok (f, r)
    | .error f => if f.committed then .error f else specialFloat s

/-- The greatest 64-bit signed number. -/
def maxInt64 : Int := (Nat.pow 2 63 : Nat) - 1

/-- The least 64-bit signed number. -/
def minInt64 : Int := -((Nat.pow 2 63 : Nat) : Int)

/-- The cause of a number above the 64-bit range. -/
def tooLarge : String := "number too large to fit in target type"

/-- The cause of a number below the 64-bit range. -/
def tooSmall : String := "number too small to fit in target type"

/-- An integer in base 16, 8 or 2 after its prefix. -/
def radixInteger (base : Nat) (isD : UInt8 → Bool) (label : String) (s : List UInt8) :
    Parse Int :=
  let body := s.drop 2
  match body with
  | b :: tl =>
    if isD b then
      match digitRun isD tl with
      | .error f => .error { f with contexts := f.contexts ++ [.label label] }
      | .ok r =>
        let n := digitsValue base ((readBetween body r).filter (· != 95))
        if (n : Int) > maxInt64 then .error (.because tooLarge s) else .ok (n, r)
    else .error (.hard [.label label] body)
  | [] => .error (.hard [.label label] body)

/-- An integer. -/
def integer (s : List UInt8) : Parse Int :=
  if [48, 120].isPrefixOf s then radixInteger 16 isHexDigit "hexadecimal integer" s
  else if [48, 111].isPrefixOf s then radixInteger 8 isOctalDigit "octal integer" s
  else if [48, 98].isPrefixOf s then radixInteger 2 isBinaryDigit "binary integer" s
  else
    match decimalInteger s with
    | .error f => .error f
    | .ok r =>
      let text := (readBetween s r).filter (· != 95)
      let n : Int := match text with
        | 45 :: ds => -(digitsValue 10 ds : Int)
        | 43 :: ds => digitsValue 10 ds
        | ds => digitsValue 10 ds
      if n > maxInt64 then .error (.because tooLarge s)
      else if n < minInt64 then .error (.because tooSmall s)
      else .ok (n, r)

/-! ## Dates and times -/

/-- Exactly `count` digits at the start (more may follow), as a number. -/
def fixedDigits (count : Nat) (s : List UInt8) : Option (Nat × List UInt8) :=
  let ds := (s.takeWhile isDigit).take count
  if ds.length = count then some (digitsValue 10 ds, s.drop count) else none

/-- The days of a month. -/
def daysInMonth (year month : Nat) : Nat :=
  let leap := year % 4 = 0 ∧ (year % 100 ≠ 0 ∨ year % 400 = 0)
  if month = 2 then (if leap then 29 else 28)
  else if month = 4 ∨ month = 6 ∨ month = 9 ∨ month = 11 then 30
  else 31

/-- Two digits within `[lo, hi]`, once committed. -/
def boundedPair (lo hi : Nat) (s : List UInt8) : Except Failure (List UInt8) :=
  match fixedDigits 2 s with
  | none => .error (.hard [] s)
  | some (v, r) => if v < lo ∨ hi < v then .error (.because outOfRange s) else .ok r

/-- A date `YYYY-MM-DD`; committed once `YYYY-` is read. -/
def fullDate (s : List UInt8) : Except Failure (List UInt8) :=
  match fixedDigits 4 s with
  | none => .error (.soft s)
  | some (year, r) =>
    match r with
    | 45 :: r2 =>
      match fixedDigits 2 r2 with
      | none => .error (.hard [] r2)
      | some (month, r3) =>
        if month < 1 ∨ 12 < month then .error (.because outOfRange r2)
        else
          match r3 with
          | 45 :: r4 =>
            match fixedDigits 2 r4 with
            | none => .error (.hard [] r4)
            | some (day, r5) =>
              if day < 1 ∨ 31 < day ∨ daysInMonth year month < day then
                .error (.because outOfRange r4)
              else .ok r5
          | _ => .error (.hard [] r3)
    | _ => .error (.soft r)

/-- A time `HH:MM:SS` with an optional fraction; committed once `HH:` is read. -/
def partialTime (s : List UInt8) : Except Failure (List UInt8) :=
  match fixedDigits 2 s with
  | none => .error (.soft s)
  | some (hour, r) =>
    if 23 < hour then .error ⟨false, [], some outOfRange, s.length⟩
    else
      match r with
      | 58 :: r2 =>
        match boundedPair 0 59 r2 with
        | .error f => .error f
        | .ok r3 =>
          match r3 with
          | 58 :: r4 =>
            match boundedPair 0 60 r4 with
            | .error f => .error f
            | .ok r5 =>
              match r5 with
              | 46 :: r6 =>
                let ds := r6.takeWhile isDigit
                if ds.isEmpty then .ok r5 else .ok (r6.drop ds.length)
              | _ => .ok r5
          | _ => .error (.hard [] r3)
      | _ => .error (.soft r)

/-- A time offset: `Z`, or a sign with `HH:MM`. -/
def timeOffset (s : List UInt8) : Except Failure (List UInt8) :=
  withContext [.label "time offset"] <|
    match s with
    | b :: r =>
      if b = 90 ∨ b = 122 then .ok r
      else if b = 43 ∨ b = 45 then
        match boundedPair 0 23 r with
        | .error f => .error f
        | .ok r2 =>
          match r2 with
          | 58 :: r3 => boundedPair 0 59 r3
          | _ => .error (.hard [] r2)
      else .error (.soft s)
    | [] => .error (.soft s)

/-- A date, possibly followed by a time and an offset; its failures say `date-time`. -/
def datedTime (s : List UInt8) : Except Failure (List UInt8) :=
  withContext [.label "date-time"] <|
    match fullDate s with
    | .ok r =>
      match r with
      | d :: r2 =>
        if d = 84 ∨ d = 116 ∨ d = 32 then
          match partialTime r2 with
          | .ok r3 =>
            match timeOffset r3 with
            | .ok r4 => .ok r4
            | .error f => if f.committed then .error f else .ok r3
          | .error f => if f.committed then .error f else .ok r
        else .ok r
      | [] => .ok r
    | .error f => .error f

/-- A date, a date with a time (and offset), or a time alone, whose failures say `time`. -/
def dateTime (s : List UInt8) : Except Failure (List UInt8) :=
  match datedTime s with
  | .ok r => .ok r
  | .error f => if f.committed then .error f else withContext [.label "time"] (partialTime s)

/-! ## Keys -/

/-- One part of a key. -/
def simpleKey (n : Nat) (s : List UInt8) : Parse Key :=
  let quoted (r : Parse (List UInt8)) : Parse Key :=
    match r with
    | .ok (bytes, rest) => .ok (⟨textOf bytes, spanBetween n s rest⟩, rest)
    | .error e => .error e
  match s with
  | [] => .error (.soft [])
  | b :: _ =>
    if b = 34 then quoted (basicString s)
    else if b = 39 then quoted (literalString s)
    else
      let run := s.takeWhile isKeyByte
      if run.isEmpty then .error (.soft s)
      else .ok (⟨textOf run, spanBetween n s (s.drop run.length)⟩, s.drop run.length)

/-- The parts after the first of a dotted key. -/
def keyParts (n : Nat) : Nat → List Key → List UInt8 → Parse (List Key)
  | 0, acc, s => .ok (acc.reverse, s)
  | fuel + 1, acc, s =>
    match s with
    | 46 :: tl =>
      match simpleKey n (skipBlank tl) with
      | .ok (k, r) => keyParts n fuel (k :: acc) (skipBlank r)
      | .error f => if f.committed then .error f else .ok (acc.reverse, s)
    | _ => .ok (acc.reverse, s)

/-- The deepest nesting of keys, arrays and inline tables. -/
def nestingLimit : Nat := 80

/-- A key: parts joined by dots, blanks around each. -/
def key (n : Nat) (s : List UInt8) : Parse (List Key) :=
  let parts : Parse (List Key) := withContext [.label "key"] <|
    match simpleKey n (skipBlank s) with
    | .error f => .error f
    | .ok (k, r) => keyParts n (r.length + 1) [k] (skipBlank r)
  match parts with
  | .ok (ks, r) =>
    if ks.length < nestingLimit then .ok (ks, r)
    else .error ⟨false, [], some "recursion limit exceeded", s.length⟩
  | .error f => .error f

/-! ## Values -/

/-- The expectations of a value that starts like a string but is not one. -/
def stringContexts : List Context :=
  [.label "string", .expected (.char '"'), .expected (.char '\x27')]

/-- Adds an entry under a dotted path to the entries of an inline table.  `dotted` tells
whether the table at hand was made by a dotted key, and `whole` is the full path. -/
def insertInline (key : Key) (v : Value) (whole : List Key) :
    Nat → Bool → List (Key × Value) → List Key → Except Conflict (List (Key × Value))
  | _, dotted, entries, [] =>
    if dotted == whole.isEmpty then .error (.duplicateKey key.name none)
    else if entries.any (·.1.name == key.name) then .error (.duplicateKey key.name none)
    else .ok (entries ++ [(key, v)])
  | depth, _, entries, k :: rest =>
    let existing := (entries.find? (·.1.name == k.name)).map (·.2)
    match existing.getD (.table [] none true true) with
    | .table es sp im dt =>
      if !im then .error (.duplicateKey k.name none)
      else
        match insertInline key v whole (depth + 1) dt es rest with
        | .error e => .error e
        | .ok es' =>
          let child := Value.table es' sp im dt
          if existing.isSome then
            .ok (entries.map fun (k2, x) => if k2.name == k.name then (k2, child) else (k2, x))
          else .ok (entries ++ [(k, child)])
    | other => .error (.extendsValue ((whole.take (depth + 1)).map (·.name)) other.typeName)

/-- The entries of an inline table from its key-value pairs, in order. -/
def inlineEntries (pairs : List (List Key × Value)) : Except Conflict (List (Key × Value)) :=
  pairs.foldlM (fun entries (keys, v) =>
    match keys.getLast? with
    | some k => insertInline k v keys.dropLast 0 false entries keys.dropLast
    | none => .ok entries) []

mutual

/-- A value. `depth` counts the arrays and inline tables around it. -/
def value (n : Nat) (depth : Nat) : Nat → List UInt8 → Parse Value
  | 0, s => .error (.soft s)
  | fuel + 1, s =>
    let span (r : List UInt8) := spanBetween n s r
    match s with
    | [] => .error (.soft [])
    | b :: _ =>
      if b = 34 ∨ b = 39 then
        match string s with
        | .ok (bytes, r) => .ok (.string (textOf bytes) (span r), r)
        | .error e => .error e
      else if b = 91 then array n depth fuel s
      else if b = 123 then inlineTable n depth fuel s
      else if b = 43 ∨ b = 45 ∨ isDigit b then
        match dateTime s with
        | .ok r => .ok (.datetime (span r), r)
        | .error f =>
          if f.committed then .error f
          else
            match float s with
            | .ok (x, r) => .ok (.float x (span r), r)
            | .error f =>
              if f.committed then .error f
              else
                match integer s with
                | .ok (i, r) => .ok (.integer i (span r), r)
                | .error f => .error f
      else if b = 95 then
        match withContext [.expected (.description "leading digit")] (integer s) with
        | .ok (i, r) => .ok (.integer i (span r), r)
        | .error f => .error f
      else if b = 46 then
        match withContext [.expected (.description "leading digit")] (float s) with
        | .ok (x, r) => .ok (.float x (span r), r)
        | .error f => .error f
      else if b = 116 then
        if [116, 114, 117, 101].isPrefixOf s then .ok (.boolean true (span (s.drop 4)), s.drop 4)
        else .error (.hard stringContexts s)
      else if b = 102 then
        if [102, 97, 108, 115, 101].isPrefixOf s then
          .ok (.boolean false (span (s.drop 5)), s.drop 5)
        else .error (.hard stringContexts s)
      else if b = 105 then
        if [105, 110, 102].isPrefixOf s then .ok (.float (1.0 / 0.0) (span (s.drop 3)), s.drop 3)
        else .error ⟨false, stringContexts, none, s.length⟩
      else if b = 110 then
        if [110, 97, 110].isPrefixOf s then .ok (.float (0.0 / 0.0) (span (s.drop 3)), s.drop 3)
        else .error ⟨false, stringContexts, none, s.length⟩
      else .error ⟨false, stringContexts, none, s.length⟩

/-- An element of an array, with the blank lines around it. -/
def arrayElement (n : Nat) (depth : Nat) : Nat → List UInt8 → Parse Value
  | 0, s => .error (.soft s)
  | fuel + 1, s =>
    match blankLines (s.length + 1) s with
    | .error e => .error e
    | .ok r =>
      match value n depth fuel r with
      | .error e => .error e
      | .ok (v, r2) =>
        match blankLines (r2.length + 1) r2 with
        | .error e => .error e
        | .ok r3 => .ok (v, r3)

/-- The elements after the first, each after a comma; `acc` holds the elements read,
reversed. -/
def arrayRest (n : Nat) (depth : Nat) : Nat → List Value → List UInt8 → Parse (List Value)
  | 0, acc, s => .ok (acc.reverse, s)
  | fuel + 1, acc, s =>
    match s with
    | 44 :: tl =>
      match arrayElement n depth fuel tl with
      | .ok (v, r) => arrayRest n depth fuel (v :: acc) r
      | .error f => if f.committed then .error f else .ok (acc.reverse, s)
    | _ => .ok (acc.reverse, s)

/-- An array, from its bracket. -/
def array (n : Nat) (depth : Nat) : Nat → List UInt8 → Parse Value
  | 0, s => .error (.soft s)
  | fuel + 1, s =>
    if nestingLimit ≤ depth + 1 then .error (.because "recursion limit exceeded" s)
    else
      let s1 := s.drop 1
      let items : Parse (List Value) :=
        match s1 with
        | 93 :: _ => .ok ([], s1)
        | _ =>
          let elements : Parse (List Value) :=
            match arrayElement n (depth + 1) fuel s1 with
            | .ok (v, r) => arrayRest n (depth + 1) fuel [v] r
            | .error f => if f.committed then .error f else .ok ([], s1)
          match elements with
          | .error f => .error f
          | .ok (vs, r) =>
            let r := match vs, r with
              | _ :: _, 44 :: r2 => r2
              | _, _ => r
            match blankLines (r.length + 1) r with
            | .ok r2 => .ok (vs, r2)
            | .error e => .error e
      match commit items with
      | .error f => .error f
      | .ok (vs, r) =>
        match r with
        | 93 :: r2 => .ok (.array vs (spanBetween n s r2), r2)
        | _ => .error (.hard [.label "array", .expected (.char ']')] r)

/-- A key-value pair of an inline table. -/
def inlinePair (n : Nat) (depth : Nat) : Nat → List UInt8 → Parse (List Key × Value)
  | 0, s => .error (.soft s)
  | fuel + 1, s =>
    match key n s with
    | .error f => .error f
    | .ok (keys, r) =>
      match r with
      | 61 :: r2 =>
        match value n depth fuel (skipBlank r2) with
        | .ok (v, r3) => .ok ((keys, v), skipBlank r3)
        | .error f => .error { f with committed := true }
      | _ => .error (.hard [.expected (.char '.'), .expected (.char '=')] r)

/-- The pairs after the first, each after a comma. -/
def inlineRest (n : Nat) (depth : Nat) :
    Nat → List (List Key × Value) → List UInt8 → Parse (List (List Key × Value))
  | 0, acc, s => .ok (acc.reverse, s)
  | fuel + 1, acc, s =>
    match s with
    | 44 :: tl =>
      match inlinePair n depth fuel tl with
      | .ok (p, r) => inlineRest n depth fuel (p :: acc) r
      | .error f => if f.committed then .error f else .ok (acc.reverse, s)
    | _ => .ok (acc.reverse, s)

/-- An inline table, from its brace. -/
def inlineTable (n : Nat) (depth : Nat) : Nat → List UInt8 → Parse Value
  | 0, s => .error (.soft s)
  | fuel + 1, s =>
    if nestingLimit ≤ depth + 1 then .error (.because "recursion limit exceeded" s)
    else
      let s1 := s.drop 1
      let pairs : Parse (List (List Key × Value)) :=
        match inlinePair n (depth + 1) fuel s1 with
        | .ok (p, r) => inlineRest n (depth + 1) fuel [p] r
        | .error f => if f.committed then .error f else .ok ([], s1)
      match pairs with
      | .error f => .error { f with committed := true }
      | .ok (ps, r) =>
        match inlineEntries ps with
        | .error c => .error (.because c.message s1)
        | .ok entries =>
          match skipBlank r with
          | 125 :: r2 => .ok (.table entries (some (spanBetween n s r2)) false false, r2)
          | r2 => .error (.hard [.label "inline table", .expected (.char '}')] r2)

end

/-! ## Lines of a document -/

/-- A table header `[path]` or `[[path]]`, with the rest of its line.  The kind is told by the
first two bytes, so a bracket at the very end is no header at all. -/
def tableHeader (n : Nat) (a : Assembly) (s : List UInt8) : Parse Assembly :=
  let double := [91, 91].isPrefixOf s
  let width := if double then 2 else 1
  let closing : List UInt8 := if double then [93, 93] else [93]
  let closingText := if double then "]]" else "]"
  withContext [.label "table header"] <|
    if s.length < 2 then .error (.soft s) else
    match commit (key n (s.drop width)) with
    | .error f => .error f
    | .ok (path, r) =>
      if closing.isPrefixOf r then
        let r2 := r.drop width
        let span := spanBetween n s r2
        match commit (withContext [.expected (.char '\n'), .expected (.char '#')] (lineTrailing r2)) with
        | .error f => .error f
        | .ok ((), r3) =>
          let opened := if double then a.openArrayTable path span else a.openTable path span
          match opened with
          | .ok a' => .ok (a', r3)
          | .error c => .error ⟨false, [], some c.message, s.length⟩
      else .error (.hard [.expected (.char '.'), .expected (.literal closingText)] r)

/-- A key-value line. -/
def keyValueLine (n : Nat) (a : Assembly) (s : List UInt8) : Parse Assembly :=
  match key n s with
  | .error f => .error f
  | .ok (keys, r) =>
    match r with
    | 61 :: r2 =>
      match value n 0 (4 * (r2.length + 2)) (skipBlank r2) with
      | .error f => .error { f with committed := true }
      | .ok (v, r3) =>
        match lineTrailing r3 with
        | .error f => .error { f with committed := true,
                                      contexts := f.contexts ++ [.expected (.char '\n'), .expected (.char '#')] }
        | .ok ((), r4) =>
          match keys.getLast? with
          | none => .ok (a, r4)
          | some k =>
            match a.addKeyValue keys.dropLast k v with
            | .ok a' => .ok (a', r4)
            | .error c => .error ⟨true, [], some c.message, s.length⟩
    | _ => .error (.hard [.expected (.char '.'), .expected (.char '=')] r)

/-- The lines of a document, each followed by blanks. -/
def lines (n : Nat) : Nat → Assembly → List UInt8 → Except Failure Assembly
  | 0, a, _ => .ok a
  | fuel + 1, a, s =>
    match s with
    | [] => .ok a
    | b :: _ =>
      let line : Parse Assembly :=
        if b = 35 then
          match comment s with
          | .error f => .error f
          | .ok ((), r) =>
            match lineEnding r with
            | .ok ((), r2) => .ok (a, r2)
            | .error f => .error { f with committed := true }
        else if b = 91 then commit (tableHeader n a s)
        else if b = 10 ∨ b = 13 then
          match newline s with
          | .ok ((), r) => .ok (a, r)
          | .error _ => .error (.soft s)
        else commit (keyValueLine n a s)
      match line with
      | .error f => .error f
      | .ok (a', r) => lines n fuel a' (skipBlank r)

/-- Reads a TOML text into its document table. -/
def parseDocument (text : String) : Except Problem Table :=
  let bytes := text.toUTF8.toList
  let n := bytes.length
  let s := if [0xEF, 0xBB, 0xBF].isPrefixOf bytes then bytes.drop 3 else bytes
  match lines n (n + 1) {} (skipBlank s) with
  | .error f => .error (f.toProblem bytes)
  | .ok a =>
    match a.close with
    | .ok t => .ok t
    | .error c => .error ⟨c.message, none⟩

end Gatehouse.Toml
