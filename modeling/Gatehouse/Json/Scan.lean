import Gatehouse.Json.Problem
import Gatehouse.Decimal.Binary64
import Gatehouse.Text.Utf8

/-!
# Reading JSON tokens

Readers over the unread bytes of a JSON text.  Each takes the bytes at its start and returns
what it read with the bytes after it, or a `Failure` placed at the byte where reading stopped.

* Blanks are space, tab, line feed and carriage return.
* A string runs to the next unescaped quote; a control character inside it is refused, and an
  escape is one of `\" \\ \/ \b \f \n \r \t` or `\u` with four hex digits, a high surrogate
  needing a low one right after it.  A string that is kept must be valid UTF-8.
* A number is an optional minus, an integer part without leading zeros, an optional fraction
  and an optional exponent.  Its value is a whole number while it has no fraction or exponent
  and fits 64 bits (a negative one down to `-2^63`); otherwise it is the double computed by
  scaling the leading digits by a power of ten, `-0` included.
* `skipValue` passes over one value of any shape with a stack of the open brackets.
-/

namespace Gatehouse.Json

open Gatehouse.Decimal
open Gatehouse.Text

/-- Whether a byte is a blank between tokens. -/
def isBlank (b : UInt8) : Bool :=
  b == 32 || b == 10 || b == 9 || b == 13

/-- The bytes after the blanks at the start. -/
def skipBlank (s : List UInt8) : List UInt8 :=
  s.dropWhile isBlank

/-- Whether a byte is an ASCII digit. -/
def isDigit (b : UInt8) : Bool :=
  48 ≤ b && b ≤ 57

/-- The value of an ASCII digit. -/
def digitOf (b : UInt8) : Nat :=
  b.toNat - 48

/-- Reads the rest of a word such as `null` after its first letter. -/
def readWord : List UInt8 → List UInt8 → Except Failure (List UInt8)
  | [], s => .ok s
  | _ :: _, [] => .error (.here .eofWhileParsingValue [])
  | w :: ws, b :: tl => if b = w then readWord ws tl else .error (.here .expectedSomeIdent tl)

/-! ## Strings -/

/-- The value of a hex digit. -/
def hexValue? (b : UInt8) : Option Nat :=
  if isDigit b then some (digitOf b)
  else if 97 ≤ b && b ≤ 102 then some (b.toNat - 87)
  else if 65 ≤ b && b ≤ 70 then some (b.toNat - 55)
  else none

/-- Reads four hex digits; the four bytes are passed over even when one is not a digit. -/
def readHex4 : List UInt8 → Except Failure (Nat × List UInt8)
  | a :: b :: c :: d :: tl =>
    match hexValue? a, hexValue? b, hexValue? c, hexValue? d with
    | some w, some x, some y, some z => .ok (((w * 16 + x) * 16 + y) * 16 + z, tl)
    | _, _, _, _ => .error (.here .invalidEscape tl)
  | _ => .error (.here .eofWhileParsingString [])

/-- The UTF-8 bytes of a code point that is not a surrogate. -/
def codePointBytes (n : Nat) : List UInt8 :=
  String.utf8EncodeChar (Char.ofNat n)

/-- Reads the low surrogate escape that must follow a high one, `\u` and four hex digits. -/
def readLowSurrogate (high : Nat) : List UInt8 → Except Failure (List UInt8 × List UInt8)
  | [] => .error (.here .eofWhileParsingString [])
  | b :: r2 =>
    if b ≠ 92 then .error (.here .unexpectedEndOfHexEscape r2)
    else
      match r2 with
      | [] => .error (.here .eofWhileParsingString [])
      | c :: r3 =>
        if c ≠ 117 then .error (.here .unexpectedEndOfHexEscape r3)
        else
          match readHex4 r3 with
          | .error e => .error e
          | .ok (low, r4) =>
            if low < 0xDC00 ∨ 0xDFFF < low then .error (.here .loneLeadingSurrogateInHexEscape r4)
            else .ok (codePointBytes ((high - 0xD800) * 1024 + (low - 0xDC00) + 0x10000), r4)

/-- Reads the escape `\u` after its `u`: a code point, or a surrogate pair. -/
def readUnicodeEscape (s : List UInt8) : Except Failure (List UInt8 × List UInt8) :=
  match readHex4 s with
  | .error e => .error e
  | .ok (n, r) =>
    if 0xDC00 ≤ n ∧ n ≤ 0xDFFF then .error (.here .loneLeadingSurrogateInHexEscape r)
    else if n < 0xD800 ∨ 0xDBFF < n then .ok (codePointBytes n, r)
    else readLowSurrogate n r

/-- The byte a one-letter escape stands for. -/
def shortEscape? (b : UInt8) : Option UInt8 :=
  if b = 34 then some 34
  else if b = 92 then some 92
  else if b = 47 then some 47
  else if b = 98 then some 8
  else if b = 102 then some 12
  else if b = 110 then some 10
  else if b = 114 then some 13
  else if b = 116 then some 9
  else none

/-- Reads an escape after its backslash: the bytes it stands for. -/
def readEscape : List UInt8 → Except Failure (List UInt8 × List UInt8)
  | [] => .error (.here .eofWhileParsingString [])
  | b :: tl =>
    match shortEscape? b with
    | some c => .ok ([c], tl)
    | none => if b = 117 then readUnicodeEscape tl else .error (.here .invalidEscape tl)

theorem readHex4_rest_length {s r : List UInt8} {n : Nat} (h : readHex4 s = .ok (n, r)) :
    r.length + 4 ≤ s.length := by
  match s with
  | a :: b :: c :: d :: tl =>
    simp only [readHex4] at h
    split at h
    · cases h; simp
    · cases h
  | [] => simp [readHex4] at h
  | [_] => simp [readHex4] at h
  | [_, _] => simp [readHex4] at h
  | [_, _, _] => simp [readHex4] at h

theorem readLowSurrogate_rest_length {high : Nat} {s r out : List UInt8}
    (h : readLowSurrogate high s = .ok (out, r)) : r.length < s.length := by
  cases s with
  | nil => simp [readLowSurrogate] at h
  | cons b r2 =>
    simp only [readLowSurrogate] at h
    split at h
    · cases h
    · cases r2 with
      | nil => simp at h
      | cons c r3 =>
        simp only at h
        split at h
        · cases h
        · split at h
          · cases h
          · rename_i low r4 h4
            have := readHex4_rest_length h4
            split at h
            · cases h
            · simp only [Except.ok.injEq, Prod.mk.injEq] at h
              obtain ⟨-, rfl⟩ := h
              simp; omega

theorem readUnicodeEscape_rest_length {s r out : List UInt8}
    (h : readUnicodeEscape s = .ok (out, r)) : r.length < s.length := by
  unfold readUnicodeEscape at h
  split at h
  · cases h
  · rename_i n r1 h1
    have l1 := readHex4_rest_length h1
    split at h
    · cases h
    · split at h
      · simp only [Except.ok.injEq, Prod.mk.injEq] at h
        obtain ⟨-, rfl⟩ := h
        omega
      · have := readLowSurrogate_rest_length h; omega

theorem readEscape_rest_length {s r out : List UInt8} (h : readEscape s = .ok (out, r)) :
    r.length < s.length := by
  match s with
  | [] => simp [readEscape] at h
  | b :: tl =>
    simp only [readEscape] at h
    split at h
    · cases h; simp
    · split at h
      · have := readUnicodeEscape_rest_length h; simp; omega
      · cases h

/-- Reads the body of a string after its opening quote: the bytes it stands for (in reverse
order, after `acc`) and the bytes after the closing quote. -/
def readStringBody (acc : List UInt8) : List UInt8 → Except Failure (List UInt8 × List UInt8)
  | [] => .error (.here .eofWhileParsingString [])
  | b :: tl =>
    if b = 34 then .ok (acc.reverse, tl)
    else if b = 92 then
      match h : readEscape tl with
      | .ok (out, rest) =>
        have : rest.length < tl.length + 1 := by have := readEscape_rest_length h; omega
        readStringBody (out.reverse ++ acc) rest
      | .error e => .error e
    else if b < 32 then .error (.here .controlCharacterWhileParsingString tl)
    else readStringBody (b :: acc) tl
termination_by s => s.length

/-- Passes over an escape after its backslash, checking only its form. -/
def skipEscape : List UInt8 → Except Failure (List UInt8)
  | [] => .error (.here .eofWhileParsingString [])
  | b :: tl =>
    if b = 34 ∨ b = 92 ∨ b = 47 ∨ b = 98 ∨ b = 102 ∨ b = 110 ∨ b = 114 ∨ b = 116 then .ok tl
    else if b = 117 then
      match readHex4 tl with
      | .ok (_, r) => .ok r
      | .error e => .error e
    else .error (.here .invalidEscape tl)

theorem skipEscape_rest_length {s r : List UInt8} (h : skipEscape s = .ok r) :
    r.length < s.length := by
  match s with
  | [] => simp [skipEscape] at h
  | b :: tl =>
    simp only [skipEscape] at h
    split at h
    · cases h; simp
    · split at h
      · split at h
        · rename_i n r1 h1
          cases h
          have := readHex4_rest_length h1
          simp; omega
        · cases h
      · cases h

/-- Reads a string after its opening quote, as text.  The bytes it stands for must be valid
UTF-8, which is checked once the closing quote is read: the failure is placed as many bytes
before the end of the string as the text has from its first ill-formed sequence on.  Without
escapes after that sequence this is just past its first byte. -/
def readString (s : List UInt8) : Except Failure (String × List UInt8) :=
  match readStringBody [] s with
  | .error e => .error e
  | .ok (bytes, rest) =>
    match Utf8.decode? bytes with
    | some text => .ok (text, rest)
    | none =>
      .error ⟨.invalidUnicodeCodePoint,
        some (rest.length + (bytes.length - Utf8.validPrefixLength bytes))⟩

/-- Passes over the body of a string after its opening quote, without decoding it; a control
character is refused at its own place. -/
def skipStringBody : List UInt8 → Except Failure (List UInt8)
  | [] => .error (.here .eofWhileParsingString [])
  | b :: tl =>
    if b = 34 then .ok tl
    else if b = 92 then
      match h : skipEscape tl with
      | .ok rest =>
        have : rest.length < tl.length + 1 := by have := skipEscape_rest_length h; omega
        skipStringBody rest
      | .error e => .error e
    else if b < 32 then .error (.here .controlCharacterWhileParsingString (b :: tl))
    else skipStringBody tl
termination_by s => s.length

/-! ## Numbers -/

/-- A number as read: a whole number that fits 64 bits, or a double. -/
inductive Number where
  | unsigned (n : Nat)
  | negative (n : Int)
  | float (f : Float)

/-- The greatest 64-bit unsigned number. -/
def maxU64 : Nat := Nat.pow 2 64 - 1

/-- The greatest 32-bit signed number. -/
def maxI32 : Nat := Nat.pow 2 31 - 1

/-- The double `significand · 10^exponent`, scaling by the double nearest each power of ten;
a result beyond the finite doubles is out of range.  Powers beyond `10^308` are taken in steps
of `10^308`, and a 64-bit significand vanishes within three of them. -/
def scaleByPowerOfTen (positive : Bool) (significand : Nat) (exponent : Int) (rest : List UInt8) :
    Except Failure Float :=
  let rec go (fuel : Nat) (f : Float) (e : Int) : Except Failure Float :=
    match fuel with
    | 0 => .ok f
    | fuel + 1 =>
      if e.natAbs ≤ 308 then
        if 0 ≤ e then
          let g := f * ofDecimal false 1 e
          if g.isInf then .error (.here .numberOutOfRange rest) else .ok g
        else .ok (f / ofDecimal false 1 (-e))
      else if f == 0 then .ok f
      else if 0 ≤ e then .error (.here .numberOutOfRange rest)
      else go fuel (f / ofDecimal false 1 308) (e + 308)
  match go 8 (ofDecimal false significand 0) exponent with
  | .ok f => .ok (if positive then f else -f)
  | .error e => .error e

/-- The digits at the start of a list and the rest. -/
def spanDigits (s : List UInt8) : List UInt8 × List UInt8 :=
  (s.takeWhile isDigit, s.dropWhile isDigit)

/-- The exponent's digits after its sign: the value, or `none` once it passes `2^31 - 1`. -/
def exponentDigits (acc : Nat) : List UInt8 → Option Nat × List UInt8
  | [] => (some acc, [])
  | b :: tl =>
    if isDigit b then
      if acc * 10 + digitOf b > maxI32 then (none, tl)
      else exponentDigits (acc * 10 + digitOf b) tl
    else (some acc, b :: tl)

/-- Reads an exponent from its `e`, and scales. -/
def readExponent (positive : Bool) (significand : Nat) (start : Int) (s : List UInt8) :
    Except Failure (Float × List UInt8) :=
  let s := s.drop 1
  let (positiveExponent, s) := match s with
    | 43 :: tl => (true, tl)
    | 45 :: tl => (false, tl)
    | _ => (true, s)
  match s with
  | [] => .error (.here .eofWhileParsingValue [])
  | b :: tl =>
    if !isDigit b then .error (.here .invalidNumber tl)
    else
      match exponentDigits (digitOf b) tl with
      | (none, rest) =>
        if significand ≠ 0 ∧ positiveExponent then .error (.here .numberOutOfRange rest)
        else
          let rest := rest.dropWhile isDigit
          .ok ((if positive then 0.0 else -0.0), rest)
      | (some e, rest) =>
        let e : Int := if positiveExponent then start + e else start - e
        let e := max (-((Nat.pow 2 31 : Nat) : Int)) (min ((Nat.pow 2 31 : Nat) - 1 : Int) e)
        match scaleByPowerOfTen positive significand e rest with
        | .ok f => .ok (f, rest)
        | .error err => .error err

/-- After the digits kept in the significand: an exponent, or the end of the number. -/
def finishFloat (positive : Bool) (significand : Nat) (exponent : Int) (s : List UInt8) :
    Except Failure (Float × List UInt8) :=
  match s with
  | b :: _ =>
    if b = 101 ∨ b = 69 then readExponent positive significand exponent s
    else
      match scaleByPowerOfTen positive significand exponent s with
      | .ok f => .ok (f, s)
      | .error e => .error e
  | [] =>
    match scaleByPowerOfTen positive significand exponent s with
    | .ok f => .ok (f, s)
    | .error e => .error e

/-- The fraction's digits: kept in the significand while it fits 64 bits, each lowering the
exponent; the digit that would overflow and all after it are dropped. -/
def fractionDigits (significand : Nat) (count : Nat) : List UInt8 → Nat × Nat × List UInt8
  | [] => (significand, count, [])
  | b :: tl =>
    if isDigit b then
      if significand * 10 + digitOf b > maxU64 then (significand, count, tl.dropWhile isDigit)
      else fractionDigits (significand * 10 + digitOf b) (count + 1) tl
    else (significand, count, b :: tl)

/-- Reads a fraction from its point; at least one digit must follow the point. -/
def readFraction (positive : Bool) (significand : Nat) (exponent : Int) (s : List UInt8) :
    Except Failure (Float × List UInt8) :=
  let s := s.drop 1
  match s with
  | b :: _ =>
    if !isDigit b then .error (.ahead .invalidNumber s)
    else
      let (sig, count, rest) := fractionDigits significand 0 s
      finishFloat positive sig (exponent - count) rest
  | [] => .error (.ahead .eofWhileParsingValue s)

/-- After the integer part: a fraction, an exponent, or a whole number. -/
def finishNumber (positive : Bool) (significand : Nat) (s : List UInt8) :
    Except Failure (Number × List UInt8) :=
  let asFloat (r : Except Failure (Float × List UInt8)) : Except Failure (Number × List UInt8) :=
    match r with
    | .ok (f, rest) => .ok (.float f, rest)
    | .error e => .error e
  match s with
  | 46 :: _ => asFloat (readFraction positive significand 0 s)
  | 101 :: _ => asFloat (readExponent positive significand 0 s)
  | 69 :: _ => asFloat (readExponent positive significand 0 s)
  | _ =>
    if positive then .ok (.unsigned significand, s)
    else if significand = 0 then .ok (.float (-0.0), s)
    else if significand ≤ Nat.pow 2 63 then .ok (.negative (-(significand : Int)), s)
    else .ok (.float (-(ofDecimal false significand 0)), s)

/-- Integer digits after the significand has filled 64 bits: each raises the exponent. -/
def longInteger (positive : Bool) (significand : Nat) (s : List UInt8) :
    Except Failure (Number × List UInt8) :=
  let (more, rest) := spanDigits s
  let r := match rest with
    | 46 :: _ => readFraction positive significand more.length rest
    | 101 :: _ => readExponent positive significand more.length rest
    | 69 :: _ => readExponent positive significand more.length rest
    | _ =>
      match scaleByPowerOfTen positive significand more.length rest with
      | .ok f => .ok (f, rest)
      | .error e => .error e
  match r with
  | .ok (f, rest) => .ok (.float f, rest)
  | .error e => .error e

/-- The integer digits after the first. -/
def integerDigits (positive : Bool) (significand : Nat) : List UInt8 →
    Except Failure (Number × List UInt8)
  | [] => finishNumber positive significand []
  | b :: tl =>
    if isDigit b then
      if significand * 10 + digitOf b > maxU64 then longInteger positive significand (b :: tl)
      else integerDigits positive (significand * 10 + digitOf b) tl
    else finishNumber positive significand (b :: tl)

/-- Reads a number after its sign. -/
def readNumber (positive : Bool) : List UInt8 → Except Failure (Number × List UInt8)
  | [] => .error (.here .eofWhileParsingValue [])
  | b :: tl =>
    if b = 48 then
      match tl with
      | c :: _ => if isDigit c then .error (.ahead .invalidNumber tl) else finishNumber positive 0 tl
      | [] => finishNumber positive 0 tl
    else if isDigit b then integerDigits positive (digitOf b) tl
    else .error (.here .invalidNumber tl)

/-- Passes over an exponent from its `e`. -/
def skipExponent (s : List UInt8) : Except Failure (List UInt8) :=
  let s := s.drop 1
  let s := match s with
    | 43 :: tl => tl
    | 45 :: tl => tl
    | _ => s
  match s with
  | b :: tl => if isDigit b then .ok (tl.dropWhile isDigit) else .error (.here .invalidNumber tl)
  | [] => .error (.here .invalidNumber [])

/-- Passes over what may follow an integer part: a fraction, an exponent. -/
def skipNumberTail (s : List UInt8) : Except Failure (List UInt8) :=
  match s with
  | 46 :: tl =>
    match tl with
    | b :: _ =>
      if isDigit b then
        let rest := tl.dropWhile isDigit
        match rest with
        | 101 :: _ => skipExponent rest
        | 69 :: _ => skipExponent rest
        | _ => .ok rest
      else .error (.ahead .invalidNumber tl)
    | [] => .error (.ahead .invalidNumber tl)
  | 101 :: _ => skipExponent s
  | 69 :: _ => skipExponent s
  | _ => .ok s

/-- Passes over a number after its sign. -/
def skipNumber : List UInt8 → Except Failure (List UInt8)
  | [] => .error (.here .invalidNumber [])
  | b :: tl =>
    if b = 48 then
      match tl with
      | c :: _ => if isDigit c then .error (.ahead .invalidNumber tl) else skipNumberTail tl
      | [] => .ok []
    else if isDigit b then skipNumberTail (tl.dropWhile isDigit)
    else .error (.here .invalidNumber tl)

/-! ## Passing over a value -/

/-- Where `skipValue` stands. -/
inductive SkipPoint where
  /-- A value starts here. -/
  | value
  /-- A value or an opening bracket was just read; `comma` when a comma may follow. -/
  | after (comma : Bool)
  /-- An element of the innermost open bracket starts here (for an object, its key). -/
  | element
  deriving DecidableEq, Repr

/-- Passes over one value.  `open_` holds the open brackets, innermost first.  Every three
steps read at least one byte, so `3 · (length + 1)` steps are enough. -/
def skipLoop (fuel : Nat) (point : SkipPoint) (open_ : List UInt8) (s : List UInt8) :
    Except Failure (List UInt8) :=
  match fuel with
  | 0 => .error (.here .eofWhileParsingValue s)
  | fuel + 1 =>
    let afterScalar (r : Except Failure (List UInt8)) : Except Failure (List UInt8) :=
      match r with
      | .error e => .error e
      | .ok rest => if open_.isEmpty then .ok rest else skipLoop fuel (.after true) open_ rest
    match point with
    | .value =>
      let s := skipBlank s
      match s with
      | [] => .error (.ahead .eofWhileParsingValue s)
      | b :: tl =>
        if b = 110 then afterScalar (readWord [117, 108, 108] tl)
        else if b = 116 then afterScalar (readWord [114, 117, 101] tl)
        else if b = 102 then afterScalar (readWord [97, 108, 115, 101] tl)
        else if b = 45 then afterScalar (skipNumber tl)
        else if isDigit b then afterScalar (skipNumber s)
        else if b = 34 then afterScalar (skipStringBody tl)
        else if b = 91 ∨ b = 123 then skipLoop fuel (.after false) (b :: open_) tl
        else .error (.ahead .expectedSomeValue s)
    | .after comma =>
      match open_ with
      | [] => .ok s
      | frame :: outer =>
        let s := skipBlank s
        match s with
        | [] =>
          .error (.ahead (if frame = 91 then .eofWhileParsingList else .eofWhileParsingObject) s)
        | b :: tl =>
          if b = 44 ∧ comma then skipLoop fuel .element open_ tl
          else if (b = 93 ∧ frame = 91) ∨ (b = 125 ∧ frame = 123) then
            if outer.isEmpty then .ok tl else skipLoop fuel (.after true) outer tl
          else if comma then
            .error (.ahead
              (if frame = 91 then .expectedListCommaOrEnd else .expectedObjectCommaOrEnd) s)
          else skipLoop fuel .element open_ s
    | .element =>
      match open_ with
      | 123 :: _ =>
        let s := skipBlank s
        match s with
        | [] => .error (.ahead .eofWhileParsingObject s)
        | b :: tl =>
          if b ≠ 34 then .error (.ahead .keyMustBeAString s)
          else
            match skipStringBody tl with
            | .error e => .error e
            | .ok rest =>
              let rest := skipBlank rest
              match rest with
              | [] => .error (.ahead .eofWhileParsingObject rest)
              | c :: tl2 =>
                if c = 58 then skipLoop fuel .value open_ tl2
                else .error (.ahead .expectedColon rest)
      | _ => skipLoop fuel .value open_ s

/-- Passes over one value of any shape. -/
def skipValue (s : List UInt8) : Except Failure (List UInt8) :=
  skipLoop (3 * (s.length + 1)) .value [] s

end Gatehouse.Json
