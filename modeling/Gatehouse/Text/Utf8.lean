/-!
# UTF-8 text of byte strings

Bytes that arrive on a connection are read as text by the substitution rule of the Unicode
standard (section 3.9, "maximal subparts"): a well-formed sequence of one to four bytes becomes
its scalar value, and each maximal subpart of an ill-formed sequence becomes one replacement
character U+FFFD.  A maximal subpart is the longest prefix that could still begin a well-formed
sequence, and never less than one byte; a sequence cut short by the end of the input is one such
subpart.

`scan` reads the bytes once, giving `some c` for a character and `none` for a subpart; the lossy
reading and the strict reading (`decode?`) are two views of that one scan.
-/

namespace Gatehouse.Text.Utf8

/-- The character that stands for an ill-formed subpart. -/
def replacement : Char := '�'

/-- A continuation byte has the bit pattern `10xxxxxx`. -/
def isContinuation (b : UInt8) : Bool :=
  0x80 ≤ b && b ≤ 0xBF

/-- The number of bytes in the sequence that `lead` begins: 1 to 4, or 0 when no well-formed
sequence begins with it (a continuation byte, `C0`, `C1`, or `F5` to `FF`). -/
def sequenceWidth (lead : UInt8) : Nat :=
  if lead < 0x80 then 1
  else if lead < 0xC2 then 0
  else if lead < 0xE0 then 2
  else if lead < 0xF0 then 3
  else if lead < 0xF5 then 4
  else 0

/-- The admissible second bytes after a lead byte of a three- or four-byte sequence
(Table 3-7 of the standard): these bounds exclude overlong forms, surrogates and values past
U+10FFFF. -/
def secondByteFits (lead second : UInt8) : Bool :=
  if lead = 0xE0 then 0xA0 ≤ second && second ≤ 0xBF
  else if lead = 0xED then 0x80 ≤ second && second ≤ 0x9F
  else if lead = 0xF0 then 0x90 ≤ second && second ≤ 0xBF
  else if lead = 0xF4 then 0x80 ≤ second && second ≤ 0x8F
  else isContinuation second

/-- The scalar value of a two-byte sequence. -/
def scalar2 (b0 b1 : UInt8) : Char :=
  Char.ofNat ((b0.toNat % 32) * 64 + b1.toNat % 64)

/-- The scalar value of a three-byte sequence. -/
def scalar3 (b0 b1 b2 : UInt8) : Char :=
  Char.ofNat ((b0.toNat % 16) * 4096 + (b1.toNat % 64) * 64 + b2.toNat % 64)

/-- The scalar value of a four-byte sequence. -/
def scalar4 (b0 b1 b2 b3 : UInt8) : Char :=
  Char.ofNat ((b0.toNat % 8) * 262144 + (b1.toNat % 64) * 4096 + (b2.toNat % 64) * 64
    + b3.toNat % 64)

/-- Reads the bytes as a list of characters (`some`) and ill-formed subparts (`none`). -/
def scan : List UInt8 → List (Option Char)
  | [] => []
  | b0 :: rest =>
    match sequenceWidth b0 with
    | 1 => some (Char.ofNat b0.toNat) :: scan rest
    | 2 =>
      match rest with
      | b1 :: rest1 =>
        if isContinuation b1 then some (scalar2 b0 b1) :: scan rest1
        else none :: scan (b1 :: rest1)
      | [] => [none]
    | 3 =>
      match rest with
      | b1 :: rest1 =>
        if secondByteFits b0 b1 then
          match rest1 with
          | b2 :: rest2 =>
            if isContinuation b2 then some (scalar3 b0 b1 b2) :: scan rest2
            else none :: scan (b2 :: rest2)
          | [] => [none]
        else none :: scan (b1 :: rest1)
      | [] => [none]
    | 4 =>
      match rest with
      | b1 :: rest1 =>
        if secondByteFits b0 b1 then
          match rest1 with
          | b2 :: rest2 =>
            if isContinuation b2 then
              match rest2 with
              | b3 :: rest3 =>
                if isContinuation b3 then some (scalar4 b0 b1 b2 b3) :: scan rest3
                else none :: scan (b3 :: rest3)
              | [] => [none]
            else none :: scan (b2 :: rest2)
          | [] => [none]
        else none :: scan (b1 :: rest1)
      | [] => [none]
    | _ => none :: scan rest
termination_by bytes => bytes.length

/-- The lossy reading: every ill-formed subpart becomes U+FFFD. -/
def decodeLossy (bytes : List UInt8) : String :=
  String.ofList ((scan bytes).map fun piece => piece.getD replacement)

/-- The strict reading: the text when the bytes are well-formed UTF-8, otherwise `none`. -/
def decode? (bytes : List UInt8) : Option String :=
  ((scan bytes).mapM id).map String.ofList

/-- Whether the bytes are well-formed UTF-8. -/
def isWellFormed (bytes : List UInt8) : Bool :=
  (scan bytes).all Option.isSome

/-- The bytes after the well-formed sequence at the start, or `none` when an ill-formed
subpart starts there (or nothing is left). -/
def afterSequence? : List UInt8 → Option (List UInt8)
  | [] => none
  | b0 :: rest =>
    match sequenceWidth b0, rest with
    | 1, _ => some rest
    | 2, b1 :: r1 => if isContinuation b1 then some r1 else none
    | 3, b1 :: b2 :: r2 => if secondByteFits b0 b1 && isContinuation b2 then some r2 else none
    | 4, b1 :: b2 :: b3 :: r3 =>
      if secondByteFits b0 b1 && isContinuation b2 && isContinuation b3 then some r3 else none
    | _, _ => none

theorem afterSequence?_length {s r : List UInt8} (h : afterSequence? s = some r) :
    r.length < s.length := by
  match s with
  | [] => simp [afterSequence?] at h
  | b0 :: rest =>
    simp only [afterSequence?] at h
    split at h <;> (try split at h) <;> simp_all <;> omega

/-- The number of bytes of the longest well-formed prefix. -/
def validPrefixLength (bytes : List UInt8) : Nat :=
  match h : afterSequence? bytes with
  | some rest =>
    have : rest.length < bytes.length := afterSequence?_length h
    (bytes.length - rest.length) + validPrefixLength rest
  | none => 0
termination_by bytes.length

/-- The UTF-8 bytes of a list of characters. -/
def encodeChars (chars : List Char) : List UInt8 :=
  chars.flatMap String.utf8EncodeChar

/-- The UTF-8 bytes of a text. -/
def encode (text : String) : List UInt8 :=
  encodeChars text.toList

@[simp]
theorem scan_nil : scan [] = [] := by
  simp [scan]

@[simp]
theorem encodeChars_nil : encodeChars [] = [] := rfl

@[simp]
theorem encodeChars_append (a b : List Char) :
    encodeChars (a ++ b) = encodeChars a ++ encodeChars b := by
  simp [encodeChars]

end Gatehouse.Text.Utf8
