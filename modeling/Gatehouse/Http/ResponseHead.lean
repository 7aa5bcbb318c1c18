import Gatehouse.Http.Header
import Gatehouse.Http.Method
import Gatehouse.Text.Numeral
import Gatehouse.Text.Utf8

/-!
# Response heads

A client reads the head of a response: a status line `version code reason`, split at its first
two spaces, then header lines up to the first empty line.  Here a line ends at each LF, one CR
before it is dropped, and lines are read as text lossily; lines that are not headers are
skipped.  The head is *valid* when the version is recognised and the code lies in 100..510.
Reading also tells where the body starts.
-/

namespace Gatehouse.Http

open Gatehouse.Text

/-- The head of a response as a client reads it. -/
structure ResponseHead where
  version : Option Version
  status : Nat
  reason : String
  headers : List Header := []
  deriving DecidableEq, Repr

namespace ResponseHead

/-- Whether the version is recognised and the code lies in 100..510. -/
def valid (h : ResponseHead) : Bool :=
  h.version.isSome && 100 ≤ h.status && h.status ≤ 510

/-- The characters of a status line cut at its first two spaces. -/
def splitStatusLine (cs : List Char) : List Char × Option (List Char) × Option (List Char) :=
  match cs.span (· != ' ') with
  | (first, []) => (first, none, none)
  | (first, _ :: rest) =>
    match rest.span (· != ' ') with
    | (second, []) => (first, some second, none)
    | (second, _ :: third) => (first, some second, some third)

/-- Reads a status line. -/
def ofStatusLine (line : String) : ResponseHead :=
  let (first, second, third) := splitStatusLine (dropLineEnd line.toList)
  { version := Version.ofText? (String.ofList first)
    status :=
      match second with
      | some s =>
        match Numeral.readU16 (String.ofList s) with
        | .ok n => n
        | .error _ => 0
      | none => 0
    reason := String.ofList (third.getD []) }

/-- Splits off the bytes before the first LF and the bytes after it. -/
def splitAtLf : List UInt8 → List UInt8 × List UInt8
  | [] => ([], [])
  | b :: bytes =>
    if b = 10 then ([], bytes)
    else
      let (line, rest) := splitAtLf bytes
      (b :: line, rest)

/-- The bytes of a line without one CR at its end. -/
def dropCr (line : List UInt8) : List UInt8 :=
  match line.getLast? with
  | some 13 => line.dropLast
  | _ => line

/-- The first line of a non-empty stream as text, and the bytes after it. -/
def nextLine? : List UInt8 → Option (String × List UInt8)
  | [] => none
  | bytes =>
    let (line, rest) := splitAtLf bytes
    some (Utf8.decodeLossy (dropCr line), rest)

theorem splitAtLf_rest_length : ∀ (bytes : List UInt8),
    (splitAtLf bytes).2.length < bytes.length + 1
  | [] => by simp [splitAtLf]
  | b :: bytes => by
    simp only [splitAtLf]
    split
    · simp only [List.length_cons]
      omega
    · have := splitAtLf_rest_length bytes
      simp only [List.length_cons]
      omega

theorem nextLine?_rest_length {bytes : List UInt8} {line : String} {rest : List UInt8}
    (h : nextLine? bytes = some (line, rest)) : rest.length < bytes.length := by
  match bytes, h with
  | b :: tail, h =>
    simp only [nextLine?, Option.some.injEq, Prod.mk.injEq] at h
    rw [← h.2]
    simp only [splitAtLf]
    split
    · simp
    · have := splitAtLf_rest_length tail
      simp only [List.length_cons]
      omega

/-- Reads header lines up to the first empty line; gives the headers and the bytes after. -/
def readHeaders (headers : List Header) (bytes : List UInt8) : List Header × List UInt8 :=
  match h : nextLine? bytes with
  | none => (headers, bytes)
  | some (line, rest) =>
    have : rest.length < bytes.length := nextLine?_rest_length h
    if line.isEmpty then (headers, rest)
    else
      match Header.parse? line with
      | none => readHeaders headers rest
      | some hd => readHeaders (headers ++ [hd]) rest
termination_by bytes.length

/-- Reads a response head; gives it with the offset where the body starts. -/
def parse (raw : List UInt8) : ResponseHead × Nat :=
  match nextLine? raw with
  | none => (ofStatusLine "", 0)
  | some (line, rest) =>
    let (headers, left) := readHeaders [] rest
    ({ ofStatusLine line with headers := headers }, raw.length - left.length)

/-- The value of the first header with this key. -/
def header? (h : ResponseHead) (key : String) : Option String :=
  (h.headers.find? (·.key == key)).map (·.value)

/-- The printed head: the status line as read, every header but `Keep-Alive`, an empty line. -/
def text (h : ResponseHead) : String :=
  Version.textOf h.version ++ " " ++ toString h.status ++ " " ++ h.reason ++ "\r\n"
    ++ String.join ((h.headers.filter (·.key != "Keep-Alive")).map Header.line) ++ "\r\n"

/-- The bytes of the printed head. -/
def toBytes (h : ResponseHead) : List UInt8 :=
  Utf8.encode h.text

end ResponseHead

end Gatehouse.Http
