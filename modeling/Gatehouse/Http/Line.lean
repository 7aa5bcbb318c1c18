import Gatehouse.Text.Utf8
import Gatehouse.Stream.Reader

/-!
# Request lines of a byte stream

A request head is read line by line.  A line is the shortest prefix of the remaining bytes that
ends with LF, when that prefix has at most 8192 bytes; otherwise it is the first 8192 bytes, and
the rest of the long line is read as the next line.  At the end of the stream the last line may
lack its LF; an exhausted stream has no line.  Each line is read as text lossily.

`segment` cuts the stream into these raw lines; `readLine?` is one step of that cut.  A connection
is read line by line through a buffer, by `readFrom?`: it reads up to LF through a limit of 8192
bytes.
-/

namespace Gatehouse.Http.Line

open Gatehouse.Text

/-- The longest line read at once, in bytes. -/
def maxLineBytes : Nat := 8192

/-- The line feed byte. -/
def lf : UInt8 := 10

/-- Splits off the bytes up to and including the first LF among the first `budget` bytes, or the
first `budget` bytes when there is no LF among them. -/
def splitLine : Nat → List UInt8 → List UInt8 × List UInt8
  | 0, bytes => ([], bytes)
  | _ + 1, [] => ([], [])
  | budget + 1, b :: bytes =>
    if b = lf then ([b], bytes)
    else
      let (line, rest) := splitLine budget bytes
      (b :: line, rest)

/-- The raw first line of a non-empty stream and what follows it; `none` when the stream is
exhausted. -/
def take? : List UInt8 → Option (List UInt8 × List UInt8)
  | [] => none
  | bytes => some (splitLine maxLineBytes bytes)

/-- The first line of a stream as text, and what follows it. -/
def readLine? (bytes : List UInt8) : Option (String × List UInt8) :=
  (take? bytes).map fun (line, rest) => (Utf8.decodeLossy line, rest)

theorem splitLine_append : ∀ (budget : Nat) (bytes : List UInt8),
    (splitLine budget bytes).1 ++ (splitLine budget bytes).2 = bytes
  | 0, bytes => rfl
  | _ + 1, [] => rfl
  | budget + 1, b :: bytes => by
    simp only [splitLine]
    split
    · rfl
    · simp [splitLine_append budget bytes]

theorem splitLine_fst_ne_nil {budget : Nat} {b : UInt8} {bytes : List UInt8} :
    (splitLine (budget + 1) (b :: bytes)).1 ≠ [] := by
  simp only [splitLine]
  split <;> simp

theorem take?_rest_length {bytes line rest : List UInt8} (h : take? bytes = some (line, rest)) :
    rest.length < bytes.length := by
  match bytes, h with
  | b :: tail, h =>
    simp only [take?, Option.some.injEq] at h
    have hsum := splitLine_append maxLineBytes (b :: tail)
    have hne : (splitLine maxLineBytes (b :: tail)).1 ≠ [] := splitLine_fst_ne_nil
    rw [h] at hsum hne
    have := congrArg List.length hsum
    simp only [List.length_append] at this
    have : 0 < line.length := List.length_pos_iff.mpr hne
    omega

theorem readLine?_rest_length {bytes : List UInt8} {line : String} {rest : List UInt8}
    (h : readLine? bytes = some (line, rest)) : rest.length < bytes.length := by
  unfold readLine? at h
  match ht : take? bytes, h with
  | some (l, r), h =>
    simp only [Option.map_some, Option.some.injEq, Prod.mk.injEq] at h
    rw [← h.2]
    exact take?_rest_length ht

/-- Reads a line from a buffered reader: the bytes up to and including the first LF, at most 8192
of them, read as text; `none` when the reader is exhausted. -/
def readFrom? (reader : Stream.Reader) : Option (String × Stream.Reader) :=
  let read := (Stream.Limited.mk maxLineBytes reader).readUntil lf
  if read.1.isEmpty then none else some (Utf8.decodeLossy read.1, read.2.inner)

/-- The stream cut into its raw lines, in order. -/
def segment (bytes : List UInt8) : List (List UInt8) :=
  match h : take? bytes with
  | none => []
  | some (line, rest) =>
    have : rest.length < bytes.length := take?_rest_length h
    line :: segment rest
termination_by bytes.length

/-- Reads at most `limit` lines as text; gives them with the bytes left unread. -/
def readLines (limit : Nat) (bytes : List UInt8) : List String × List UInt8 :=
  match limit with
  | 0 => ([], bytes)
  | limit + 1 =>
    match readLine? bytes with
    | none => ([], bytes)
    | some (line, rest) =>
      let (lines, left) := readLines limit rest
      (line :: lines, left)

end Gatehouse.Http.Line
