import Gatehouse.Toml.Syntax
import Gatehouse.Text.Quoted
import Gatehouse.Text.Utf8

/-!
# Problems in TOML text

A reader that fails says what it was reading (a label such as `table header`), what it would
have accepted there, and possibly why (a cause such as `value is out of range`).  The failure
is *committed* once the text can no longer be read another way; otherwise a caller may try the
next reading.  Its place is the number of bytes still unread where reading stopped.

A problem is shown the way a reader of the file wants it: the line and column (in characters)
where it starts, the line itself with carets under the span, and the message.
-/

namespace Gatehouse.Toml

open Gatehouse.Text

/-- Something a reader would have accepted. -/
inductive Expected where
  | char (c : Char)
  | literal (s : String)
  | description (s : String)
  deriving DecidableEq, Repr

/-- How an expectation is named: characters and literals in backquotes, a line feed as
`newline`. -/
def Expected.describe : Expected → String
  | .char c =>
    if c = '\n' then "newline"
    else if c = '`' then "'`'"
    else if c.toNat < 32 then "`" ++ (Quoted.escapeChar c) ++ "`"
    else "`" ++ c.toString ++ "`"
  | .literal s => "`" ++ s ++ "`"
  | .description s => s

/-- One piece of what a failure says. -/
inductive Context where
  | label (s : String)
  | expected (e : Expected)
  deriving DecidableEq, Repr

/-- A failed reading: whether it is committed, what it says (innermost first), its cause, and
the bytes unread where it stopped. -/
structure Failure where
  committed : Bool
  contexts : List Context
  cause : Option String
  remaining : Nat
  deriving DecidableEq, Repr

/-- The outcome of a reader: a value and the unread rest, or a failure. -/
abbrev Parse (α : Type) := Except Failure (α × List UInt8)

namespace Failure

/-- A failure that allows another reading, at the point where `rest` is unread. -/
def soft (rest : List UInt8) : Failure := ⟨false, [], none, rest.length⟩

/-- A committed failure with these contexts at the point where `rest` is unread. -/
def hard (contexts : List Context) (rest : List UInt8) : Failure :=
  ⟨true, contexts, none, rest.length⟩

/-- A committed failure with a cause at the point where `rest` is unread. -/
def because (cause : String) (rest : List UInt8) : Failure :=
  ⟨true, [], some cause, rest.length⟩

/-- The message: `invalid` and the first label, then what was expected, then the cause, one
per line. -/
def message (f : Failure) : String :=
  let label := f.contexts.findSome? fun
    | .label s => some s
    | _ => none
  let expected := f.contexts.filterMap fun
    | .expected e => some e.describe
    | _ => none
  let parts := (label.map ("invalid " ++ ·)).toList
    ++ (if expected.isEmpty then [] else ["expected " ++ ", ".intercalate expected])
    ++ f.cause.toList
  "\n".intercalate parts

end Failure

/-- Adds contexts to a failure of `r`. -/
def withContext {α : Type} (cs : List Context) (r : Except Failure α) : Except Failure α :=
  match r with
  | .error f => .error { f with contexts := f.contexts ++ cs }
  | .ok a => .ok a

/-- Commits a failure of `r`. -/
def commit {α : Type} (r : Except Failure α) : Except Failure α :=
  match r with
  | .error f => .error { f with committed := true }
  | .ok a => .ok a

/-- A problem found in a TOML text: its message and, when known, the span it is about. -/
structure Problem where
  message : String
  span : Option Span
  deriving DecidableEq, Repr

/-- The offset where the character holding the byte at `index` starts: a reading may stop
inside a character, and a span always starts at a character boundary. -/
def charStart (bytes : List UInt8) (index : Nat) : Nat :=
  if bytes.length ≤ index then index
  else index - ((bytes.take (index + 1)).reverse.takeWhile Utf8.isContinuation).length

/-- The number of bytes of the character that starts at `start`, or zero at the end. -/
def charWidth (bytes : List UInt8) (start : Nat) : Nat :=
  if bytes.length ≤ start then 0
  else 1 + ((bytes.drop (start + 1)).takeWhile Utf8.isContinuation).length

/-- The problem of a failed reading of the text `bytes`: a span over the character where
reading stopped, or an empty one at the end. -/
def Failure.toProblem (f : Failure) (bytes : List UInt8) : Problem :=
  let offset := charStart bytes (bytes.length - f.remaining)
  ⟨f.message, some ⟨offset, offset + charWidth bytes offset⟩⟩

/-- The line (from 0) and column (in characters, from 0) of a byte offset.  An offset inside
a character counts bytes from the start of its line instead; an offset past the end counts on
from the last byte. -/
def lineAndColumn (bytes : List UInt8) (index : Nat) : Nat × Nat :=
  if bytes.isEmpty then (0, index)
  else
    let safe := min index (bytes.length - 1)
    let beyond := index - safe
    let before := bytes.take safe
    let lineStart := safe - (before.reverse.takeWhile (· != 10)).length
    let line := (bytes.take lineStart).count 10
    let column :=
      match Utf8.decode? ((bytes.take (safe + 1)).drop lineStart) with
      | some s => s.length - 1
      | none => safe - lineStart
    (line, column + beyond)

/-- `n` copies of a character. -/
def repeatChar (c : Char) (n : Nat) : String :=
  String.ofList (List.replicate n c)

/-- A problem as shown to a reader of `source`: where, the line with carets under the span,
and the message, each ending with a line feed. -/
def Problem.render (p : Problem) (source : String) : String :=
  match p.span with
  | none => p.message ++ "\n"
  | some span =>
    let bytes := source.toUTF8.toList
    let (line, column) := lineAndColumn bytes span.start
    let lineNumber := toString (line + 1)
    let gutter := lineNumber.length
    let content := (source.splitOn "\n").getD line ""
    let width := min (span.stop - span.start) (content.utf8ByteSize - column)
    "TOML parse error at line " ++ lineNumber ++ ", column " ++ toString (column + 1) ++ "\n"
      ++ repeatChar ' ' (gutter + 1) ++ "|\n"
      ++ lineNumber ++ " | " ++ content ++ "\n"
      ++ repeatChar ' ' (gutter + 1) ++ "|" ++ repeatChar ' ' (column + 1) ++ "^"
      ++ repeatChar '^' (width - 1) ++ "\n"
      ++ p.message ++ "\n"

end Gatehouse.Toml
