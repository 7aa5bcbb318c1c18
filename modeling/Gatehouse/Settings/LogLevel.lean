import Gatehouse.Settings.Error
import Gatehouse.Text.Blank

/-!
# Log levels

The verbosity the server logs at, from `off` to `trace`.  A level is named by its word in any
mix of ASCII case, with blanks around it allowed.
-/

namespace Gatehouse.Settings

open Gatehouse.Text

/-- How much the server logs. -/
inductive LogLevel where
  | off
  | error
  | warn
  | info
  | debug
  | trace
  deriving DecidableEq, Repr

namespace LogLevel

/-- All levels, from the quietest. -/
def all : List LogLevel := [.off, .error, .warn, .info, .debug, .trace]

/-- The word of a level, in lower case. -/
def word : LogLevel → String
  | .off => "off"
  | .error => "error"
  | .warn => "warn"
  | .info => "info"
  | .debug => "debug"
  | .trace => "trace"

/-- The name of a level, in upper case. -/
def name (l : LogLevel) : String :=
  l.word.toUpper

/-- The level a text names: its trimmed text equals the word up to ASCII case. -/
def parse (text : String) : Except ServerError LogLevel :=
  let t := (Blank.trim text).toLower
  match all.find? (·.word == t) with
  | some l => .ok l
  | none => .error (.logging ("unknown log level '" ++ text ++ "'"))

end LogLevel

end Gatehouse.Settings
