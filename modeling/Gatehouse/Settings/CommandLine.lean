import Gatehouse.Text.Utf8

/-!
# The command line

The server's options: `-p`/`--port`, `--host`, `-c`/`--config`, `-s`/`--static-root`,
`--log-level`, and `-h`/`--help`, `-V`/`--version`.  Each option takes one value, given in the
next argument, after `=` (`--port=80`, `-p=80`), or attached to a short name (`-p80`); short
flags may be grouped (`-hV`).  An argument after `--` is never an option.

An option's value is checked when the next option is met or the arguments end, so a missing
value or an option given twice is reported then; an argument that is not an option ends the
reading at once.  A port is a whole number (sign allowed) from 0 to 65535; a path may not be
empty.  Only the first line of each message is kept.
-/

namespace Gatehouse.Settings

/-- Why the command line was refused, or that it asked for help or the version. -/
inductive CliErrorKind where
  | invalidValue
  | unknownArgument
  | argumentConflict
  | valueValidation
  | tooManyValues
  | displayHelp
  | displayVersion
  deriving DecidableEq, Repr

/-- The name of each kind. -/
def CliErrorKind.name : CliErrorKind → String
  | .invalidValue => "InvalidValue"
  | .unknownArgument => "UnknownArgument"
  | .argumentConflict => "ArgumentConflict"
  | .valueValidation => "ValueValidation"
  | .tooManyValues => "TooManyValues"
  | .displayHelp => "DisplayHelp"
  | .displayVersion => "DisplayVersion"

/-- A refused command line: its kind and the first line of its message. -/
structure CliError where
  kind : CliErrorKind
  message : String
  deriving DecidableEq, Repr

/-- What the server says it is. -/
def aboutLine : String := "Servidor HTTP/1.0 concurrente con CGI, módulos y workers asíncronos"

/-- The server's name and version. -/
def versionLine : String := "spade 0.1.0"

/-- An option that takes a value. -/
inductive CliOption where
  | port
  | host
  | config
  | staticRoot
  | logLevel
  deriving DecidableEq, Repr

namespace CliOption

/-- All options. -/
def all : List CliOption := [.port, .host, .config, .staticRoot, .logLevel]

/-- The long name. -/
def long : CliOption → String
  | .port => "port"
  | .host => "host"
  | .config => "config"
  | .staticRoot => "static-root"
  | .logLevel => "log-level"

/-- The short name, if any. -/
def short? : CliOption → Option Char
  | .port => some 'p'
  | .config => some 'c'
  | .staticRoot => some 's'
  | _ => none

/-- The name of the value. -/
def valueName : CliOption → String
  | .port => "PORT"
  | .host => "HOST"
  | .config => "CONFIG"
  | .staticRoot => "STATIC_ROOT"
  | .logLevel => "LOG_LEVEL"

/-- How messages show the option. -/
def display (o : CliOption) : String :=
  "--" ++ o.long ++ " <" ++ o.valueName ++ ">"

end CliOption

/-- What the command line sets. -/
structure CommandLine where
  port : Option Nat := none
  host : String := "0.0.0.0"
  config : String := "config/spade.toml"
  staticRoot : Option String := none
  logLevel : String := "info"
  deriving DecidableEq, Repr

/-- Reads the digits of a magnitude from the left, building it from `acc`: the first character
that is not a digit, or the first digit that takes the magnitude past `limit`, ends the reading
with its problem, so whichever comes first is the one reported. -/
def magnitudeProblem (limit : Nat) (tooBig : String) : Nat → List Char → Option String
  | _, [] => none
  | acc, c :: cs =>
    if !c.isDigit then some "invalid digit found in string"
    else
      let next := acc * 10 + (c.toNat - 48)
      if limit < next then some tooBig else magnitudeProblem limit tooBig next cs

/-- Why a text is not a 64-bit signed number, in fixed words. -/
def signedProblem (text : String) : Option String :=
  let cs := text.toList
  let (negative, digits) := match cs with
    | '+' :: r => (false, r)
    | '-' :: r => (true, r)
    | _ => (false, cs)
  if cs.isEmpty then some "cannot parse integer from empty string"
  else if digits.isEmpty then some "invalid digit found in string"
  else if negative then
    magnitudeProblem (Nat.pow 2 63) "number too small to fit in target type" 0 digits
  else magnitudeProblem (Nat.pow 2 63 - 1) "number too large to fit in target type" 0 digits

/-- The value of a text known to be a signed number. -/
def signedValue (text : String) : Int :=
  match text.toList with
  | '-' :: r => -((r.foldl (fun acc c => acc * 10 + (c.toNat - 48)) 0 : Nat) : Int)
  | '+' :: r => (r.foldl (fun acc c => acc * 10 + (c.toNat - 48)) 0 : Nat)
  | r => (r.foldl (fun acc c => acc * 10 + (c.toNat - 48)) 0 : Nat)

/-- The message of a value that is required but absent or empty. -/
def emptyValue (o : CliOption) : CliError :=
  ⟨.invalidValue, "error: a value is required for '" ++ o.display ++ "' but none was supplied"⟩

/-- The message of a value that does not parse. -/
def invalidValue (o : CliOption) (value reason : String) : CliError :=
  ⟨.valueValidation, "error: invalid value '" ++ value ++ "' for '" ++ o.display ++ "': " ++ reason⟩

/-- The message of an argument that is not an option of the server. -/
def unexpectedArgument (arg : String) : CliError :=
  ⟨.unknownArgument, "error: unexpected argument '" ++ arg ++ "' found"⟩

/-- Sets an option to its value, checking it. -/
def CommandLine.assign (c : CommandLine) (o : CliOption) (value : String) :
    Except CliError CommandLine :=
  match o with
  | .port =>
    match signedProblem value with
    | some reason => .error (invalidValue o value reason)
    | none =>
      let n := signedValue value
      if 0 ≤ n ∧ n ≤ 65535 then .ok { c with port := some n.toNat }
      else .error (invalidValue o value (toString n ++ " is not in 0..=65535"))
  | .host => .ok { c with host := value }
  | .config => if value.isEmpty then .error (emptyValue o) else .ok { c with config := value }
  | .staticRoot =>
    if value.isEmpty then .error (emptyValue o) else .ok { c with staticRoot := some value }
  | .logLevel => .ok { c with logLevel := value }

/-- The reading of a command line so far: what is set, which options were given, the option
whose value is still to be checked (with the value once read), and whether that option still
waits for its value. -/
structure CliScan where
  line : CommandLine := {}
  given : List CliOption := []
  pending : Option (CliOption × Option String) := none
  waiting : Bool := false

namespace CliScan

/-- Records an option with its value: a missing value, then a second use, then a bad value
is refused. -/
def accept (s : CliScan) (o : CliOption) (value : Option String) : Except CliError CliScan :=
  match value with
  | none => .error (emptyValue o)
  | some v =>
    if s.given.contains o then
      .error ⟨.argumentConflict,
        "error: the argument '" ++ o.display ++ "' cannot be used multiple times"⟩
    else
      match s.line.assign o v with
      | .ok line => .ok { s with line := line, given := s.given ++ [o] }
      | .error e => .error e

/-- Checks the pending option, if any. -/
def settle (s : CliScan) : Except CliError CliScan :=
  match s.pending with
  | none => .ok s
  | some (o, v) => { s with pending := none, waiting := false }.accept o v

/-- Meets an option: an attached value is taken at once, otherwise the option waits. -/
def meet (s : CliScan) (o : CliOption) (attached : Option String) : Except CliError CliScan :=
  match s.settle with
  | .error e => .error e
  | .ok s =>
    match attached with
    | some v => s.accept o (some v)
    | none => .ok { s with pending := some (o, none), waiting := true }

/-- Meets `--help` or `--version`. -/
def display (s : CliScan) (e : CliError) : Except CliError CliScan :=
  match s.settle with
  | .error e2 => .error e2
  | .ok _ => .error e

end CliScan

/-- The help request. -/
def helpRequest : CliError := ⟨.displayHelp, aboutLine⟩

/-- The version request. -/
def versionRequest : CliError := ⟨.displayVersion, versionLine⟩

/-- Reads a group of short flags, after its dash. -/
def shortGroup (s : CliScan) : List Char → Except CliError CliScan
  | [] => .ok s
  | c :: rest =>
    if c = 'h' then s.display helpRequest
    else if c = 'V' then s.display versionRequest
    else
      match CliOption.all.find? (·.short? == some c) with
      | some o =>
        if rest.isEmpty then s.meet o none
        else
          let v := match rest with
            | '=' :: r => r
            | r => r
          s.meet o (some (String.ofList v))
      | none => .error (unexpectedArgument ("-" ++ String.singleton c))

/-- Reads a long option, after its two dashes. -/
def longOption (s : CliScan) (body : String) : Except CliError CliScan :=
  let (name, value) := match body.splitOn "=" with
    | [n] => (n, none)
    | n :: rest => (n, some ("=".intercalate rest))
    | [] => (body, none)
  if name == "help" || name == "version" then
    match value with
    | some v =>
      .error ⟨.tooManyValues,
        "error: unexpected value '" ++ v ++ "' for '--" ++ name ++ "' found; no more were expected"⟩
    | none => s.display (if name == "help" then helpRequest else versionRequest)
  else
    match CliOption.all.find? (·.long == name) with
    | some o => s.meet o value
    | none => .error (unexpectedArgument ("--" ++ name))

/-- Reads the arguments; `escaped` tells whether `--` has been passed. -/
def scanArguments (s : CliScan) (escaped : Bool) : List String → Except CliError CliScan
  | [] => s.settle
  | arg :: rest =>
    if escaped then .error (unexpectedArgument arg)
    else if arg == "--" then scanArguments s true rest
    else
      let step : Except CliError CliScan :=
        if arg.startsWith "--" then longOption s (String.ofList (arg.toList.drop 2))
        else if arg.startsWith "-" && arg != "-" then shortGroup s (arg.toList.drop 1)
        else if s.waiting then
          match s.pending with
          | some (o, _) => .ok { s with pending := some (o, some arg), waiting := false }
          | none => .error (unexpectedArgument arg)
        else .error (unexpectedArgument arg)
      match step with
      | .ok s => scanArguments s false rest
      | .error e => .error e

/-- Reads a command line, without the program name. -/
def CommandLine.parse (args : List String) : Except CliError CommandLine :=
  (scanArguments {} false args).map (·.line)

end Gatehouse.Settings
