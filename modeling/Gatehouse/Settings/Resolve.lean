import Gatehouse.Settings.FileConfig
import Gatehouse.Settings.CommandLine
import Gatehouse.Files.Node
import Gatehouse.Files.Path
import Gatehouse.Text.Blank

/-!
# Server settings

The settings the server runs with, from the command line and the configuration file.  The
command line wins over the file and the file over the defaults: the port is the command line's,
else the file's, else 8080; the static root the command line's, else the file's.  The listening
host comes from the command line alone, everything else from the file.

A missing configuration file is no error (the defaults hold); a file that cannot be read or
parsed is.
-/

namespace Gatehouse.Settings

open Gatehouse.Files
open Gatehouse.Text

/-- The port when neither the command line nor the file sets one. -/
def defaultPort : Nat := 8080

/-- What the server runs with. -/
structure ServerSettings where
  host : String
  port : Nat
  hostname : String
  staticRoot : String
  cgiRoot : String
  reverseLookups : Bool
  workerTimeoutSecs : Nat
  cgiHandlers : List CgiEntry
  moduleHandlers : List ModuleEntry
  workerHandlers : List WorkerEntry
  deriving DecidableEq, Repr

/-- The settings of a command line and a configuration file. -/
def CommandLine.merge (c : CommandLine) (f : FileConfig) : ServerSettings :=
  { host := c.host
    port := (c.port.orElse fun _ => f.port).getD defaultPort
    hostname := f.hostname
    staticRoot := c.staticRoot.getD f.staticFilePath
    cgiRoot := f.cgiFilePath
    reverseLookups := f.reverseLookups
    workerTimeoutSecs := f.workerTimeoutSecs
    cgiHandlers := f.cgiHandlers
    moduleHandlers := f.moduleHandlers
    workerHandlers := f.workerHandlers }

/-- The message of reading a socket as a file. -/
def noDeviceMessage : String := "No such device or address (os error 6)"

/-- The text of the configuration file at `path`: `none` when there is no file. -/
def readConfigText (fs : FileSystem) (path : String) : Except ServerError (Option String) :=
  let failed (reason : String) : Except ServerError (Option String) :=
    .error (.config (path ++ ": " ++ reason))
  match fs.openToRead path with
  | .error .notFound => .ok none
  | .error e => failed e.message
  | .ok node =>
    match node.kind with
    | .directory => failed isADirectoryMessage
    | .socket => failed noDeviceMessage
    | .device => .ok (some "")
    | .file content =>
      match Utf8.decode? content with
      | some text => .ok (some text)
      | none => failed notTextMessage

/-- The settings of a command line and the text of its configuration file, if there is one. -/
def CommandLine.settingsWith (c : CommandLine) : Option String → Except ServerError ServerSettings
  | none => .ok (c.merge {})
  | some text => (FileConfig.parse text).map c.merge

/-- The settings of a command line, with the configuration file it names read from a file
system. -/
def CommandLine.load (c : CommandLine) (fs : FileSystem) : Except ServerError ServerSettings :=
  match readConfigText fs c.config with
  | .error e => .error e
  | .ok text => c.settingsWith text

namespace ServerSettings

/-- The address to listen on, `host:port`. -/
def address (s : ServerSettings) : String :=
  s.host ++ ":" ++ toString s.port

/-- The program of a CGI handler: an absolute handler as it is, a relative one under the CGI
root. -/
def cgiExecutable (s : ServerSettings) (handler : String) : String :=
  if Path.isAbsolute handler then handler else Path.join s.cgiRoot handler

/-- Checks that the port is not zero and the host name not blank. -/
def validate (s : ServerSettings) : Except ServerError Unit :=
  if s.port = 0 then .error (.config "port must be between 1 and 65535")
  else if (Blank.trim s.hostname).isEmpty then .error (.config "hostname must not be empty")
  else .ok ()

end ServerSettings

end Gatehouse.Settings
