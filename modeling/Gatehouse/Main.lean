import Gatehouse.Settings.Resolve
import Gatehouse.Settings.LogLevel
import Gatehouse.Server.Connection

/-!
# The server's command line

Starts the server as its command line asks and serves one connection.  The options are read
first: a refused command line is reported on standard error (status 2), and a request for help
or the version is answered on standard output.  Then the log level is checked, the configuration
file is read (a missing file means the defaults) and the settings are checked; a failure at any
of these steps is reported on standard error with status 1.

The connection's bytes arrive on standard input and the reply goes to standard output.  Static
files are read from disk under a relative static root, and builtin modules answer as the server
would.  This entry point starts no other programs and accepts no workers, so it registers no
CGI programs and no worker endpoints.  The runtime gives no permission bits, so every file
found counts as readable.
-/

open Gatehouse.Http
open Gatehouse.Files
open Gatehouse.Routing
open Gatehouse.Settings
open Gatehouse.Server

namespace Gatehouse.Main

/-- The bytes of a file, or nothing when it cannot be read. -/
def readBytes? (path : String) : IO (Option (List UInt8)) := do
  try
    let data ← IO.FS.readBinFile path
    pure (some data.toList)
  catch _ => pure none

/-- The configuration file's text, `none` when there is no file. -/
def readConfig (path : String) : IO (Except ServerError (Option String)) := do
  try
    let data ← IO.FS.readBinFile path
    match Text.Utf8.decode? data.toList with
    | some text => pure (.ok (some text))
    | none => pure (.error (.config (path ++ ": " ++ notTextMessage)))
  catch e =>
    match e with
    | .noFileOrDirectory .. => pure (.ok none)
    | _ => pure (.error (.config (path ++ ": " ++ toString e)))

/-- The files a request for `path` may be served from: the target under the root, and its
index page. -/
def staticCandidates (root path : String) : List String :=
  let target := Path.join root (Path.dropLeadingSlashes path)
  [target, Path.join target "index.html"]

/-- A tree holding the candidate files that can be read. -/
def candidateTree (paths : List String) : IO Tree := do
  let mut entries : List Tree.Entry := []
  for p in paths do
    if let some bytes ← readBytes? p then
      entries := entries ++ [⟨p, .file bytes, none⟩]
  pure (Tree.ofEntries entries)

/-- Writes a log line at `level` when the configured level lets it through. -/
def logLine (configured level : LogLevel) (message : String) : IO Unit := do
  if LogLevel.all.idxOf level ≤ LogLevel.all.idxOf configured then
    IO.eprintln ("[" ++ level.name ++ "] spade: " ++ message)

end Gatehouse.Main

open Gatehouse.Main

/-- Runs the server for one connection on standard input and output. -/
def main (args : List String) : IO UInt32 := do
  match CommandLine.parse args with
  | .error e =>
    match e.kind with
    | .displayHelp | .displayVersion =>
      IO.println e.message
      return 0
    | _ =>
      IO.eprintln e.message
      return 2
  | .ok c =>
  match LogLevel.parse c.logLevel with
  | .error e =>
    IO.eprintln e.message
    return 1
  | .ok level =>
  let settings ← match ← readConfig c.config with
    | .error e => pure (Except.error e)
    | .ok text => pure (c.settingsWith text)
  let checked := settings.bind fun s => s.validate.map fun () => s
  match checked with
  | .error e =>
    logLine level .error e.message
    return 1
  | .ok s =>
  logLine level .info (serverSoftware ++ " starting")
  logLine level .info ("Static files from " ++ s.staticRoot)
  let modulesOnly := { s with cgiHandlers := [], workerHandlers := [] }
  let ((registry, _), log) := registerAll modulesOnly {}
  for r in log do
    if let some err := r.failure then
      logLine level .error ("Unable to register " ++ r.path ++ ": " ++ err.message)
  let received ← (← IO.getStdin).readBinToEnd
  let bytes := received.toList
  let path := match Request.read? bytes with
    | some (r, _) => r.path
    | none => ""
  let files ← candidateTree (staticCandidates s.staticRoot path)
  let context := Context.ofSettings s registry
  let env : Surroundings :=
    { files := files.fileSystem, peer := "127.0.0.1", peerName := none,
      program := fun _ _ => [], workerConnected := fun _ => false }
  let outcome := handleConnection context env bytes
  let stdout ← IO.getStdout
  stdout.write (ByteArray.mk outcome.written.toArray)
  stdout.flush
  return 0
