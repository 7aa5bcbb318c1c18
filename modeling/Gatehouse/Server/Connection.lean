import Gatehouse.Server.Startup
import Gatehouse.Files.Static
import Gatehouse.Gateway.Modules
import Gatehouse.Http.Request
import Gatehouse.Http.Response

/-!
# Serving one connection

A connection carries one request.  The server reads it; a stream that ends before a request
line, or an invalid request, is closed with nothing written.  A request with a method other
than `GET` gets a 501 page.  A `GET` is routed by its path:

* a CGI program gets the status line and `Server` header, then whatever the program prints,
  unless the program has gone missing (404) or is no longer runnable (403);
* a worker route gets the same open head and the connection is handed to the worker's bridge;
  with no worker connected the connection is closed with nothing written;
* a builtin module gets the open head and writes the rest of the response itself;
* anything else is served from the static root.

The server fills in the client's address, and its host name when reverse lookups are on and
the lookup succeeds.  What the system contributes — the files, the client's address and name,
what a CGI program prints, whether a worker is connected — is a parameter, so that serving is a
function of the bytes received.
-/

namespace Gatehouse.Server

open Gatehouse.Http
open Gatehouse.Files
open Gatehouse.Gateway
open Gatehouse.Routing
open Gatehouse.Settings

/-- What every connection is served with. -/
structure Context where
  hostname : String
  port : Nat
  staticRoot : String
  reverseLookups : Bool
  registry : Registry
  deriving Repr

namespace Context

/-- The context of the settings, with the handlers registered. -/
def ofSettings (s : ServerSettings) (r : Registry) : Context :=
  ⟨s.hostname, s.port, s.staticRoot, s.reverseLookups, r⟩

/-- How the server names itself to handlers. -/
def identity (c : Context) : ServerIdentity :=
  ServerIdentity.new c.hostname c.port

/-- The variables a handler at `scriptName` receives for a request. -/
def variablesFor (c : Context) (r : Request) (scriptName : String) : Variables :=
  Variables.build c.identity r scriptName c.staticRoot

end Context

/-- What the system answers while a connection is served. -/
structure Surroundings where
  /-- The files. -/
  files : FileSystem
  /-- The client's address. -/
  peer : String
  /-- The client's name by reverse lookup, when the lookup succeeds. -/
  peerName : Option String
  /-- What the program at a path prints when run with these variables. -/
  program : String → Variables → List UInt8
  /-- Whether a worker is connected to the endpoint at a path. -/
  workerConnected : String → Bool

/-- How serving a connection ended. -/
inductive Outcome where
  /-- Closed with nothing written. -/
  | silent
  /-- A whole response was written with this status, then the connection was closed. -/
  | answered (bytes : List UInt8) (status : Status)
  /-- The open head was written and the connection handed to the worker at `endpoint`, with
  these variables; the worker's bridge writes the rest. -/
  | handedOff (bytes : List UInt8) (endpoint : String) (record : Variables)
  /-- The handler faulted after these bytes; the connection was dropped. -/
  | faulted (bytes : List UInt8)
  deriving DecidableEq, Repr

/-- The bytes an outcome wrote on the connection before it was closed or handed off. -/
def Outcome.written : Outcome → List UInt8
  | .silent => []
  | .answered bytes _ => bytes
  | .handedOff bytes _ _ => bytes
  | .faulted bytes => bytes

/-- The status line and `Server` header that a handler's own output completes. -/
def openHeadBytes : List UInt8 :=
  (Response.new .ok).openHead

/-- A complete error page. -/
def errorAnswer (status : Status) (cause : String) : Outcome :=
  .answered (Response.error status cause).toBytes status

/-- Runs the CGI program at `executable`, checking it again first. -/
def serveCgi (env : Surroundings) (executable : String) (v : Variables) : Outcome :=
  match checkExecutable env.files executable with
  | .missing => errorAnswer .notFound v.scriptName
  | .notRunnable => errorAnswer .forbidden v.scriptName
  | .ready => .answered (openHeadBytes ++ env.program executable v) .ok

/-- Serves a valid `GET` request along its route. -/
def dispatch (c : Context) (env : Surroundings) (r : Request) : Outcome :=
  match c.registry.lookup r.path with
  | .cgi h => serveCgi env h.executable (c.variablesFor r h.path)
  | .worker h =>
    if env.workerConnected h.endpoint then .handedOff openHeadBytes h.endpoint (c.variablesFor r h.path)
    else .silent
  | .module m =>
    match m.module.reply (c.variablesFor r m.path) with
    | some reply => .answered (openHeadBytes ++ reply) .ok
    | none => .faulted openHeadBytes
  | .static =>
    let (status, bytes) := serve env.files c.staticRoot r.path
    .answered bytes status

/-- The request as the server sees it: with the client's address, and its name when lookups
are on and succeed. -/
def Context.stamp (c : Context) (env : Surroundings) (r : Request) : Request :=
  let r := { r with remoteAddress := env.peer }
  if c.reverseLookups then
    match env.peerName with
    | some name => { r with remoteHost := name }
    | none => r
  else r

/-- Serves the bytes a client sent on one connection. -/
def handleConnection (c : Context) (env : Surroundings) (received : List UInt8) : Outcome :=
  match Request.read? received with
  | none => .silent
  | some (r, _) =>
    let r := c.stamp env r
    if !r.valid then .silent
    else if r.method != some .get then errorAnswer .notImplemented (Method.textOf r.method)
    else dispatch c env r

end Gatehouse.Server
