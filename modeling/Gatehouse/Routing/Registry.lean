import Gatehouse.Routing.Error
import Gatehouse.Files.Tree
import Gatehouse.Gateway.Modules

/-!
# The handler registry

Three tables of handlers, each in order of registration: CGI programs and worker endpoints at
exact paths, and builtin modules at path prefixes.  A registration checks its own table for the
path first, then what it needs: a CGI program must be an executable regular file, a module must
be in the catalog (the builtin one at startup), and a worker endpoint must be free to bind.  A
failed registration changes nothing.

Looking up a request path prefers, in order: the first CGI program at exactly that path, the
first worker endpoint at exactly that path, the first module whose path is a prefix of it; and
otherwise static files.
-/

namespace Gatehouse.Routing

open Gatehouse.Files
open Gatehouse.Gateway

/-- Whether a program can be run. -/
inductive Readiness where
  | ready
  | missing
  | notRunnable
  deriving DecidableEq, Repr

/-- Whether the program at a path can be run: an executable regular file is ready. -/
def checkExecutable (fs : FileSystem) (path : String) : Readiness :=
  match fs.lookup path with
  | .error _ => .missing
  | .ok node => if node.isFile && node.ownerCanExecute then .ready else .notRunnable

/-- A CGI program at a path. -/
structure CgiRoute where
  path : String
  executable : String
  deriving DecidableEq, Repr

/-- A worker endpoint at a path. -/
structure WorkerRoute where
  path : String
  endpoint : String
  deriving DecidableEq, Repr

/-- A builtin module at a path prefix. -/
structure ModuleRoute where
  path : String
  module : Module
  deriving DecidableEq, Repr

/-- Where a request path is handled. -/
inductive Route where
  | cgi (route : CgiRoute)
  | worker (route : WorkerRoute)
  | module (route : ModuleRoute)
  | static
  deriving DecidableEq, Repr

/-- The registered handlers. -/
structure Registry where
  cgi : List CgiRoute := []
  workers : List WorkerRoute := []
  modules : List ModuleRoute := []
  deriving DecidableEq, Repr

/-- The longest socket address a path can make is one byte shorter than this. -/
def socketPathMax : Nat := 108

/-- Binds a worker endpoint in a tree.  A stale socket there is replaced and any other node
there is refused; where nothing is, the socket is made: an empty path makes an unnamed socket,
a path of `socketPathMax` bytes or more makes no address, and otherwise the directory above it
must be there.  A socket in the system around the tree is made out of the tree's sight. -/
def bindEndpoint (t : Tree) (endpoint : String) : Except RegistrationError Tree :=
  let refuse (reason : String) : Except RegistrationError Tree :=
    .error (.endpointBind endpoint reason)
  match t.lookup endpoint with
  | .ok node =>
    match node.kind with
    | .socket => .ok t
    | _ => refuse "path exists and is not a socket"
  | .error .notFound =>
    if endpoint.isEmpty then .ok t
    else if socketPathMax ≤ endpoint.utf8ByteSize then refuse "path must be shorter than SUN_LEN"
    else
      match t.placeFor? endpoint with
      | .ok place => .ok (t.putAt place ⟨.socket, 0o755⟩)
      | .error e => refuse e.message
  | .error e => refuse e.message

namespace Registry

/-- Registers a CGI program at a path. -/
def registerCgi (r : Registry) (fs : FileSystem) (path executable : String) :
    Except RegistrationError Registry :=
  if r.cgi.any (·.path == path) then .error (.duplicatePath path)
  else
    match checkExecutable fs executable with
    | .ready => .ok { r with cgi := r.cgi ++ [⟨path, executable⟩] }
    | .missing => .error (.notFound executable)
    | .notRunnable => .error (.notExecutable executable)

/-- Registers the module a catalog gives a name at a path prefix; a catalog is read by what
it resolves each name to. -/
def registerModuleFrom (r : Registry) (catalog : String → Option Module) (path name : String) :
    Except RegistrationError Registry :=
  if r.modules.any (·.path == path) then .error (.duplicatePath path)
  else
    match catalog name with
    | some m => .ok { r with modules := r.modules ++ [⟨path, m⟩] }
    | none => .error (.unknownModule name)

/-- Registers a builtin module by name at a path prefix. -/
def registerModule (r : Registry) (path name : String) : Except RegistrationError Registry :=
  r.registerModuleFrom Module.byName? path name

/-- Registers a worker endpoint at a path, binding its socket in the tree. -/
def registerWorker (r : Registry) (t : Tree) (path endpoint : String) :
    Except RegistrationError (Registry × Tree) :=
  if r.workers.any (·.path == path) then .error (.duplicatePath path)
  else
    match bindEndpoint t endpoint with
    | .ok t' => .ok ({ r with workers := r.workers ++ [⟨path, endpoint⟩] }, t')
    | .error e => .error e

/-- Where a request path is handled. -/
def lookup (r : Registry) (path : String) : Route :=
  match r.cgi.find? (·.path == path) with
  | some c => .cgi c
  | none =>
    match r.workers.find? (·.path == path) with
    | some w => .worker w
    | none =>
      match r.modules.find? (fun m => m.path.toList.isPrefixOf path.toList) with
      | some m => .module m
      | none => .static

/-- Whether no handler is registered. -/
def isEmpty (r : Registry) : Bool :=
  r.cgi.isEmpty && r.workers.isEmpty && r.modules.isEmpty

end Registry

end Gatehouse.Routing
