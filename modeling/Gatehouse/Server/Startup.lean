import Gatehouse.Routing.Registry
import Gatehouse.Settings.Resolve

/-!
# Startup

Registers the handlers the settings list: every CGI program (under its resolved executable),
then every worker endpoint, then every builtin module, each in file order.  A failed
registration is recorded and skipped; the server starts with whatever registered.
-/

namespace Gatehouse.Server

open Gatehouse.Files
open Gatehouse.Routing
open Gatehouse.Settings

/-- The kinds of handler. -/
inductive HandlerKind where
  | cgi
  | worker
  | module
  deriving DecidableEq, Repr

/-- The word for each kind. -/
def HandlerKind.word : HandlerKind → String
  | .cgi => "cgi"
  | .worker => "clay"
  | .module => "module"

/-- One registration made at startup, with its error if it failed. -/
structure Registration where
  kind : HandlerKind
  path : String
  failure : Option RegistrationError
  deriving DecidableEq, Repr

/-- The registry and tree after registering the handlers of the settings, with each
registration in the order made. -/
def registerAll (s : ServerSettings) (t : Tree) : (Registry × Tree) × List Registration :=
  let afterCgi := s.cgiHandlers.foldl (fun (acc : (Registry × Tree) × List Registration) e =>
    let ((r, t), log) := acc
    match r.registerCgi t.fileSystem e.path (s.cgiExecutable e.handler) with
    | .ok r' => ((r', t), log ++ [⟨.cgi, e.path, none⟩])
    | .error err => ((r, t), log ++ [⟨.cgi, e.path, some err⟩])) (({}, t), [])
  let afterWorkers := s.workerHandlers.foldl (fun (acc : (Registry × Tree) × List Registration) e =>
    let ((r, t), log) := acc
    match r.registerWorker t e.path e.endpoint with
    | .ok (r', t') => ((r', t'), log ++ [⟨.worker, e.path, none⟩])
    | .error err => ((r, t), log ++ [⟨.worker, e.path, some err⟩])) afterCgi
  s.moduleHandlers.foldl (fun (acc : (Registry × Tree) × List Registration) e =>
    let ((r, t), log) := acc
    match r.registerModule e.path e.module with
    | .ok r' => ((r', t), log ++ [⟨.module, e.path, none⟩])
    | .error err => ((r, t), log ++ [⟨.module, e.path, some err⟩])) afterWorkers

end Gatehouse.Server
