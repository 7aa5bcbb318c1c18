import Mathlib
import Gatehouse.Server.Connection

/-!
# The variables a handler is given

A `GET` request is routed by its path (`Registry.lookup`): to a CGI program or a worker endpoint
registered at exactly that path, or to a builtin module registered at a prefix of it.  Whatever
the route, the handler is given the variables the server builds for the handler's own path
(`Context.variablesFor`), and those compute the rest of the request path on their own, by
taking the handler's path off its front.

The two agree for every registry and every request path (`variablesFor_lookup`): the record
names the handler's path as `SCRIPT_NAME`, and `SCRIPT_NAME` followed by `PATH_INFO` is the
request path, so `PATH_INFO` is empty for the exact routes and is the rest of the path for a
module, even one whose prefix ends inside a path segment (`/dirt` routes `/dirtbag` with
`PATH_INFO` `bag`).  `PATH_TRANSLATED` is the static root followed by `PATH_INFO`, and the twelve
CGI names list the server's identity, `GET`, these paths, the query and the client, in order
(`Describes`).
-/

namespace Gatehouse.Gateway

namespace Variables

theorem append_pathAfter {path scriptName : String} (start : scriptName.toList <+: path.toList) :
    scriptName ++ pathAfter path scriptName = path := by
  rw [pathAfter, if_pos (List.isPrefixOf_iff_prefix.mpr start)]
  apply String.toList_injective
  rw [String.toList_append, String.toList_ofList]
  exact List.prefix_iff_eq_append.mp start

theorem pathAfter_self (path : String) : pathAfter path path = "" := by
  rw [pathAfter, if_pos (List.isPrefixOf_iff_prefix.mpr (List.prefix_refl _)), List.drop_length]

end Variables

end Gatehouse.Gateway

namespace Gatehouse.Routing

namespace Registry

theorem path_of_lookup_eq_cgi {r : Registry} {path : String} {h : CgiRoute}
    (routed : r.lookup path = .cgi h) : h.path = path := by
  unfold lookup at routed
  split at routed
  · next found =>
    cases routed
    simpa using List.find?_some found
  · split at routed
    · cases routed
    · split at routed <;> cases routed

theorem path_of_lookup_eq_worker {r : Registry} {path : String} {h : WorkerRoute}
    (routed : r.lookup path = .worker h) : h.path = path := by
  unfold lookup at routed
  split at routed
  · cases routed
  · split at routed
    · next found =>
      cases routed
      simpa using List.find?_some found
    · split at routed <;> cases routed

theorem prefix_of_lookup_eq_module {r : Registry} {path : String} {m : ModuleRoute}
    (routed : r.lookup path = .module m) : m.path.toList <+: path.toList := by
  unfold lookup at routed
  split at routed
  · cases routed
  · split at routed
    · cases routed
    · split at routed
      · next found =>
        cases routed
        have matched := List.find?_some found
        exact List.isPrefixOf_iff_prefix.mp matched
      · cases routed

end Registry

end Gatehouse.Routing

namespace Gatehouse.Server

open Gatehouse.Http
open Gatehouse.Gateway
open Gatehouse.Routing

namespace Context

/-- What the record a handler registered at `scriptName` receives for a `GET` request says:
the handler's path, which followed by `PATH_INFO` is the request path; `PATH_INFO` under the
static root; the query; the method; and all twelve values under their CGI names, in order. -/
structure Describes (c : Context) (r : Request) (scriptName : String) (v : Variables) :
    Prop where
  script : v.scriptName = scriptName
  whole : v.scriptName ++ v.pathInfo = r.path
  translated : v.pathTranslated = c.staticRoot ++ v.pathInfo
  query : v.queryString = r.query
  method : v.requestMethod = "GET"
  env : v.toEnv =
    [("SERVER_SOFTWARE", c.identity.software), ("SERVER_NAME", c.identity.name),
      ("GATEWAY_INTERFACE", c.identity.gatewayInterface),
      ("SERVER_PROTOCOL", c.identity.protocol), ("SERVER_PORT", c.identity.port),
      ("REQUEST_METHOD", "GET"), ("PATH_INFO", v.pathInfo),
      ("PATH_TRANSLATED", c.staticRoot ++ v.pathInfo), ("SCRIPT_NAME", scriptName),
      ("QUERY_STRING", r.query), ("REMOTE_HOST", r.remoteHost),
      ("REMOTE_ADDR", r.remoteAddress)]

theorem describes_variablesFor (c : Context) {r : Request} (get : r.method = some .get)
    {scriptName : String} (start : scriptName.toList <+: r.path.toList) :
    c.Describes r scriptName (c.variablesFor r scriptName) where
  script := rfl
  whole := Variables.append_pathAfter start
  translated := rfl
  query := rfl
  method := by simp [variablesFor, Variables.build, get, Method.textOf, Method.text]
  env := by simp [variablesFor, Variables.build, Variables.toEnv, get, Method.textOf, Method.text]

/-- The variables for a handler at exactly a `GET` request's path leave no `PATH_INFO` and
describe the request. -/
theorem describes_variablesFor_path (c : Context) {r : Request} (get : r.method = some .get) :
    (c.variablesFor r r.path).pathInfo = "" ∧ c.Describes r r.path (c.variablesFor r r.path) :=
  ⟨Variables.pathAfter_self r.path, c.describes_variablesFor get (List.prefix_refl _)⟩

end Context

/-- The variables a handler is given agree with its route.  For every registry and every `GET`
request: a CGI program or worker endpoint that the request's path routes to is registered at
exactly that path, and its record has an empty `PATH_INFO`; a module is registered at a prefix
of the path, and its record's `PATH_INFO` is the rest of the path; and in each case the record
describes the request under the handler's path. -/
theorem variablesFor_lookup (c : Context) (r : Request) (get : r.method = some .get) :
    (∀ h, c.registry.lookup r.path = .cgi h →
      h.path = r.path ∧ (c.variablesFor r h.path).pathInfo = "" ∧
        c.Describes r h.path (c.variablesFor r h.path)) ∧
    (∀ h, c.registry.lookup r.path = .worker h →
      h.path = r.path ∧ (c.variablesFor r h.path).pathInfo = "" ∧
        c.Describes r h.path (c.variablesFor r h.path)) ∧
    (∀ m, c.registry.lookup r.path = .module m →
      m.path ++ (c.variablesFor r m.path).pathInfo = r.path ∧
        c.Describes r m.path (c.variablesFor r m.path)) := by
  refine ⟨fun h routed => ?_, fun h routed => ?_, fun m routed => ?_⟩
  · -- an exact route: the handler's path is the request path
    rw [Registry.path_of_lookup_eq_cgi routed]
    exact ⟨rfl, c.describes_variablesFor_path get⟩
  · rw [Registry.path_of_lookup_eq_worker routed]
    exact ⟨rfl, c.describes_variablesFor_path get⟩
  · -- a prefix route: the variables take the same prefix off the path
    have start := Registry.prefix_of_lookup_eq_module routed
    exact ⟨Variables.append_pathAfter start, c.describes_variablesFor get start⟩

/-- A server with a CGI program at `/cgi/add` and the adder at the prefix `/dirt`. -/
def dirtServer : Context :=
  ⟨"spade", 8080, "www", false, { cgi := [⟨"/cgi/add", "cgi/add"⟩], modules := [⟨"/dirt", .adder⟩] }⟩

/-- A `GET` for `/dirtbag?value=1` from `10.0.0.1`. -/
def dirtbagRequest : Request :=
  ⟨some .get, Uri.parse "/dirtbag?value=1", some .http10, [], "10.0.0.1", ""⟩

/-- The prefix `/dirt` routes `/dirtbag`, mid-segment, and the adder's record splits the path
there: `SCRIPT_NAME` `/dirt` followed by `PATH_INFO` is `/dirtbag`. -/
theorem variablesFor_lookup_dirtbag :
    dirtbagRequest.method = some .get ∧
      dirtServer.registry.lookup dirtbagRequest.path = .module ⟨"/dirt", .adder⟩ ∧
      "/dirt" ++ (dirtServer.variablesFor dirtbagRequest "/dirt").pathInfo = dirtbagRequest.path ∧
      dirtServer.Describes dirtbagRequest "/dirt"
        (dirtServer.variablesFor dirtbagRequest "/dirt") := by
  have routed : dirtServer.registry.lookup dirtbagRequest.path = .module ⟨"/dirt", .adder⟩ := by
    decide +kernel
  exact ⟨rfl, routed, (variablesFor_lookup dirtServer dirtbagRequest rfl).2.2 _ routed⟩

example : (dirtServer.variablesFor dirtbagRequest "/dirt").pathInfo = "bag" := by
  decide +kernel

end Gatehouse.Server
