import Gatehouse.Http.Request
import Gatehouse.Http.Response

/-!
# Gateway variables

The record a handler receives for a request, in the terms of the Common Gateway Interface:
who the server is, the method, the part of the path after the handler's own path
(`PATH_INFO`), that part under the static root (`PATH_TRANSLATED`), the handler's path
(`SCRIPT_NAME`), the query, and the client.  `toEnv` lists the twelve values under their
CGI names in a fixed order.
-/

namespace Gatehouse.Gateway

open Gatehouse.Http

/-- The gateway interface the server speaks. -/
def interfaceName : String := "CGI/1.1"

/-- The protocol the server speaks. -/
def protocolName : String := "HTTP/1.0"

/-- How the server names itself to handlers. -/
structure ServerIdentity where
  software : String
  name : String
  gatewayInterface : String
  protocol : String
  port : String
  deriving DecidableEq, Repr

/-- The identity of a server with this host name and port. -/
def ServerIdentity.new (hostname : String) (port : Nat) : ServerIdentity :=
  ⟨serverSoftware, hostname, interfaceName, protocolName, toString port⟩

/-- The variables of one request for one handler. -/
structure Variables where
  serverSoftware : String
  serverName : String
  gatewayInterface : String
  serverProtocol : String
  serverPort : String
  requestMethod : String
  pathInfo : String
  pathTranslated : String
  scriptName : String
  queryString : String
  remoteHost : String
  remoteAddr : String
  deriving DecidableEq, Repr

namespace Variables

/-- The rest of `path` after `scriptName`, or the empty text when `scriptName` is not a prefix. -/
def pathAfter (path scriptName : String) : String :=
  if scriptName.toList.isPrefixOf path.toList then
    String.ofList (path.toList.drop scriptName.toList.length)
  else ""

/-- The variables of a request for the handler at `scriptName`. -/
def build (identity : ServerIdentity) (request : Request) (scriptName staticRoot : String) :
    Variables :=
  let pathInfo := pathAfter request.path scriptName
  { serverSoftware := identity.software
    serverName := identity.name
    gatewayInterface := identity.gatewayInterface
    serverProtocol := identity.protocol
    serverPort := identity.port
    requestMethod := Method.textOf request.method
    pathInfo := pathInfo
    pathTranslated := staticRoot ++ pathInfo
    scriptName := scriptName
    queryString := request.query
    remoteHost := request.remoteHost
    remoteAddr := request.remoteAddress }

/-- The values under their CGI names, in the fixed order. -/
def toEnv (v : Variables) : List (String × String) :=
  [("SERVER_SOFTWARE", v.serverSoftware), ("SERVER_NAME", v.serverName),
    ("GATEWAY_INTERFACE", v.gatewayInterface), ("SERVER_PROTOCOL", v.serverProtocol),
    ("SERVER_PORT", v.serverPort), ("REQUEST_METHOD", v.requestMethod),
    ("PATH_INFO", v.pathInfo), ("PATH_TRANSLATED", v.pathTranslated),
    ("SCRIPT_NAME", v.scriptName), ("QUERY_STRING", v.queryString),
    ("REMOTE_HOST", v.remoteHost), ("REMOTE_ADDR", v.remoteAddr)]

/-- The field names of the record, in order, as its JSON form spells them. -/
def fieldNames : List String :=
  ["server_software", "server_name", "gateway_interface", "server_protocol", "server_port",
    "request_method", "path_info", "path_translated", "script_name", "query_string",
    "remote_host", "remote_addr"]

/-- The values of the record, in field order. -/
def values (v : Variables) : List String :=
  v.toEnv.map (·.2)

/-- The record with these values in field order; `none` unless there are twelve. -/
def ofValues? : List String → Option Variables
  | [a, b, c, d, e, f, g, h, i, j, k, l] => some ⟨a, b, c, d, e, f, g, h, i, j, k, l⟩
  | _ => none

theorem ofValues?_values (v : Variables) : ofValues? v.values = some v := rfl

theorem values_injective : Function.Injective values := by
  intro v w same
  have back := ofValues?_values v
  rw [same, ofValues?_values] at back
  exact (Option.some.inj back).symm

end Variables

end Gatehouse.Gateway
