import Gatehouse.Text.Numeral

/-!
# Request URIs

A request target is split the way an HTTP/1.0 server needs it: an optional scheme (everything
up to the first `://`) is dropped, the authority runs up to the first `/` or `?`, a `:` in the
authority introduces a 16-bit port, and the rest is the path, with the query after its first
`?`.  An empty path is `/`.

A URI is *valid* when the target is non-empty and its port, if any, is a numeral below 65536.
When the port is bad the host is kept and everything after it is left at its default.
-/

namespace Gatehouse.Http

open Gatehouse.Text

/-- The port a URI names when it names none. -/
def defaultPort : Nat := 80

/-- A parsed request target. -/
structure Uri where
  host : String := ""
  port : Nat := defaultPort
  path : String := ""
  query : String := ""
  valid : Bool := false
  isDynamic : Bool := false
  deriving DecidableEq, Repr

namespace Uri

/-- The characters after the first `://`, when there is one. -/
def afterScheme? : List Char → Option (List Char)
  | ':' :: '/' :: '/' :: rest => some rest
  | _ :: rest => afterScheme? rest
  | [] => none

/-- Whether a character ends the authority. -/
def endsAuthority (c : Char) : Bool :=
  c == '/' || c == '?'

/-- The path and query part of a target, split at its first `?`. -/
def withPathAndQuery (uri : Uri) (rest : List Char) : Uri :=
  match rest.span (· != '?') with
  | (path, _ :: query) =>
    { uri with
      path := if path.isEmpty then "/" else String.ofList path
      query := String.ofList query
      isDynamic := true
      valid := true }
  | (path, []) =>
    { uri with
      path := if path.isEmpty then "/" else String.ofList path
      valid := true }

/-- Parses a request target. -/
def parse (raw : String) : Uri :=
  let chars := raw.toList
  if chars.isEmpty then {}
  else
    let rest := (afterScheme? chars).getD chars
    let (authority, pathPart) := rest.span (fun c => !endsAuthority c)
    match authority.span (· != ':') with
    | (_, []) => withPathAndQuery { host := String.ofList authority } pathPart
    | (host, _ :: port) =>
      match Numeral.readU16 (String.ofList port) with
      | .ok p => withPathAndQuery { host := String.ofList host, port := p } pathPart
      | .error _ => { host := String.ofList host }

/-- The path, followed by `?` and the query when the target had one. -/
def pathAndQuery (uri : Uri) : String :=
  if uri.isDynamic then uri.path ++ "?" ++ uri.query else uri.path

end Uri

end Gatehouse.Http
