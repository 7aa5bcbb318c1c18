import Gatehouse.Http.Method
import Gatehouse.Http.Uri
import Gatehouse.Http.Header
import Gatehouse.Http.Line

/-!
# Requests

A request is read from a byte stream: its first line gives the method, the target and the
version (the first three blank-separated words), and the lines after it up to the first empty
line are its headers.  Lines that are not headers are skipped, and at most 64 headers are kept.

A request is *valid* when its method and version are recognised and its target is a valid URI.
It is printed back as an HTTP/1.0 request with its path and query, and every header except
`Keep-Alive`.

Two comparisons are defined: structural equality (same head, both with a `Host` header, as
many headers, and one value for every key the two share) and cache equivalence (same resource,
and no disagreement on the first value of a content-negotiation header).
-/

namespace Gatehouse.Http

open Gatehouse.Text

/-- A request head, with the address of the client that sent it. -/
structure Request where
  method : Option Method
  uri : Uri
  version : Option Version
  headers : List Header := []
  remoteAddress : String := ""
  remoteHost : String := ""
  deriving DecidableEq, Repr

namespace Request

/-- The header keys that select a representation of a resource. -/
def negotiationKeys : List String := ["Accept", "Accept-Language", "Accept-Encoding"]

/-- Whether the method and version are recognised and the target is valid. -/
def valid (r : Request) : Bool :=
  r.method.isSome && r.version.isSome && r.uri.valid

/-- Whether one of the kept headers is `Host`. -/
def hasHost (r : Request) : Bool :=
  r.headers.any (·.key == "Host")

/-- The path of the target. -/
def path (r : Request) : String :=
  r.uri.path

/-- The query of the target. -/
def query (r : Request) : String :=
  r.uri.query

/-- The value of the first header with this key; keys match exactly. -/
def header? (r : Request) (key : String) : Option String :=
  (r.headers.find? (·.key == key)).map (·.value)

/-- The request that a request line describes, without headers. -/
def ofRequestLine (line : String) : Request :=
  let words := Blank.fields line
  { method := words[0]?.bind Method.ofText?
    uri := Uri.parse (words[1]?.getD "")
    version := words[2]?.bind Version.ofText? }

/-- Adds a header unless 64 are kept already. -/
def pushHeader (headers : List Header) (h : Header) : List Header :=
  if headers.length < maxHeaders then headers ++ [h] else headers

/-- Whether a line is empty once its CR and LF characters are dropped. -/
def isBlankLine (line : String) : Bool :=
  (dropLineEnd line.toList).isEmpty

/-- Reads header lines onto `headers` up to the first empty line or the end of the stream; gives
the headers and the bytes after the empty line. -/
def readHeaders (headers : List Header) (bytes : List UInt8) : List Header × List UInt8 :=
  match h : Line.readLine? bytes with
  | none => (headers, bytes)
  | some (line, rest) =>
    have : rest.length < bytes.length := Line.readLine?_rest_length h
    if isBlankLine line then (headers, rest)
    else
      match Header.parse? line with
      | none => readHeaders headers rest
      | some hd => readHeaders (pushHeader headers hd) rest
termination_by bytes.length

/-- Reads one request from a stream; `none` when the stream is exhausted. -/
def read? (bytes : List UInt8) : Option (Request × List UInt8) :=
  match Line.readLine? bytes with
  | none => none
  | some (line, rest) =>
    let (headers, left) := readHeaders [] rest
    some ({ ofRequestLine line with headers := headers }, left)

/-- The request a whole byte string holds; an empty string gives the request of an empty line. -/
def parse (bytes : List UInt8) : Request :=
  match read? bytes with
  | some (r, _) => r
  | none => ofRequestLine ""

/-- Reads at most `limit` requests one after another from a stream; gives them with the bytes
left unread. -/
def readMany (limit : Nat) (bytes : List UInt8) : List Request × List UInt8 :=
  match limit with
  | 0 => ([], bytes)
  | limit + 1 =>
    match read? bytes with
    | none => ([], bytes)
    | some (r, rest) =>
      let (rs, left) := readMany limit rest
      (r :: rs, left)

/-- The printed form of a request: an HTTP/1.0 request line with the path and query, every
header but `Keep-Alive`, and an empty line. -/
def text (r : Request) : String :=
  Method.textOf r.method ++ " " ++ r.uri.pathAndQuery ++ " " ++ Version.http10.text ++ "\r\n"
    ++ String.join ((r.headers.filter (·.key != "Keep-Alive")).map Header.line) ++ "\r\n"

/-- The bytes of the printed form. -/
def toBytes (r : Request) : List UInt8 :=
  Utf8.encode r.text

/-- Every header of `first` agrees in value with every header of `second` that has its key. -/
def headersAgree (first second : List Header) : Bool :=
  first.all fun a => (second.filter (·.key == a.key)).all (·.value == a.value)

/-- Two targets name the same host, port and path, and are equally valid. -/
def sameTarget (a b : Uri) : Bool :=
  a.host == b.host && a.port == b.port && a.path == b.path && a.valid == b.valid

/-- Structural equality of two requests. -/
def structurallyEqual (a b : Request) : Bool :=
  a.method == b.method && sameTarget a.uri b.uri && a.hasHost && b.hasHost
    && a.version == b.version && a.headers.length == b.headers.length
    && headersAgree a.headers b.headers && headersAgree b.headers a.headers
    && a.valid == b.valid

/-- Whether `b` may be answered from what was cached for `a`. -/
def cacheEquivalent (a b : Request) : Bool :=
  a.method == b.method && sameTarget a.uri b.uri
    && (a.headers.filter (fun h => negotiationKeys.contains h.key)).all fun h =>
      match b.header? h.key with
      | some v => v == h.value
      | none => true

end Request

end Gatehouse.Http
