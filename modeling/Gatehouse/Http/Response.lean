import Gatehouse.Http.Status
import Gatehouse.Http.HeaderTable
import Gatehouse.Http.Method
import Gatehouse.Text.Html
import Gatehouse.Text.Utf8

/-!
# Responses

A response is a status, a header table and a body.  A new response carries the `Server` header;
setting a body sets `Content-Length` to its byte length.  The error page of a status is a small
HTML document naming the status and describing it, with the cause escaped.

A response is printed as an HTTP/1.0 status line, one line per header, an empty line and the
body.  The *open head* is the status line and the header lines without the empty line: handlers
that produce their own headers continue from there.
-/

namespace Gatehouse.Http

open Gatehouse.Text

/-- The name and version the server gives itself. -/
def serverSoftware : String := "Spade/0.1.0"

/-- A response under construction. -/
structure Response where
  status : Status
  headers : HeaderTable
  body : List UInt8 := []
  deriving DecidableEq, Repr

namespace Response

/-- A response with no body and only the `Server` header. -/
def new (status : Status) : Response :=
  { status, headers := ⟨[("Server", serverSoftware)]⟩ }

/-- Sets a header. -/
def withHeader (r : Response) (name value : String) : Response :=
  { r with headers := r.headers.set name value }

/-- Sets the body and its `Content-Length`. -/
def withBodyBytes (r : Response) (body : List UInt8) : Response :=
  { r with body := body }.withHeader "Content-Length" (toString body.length)

/-- Sets a text body and its `Content-Length`. -/
def withBody (r : Response) (body : String) : Response :=
  r.withBodyBytes (Utf8.encode body)

/-- The value of a header. -/
def header? (r : Response) (name : String) : Option String :=
  r.headers.get? name

/-- The HTML page that reports a status, with an escaped cause. -/
def errorPage (status : Status) (cause : String) : String :=
  "<html><title>Spade Error</title><body bgcolor=\"ffffff\">\r\n"
    ++ toString status.code ++ ": " ++ status.reason ++ "\r\n"
    ++ "<p>" ++ status.description ++ ": " ++ Html.escape cause ++ "\r\n"
    ++ "<hr><em>" ++ serverSoftware ++ "</em>\r\n"
    ++ "</body></html>\r\n"

/-- The error response of a status, with an HTML page naming the cause. -/
def error (status : Status) (cause : String) : Response :=
  ((new status).withHeader "Content-Type" "text/html").withBody (errorPage status cause)

/-- The text of the open head: the status line and one line per header. -/
def openHeadText (r : Response) : String :=
  Version.http10.text ++ " " ++ r.status.display ++ "\r\n"
    ++ String.join (r.headers.entries.map fun (n, v) => n ++ ": " ++ v ++ "\r\n")

/-- The bytes of the open head. -/
def openHead (r : Response) : List UInt8 :=
  Utf8.encode r.openHeadText

/-- The bytes of the head: the open head and an empty line. -/
def head (r : Response) : List UInt8 :=
  r.openHead ++ Utf8.encode "\r\n"

/-- The bytes of the whole response. -/
def toBytes (r : Response) : List UInt8 :=
  r.head ++ r.body

end Response

end Gatehouse.Http
