import Mathlib
import Gatehouse.Server.Connection
import Gatehouse.Proofs.ResponseFraming
import Gatehouse.Proofs.SeparatorSplitting
import Gatehouse.Proofs.StaticResolution

/-!
# What a connection is answered with

The server answers one request per connection (`handleConnection`).  Whatever handlers are
registered:

* a stream that holds no request, and an invalid request, are closed with nothing written;
* a valid request with a method other than `GET` gets exactly the 501 page naming the method;
* a `GET` that the server answers by itself — from the static files, for a CGI program that is
  missing or cannot be run when the request comes, or from a builtin module — gets exactly one
  response as a client reads it (`Framed`): a valid HTTP/1.0 head with the status the handler
  reports, `Server` as its first header, and a `Content-Length` that counts the bytes after the
  head.

Three producers write these bytes, each computing its own length: the printed error page, the
head of a static file followed by the file, and the open head followed by a module's own
headers and body.  Each is the printed form of a response whose headers print as lines that
read back, so `Response.parse_toBytes` reads all three.

The adder is the exception: a sum outside 64 bits faults after the open head is written, and
the client gets a head with no `Content-Length` and no end (`handleConnection_adder_overflow`).

Every count of bytes written is a machine word, below `2 ^ 64`.

Main statement: `handleConnection_answers`.
-/

namespace Gatehouse.Http

namespace Response

theorem find?_headerList (r : Response) (key : String) :
    (r.headerList.find? (·.key == key)).map (·.value) = r.header? key := by
  simp only [headerList, List.find?_map, header?, HeaderTable.get?, Option.map_map]
  rfl

theorem header?_withBodyBytes (r : Response) (body : List UInt8) :
    (r.withBodyBytes body).header? "Content-Length" =
      some (toString (r.withBodyBytes body).body.length) :=
  HeaderTable.get?_set_self _ _ _

theorem length_body_le (r : Response) : r.body.length ≤ r.toBytes.length := by
  simp [toBytes]

theorem toBytes_with_body (r : Response) (body : List UInt8) :
    ({ r with body := body } : Response).toBytes = r.head ++ body :=
  rfl

theorem head?_new (status : Status) :
    (new status).headers.entries.head? = some ("Server", serverSoftware) :=
  rfl

end Response

end Gatehouse.Http

namespace Gatehouse.Server

open Gatehouse.Http
open Gatehouse.Files
open Gatehouse.Gateway
open Gatehouse.Routing
open Gatehouse.Text

/-! ## One response, as a client reads it -/

/-- Bytes that a client reads as exactly one response with this status: a valid HTTP/1.0 head
with the status's code, `Server` as its first header, and a `Content-Length` that counts the
bytes after the head. -/
structure Framed (bytes : List UInt8) (status : Status) : Prop where
  valid : (ResponseHead.parse bytes).1.valid = true
  version : (ResponseHead.parse bytes).1.version = some .http10
  code : (ResponseHead.parse bytes).1.status = status.code
  server_first : (ResponseHead.parse bytes).1.headers.head? = some ⟨"Server", serverSoftware⟩
  offset_le : (ResponseHead.parse bytes).2 ≤ bytes.length
  counted : (ResponseHead.parse bytes).1.header? "Content-Length" =
    some (toString (bytes.length - (ResponseHead.parse bytes).2))

/-- A printed response is read as one response when its headers print as lines that read back,
`Server` comes first and `Content-Length` is the length of its body. -/
theorem framed_toBytes {r : Response} (printable : r.Printable)
    (server : r.headers.entries.head? = some ("Server", serverSoftware))
    (counted : r.header? "Content-Length" = some (toString r.body.length)) :
    Framed r.toBytes r.status := by
  have read := Response.parse_toBytes printable
  have bodyLength : r.toBytes.length - r.head.length = r.body.length := by
    simp [Response.toBytes]
  constructor
  · rw [read]
    have valid := ResponseHead.valid_ofStatusLine_statusLine r.status
    rw [ResponseHead.ofStatusLine_statusLine] at valid
    exact valid
  · rw [read]
  · rw [read]
  · rw [read]
    simp [Response.headerList, server]
  · rw [read]
    simp [Response.toBytes]
  · rw [read]
    dsimp only
    rw [bodyLength, ← counted]
    exact Response.find?_headerList r "Content-Length"

/-! ## The three producers -/

theorem printable_contentType {value : String}
    (known : value = "text/html" ∨ value = "text/plain" ∨ value = "image/gif" ∨
      value = "image/jpeg") :
    Header.Printable ⟨"Content-Type", value⟩ := by
  rcases known with rfl | rfl | rfl | rfl <;>
    exact ⟨by decide, by decide, by decide, by decide, by decide, by simp [Blank.isBlank],
      by decide, by decide⟩

theorem contentType_known (path : String) :
    contentType path = "text/html" ∨ contentType path = "text/plain" ∨
      contentType path = "image/gif" ∨ contentType path = "image/jpeg" := by
  unfold contentType
  split <;> simp

/-- A response of a known content type with a text body is read as one response with its
status. -/
theorem framed_withBody (status : Status) {contentType : String}
    (known : contentType = "text/html" ∨ contentType = "text/plain") (body : String)
    (fits : (((Response.new status).withHeader "Content-Type" contentType).withBody
      body).toBytes.length < 2 ^ 64) :
    Framed (((Response.new status).withHeader "Content-Type" contentType).withBody body).toBytes
      status := by
  have built : ((Response.new status).withHeader "Content-Type" contentType).withBody body =
      Response.build status [.header "Content-Type" contentType, .body body] := rfl
  have bytes : (((Response.new status).withHeader "Content-Type" contentType).withBody
      body).body = Utf8.encode body := by
    simp only [Response.withBody, Response.withBodyBytes, Response.withHeader]
  have bodyFits : (Utf8.encode body).length < 2 ^ 64 := by
    rw [← bytes]
    exact lt_of_le_of_lt (Response.length_body_le _) fits
  have printable : (((Response.new status).withHeader "Content-Type" contentType).withBody
      body).Printable := by
    rw [built]
    apply Response.printable_build
    intro step member
    simp only [List.mem_cons, List.not_mem_nil, or_false] at member
    rcases member with rfl | rfl
    · rcases known with rfl | rfl
      · exact printable_contentType (.inl rfl)
      · exact printable_contentType (.inr (.inl rfl))
    · exact bodyFits
  have server := HeaderTable.head?_set_of_ne
    (HeaderTable.head?_set_of_ne (Response.head?_new status) "Content-Type" contentType
      (by decide))
    "Content-Length" (toString (Utf8.encode body).length) (by decide)
  exact framed_toBytes printable server (Response.header?_withBodyBytes _ _)

theorem framed_error (status : Status) (cause : String)
    (fits : (Response.error status cause).toBytes.length < 2 ^ 64) :
    Framed (Response.error status cause).toBytes status :=
  framed_withBody status (.inl rfl) (Response.errorPage status cause) fits

/-- What the static files answer is read as one response with the status they report. -/
theorem framed_serve (fs : FileSystem) (root requestPath : String)
    (fits : (serve fs root requestPath).2.length < 2 ^ 64) :
    Framed (serve fs root requestPath).2 (serve fs root requestPath).1 := by
  cases found : resolve fs root requestPath with
  | forbidden =>
    rw [serve_of_forbidden found] at fits ⊢
    exact framed_error _ _ fits
  | notFound =>
    rw [serve_of_notFound found] at fits ⊢
    exact framed_error _ _ fits
  | found path size =>
    cases opened : fs.openToRead path with
    | error refusal =>
      rw [serve_of_open_refused found opened] at fits ⊢
      exact framed_error _ _ fits
    | ok file =>
      rw [serve_of_opened found opened] at fits ⊢
      obtain ⟨-, -, -, -, found', named, regular, -, sized⟩ := found_of_resolve found
      have same : found' = file := by
        rw [FileSystem.lookup_of_openToRead opened] at named
        exact (Except.ok.inj named).symm
      subst same
      have length : found'.bytes.length = size := by
        rw [Node.length_bytes_of_isFile regular, sized]
      rw [← Response.toBytes_with_body] at fits ⊢
      have bodyFits : size < 2 ^ 64 := by
        rw [← length]
        exact lt_of_le_of_lt (Response.length_body_le ⟨_, _, found'.bytes⟩) fits
      apply framed_toBytes
      · exact ((Response.printable_new .ok).withHeader
          (Response.printable_contentLength bodyFits)).withHeader
            (printable_contentType (contentType_known path))
      · exact HeaderTable.head?_set_of_ne
          (HeaderTable.head?_set_of_ne (Response.head?_new .ok) "Content-Length" (toString size)
            (by decide))
          "Content-Type" (contentType path) (by decide)
      · show (((Response.new .ok).headers.set "Content-Length" (toString size)).set
          "Content-Type" (contentType path)).get? "Content-Length" =
            some (toString found'.bytes.length)
        rw [HeaderTable.get?_set_of_ne _ (by decide : "Content-Length" ≠ "Content-Type"),
          HeaderTable.get?_set_self, length]

theorem entries_reply (contentType body : String) :
    (((Response.new .ok).withHeader "Content-Type" contentType).withBody body).headers.entries =
      [("Server", serverSoftware), ("Content-Type", contentType),
        ("Content-Length", toString (Utf8.encode body).length)] := by
  simp [Response.withBody, Response.withBodyBytes, Response.withHeader, Response.new,
    HeaderTable.set, HeaderTable.setEntry]

theorem toBytes_reply (contentType body : String) :
    (((Response.new .ok).withHeader "Content-Type" contentType).withBody body).toBytes =
      openHeadBytes ++ replyWithBody contentType body := by
  have text : Response.openHeadText
      (((Response.new .ok).withHeader "Content-Type" contentType).withBody body) ++ "\r\n" ++
        body =
      Response.openHeadText (Response.new .ok) ++ ("Content-Type: " ++ contentType ++
        "\r\nContent-Length: " ++ toString (Utf8.encode body).length ++ "\r\n\r\n" ++ body) := by
    simp only [Response.openHeadText, entries_reply]
    rw [show "Content-Type: " = "Content-Type" ++ ": " from rfl,
      show "\r\nContent-Length: " = "\r\n" ++ ("Content-Length" ++ ": ") from rfl,
      show "\r\n\r\n" = "\r\n" ++ "\r\n" from rfl]
    simp only [Response.new, Response.withBody, Response.withBodyBytes, Response.withHeader,
      List.map_cons, List.map_nil, String.join_cons, String.join_nil, String.append_empty,
      String.append_assoc, -String.reduceAppend]
  have bytes : (((Response.new .ok).withHeader "Content-Type" contentType).withBody body).body =
      Utf8.encode body := by
    simp only [Response.withBody, Response.withBodyBytes, Response.withHeader]
  rw [Response.toBytes, Response.head, Response.openHead, openHeadBytes, replyWithBody,
    Response.openHead, bytes, ← Utf8.encode_append, ← Utf8.encode_append,
    ← Utf8.encode_append, text]

theorem framed_reply {contentType : String}
    (known : contentType = "text/html" ∨ contentType = "text/plain") (body : String)
    (fits : (openHeadBytes ++ replyWithBody contentType body).length < 2 ^ 64) :
    Framed (openHeadBytes ++ replyWithBody contentType body) .ok := by
  rw [← toBytes_reply] at fits ⊢
  exact framed_withBody .ok known body fits

/-- What a builtin module writes after the open head, when it does not fault: a content type,
the length of its body, an empty line and the body. -/
theorem reply_eq_replyWithBody {m : Module} {v : Variables} {reply : List UInt8}
    (written : m.reply v = some reply) :
    ∃ contentType body, (contentType = "text/html" ∨ contentType = "text/plain") ∧
      reply = replyWithBody contentType body := by
  cases m with
  | adder =>
    simp only [Module.reply, adderReply, Option.map_eq_some_iff] at written
    obtain ⟨sum, -, rfl⟩ := written
    exact ⟨_, _, .inl rfl, rfl⟩
  | echo =>
    simp only [Module.reply, Option.some.injEq] at written
    exact ⟨_, _, .inr rfl, written.symm⟩

/-! ## Serving a connection -/

/-- The routes on which the server writes a `GET`'s whole answer itself: the static files, a
CGI program that is missing or cannot be run when the request comes, and the builtin modules;
the adder only while its sum stays within 64 bits. -/
def AnswersItself (c : Context) (env : Surroundings) (r : Request) : Prop :=
  match c.registry.lookup r.path with
  | .static => True
  | .cgi route => checkExecutable env.files route.executable ≠ .ready
  | .module route =>
    route.module = .echo ∨ (addValues (c.variablesFor r route.path).queryString).isSome
  | .worker _ => False

theorem reply_isSome {m : Module} {v : Variables}
    (noFault : m = .echo ∨ (addValues v.queryString).isSome) : (m.reply v).isSome := by
  cases m with
  | adder =>
    simp only [reduceCtorEq, false_or] at noFault
    simpa [Module.reply, adderReply] using noFault
  | echo => rfl

/-- A `GET` on a route the server answers itself is answered with one response. -/
theorem dispatch_framed {c : Context} {env : Surroundings} {r : Request}
    (answers : AnswersItself c env r) (fits : (dispatch c env r).written.length < 2 ^ 64) :
    ∃ bytes status, dispatch c env r = .answered bytes status ∧ Framed bytes status := by
  unfold AnswersItself at answers
  unfold dispatch at fits ⊢
  cases route : c.registry.lookup r.path with
  | static =>
    simp only [route] at fits ⊢
    have framed := framed_serve env.files c.staticRoot r.path
    cases served : serve env.files c.staticRoot r.path with
    | mk status bytes =>
      rw [served] at framed fits
      exact ⟨bytes, status, rfl, framed fits⟩
  | cgi cgiRoute =>
    simp only [route] at answers fits ⊢
    unfold serveCgi at fits ⊢
    cases ready : checkExecutable env.files cgiRoute.executable with
    | ready => exact absurd ready answers
    | missing =>
      simp only [ready] at fits ⊢
      exact ⟨_, _, rfl, framed_error _ _ fits⟩
    | notRunnable =>
      simp only [ready] at fits ⊢
      exact ⟨_, _, rfl, framed_error _ _ fits⟩
  | worker workerRoute =>
    simp only [route] at answers
  | module moduleRoute =>
    simp only [route] at answers fits ⊢
    obtain ⟨reply, written⟩ := Option.isSome_iff_exists.mp (reply_isSome answers)
    simp only [written] at fits ⊢
    obtain ⟨contentType, body, known, rfl⟩ := reply_eq_replyWithBody written
    exact ⟨_, _, rfl, framed_reply known body fits⟩

theorem stamp_eq (c : Context) (env : Surroundings) (r : Request) :
    ∃ host, c.stamp env r = { r with remoteAddress := env.peer, remoteHost := host } := by
  unfold Context.stamp
  split_ifs
  · split
    · exact ⟨_, rfl⟩
    · exact ⟨r.remoteHost, rfl⟩
  · exact ⟨r.remoteHost, rfl⟩

@[simp]
theorem valid_stamp (c : Context) (env : Surroundings) (r : Request) :
    (c.stamp env r).valid = r.valid := by
  obtain ⟨host, stamped⟩ := stamp_eq c env r
  rw [stamped]
  rfl

@[simp]
theorem path_stamp (c : Context) (env : Surroundings) (r : Request) :
    (c.stamp env r).path = r.path := by
  obtain ⟨host, stamped⟩ := stamp_eq c env r
  rw [stamped]
  rfl

@[simp]
theorem query_stamp (c : Context) (env : Surroundings) (r : Request) :
    (c.stamp env r).query = r.query := by
  obtain ⟨host, stamped⟩ := stamp_eq c env r
  rw [stamped]
  rfl

@[simp]
theorem method_stamp (c : Context) (env : Surroundings) (r : Request) :
    (c.stamp env r).method = r.method := by
  obtain ⟨host, stamped⟩ := stamp_eq c env r
  rw [stamped]

/-- A connection is served by the request read from it, as the server sees it. -/
theorem handleConnection_of_read? {c : Context} {env : Surroundings} {received : List UInt8}
    {r : Request} {rest : List UInt8} (read : Request.read? received = some (r, rest)) :
    handleConnection c env received =
      if !r.valid then .silent
      else if r.method != some .get then errorAnswer .notImplemented (Method.textOf r.method)
      else dispatch c env (c.stamp env r) := by
  simp only [handleConnection, read, valid_stamp, method_stamp]

theorem handleConnection_of_get {c : Context} {env : Surroundings} {received : List UInt8}
    {r : Request} {rest : List UInt8} (read : Request.read? received = some (r, rest))
    (valid : r.valid = true) (get : r.method = some .get) :
    handleConnection c env received = dispatch c env (c.stamp env r) := by
  rw [handleConnection_of_read? read]
  simp only [valid, get, Bool.not_true, bne_self_eq_false, Bool.false_eq_true, if_false]

/-- What a connection is answered with, for every byte stream and every registry: nothing when
no request or an invalid one arrives; exactly the 501 page naming the method for a valid request
other than `GET`; and, for a `GET` the server answers itself, one response as a client reads it,
with the status the handler reports. -/
theorem handleConnection_answers (c : Context) (env : Surroundings) (received : List UInt8) :
    (received = [] → handleConnection c env received = .silent) ∧
      ∀ r rest, Request.read? received = some (r, rest) →
        (r.valid = false → handleConnection c env received = .silent) ∧
        (r.valid = true → r.method ≠ some .get →
          handleConnection c env received =
            .answered (Response.error .notImplemented (Method.textOf r.method)).toBytes
              .notImplemented) ∧
        (r.valid = true → r.method = some .get → AnswersItself c env (c.stamp env r) →
          (handleConnection c env received).written.length < 2 ^ 64 →
          ∃ bytes status, handleConnection c env received = .answered bytes status ∧
            Framed bytes status) := by
  refine ⟨?_, fun r rest read => ⟨?_, ?_, ?_⟩⟩
  · rintro rfl
    rfl
  · intro invalid
    simp [handleConnection_of_read? read, invalid]
  · intro valid other
    simp [handleConnection_of_read? read, valid, other, errorAnswer]
  · intro valid get answers fits
    rw [handleConnection_of_get read valid get] at fits ⊢
    exact dispatch_framed answers fits

/-! ## Sample connections -/

/-- A server with the adder at `/add`. -/
def adderServer : Context :=
  ⟨"spade", 8080, "www", false, { modules := [⟨"/add", .adder⟩] }⟩

/-- A client at the loopback address, with no files, programs or workers around. -/
def loopbackClient : Surroundings :=
  ⟨⟨fun _ => .error .notFound, fun _ => none⟩, "127.0.0.1", none, fun _ _ => [], fun _ => false⟩

theorem read?_eq_some_parse {bytes : List UInt8} (present : (Request.read? bytes).isSome = true) :
    ∃ rest, Request.read? bytes = some (Request.parse bytes, rest) := by
  obtain ⟨⟨r, rest⟩, read⟩ := Option.isSome_iff_exists.mp present
  exact ⟨rest, by simp [Request.parse, read]⟩

/-- A request for the index page. -/
def fileRequest : List UInt8 :=
  Utf8.encode "GET /index.html HTTP/1.0\r\n\r\n"

/-- With no files around, a `GET` for a static file is answered by the server itself, with one
response. -/
theorem handleConnection_answers_missing_file :
    ∃ bytes status, handleConnection adderServer loopbackClient fileRequest =
      .answered bytes status ∧ Framed bytes status := by
  obtain ⟨rest, read⟩ := @read?_eq_some_parse fileRequest (by decide +kernel)
  have facts : (Request.parse fileRequest).valid = true ∧
      (Request.parse fileRequest).method = some .get ∧
      (Request.parse fileRequest).path = "/index.html" := by
    decide +kernel
  obtain ⟨valid, get, path⟩ := facts
  have route : adderServer.registry.lookup "/index.html" = .static := by
    decide
  have answers : AnswersItself adderServer loopbackClient
      (adderServer.stamp loopbackClient (Request.parse fileRequest)) := by
    simp only [AnswersItself, path_stamp, path, route]
  have relative : Path.dropLeadingSlashes "/index.html" = "index.html" := by
    decide +kernel
  have served : serve loopbackClient.files adderServer.staticRoot "/index.html" =
      (.notFound, (Response.error .notFound "/index.html").toBytes) :=
    serve_of_notFound (resolve_eq_notFound_iff.mpr
      ⟨relative ▸ Path.hasParent_index, .inl ⟨.notFound, rfl⟩⟩)
  have fits : (handleConnection adderServer loopbackClient fileRequest).written.length < 2 ^ 64 := by
    rw [handleConnection_of_get read valid get]
    simp only [dispatch, path_stamp, path, route, served, Outcome.written]
    decide +kernel
  exact ((handleConnection_answers adderServer loopbackClient fileRequest).2 _ rest read).2.2
    valid get answers fits

/-! ## The adder past 64 bits -/

theorem splitOn_overflowQuery :
    "value=9223372036854775807&value=1".splitOn "&" =
      ["value=9223372036854775807", "value=1"] := by
  rw [show "&" = String.singleton '&' from rfl, Text.splitOn_singleton]
  decide +kernel

/-- A request to add `2^63 - 1` and `1`. -/
def overflowRequest : List UInt8 :=
  Utf8.encode "GET /add?value=9223372036854775807&value=1 HTTP/1.0\r\n\r\n"

/-- A valid `GET` for the adder whose sum leaves 64 bits: the adder faults after the open head
is written, and what the client gets has no `Content-Length` and no end — no response at all. -/
theorem handleConnection_adder_overflow :
    (Request.parse overflowRequest).valid = true ∧
      (Request.parse overflowRequest).method = some .get ∧
      adderServer.registry.lookup (Request.parse overflowRequest).path =
        .module ⟨"/add", .adder⟩ ∧
      handleConnection adderServer loopbackClient overflowRequest = .faulted openHeadBytes ∧
      (ResponseHead.parse openHeadBytes).1.header? "Content-Length" = none ∧
      ¬ ∃ bytes status, handleConnection adderServer loopbackClient overflowRequest =
        .answered bytes status ∧ Framed bytes status := by
  have operands : adderOperands "value=9223372036854775807&value=1" =
      ["9223372036854775807", "1"] := by
    rw [adderOperands, splitOn_overflowQuery]
    decide +kernel
  have overflow : addValues "value=9223372036854775807&value=1" = none := by
    rw [addValues, operands]
    decide +kernel
  obtain ⟨rest, read⟩ := @read?_eq_some_parse overflowRequest (by decide +kernel)
  have facts : (Request.parse overflowRequest).valid = true ∧
      (Request.parse overflowRequest).method = some .get ∧
      (Request.parse overflowRequest).path = "/add" ∧
      (Request.parse overflowRequest).query = "value=9223372036854775807&value=1" := by
    decide +kernel
  obtain ⟨valid, get, path, query⟩ := facts
  have route : adderServer.registry.lookup "/add" = .module ⟨"/add", .adder⟩ := by
    decide
  have faulted : handleConnection adderServer loopbackClient overflowRequest =
      .faulted openHeadBytes := by
    rw [handleConnection_of_get read valid get]
    simp [dispatch, path, route, Module.reply, adderReply, Context.variablesFor,
      Variables.build, query, overflow]
  refine ⟨valid, get, path ▸ route, faulted, by decide +kernel, ?_⟩
  rintro ⟨bytes, status, answered, -⟩
  rw [faulted] at answered
  cases answered

end Gatehouse.Server
