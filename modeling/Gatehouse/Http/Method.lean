/-!
# Request methods and protocol versions

The six methods the server recognises and the two versions of HTTP/1.x.  A request line whose
word is none of these records the absence (`Option.none`): the method is then printed as the
empty text and the version as `HTTP/NONE`.
-/

namespace Gatehouse.Http

/-- A request method the server recognises. -/
inductive Method where
  | get
  | head
  | options
  | post
  | put
  | delete
  deriving DecidableEq, Repr

namespace Method

/-- The method named by a word; the match is exact and case-sensitive. -/
def ofText? : String → Option Method
  | "GET" => some .get
  | "HEAD" => some .head
  | "OPTIONS" => some .options
  | "POST" => some .post
  | "PUT" => some .put
  | "DELETE" => some .delete
  | _ => none

/-- The word of a method. -/
def text : Method → String
  | .get => "GET"
  | .head => "HEAD"
  | .options => "OPTIONS"
  | .post => "POST"
  | .put => "PUT"
  | .delete => "DELETE"

/-- The word of a possibly unrecognised method: the empty text stands for none. -/
def textOf : Option Method → String
  | some m => m.text
  | none => ""

@[simp]
theorem ofText?_text (m : Method) : ofText? m.text = some m := by
  cases m <;> rfl

end Method

/-- A protocol version of HTTP/1.x. -/
inductive Version where
  | http10
  | http11
  deriving DecidableEq, Repr

namespace Version

/-- The version named by a word; the match is exact. -/
def ofText? : String → Option Version
  | "HTTP/1.0" => some .http10
  | "HTTP/1.1" => some .http11
  | _ => none

/-- The word of a version. -/
def text : Version → String
  | .http10 => "HTTP/1.0"
  | .http11 => "HTTP/1.1"

/-- The word of a possibly unrecognised version: `HTTP/NONE` stands for none. -/
def textOf : Option Version → String
  | some v => v.text
  | none => "HTTP/NONE"

@[simp]
theorem ofText?_text (v : Version) : ofText? v.text = some v := by
  cases v <;> rfl

end Version

end Gatehouse.Http
