/-!
# Response status

The four statuses the server emits, with their codes, reason phrases and the sentences the
error page uses to describe them.
-/

namespace Gatehouse.Http

/-- A status the server can answer with. -/
inductive Status where
  | ok
  | forbidden
  | notFound
  | notImplemented
  deriving DecidableEq, Repr

namespace Status

/-- The numeric code of a status. -/
def code : Status → Nat
  | .ok => 200
  | .forbidden => 403
  | .notFound => 404
  | .notImplemented => 501

/-- The status with this code, if the server emits it. -/
def ofCode? : Nat → Option Status
  | 200 => some .ok
  | 403 => some .forbidden
  | 404 => some .notFound
  | 501 => some .notImplemented
  | _ => none

/-- The reason phrase of a status. -/
def reason : Status → String
  | .ok => "OK"
  | .forbidden => "Forbidden"
  | .notFound => "Not Found"
  | .notImplemented => "Not Implemented"

/-- The sentence that describes a status on the error page. -/
def description : Status → String
  | .ok => "Request served"
  | .forbidden => "The server is not allowed to serve this resource"
  | .notFound => "The server could not find this resource"
  | .notImplemented => "The server does not implement this method"

/-- Whether the status reports success. -/
def isSuccess (s : Status) : Bool :=
  s == .ok

/-- Whether the code lies in the 4xx class. -/
def isClientError (s : Status) : Bool :=
  400 ≤ s.code && s.code < 500

/-- Whether the code lies in the 5xx class. -/
def isServerError (s : Status) : Bool :=
  500 ≤ s.code && s.code < 600

/-- The code and the reason phrase, as in a status line. -/
def display (s : Status) : String :=
  toString s.code ++ " " ++ s.reason

@[simp]
theorem ofCode?_code (s : Status) : ofCode? s.code = some s := by
  cases s <;> rfl

end Status

end Gatehouse.Http
