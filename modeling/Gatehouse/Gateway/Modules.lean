import Gatehouse.Gateway.Variables
import Gatehouse.Text.Blank
import Gatehouse.Text.Numeral
import Gatehouse.Text.Utf8

/-!
# Builtin modules

Handlers that run inside the server.  The adder sums the first two `value=` fields of the query
string, each trimmed and read as a 64-bit signed numeral, or 0 when it is not one; the sum is
computed in 64-bit arithmetic, and a sum outside that range is a fault.  The echo module lists
the gateway variables.  Both answer with their own headers after the open head: a content type,
the content length and an empty line, then the body.

The catalog names the modules by name; its names are listed in sorted order.  A catalog may in
general hold any handler under any name, but the server builds only the builtin one, at
startup; so a module here is one of the two builtin handlers, and a catalog is a lookup from
names to them (`Routing.Registry.registerModuleFrom`).
-/

namespace Gatehouse.Gateway

open Gatehouse.Text

/-- A module the server can run in-process. -/
inductive Module where
  | adder
  | echo
  deriving DecidableEq, Repr

namespace Module

/-- The catalog name of a module. -/
def name : Module → String
  | .adder => "adder"
  | .echo => "echo"

/-- The module with a catalog name. -/
def byName? : String → Option Module
  | "adder" => some .adder
  | "echo" => some .echo
  | _ => none

/-- The names of the builtin modules, in sorted order. -/
def catalogNames : List String := ["adder", "echo"]

@[simp]
theorem byName?_name (m : Module) : byName? m.name = some m := by
  cases m <;> rfl

end Module

/-- The operands of the adder: the values of the first two fields of the query that begin
with `value=`, in order. -/
def adderOperands (query : String) : List String :=
  ((query.splitOn "&").filterMap fun field =>
    if field.startsWith "value=" then some (String.ofList (field.toList.drop 6)) else none).take 2

/-- The value of one operand: the trimmed text read as a 64-bit numeral, or 0. -/
def operandValue (text : String) : Int :=
  match Numeral.readI64 (Blank.trim text) with
  | .ok n => n
  | .error _ => 0

/-- The adder's sum, added left to right from 0 in 64-bit arithmetic; `none` when an addition
leaves the 64-bit range. -/
def addValues (query : String) : Option Int :=
  (adderOperands query).foldlM (fun acc text =>
    let next := acc + operandValue text
    if Numeral.fitsI64 next then some next else none) 0

/-- A handler's reply after the open head: its content type, the length of the body, an empty
line and the body. -/
def replyWithBody (contentType body : String) : List UInt8 :=
  Utf8.encode ("Content-Type: " ++ contentType ++ "\r\nContent-Length: "
    ++ toString (Utf8.encode body).length ++ "\r\n\r\n" ++ body)

/-- The adder's reply to a query; `none` when the sum overflows. -/
def adderReply (query : String) : Option (List UInt8) :=
  (addValues query).map fun sum => replyWithBody "text/html" (Numeral.intText sum ++ "\r\n")

/-- The echo module's reply: one `NAME=value` line per variable. -/
def echoReply (v : Variables) : List UInt8 :=
  replyWithBody "text/plain" (String.join (v.toEnv.map fun (n, x) => n ++ "=" ++ x ++ "\r\n"))

/-- What a module writes for a request; `none` when it faults. -/
def Module.reply : Module → Variables → Option (List UInt8)
  | .adder, v => adderReply v.queryString
  | .echo, v => some (echoReply v)

end Gatehouse.Gateway
