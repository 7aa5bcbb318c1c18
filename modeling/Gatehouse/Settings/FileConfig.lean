import Gatehouse.Toml.Parser
import Gatehouse.Toml.Decode
import Gatehouse.Settings.Error

/-!
# The configuration file

The TOML file that names the server and lists its handlers.  Every field is optional and has a
default; a field the file does not know is an error, as is a value of the wrong type or out of
range.  Handler lists are arrays of tables (`[[cgi_handlers]]`) or arrays of inline tables or
of two-element arrays; entries of a handler table other than its two fields are ignored.

A problem is shown as the TOML reader shows it: the line, a caret under the place, and the
message.
-/

namespace Gatehouse.Settings

open Gatehouse.Toml

/-- A CGI program served at a path; a relative program is found under the CGI root. -/
structure CgiEntry where
  path : String
  handler : String
  deriving DecidableEq, Repr

/-- A builtin module served at a path prefix. -/
structure ModuleEntry where
  path : String
  module : String
  deriving DecidableEq, Repr

/-- A worker endpoint served at a path. -/
structure WorkerEntry where
  path : String
  endpoint : String
  deriving DecidableEq, Repr

/-- What the configuration file says. -/
structure FileConfig where
  port : Option Nat := none
  hostname : String := "localhost"
  staticFilePath : String := "static"
  cgiFilePath : String := "static"
  reverseLookups : Bool := false
  workerTimeoutSecs : Nat := 30
  cgiHandlers : List CgiEntry := []
  moduleHandlers : List ModuleEntry := []
  workerHandlers : List WorkerEntry := []
  deriving DecidableEq, Repr

namespace FileConfig

/-- The field names of the file, in order. -/
def fieldNames : List String :=
  ["port", "hostname", "static_file_path", "cgi_file_path", "reverse_lookups",
    "clay_timeout_secs", "cgi_handlers", "module_handlers", "clay_handlers"]

/-- What a path field expects. -/
def pathText : Decoder String := Decoder.text "path string"

/-- What a name field expects. -/
def plainText : Decoder String := Decoder.text "a string"

/-- The CGI handler list. -/
def cgiList : Decoder (List CgiEntry) :=
  Decoder.sequence fun i =>
    (Decoder.pair "CgiEntry" "path" "handler" plainText pathText i).map fun (p, h) => ⟨p, h⟩

/-- The module handler list. -/
def moduleList : Decoder (List ModuleEntry) :=
  Decoder.sequence fun i =>
    (Decoder.pair "ModuleEntry" "path" "module" plainText plainText i).map fun (p, m) => ⟨p, m⟩

/-- The worker handler list. -/
def workerList : Decoder (List WorkerEntry) :=
  Decoder.sequence fun i =>
    (Decoder.pair "ClayEntry" "path" "endpoint" plainText pathText i).map fun (p, e) => ⟨p, e⟩

/-- Sets one field of the configuration from its entry. -/
def setField (c : FileConfig) (key : Key) (i : Item) : Except DecodeError FileConfig :=
  let name := key.name
  if name == "port" then
    (Decoder.field (Decoder.unsigned 16 "u16") key i).map fun p => { c with port := some p }
  else if name == "hostname" then
    (Decoder.field plainText key i).map fun h => { c with hostname := h }
  else if name == "static_file_path" then
    (Decoder.field pathText key i).map fun p => { c with staticFilePath := p }
  else if name == "cgi_file_path" then
    (Decoder.field pathText key i).map fun p => { c with cgiFilePath := p }
  else if name == "reverse_lookups" then
    (Decoder.field Decoder.boolean key i).map fun b => { c with reverseLookups := b }
  else if name == "clay_timeout_secs" then
    (Decoder.field (Decoder.unsigned 64 "u64") key i).map fun n => { c with workerTimeoutSecs := n }
  else if name == "cgi_handlers" then
    (Decoder.field cgiList key i).map fun l => { c with cgiHandlers := l }
  else if name == "module_handlers" then
    (Decoder.field moduleList key i).map fun l => { c with moduleHandlers := l }
  else if name == "clay_handlers" then
    (Decoder.field workerList key i).map fun l => { c with workerHandlers := l }
  else .error { DecodeError.unknownField name fieldNames with span := some key.span }

/-- The configuration a document table describes, its entries read in order. -/
def ofTable (t : Table) : Except DecodeError FileConfig :=
  t.entries.foldlM (fun c (k, i) => setField c k i) {}

/-- Reads the configuration file's text. -/
def parse (text : String) : Except ServerError FileConfig :=
  match parseDocument text with
  | .error p => .error (.config (p.render text))
  | .ok t =>
    match ofTable t with
    | .ok c => .ok c
    | .error e => .error (.config (Problem.render ⟨e.message, e.span⟩ text))

end FileConfig

end Gatehouse.Settings
