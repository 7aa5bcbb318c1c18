/-!
# TOML documents

What a TOML text holds once read: values (texts, whole numbers, floats, booleans, dates and
times, arrays and inline tables), and the tables of the document, each entry under a key.
Every key and value remembers where it was written, as a span of byte offsets into the text,
so that a later problem with it can be shown at its place.

A table knows whether it was only implied (by a longer header or a dotted key) and whether a
dotted key made it; an array of tables holds its tables in order.
-/

namespace Gatehouse.Toml

/-- A stretch of the source by byte offsets, `start` included and `stop` excluded. -/
structure Span where
  start : Nat
  stop : Nat
  deriving DecidableEq, Repr

/-- A key as written: its name and its place. -/
structure Key where
  name : String
  span : Span
  deriving DecidableEq, Repr

/-- A value. -/
inductive Value where
  | string (s : String) (span : Span)
  | integer (n : Int) (span : Span)
  | float (f : Float) (span : Span)
  | boolean (b : Bool) (span : Span)
  | datetime (span : Span)
  | array (items : List Value) (span : Span)
  /-- An inline table, or a table that a dotted key made inside one. -/
  | table (entries : List (Key × Value)) (span : Option Span) (implicit : Bool) (dotted : Bool)

namespace Value

/-- Where a value was written. -/
def span? : Value → Option Span
  | .string _ s | .integer _ s | .float _ s | .boolean _ s | .datetime s | .array _ s => some s
  | .table _ s _ _ => s

/-- The name of a value's type, as problems name it. -/
def typeName : Value → String
  | .string .. => "string"
  | .integer .. => "integer"
  | .float .. => "float"
  | .boolean .. => "boolean"
  | .datetime .. => "datetime"
  | .array .. => "array"
  | .table .. => "inline table"

end Value

/-- An entry of a document table. -/
inductive Item where
  | value (v : Value)
  | table (entries : List (Key × Item)) (span : Option Span) (implicit : Bool) (dotted : Bool)
  /-- An array of tables, each an `Item.table`. -/
  | tables (list : List Item) (span : Option Span)

/-- The parts of a document table. -/
structure Table where
  entries : List (Key × Item) := []
  span : Option Span := none
  implicit : Bool := false
  dotted : Bool := false

namespace Table

/-- The table as an entry. -/
def toItem (t : Table) : Item :=
  .table t.entries t.span t.implicit t.dotted

/-- The entry under a name. -/
def get? (t : Table) (name : String) : Option Item :=
  (t.entries.find? (·.1.name == name)).map (·.2)

/-- Whether an entry has this name. -/
def contains (t : Table) (name : String) : Bool :=
  t.entries.any (·.1.name == name)

/-- Replaces the entry under a name in place, or adds it at the end with `key`. -/
def set (t : Table) (key : Key) (item : Item) : Table :=
  if t.contains key.name then
    { t with entries := t.entries.map fun (k, i) => if k.name == key.name then (k, item) else (k, i) }
  else { t with entries := t.entries ++ [(key, item)] }

/-- Removes the entry under a name, keeping the order of the others. -/
def erase (t : Table) (name : String) : Table :=
  { t with entries := t.entries.filter (·.1.name != name) }

end Table

/-- Where an entry was written. -/
def Item.span? : Item → Option Span
  | .value v => v.span?
  | .table _ s _ _ => s
  | .tables _ s => s

end Gatehouse.Toml
