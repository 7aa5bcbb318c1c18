import Gatehouse.Toml.Syntax
import Gatehouse.Toml.Failure
import Gatehouse.Decimal.Shortest
import Gatehouse.Text.Quoted

/-!
# Decoding TOML values into records

Turns the entries of a read document into typed fields.  A decoding problem says what was
found and what was expected, in fixed words: a found value is named by its type and, for
scalars, its text (`integer 1`, `string "x"`); tables, inline tables and dates are all a
`map`, and arrays of either kind a `sequence`.

A problem remembers the span of the innermost value it is about.  A value without a span of its
own (a table that a dotted key implied) gives the span of its key instead.
-/

namespace Gatehouse.Toml

open Gatehouse.Decimal
open Gatehouse.Text

/-- A problem met while decoding, with the span it is about once known. -/
structure DecodeError where
  message : String
  span : Option Span := none
  deriving DecidableEq, Repr

namespace DecodeError

/-- The problem placed at `span` unless it has a place already. -/
def placed (e : DecodeError) (span : Option Span) : DecodeError :=
  match e.span with
  | some _ => e
  | none => { e with span := span }

/-- A value of the wrong type. -/
def invalidType (found expected : String) : DecodeError :=
  ⟨"invalid type: " ++ found ++ ", expected " ++ expected, none⟩

/-- A value of the right type out of range. -/
def invalidValue (found expected : String) : DecodeError :=
  ⟨"invalid value: " ++ found ++ ", expected " ++ expected, none⟩

/-- A sequence too short for a record. -/
def invalidLength (length : Nat) (expected : String) : DecodeError :=
  ⟨"invalid length " ++ toString length ++ ", expected " ++ expected, none⟩

/-- A record without one of its fields. -/
def missingField (field : String) : DecodeError :=
  ⟨"missing field `" ++ field ++ "`", none⟩

/-- The names of fields, as a problem lists them. -/
def fieldList (fields : List String) : String :=
  match fields with
  | [] => "there are no fields"
  | [f] => "expected `" ++ f ++ "`"
  | _ => "expected one of " ++ ", ".intercalate (fields.map fun f => "`" ++ f ++ "`")

/-- A field name that the record does not have. -/
def unknownField (field : String) (fields : List String) : DecodeError :=
  ⟨"unknown field `" ++ field ++ "`, " ++ fieldList fields, none⟩

end DecodeError

/-- The text of a float as a problem shows it: all its digits, with `.0` on a finite whole
number. -/
def floatMention (f : Float) : String :=
  let t := positional.text f
  if f.isFinite && !t.contains '.' then t ++ ".0" else t

/-- How a problem names a value it did not expect. -/
def Value.mention : Value → String
  | .string s _ => "string " ++ Quoted.quote s
  | .integer n _ => "integer `" ++ toString n ++ "`"
  | .float f _ => "floating point `" ++ floatMention f ++ "`"
  | .boolean b _ => "boolean `" ++ toString b ++ "`"
  | .datetime _ => "map"
  | .array .. => "sequence"
  | .table .. => "map"

/-- How a problem names an entry it did not expect. -/
def Item.mention : Item → String
  | .value v => v.mention
  | .table .. => "map"
  | .tables .. => "sequence"

/-- The entries of an entry read as a record.  A date reads as a record whose one entry no
record field matches. -/
def Item.fields? : Item → Option (List (Key × Item))
  | .table es _ _ _ => some es
  | .value (.table es _ _ _) => some (es.map fun (k, v) => (k, .value v))
  | .value (.datetime _) => some []
  | _ => none

/-- The elements of an entry read as a sequence. -/
def Item.elements? : Item → Option (List Item)
  | .tables list _ => some list
  | .value (.array items _) => some (items.map .value)
  | _ => none

/-- A decoder of one entry. -/
abbrev Decoder (α : Type) := Item → Except DecodeError α

namespace Decoder

/-- A decoder whose problems are placed at the entry it decodes, when they have no place. -/
def placed {α : Type} (d : Decoder α) : Decoder α := fun i =>
  match d i with
  | .ok a => .ok a
  | .error e => .error (e.placed i.span?)

/-- The field of `key`: problems go to the value, or to the key when the value has no span. -/
def field {α : Type} (d : Decoder α) (key : Key) (i : Item) : Except DecodeError α :=
  match d.placed i with
  | .ok a => .ok a
  | .error e => .error (e.placed (some key.span))

/-- A text; `expected` names what kind of text. -/
def text (expected : String) : Decoder String
  | .value (.string s _) => .ok s
  | i => .error (.invalidType i.mention expected)

/-- A boolean. -/
def boolean : Decoder Bool
  | .value (.boolean b _) => .ok b
  | i => .error (.invalidType i.mention "a boolean")

/-- A whole number below `2 ^ bits`, named `expected`. -/
def unsigned (bits : Nat) (expected : String) : Decoder Nat
  | .value (.integer n _) =>
    if 0 ≤ n ∧ n < ((Nat.pow 2 bits : Nat) : Int) then .ok n.toNat
    else .error (.invalidValue ("integer `" ++ toString n ++ "`") expected)
  | i => .error (.invalidType i.mention expected)

/-- A sequence of elements, each decoded in order. -/
def sequence {α : Type} (d : Decoder α) : Decoder (List α) := fun i =>
  match i.elements? with
  | some items => items.mapM d.placed
  | none => .error (.invalidType i.mention "a sequence")

/-- A record of two fields named `first` and `second`, from a table (other entries ignored) or
from a sequence of at least two elements. -/
def pair {α β : Type} (record first second : String) (da : Decoder α) (db : Decoder β) :
    Decoder (α × β) := fun i =>
  let expected := "struct " ++ record
  match i.elements? with
  | some items =>
    match items with
    | [] => .error (.invalidLength 0 (expected ++ " with 2 elements"))
    | a :: rest =>
      match da.placed a with
      | .error e => .error e
      | .ok x =>
        match rest with
        | [] => .error (.invalidLength 1 (expected ++ " with 2 elements"))
        | b :: _ =>
          match db.placed b with
          | .error e => .error e
          | .ok y => .ok (x, y)
  | none =>
    match i.fields? with
    | none => .error (.invalidType i.mention expected)
    | some entries =>
      let found := entries.foldlM (fun (acc : Option α × Option β) (k, v) =>
        if k.name == first then (field da k v).map fun x => (some x, acc.2)
        else if k.name == second then (field db k v).map fun y => (acc.1, some y)
        else .ok acc) (none, none)
      match found with
      | .error e => .error e
      | .ok (some x, some y) => .ok (x, y)
      | .ok (none, _) => .error (.missingField first)
      | .ok (some _, none) => .error (.missingField second)

end Decoder

end Gatehouse.Toml
