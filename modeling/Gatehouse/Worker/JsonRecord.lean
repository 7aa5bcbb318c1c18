import Gatehouse.Json.Scan
import Gatehouse.Json.Writer
import Gatehouse.Worker.Request

/-!
# The record as JSON

The record codec that serde_json derives for the gateway variables, as the runnable server uses
it: the record is written as one JSON object of its twelve fields, named as
`Variables.fieldNames` spells them, in that order, every value a string.

Reading is stricter than JSON and looser than the order: the record is an object whose fields
come in any order, each at most once, with texts for values; fields of other names are passed
over, whatever they hold.  It may also be an array of the twelve values in field order, with
nothing after them.  Nothing but blanks may follow the record.  A wrong shape is reported at
the place where the reader stood when it noticed it: a missing field at the closing brace, a
repeated one after its name, a short array at its closing bracket, a value of the wrong kind
just after it (at the bracket, for a nested array or object).
-/

namespace Gatehouse.Worker

open Gatehouse.Json
open Gatehouse.Gateway

/-- The problem of a value of the wrong kind at the start of `s`, placed after it; `expected`
names what was wanted. -/
def wrongKind (expected : String) (s : List UInt8) : Failure :=
  let placed (u : Unexpected) (rest : List UInt8) := (invalidType u expected).settle rest
  let number (r : Except Failure (Number × List UInt8)) :=
    match r with
    | .ok (.unsigned n, rest) => placed (.unsigned n) rest
    | .ok (.negative n, rest) => placed (.signed n) rest
    | .ok (.float f, rest) => placed (.float f) rest
    | .error e => e
  match s with
  | [] => .ahead .expectedSomeValue s
  | b :: tl =>
    if b = 110 then
      match readWord [117, 108, 108] tl with
      | .ok rest => placed .null rest
      | .error e => e
    else if b = 116 then
      match readWord [114, 117, 101] tl with
      | .ok rest => placed (.bool true) rest
      | .error e => e
    else if b = 102 then
      match readWord [97, 108, 115, 101] tl with
      | .ok rest => placed (.bool false) rest
      | .error e => e
    else if b = 45 then number (readNumber false tl)
    else if isDigit b then number (readNumber true s)
    else if b = 34 then
      match readString tl with
      | .ok (text, rest) => placed (.text text) rest
      | .error e => e
    else if b = 91 then placed .sequence s
    else if b = 123 then placed .map s
    else .ahead .expectedSomeValue s

/-- Reads a value that must be a text. -/
def readText (s : List UInt8) : Except Failure (String × List UInt8) :=
  let s := skipBlank s
  match s with
  | [] => .error (.ahead .eofWhileParsingValue s)
  | b :: tl => if b = 34 then readString tl else .error (wrongKind "a string" s)

/-- Reads the colon between a name and its value. -/
def readColon (s : List UInt8) : Except Failure (List UInt8) :=
  let s := skipBlank s
  match s with
  | [] => .error (.ahead .eofWhileParsingObject s)
  | b :: tl => if b = 58 then .ok tl else .error (.ahead .expectedColon s)

/-- A failure, with the bytes unread where the reader stopped. -/
abbrev Stopped := Failure × List UInt8

/-- Attaches the place where the reader stopped to a failure. -/
def stopAt {α : Type} (r : Except Failure α) (s : List UInt8) : Except Stopped α :=
  match r with
  | .ok a => .ok a
  | .error e => .error (e, s)

/-- Reads the next field name of an object, or finds its closing brace (left unread). -/
def readFieldName (first : Bool) (s : List UInt8) :
    Except Stopped (Option (String × List UInt8)) :=
  let s := skipBlank s
  match s with
  | [] => .error (.ahead .eofWhileParsingObject s, s)
  | b :: tl =>
    if b = 125 then .ok none
    else
      let start : Except Failure (List UInt8) :=
        if b = 44 ∧ !first then .ok (skipBlank tl)
        else if first then .ok s
        else .error (.ahead .expectedObjectCommaOrEnd s)
      match start with
      | .error e => .error (e, s)
      | .ok k =>
        match k with
        | [] => .error (.ahead .eofWhileParsingValue k, k)
        | c :: ktl =>
          if c = 34 then
            match readString ktl with
            | .ok (name, rest) => .ok (some (name, rest))
            | .error e => .error (e, ktl)
          else if c = 125 then .error (.ahead .trailingComma k, k)
          else .error (.ahead .keyMustBeAString k, k)

/-- Reads the fields of an object up to its closing brace (left unread), filling one slot per
known field.  Every round reads at least a name, so `fuel` rounds are enough for `fuel` bytes. -/
def readFields (fuel : Nat) (first : Bool) (slots : List (Option String)) (s : List UInt8) :
    Except Stopped (List (Option String) × List UInt8) :=
  match fuel with
  | 0 => .error (.ahead .eofWhileParsingObject s, s)
  | fuel + 1 =>
    match readFieldName first s with
    | .error e => .error e
    | .ok none => .ok (slots, skipBlank s)
    | .ok (some (name, rest)) =>
      match Variables.fieldNames.idxOf? name with
      | some i =>
        if (slots.getD i none).isSome then
          .error (.shape ("duplicate field `" ++ name ++ "`"), rest)
        else
          match readColon rest with
          | .error e => .error (e, rest)
          | .ok afterColon =>
            match readText afterColon with
            | .error e => .error (e, afterColon)
            | .ok (value, next) => readFields fuel false (slots.set i (some value)) next
      | none =>
        match readColon rest with
        | .error e => .error (e, rest)
        | .ok afterColon =>
          match skipValue afterColon with
          | .error e => .error (e, afterColon)
          | .ok next => readFields fuel false slots next

/-- The texts of all slots, or the first missing field. -/
def filledSlots : List String → List (Option String) → Except Failure (List String)
  | name :: names, slot :: slots =>
    match slot with
    | some v =>
      match filledSlots names slots with
      | .ok vs => .ok (v :: vs)
      | .error e => .error e
    | none => .error (.shape ("missing field `" ++ name ++ "`"))
  | _, _ => .ok []

/-- Reads the elements of an array, `count` of them after `done`, stopping at a closing
bracket (left unread) if it comes first. -/
def readElements (count : Nat) (done : List String) (s : List UInt8) :
    Except Stopped (List String × List UInt8) :=
  match count with
  | 0 => .ok (done.reverse, s)
  | count + 1 =>
    let s := skipBlank s
    let first := done.isEmpty
    match s with
    | [] => .error (.ahead .eofWhileParsingList s, s)
    | b :: tl =>
      if b = 93 then
        .error (.shape ("invalid length " ++ toString done.length
          ++ ", expected struct Variables with 12 elements"), s)
      else
        let start : Except Failure (List UInt8) :=
          if b = 44 ∧ !first then
            let k := skipBlank tl
            match k with
            | [] => .error (.ahead .eofWhileParsingValue k)
            | c :: _ => if c = 93 then .error (.ahead .trailingComma k) else .ok k
          else if first then .ok s
          else .error (.ahead .expectedListCommaOrEnd s)
        match start with
        | .error e => .error (e, s)
        | .ok k =>
          match readText k with
          | .error e => .error (e, k)
          | .ok (value, next) => readElements count (value :: done) next

/-- The bytes after an object's closing brace, if the blanks lead to one. -/
def passClosingBrace (s : List UInt8) : List UInt8 :=
  match skipBlank s with
  | 125 :: tl => tl
  | t => t

/-- Where the end of an array leaves the reader, whether it succeeds or not. -/
def passClosingBracket (s : List UInt8) : List UInt8 :=
  match skipBlank s with
  | 93 :: tl => tl
  | 44 :: tl => skipBlank tl
  | t => t

/-- Reads the end of an array after its last wanted element: a closing bracket. -/
def readArrayEnd (s : List UInt8) : Except Failure (List UInt8) :=
  let s := skipBlank s
  match s with
  | [] => .error (.ahead .eofWhileParsingList s)
  | b :: tl =>
    if b = 93 then .ok tl
    else if b = 44 then
      let k := skipBlank tl
      match k with
      | 93 :: _ => .error (.ahead .trailingComma k)
      | _ => .error (.ahead .trailingCharacters k)
    else .error (.ahead .trailingCharacters s)

/-- Reads the record of gateway variables from the start of the bytes; the rest follows. -/
def readVariables (input : List UInt8) : Except Failure (Variables × List UInt8) :=
  let s := skipBlank input
  let record (vs : List String) : Except Failure Variables :=
    match Variables.ofValues? vs with
    | some v => .ok v
    | none => .error (.shape "invalid length, expected struct Variables with 12 elements")
  match s with
  | [] => .error (.ahead .eofWhileParsingValue s)
  | b :: tl =>
    if b = 123 then
      let slots := Variables.fieldNames.map fun _ => none
      match readFields (tl.length + 1) true slots tl with
      | .error (e, stop) => .error (e.settle (passClosingBrace stop))
      | .ok (filled, atBrace) =>
        let after := passClosingBrace atBrace
        match filledSlots Variables.fieldNames filled with
        | .error e => .error (e.settle after)
        | .ok vs =>
          match record vs with
          | .ok v => .ok (v, after)
          | .error e => .error (e.settle after)
    else if b = 91 then
      match readElements 12 [] tl with
      | .error (e, stop) => .error (e.settle (passClosingBracket stop))
      | .ok (vs, rest) =>
        match readArrayEnd rest with
        | .error e => .error e
        | .ok after =>
          match record vs with
          | .ok v => .ok (v, after)
          | .error e => .error (e.settle after)
    else .error (wrongKind "struct Variables" s)

/-- Reads a whole payload as the record; only blanks may follow it. -/
def decodeVariables (payload : List UInt8) : Except Failure Variables :=
  match readVariables payload with
  | .error e => .error e
  | .ok (v, rest) =>
    match skipBlank rest with
    | [] => .ok v
    | t => .error (.ahead .trailingCharacters t)

/-- The JSON text of the record: its fields in order, as texts. -/
def encodeVariables (v : Variables) : String :=
  textObject (Variables.fieldNames.zip v.values)

/-- The record codec of the runnable server.  The members it reports for an object are those
of a record it reads, its twelve fields in order, which is what the object of a written record
holds. -/
def jsonCodec : RecordCodec where
  write v := Text.Utf8.encode (encodeVariables v)
  read payload :=
    match decodeVariables payload with
    | .ok v => .ok v
    | .error e => .error (e.describe payload)
  members? payload :=
    match decodeVariables payload with
    | .ok v => some (Variables.fieldNames.zip (v.values.map some))
    | .error _ => none

end Gatehouse.Worker
