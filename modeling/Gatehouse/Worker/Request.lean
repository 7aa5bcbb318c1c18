import Gatehouse.Gateway.Variables
import Gatehouse.Worker.Error
import Gatehouse.Worker.Frame

/-!
# Requests to a worker

A worker receives the gateway variables of a request in a frame's payload, written by the JSON
codec that serde_json derives for the record.  That codec is not the server's own, so it is a
parameter (`RecordCodec`): how a record is written, how one is read back or why not, and the
members of a JSON object as its reader sees them.

What the server relies on of it is named (`RecordCodec.Derived`), as serde_json documents the
derived codec: a record is written as a JSON object with the twelve fields of
`Variables.fieldNames`, in that order, each a string escaped as RFC 8259 asks, so its members
read back as written; and an object in which each of those fields occurs once, as a string, in
any order and with any spacing, is read as the record of those strings, whatever other members
it has.
-/

namespace Gatehouse.Worker

open Gatehouse.Gateway

/-- A member of a JSON object as its reader sees it: the name, and the text of the value when
the value is a string. -/
abbrev Member := String × Option String

/-- The codec of the record: `serde_json::to_vec`, `serde_json::from_slice` with the message of
its error, and the members of the JSON object some bytes hold. -/
structure RecordCodec where
  write : Variables → List UInt8
  read : List UInt8 → Except String Variables
  members? : List UInt8 → Option (List Member)

/-- The text of the one member of a name, when the name occurs once and with a string. -/
def soleText? (members : List Member) (name : String) : Option String :=
  match members.filter (·.1 == name) with
  | [(_, some text)] => some text
  | _ => none

/-- What the server relies on of the codec that serde_json derives for the record. -/
structure RecordCodec.Derived (codec : RecordCodec) : Prop where
  /-- A record is written as the object of its fields in order, each value a string. -/
  writes_fields : ∀ v, codec.members? (codec.write v) =
    some (Variables.fieldNames.zip (v.values.map some))
  /-- An object that holds each field once, as a string, is read as the record of those
  strings. -/
  reads_fields : ∀ bytes members v, codec.members? bytes = some members →
    Variables.fieldNames.map (soleText? members) = v.values.map some → codec.read bytes = .ok v

/-- A request for a worker: the connection it answers and the variables of the request. -/
structure WorkerRequest where
  connection : UInt64
  record : Variables
  deriving DecidableEq, Repr

namespace WorkerRequest

/-- The request carried by a frame: the frame's id names the connection. -/
def ofFrame (codec : RecordCodec) (f : Frame) : Except ChannelError WorkerRequest :=
  match codec.read f.payload with
  | .ok v => .ok ⟨f.id, v⟩
  | .error message => .error (.decode message)

/-- The payload that carries a request. -/
def encode (codec : RecordCodec) (r : WorkerRequest) : List UInt8 :=
  codec.write r.record

end WorkerRequest

end Gatehouse.Worker
