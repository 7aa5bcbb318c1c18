import Gatehouse.Worker.Assembler
import Gatehouse.Worker.Request
import Gatehouse.Gateway.Variables

/-!
# The bridge to a worker

The server's side of one worker endpoint.  A client connection routed to a worker is handed to
the bridge with the request's variables: the bridge numbers it, keeps it as pending under that
number, and sends the worker a frame with the number and the variables as its codec writes
them.  The worker
answers with frames carrying the same number; each answer is written to its connection, which
is then shut down.  A connection waiting longer than the reply timeout is shut down unanswered,
and when the worker goes away every pending connection is.

The bridge is a state with one step per event, so that any interleaving of connection threads
and the reader of the worker's answers is a list of events:

* `connect`: a worker connects;
* `submit`: a connection thread hands over a client; this fails when no worker is connected,
  and the frame it sends may fail to be written;
* `abandon`: the cleanup of a submission whose frame could not be written, which takes the
  client back out of the pending table if it is still there — other steps may come between
  the two;
* `receive`: bytes arrive from the worker, are cut into frames, and each frame is delivered;
  a malformed stream ends the worker's session as `disconnect` does;
* `deliver`: one answer frame reaches its connection, or is dropped when no connection has
  its number;
* `sweep`: the connections at least `timeout` old are shut down;
* `disconnect`: the worker goes away.

Numbers start at 1 and go up by one per submission, wrapping at 2^64.
-/

namespace Gatehouse.Worker

open Gatehouse.Gateway

/-- What happened to a client connection: bytes written to it, or its shut down. -/
inductive ClientEvent where
  | wrote (bytes : List UInt8)
  | shutDown
  | dropped
  deriving DecidableEq, Repr

/-- A connection waiting for its answer: the client and the time it was handed over. -/
structure Waiting where
  client : Nat
  since : Nat
  deriving DecidableEq, Repr

/-- The state of a bridge. -/
structure Bridge where
  /-- How long a connection may wait. -/
  timeout : Nat
  /-- The codec the variables are written with. -/
  codec : RecordCodec
  /-- Whether a worker is connected. -/
  connected : Bool := false
  /-- The connections waiting for answers, by number, in order of submission. -/
  pending : List (UInt64 × Waiting) := []
  /-- The number of the next submission. -/
  nextId : UInt64 := 1
  /-- The frames written to the worker, in order. -/
  sent : List Frame := []
  /-- What happened to each client, in order. -/
  log : List (Nat × ClientEvent) := []
  /-- The bytes of the worker's answers not yet cut into frames. -/
  incoming : Assembler := {}

/-- An event at the bridge. -/
inductive BridgeEvent where
  | connect
  /-- `client` is handed over at `now` with `variables`; `writable` tells whether the frame can
  be written to the worker. -/
  | submit (client : Nat) (now : Nat) (record : Variables) (writable : Bool)
  | abandon (id : UInt64)
  | receive (bytes : List UInt8)
  | deliver (frame : Frame)
  | sweep (now : Nat)
  | disconnect

/-- What a submission gives the connection thread. -/
inductive Submission where
  /-- Handed over under this number. -/
  | accepted (id : UInt64)
  /-- No worker is connected. -/
  | notConnected
  /-- The frame under this number could not be written. -/
  | failed (id : UInt64)
  deriving Repr

namespace Bridge

/-- The entry of a number in the pending table. -/
def find? (b : Bridge) (id : UInt64) : Option Waiting :=
  (b.pending.find? (·.1 == id)).map (·.2)

/-- The table without the entry of a number. -/
def without (b : Bridge) (id : UInt64) : Bridge :=
  { b with pending := b.pending.filter (·.1 != id) }

/-- Records events for a client. -/
def note (b : Bridge) (client : Nat) (events : List ClientEvent) : Bridge :=
  { b with log := b.log ++ events.map fun e => (client, e) }

/-- Shuts the clients of entries down, in order. -/
def shutAll (b : Bridge) (entries : List (UInt64 × Waiting)) : Bridge :=
  entries.foldl (fun b (_, w) => b.note w.client [.shutDown]) b

/-- Takes the entry of a number out of the table, shutting its client down. -/
def shut (b : Bridge) (id : UInt64) : Bridge :=
  match b.find? id with
  | some w => (b.without id).note w.client [.shutDown]
  | none => b

/-- A worker connects: its answers start from a fresh buffer. -/
def connect (b : Bridge) : Bridge :=
  { b with connected := true, incoming := {} }

/-- Hands a client over.  A number already in the table (after wrapping) has its old client
dropped and replaced. -/
def submit (b : Bridge) (client now : Nat) (record : Variables) (writable : Bool) :
    Bridge × Submission :=
  if !b.connected then (b.note client [.dropped], .notConnected)
  else
    let id := b.nextId
    let replaced := match b.find? id with
      | some w => (b.without id).note w.client [.dropped]
      | none => b
    let b := { replaced with pending := replaced.pending ++ [(id, ⟨client, now⟩)],
                             nextId := id + 1 }
    let payload := b.codec.write record
    match writable, writeFrame id payload with
    | true, .ok _ => ({ b with sent := b.sent ++ [⟨id, payload⟩] }, .accepted id)
    | _, _ => (b, .failed id)

/-- The cleanup of a failed submission. -/
def abandon (b : Bridge) (id : UInt64) : Bridge :=
  b.shut id

/-- Delivers an answer: writes it to its client and shuts the client down, or drops it. -/
def deliver (b : Bridge) (f : Frame) : Bridge :=
  match b.find? f.id with
  | some w => (b.without f.id).note w.client [.wrote f.payload, .shutDown]
  | none => b

/-- Shuts down every connection that has waited at least the timeout. -/
def sweep (b : Bridge) (now : Nat) : Bridge :=
  let expired := b.pending.filter fun (_, w) => b.timeout ≤ now - w.since
  let kept := b.pending.filter fun (_, w) => !(b.timeout ≤ now - w.since)
  shutAll { b with pending := kept } expired

/-- The worker goes away: every pending connection is shut down. -/
def disconnect (b : Bridge) : Bridge :=
  shutAll { b with connected := false, pending := [] } b.pending

/-- Bytes from the worker: each whole frame is delivered; a malformed stream ends the
worker's session. -/
def receive (b : Bridge) (bytes : List UInt8) : Bridge :=
  let (incoming, frames) := b.incoming.push bytes
  match frames with
  | .ok fs => fs.foldl deliver { b with incoming := incoming }
  | .error _ => disconnect { b with incoming := incoming }

/-- One event. -/
def step (b : Bridge) : BridgeEvent → Bridge
  | .connect => b.connect
  | .submit client now v writable => (b.submit client now v writable).1
  | .abandon id => b.abandon id
  | .receive bytes => b.receive bytes
  | .deliver f => b.deliver f
  | .sweep now => b.sweep now
  | .disconnect => b.disconnect

/-- A run of events from a state. -/
def run (b : Bridge) (events : List BridgeEvent) : Bridge :=
  events.foldl step b

end Bridge

end Gatehouse.Worker
