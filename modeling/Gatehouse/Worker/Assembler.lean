import Gatehouse.Worker.Frame

/-!
# Assembling frames from a stream

Bytes from a worker arrive in chunks of any size.  The assembler keeps the bytes not yet
returned and, after each chunk, returns every frame that is now complete, in order.  A header
that declares more than 1 MiB is an error, and the error is sticky: the bad header stays at the
front of what is kept, so every later chunk reports it again.  Frames that completed in the same
chunk as the bad header are consumed without being returned.

The assembler keeps a frame's header with its payload until the payload is complete, so what it
holds is always exactly the part of the stream that it has not returned.
-/

namespace Gatehouse.Worker

/-- The bytes received and not yet returned as frames. -/
structure Assembler where
  pending : List UInt8 := []
  deriving DecidableEq, Repr

/-- What a run over the kept bytes found: the complete frames in order, the bytes after them,
and the declared length of a header that is too large, if one stopped the run. -/
structure Extraction where
  frames : List Frame
  rest : List UInt8
  tooLarge : Option Nat
  deriving DecidableEq, Repr

/-- Takes complete frames off the front of the bytes, up to an incomplete frame or a header
that declares too much. -/
def extract (bytes : List UInt8) : Extraction :=
  match _decoded : FrameHeader.decode? bytes with
  | none => ⟨[], bytes, none⟩
  | some hd =>
    if maxPayload < hd.length.toNat then ⟨[], bytes, some hd.length.toNat⟩
    else if bytes.length < headerBytes + hd.length.toNat then ⟨[], bytes, none⟩
    else
      let frame : Frame := ⟨hd.id, (bytes.drop headerBytes).take hd.length.toNat⟩
      let later := extract (bytes.drop (headerBytes + hd.length.toNat))
      { later with frames := frame :: later.frames }
termination_by bytes.length
decreasing_by
  show (bytes.drop (headerBytes + hd.length.toNat)).length < bytes.length
  rw [List.length_drop]
  exact FrameHeader.decode?_rest_length _decoded

namespace Assembler

/-- Receives a chunk: gives the new state, and the frames completed by it or the error of a
header that declares too much. -/
def push (a : Assembler) (chunk : List UInt8) : Assembler × Except ChannelError (List Frame) :=
  let run := extract (a.pending ++ chunk)
  match run.tooLarge with
  | some length => (⟨run.rest⟩, .error (.frameTooLarge length))
  | none => (⟨run.rest⟩, .ok run.frames)

/-- Receives chunks one after another; gives the final state and the answer to each. -/
def pushAll (a : Assembler) : List (List UInt8) → Assembler × List (Except ChannelError (List Frame))
  | [] => (a, [])
  | chunk :: chunks =>
    let (a', answer) := a.push chunk
    let (final, answers) := a'.pushAll chunks
    (final, answer :: answers)

end Assembler

end Gatehouse.Worker
