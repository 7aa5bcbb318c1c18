import Gatehouse.Worker.Error

/-!
# Frames

Requests and replies travel between the server and its workers as frames: a 12-byte header,
the connection id as a 64-bit and the payload length as a 32-bit big-endian word, followed by
the payload.  A payload may have at most 1 MiB; writing a larger one is refused before anything
is written.
-/

namespace Gatehouse.Worker

/-- The length of a frame header, in bytes. -/
def headerBytes : Nat := 12

/-- The largest payload a frame may carry, in bytes. -/
def maxPayload : Nat := 1048576

/-- The largest value of a 32-bit length. -/
def maxLength : Nat := 4294967295

/-- The `width` lowest bytes of `n`, most significant first. -/
def bigEndian : Nat → Nat → List UInt8
  | 0, _ => []
  | width + 1, n => bigEndian width (n / 256) ++ [(n % 256).toUInt8]

/-- The number that bytes spell, most significant first. -/
def ofBigEndian (bytes : List UInt8) : Nat :=
  bytes.foldl (fun acc b => acc * 256 + b.toNat) 0

/-- The header of a frame: the connection it belongs to and the length of its payload. -/
structure FrameHeader where
  id : UInt64
  length : UInt32
  deriving DecidableEq, Repr

namespace FrameHeader

/-- The 12 bytes of a header. -/
def encode (h : FrameHeader) : List UInt8 :=
  bigEndian 8 h.id.toNat ++ bigEndian 4 h.length.toNat

/-- The header at the start of the bytes; `none` when there are fewer than 12. -/
def decode? (bytes : List UInt8) : Option FrameHeader :=
  if bytes.length < headerBytes then none
  else some ⟨UInt64.ofNat (ofBigEndian (bytes.take 8)),
    UInt32.ofNat (ofBigEndian ((bytes.drop 8).take 4))⟩

theorem decode?_length {bytes : List UInt8} {hd : FrameHeader} (h : decode? bytes = some hd) :
    headerBytes ≤ bytes.length := by
  unfold decode? at h
  split at h
  · cases h
  · omega

theorem decode?_rest_length {bytes : List UInt8} {hd : FrameHeader} (h : decode? bytes = some hd) :
    bytes.length - (headerBytes + hd.length.toNat) < bytes.length := by
  have h1 := decode?_length h
  have h2 : headerBytes = 12 := rfl
  omega

end FrameHeader

/-- A frame: the connection id and the payload. -/
structure Frame where
  id : UInt64
  payload : List UInt8
  deriving DecidableEq, Repr

/-- The length a header declares for a payload: its length, saturated at the 32-bit limit. -/
def declaredLength (payload : List UInt8) : Nat :=
  min payload.length maxLength

/-- The bytes of a frame, or `frameTooLarge` when the payload exceeds 1 MiB. -/
def writeFrame (id : UInt64) (payload : List UInt8) : Except ChannelError (List UInt8) :=
  let length := declaredLength payload
  if maxPayload < length then .error (.frameTooLarge length)
  else .ok (FrameHeader.encode ⟨id, UInt32.ofNat length⟩ ++ payload)

@[simp]
theorem length_bigEndian : ∀ (width n : Nat), (bigEndian width n).length = width
  | 0, _ => rfl
  | width + 1, n => by simp [bigEndian, length_bigEndian width (n / 256)]

@[simp]
theorem length_encode (h : FrameHeader) : h.encode.length = headerBytes := by
  simp [FrameHeader.encode, headerBytes]

end Gatehouse.Worker
