import Mathlib
import Gatehouse.Worker.Assembler

/-!
# Frame streams under any chunking

The worker channel carries frames back to back.  The assembler receives that stream in chunks
whose boundaries are arbitrary: a cut may fall inside a header, at the seam between a header and
its payload, inside a payload, or several frames may arrive in one chunk.

This module measures the stream against its frames.  `Frame.bytes` is what `writeFrame` writes
for a frame, `stream` is the bytes of a list of frames, and `completeWithin frames k` counts the
frames that lie wholly within the first `k` bytes of their stream.  The reading of a prefix of a
stream (`extract_prefix_stream`) returns exactly those frames and keeps the bytes after them; from
it, one push at a time, the main theorem `pushAll_frameStream` follows: however the stream is cut,
every push succeeds, each frame is returned by the push that delivers its last byte, and after
every push the assembler holds exactly the pushed bytes not yet returned, in which no frame is
complete.

Underneath lies the header codec (`decode?_codec_laws`): reading big-endian fields inverts writing
them at their own width, so a header is read back from its bytes, and any twelve bytes are the
bytes of the header read from them.
-/

namespace Gatehouse.Worker

/-! ## Big-endian fields -/

theorem ofBigEndian_append_byte (bytes : List UInt8) (byte : UInt8) :
    ofBigEndian (bytes ++ [byte]) = ofBigEndian bytes * 256 + byte.toNat := by
  simp [ofBigEndian, List.foldl_append]

theorem ofBigEndian_bigEndian (width n : Nat) :
    ofBigEndian (bigEndian width n) = n % 256 ^ width := by
  induction width generalizing n with
  | zero =>
      simp [bigEndian, ofBigEndian, Nat.mod_one]
  | succ width induction =>
      have lowByte : ((n % 256).toUInt8).toNat = n % 256 := by
        simp
      rw [bigEndian, ofBigEndian_append_byte, induction, lowByte,
        Nat.pow_succ, Nat.mul_comm (256 ^ width) 256, Nat.mod_mul]
      omega

theorem bigEndian_ofBigEndian (bytes : List UInt8) :
    bigEndian bytes.length (ofBigEndian bytes) = bytes := by
  induction bytes using List.reverseRecOn with
  | nil => rfl
  | append_singleton front byte induction =>
      have byteSmall : byte.toNat < 256 := byte.toNat_lt
      have high : (ofBigEndian front * 256 + byte.toNat) / 256 = ofBigEndian front := by
        omega
      have low : (ofBigEndian front * 256 + byte.toNat) % 256 = byte.toNat := by
        omega
      rw [List.length_append, List.length_singleton, bigEndian, ofBigEndian_append_byte, high, low,
        induction, Nat.toUInt8_eq, UInt8.ofNat_toNat]

theorem ofBigEndian_lt (bytes : List UInt8) : ofBigEndian bytes < 256 ^ bytes.length := by
  calc ofBigEndian bytes
      = ofBigEndian (bigEndian bytes.length (ofBigEndian bytes)) := by
        rw [bigEndian_ofBigEndian]
    _ = ofBigEndian bytes % 256 ^ bytes.length := ofBigEndian_bigEndian _ _
    _ < 256 ^ bytes.length := Nat.mod_lt _ (Nat.pow_pos (by decide))

namespace FrameHeader

theorem decode?_encode_append (header : FrameHeader) (rest : List UInt8) :
    decode? (header.encode ++ rest) = some header := by
  have idBytes : (bigEndian 8 header.id.toNat).length = 8 :=
    length_bigEndian 8 header.id.toNat
  have lengthBytes : (bigEndian 4 header.length.toNat).length = 4 :=
    length_bigEndian 4 header.length.toNat
  have idSmall : header.id.toNat < 256 ^ 8 := header.id.toNat_lt
  have lengthSmall : header.length.toNat < 256 ^ 4 := header.length.toNat_lt
  have long : ¬ (bigEndian 8 header.id.toNat ++
      (bigEndian 4 header.length.toNat ++ rest)).length < headerBytes := by
    simp only [List.length_append, idBytes, lengthBytes, headerBytes]
    omega
  simp only [decode?, encode, List.append_assoc]
  rw [if_neg long, List.take_left' idBytes, List.drop_left' idBytes, List.take_left' lengthBytes,
    ofBigEndian_bigEndian, ofBigEndian_bigEndian, Nat.mod_eq_of_lt idSmall,
    Nat.mod_eq_of_lt lengthSmall, UInt64.ofNat_toNat, UInt32.ofNat_toNat]

theorem decode?_of_encode_prefix {header : FrameHeader} {bytes : List UInt8}
    (start : header.encode <+: bytes) :
    decode? bytes = some header := by
  obtain ⟨rest, rfl⟩ := start
  exact decode?_encode_append header rest

theorem decode?_eq_none_iff (bytes : List UInt8) :
    decode? bytes = none ↔ bytes.length < headerBytes := by
  unfold decode?
  split <;> simp_all

theorem encode_of_decode? {bytes : List UInt8} {header : FrameHeader}
    (found : decode? bytes = some header) : header.encode = bytes.take headerBytes := by
  have long := decode?_length found
  have twelve : headerBytes = 12 := rfl
  unfold decode? at found
  rw [if_neg (Nat.not_lt.mpr long), Option.some.injEq] at found
  subst found
  have idBytes : (bytes.take 8).length = 8 := by
    rw [List.length_take]
    omega
  have lengthBytes : ((bytes.drop 8).take 4).length = 4 := by
    rw [List.length_take, List.length_drop]
    omega
  have idField : (UInt64.ofNat (ofBigEndian (bytes.take 8))).toNat =
      ofBigEndian (bytes.take 8) := by
    apply UInt64.toNat_ofNat_of_lt'
    simpa [idBytes] using ofBigEndian_lt (bytes.take 8)
  have lengthField : (UInt32.ofNat (ofBigEndian ((bytes.drop 8).take 4))).toNat =
      ofBigEndian ((bytes.drop 8).take 4) := by
    apply UInt32.toNat_ofNat_of_lt'
    simpa [lengthBytes] using ofBigEndian_lt ((bytes.drop 8).take 4)
  have idAgain : bigEndian 8 (ofBigEndian (bytes.take 8)) = bytes.take 8 := by
    simpa only [idBytes] using bigEndian_ofBigEndian (bytes.take 8)
  have lengthAgain :
      bigEndian 4 (ofBigEndian ((bytes.drop 8).take 4)) = (bytes.drop 8).take 4 := by
    simpa only [lengthBytes] using bigEndian_ofBigEndian ((bytes.drop 8).take 4)
  calc encode ⟨_, _⟩
      = bytes.take 8 ++ (bytes.drop 8).take 4 := by
        rw [encode, idField, lengthField, idAgain, lengthAgain]
    _ = bytes.take headerBytes := (List.take_add ..).symm

/-- The header codec: a header is read back from its bytes; any twelve bytes or more are read as
the header whose bytes are their first twelve; and fewer than twelve are read as no header. -/
theorem decode?_codec_laws :
    (∀ (id : UInt64) (length : UInt32), decode? (encode ⟨id, length⟩) = some ⟨id, length⟩) ∧
    (∀ bytes : List UInt8, headerBytes ≤ bytes.length →
      ∃ header, decode? bytes = some header ∧ header.encode = bytes.take headerBytes) ∧
    (∀ bytes : List UInt8, decode? bytes = none ↔ bytes.length < headerBytes) := by
  refine ⟨fun id length => by simpa using decode?_encode_append ⟨id, length⟩ [], ?_,
    decode?_eq_none_iff⟩
  intro bytes long
  obtain ⟨header, found⟩ := Option.ne_none_iff_exists'.mp
    (mt (decode?_eq_none_iff bytes).mp (Nat.not_lt.mpr long))
  exact ⟨header, found, encode_of_decode? found⟩

/-- The header with id `0x0102030405060708` and length `0x0a0b0c0d` is laid out as the bytes
1 to 8 and 10 to 13, read back from them; eleven of them are too few. -/
theorem decode?_header_layout :
    decode? (encode ⟨0x0102030405060708, 0x0a0b0c0d⟩) = some ⟨0x0102030405060708, 0x0a0b0c0d⟩ ∧
    (∃ header, decode? [1, 2, 3, 4, 5, 6, 7, 8, 10, 11, 12, 13] = some header ∧
      header.encode = [1, 2, 3, 4, 5, 6, 7, 8, 10, 11, 12, 13]) ∧
    decode? [1, 2, 3, 4, 5, 6, 7, 8, 10, 11, 12] = none := by
  obtain ⟨roundTrip, readsPrefix, short⟩ := decode?_codec_laws
  refine ⟨roundTrip _ _, ?_, (short _).mpr (by decide)⟩
  simpa [headerBytes] using readsPrefix [1, 2, 3, 4, 5, 6, 7, 8, 10, 11, 12, 13] (by decide)

end FrameHeader

/-! ## The wire form of a frame -/

namespace Frame

/-- The bytes written for a frame: the header with its id and payload length, then the
payload. -/
def bytes (frame : Frame) : List UInt8 :=
  FrameHeader.encode ⟨frame.id, UInt32.ofNat frame.payload.length⟩ ++ frame.payload

theorem length_bytes (frame : Frame) :
    frame.bytes.length = headerBytes + frame.payload.length := by
  simp [bytes]

theorem length_field_of_fits {frame : Frame} (fits : frame.payload.length ≤ maxPayload) :
    (UInt32.ofNat frame.payload.length).toNat = frame.payload.length := by
  apply UInt32.toNat_ofNat_of_lt'
  have bound : maxPayload < UInt32.size := by
    decide
  omega

end Frame

theorem writeFrame_of_fits (frame : Frame) (fits : frame.payload.length ≤ maxPayload) :
    writeFrame frame.id frame.payload = .ok frame.bytes := by
  have declared : declaredLength frame.payload = frame.payload.length := by
    unfold declaredLength maxLength
    unfold maxPayload at fits
    omega
  unfold writeFrame
  rw [declared, if_neg (Nat.not_lt.mpr fits)]
  rfl

theorem writeFrame_of_too_large (id : UInt64) (payload : List UInt8)
    (large : maxPayload < payload.length) :
    writeFrame id payload = .error (.frameTooLarge (min payload.length maxLength)) := by
  have declaredLarge : maxPayload < declaredLength payload := by
    unfold declaredLength maxLength
    unfold maxPayload at large ⊢
    omega
  unfold writeFrame
  rw [if_pos declaredLarge]
  rfl

/-! ## Reading one frame -/

/-- A whole frame at the front is returned, and the reading goes on after it. -/
theorem extract_bytes_append {frame : Frame} (fits : frame.payload.length ≤ maxPayload)
    (rest : List UInt8) :
    extract (frame.bytes ++ rest) =
      { extract rest with frames := frame :: (extract rest).frames } := by
  have header : FrameHeader.decode? (frame.bytes ++ rest) =
      some ⟨frame.id, UInt32.ofNat frame.payload.length⟩ := by
    rw [Frame.bytes, List.append_assoc]
    exact FrameHeader.decode?_encode_append _ _
  have lengthField := Frame.length_field_of_fits fits
  have headerLength :
      (FrameHeader.encode ⟨frame.id, UInt32.ofNat frame.payload.length⟩).length =
        headerBytes :=
    length_encode _
  rw [extract]
  split
  · next noHeader =>
      rw [header] at noHeader
      cases noHeader
  · next found header' =>
      rw [header] at header'
      cases header'
      simp only [lengthField]
      rw [if_neg (Nat.not_lt.mpr fits), if_neg]
      · simp only [Frame.bytes, List.append_assoc, List.drop_left' headerLength]
        rw [List.take_left' rfl, ← List.drop_drop, List.drop_left' headerLength,
          List.drop_left' rfl]
      · rw [List.length_append, Frame.length_bytes]
        omega

theorem extract_of_prefix_bytes {frame : Frame} (fits : frame.payload.length ≤ maxPayload)
    {bytes : List UInt8} (start : bytes <+: frame.bytes)
    (short : bytes.length < frame.bytes.length) :
    extract bytes = ⟨[], bytes, none⟩ := by
  rw [extract]
  split
  · rfl
  · next header found =>
      have long := FrameHeader.decode?_length found
      have headerFirst : FrameHeader.encode ⟨frame.id, UInt32.ofNat frame.payload.length⟩ <+:
          bytes := by
        apply List.prefix_of_prefix_length_le (List.prefix_append _ _) start
        rw [length_encode]
        exact long
      rw [FrameHeader.decode?_of_encode_prefix headerFirst] at found
      cases found
      have lengthField := Frame.length_field_of_fits fits
      rw [Frame.length_bytes] at short
      simp only [lengthField]
      rw [if_neg (Nat.not_lt.mpr fits), if_pos short]

theorem extract_of_length_lt {bytes : List UInt8} (short : bytes.length < headerBytes) :
    extract bytes = ⟨[], bytes, none⟩ := by
  rw [extract]
  split
  · rfl
  · next header found =>
      have long := FrameHeader.decode?_length found
      omega

/-! ## Streams of frames -/

/-- The bytes of frames written one after another. -/
def stream (frames : List Frame) : List UInt8 :=
  frames.flatMap Frame.bytes

@[simp]
theorem stream_nil : stream [] = [] :=
  rfl

@[simp]
theorem stream_cons (frame : Frame) (frames : List Frame) :
    stream (frame :: frames) = frame.bytes ++ stream frames :=
  rfl

theorem stream_append (first second : List Frame) :
    stream (first ++ second) = stream first ++ stream second :=
  List.flatMap_append

theorem stream_take_append_drop (frames : List Frame) (count : Nat) :
    stream (frames.take count) ++ stream (frames.drop count) = stream frames := by
  rw [stream, stream, ← List.flatMap_append, List.take_append_drop]
  rfl

/-- How many of the frames lie wholly within the first `count` bytes of their stream. -/
def completeWithin : List Frame → Nat → Nat
  | [], _ => 0
  | frame :: frames, count =>
      if frame.bytes.length ≤ count then
        completeWithin frames (count - frame.bytes.length) + 1
      else 0

theorem completeWithin_le_length (frames : List Frame) (count : Nat) :
    completeWithin frames count ≤ frames.length := by
  induction frames generalizing count with
  | nil =>
      simp [completeWithin]
  | cons frame frames induction =>
      unfold completeWithin
      split
      · have tail := induction (count - frame.bytes.length)
        simp only [List.length_cons]
        omega
      · omega

theorem completeWithin_mono (frames : List Frame) {count count' : Nat}
    (le : count ≤ count') :
    completeWithin frames count ≤ completeWithin frames count' := by
  induction frames generalizing count count' with
  | nil =>
      simp [completeWithin]
  | cons frame frames induction =>
      unfold completeWithin
      split
      · next fitsBefore =>
          rw [if_pos (Nat.le_trans fitsBefore le)]
          have tail := @induction (count - frame.bytes.length)
            (count' - frame.bytes.length) (by omega)
          omega
      · omega

theorem completeWithin_zero (frames : List Frame) : completeWithin frames 0 = 0 := by
  cases frames with
  | nil =>
      rfl
  | cons frame frames =>
      have headerFirst : 0 < frame.bytes.length := by
        rw [Frame.length_bytes, headerBytes]
        omega
      rw [completeWithin, if_neg (by omega)]

theorem length_stream_take_completeWithin_le (frames : List Frame) (count : Nat) :
    (stream (frames.take (completeWithin frames count))).length ≤ count := by
  induction frames generalizing count with
  | nil =>
      simp [completeWithin]
  | cons frame frames induction =>
      unfold completeWithin
      split
      · next fitsFirst =>
          have tail := induction (count - frame.bytes.length)
          simp only [List.take_succ_cons, stream_cons, List.length_append]
          omega
      · simp

theorem completeWithin_stream_take_add (frames : List Frame) {count : Nat}
    (within : count ≤ frames.length) (extra : Nat) :
    completeWithin frames ((stream (frames.take count)).length + extra) =
      count + completeWithin (frames.drop count) extra := by
  induction frames generalizing count with
  | nil =>
      simp only [List.length_nil, Nat.le_zero] at within
      subst count
      simp
  | cons frame frames induction =>
      cases count with
      | zero =>
          simp
      | succ count =>
          have tail := @induction count (by simpa using within)
          simp only [List.take_succ_cons, stream_cons, List.length_append, List.drop_succ_cons,
            completeWithin]
          have skipFirst : frame.bytes.length + (stream (frames.take count)).length + extra -
              frame.bytes.length = (stream (frames.take count)).length + extra := by
            omega
          rw [if_pos (by omega), skipFirst, tail]
          omega

theorem completeWithin_length_stream (frames : List Frame) :
    completeWithin frames (stream frames).length = frames.length := by
  have whole := completeWithin_stream_take_add frames (Nat.le_refl frames.length) 0
  simpa [completeWithin] using whole

/-! ## Reading a prefix of a stream -/

/-- Reading any prefix of a stream of frames that fit returns the frames wholly within it, in
order, and keeps the bytes after them; it never reports an error. -/
theorem extract_prefix_stream {frames : List Frame}
    (fits : ∀ frame ∈ frames, frame.payload.length ≤ maxPayload)
    {bytes : List UInt8} (start : bytes <+: stream frames) :
    extract bytes =
      ⟨frames.take (completeWithin frames bytes.length),
        bytes.drop (stream (frames.take (completeWithin frames bytes.length))).length, none⟩ := by
  induction frames generalizing bytes with
  | nil =>
      rw [stream_nil, List.prefix_nil] at start
      subst bytes
      have empty : ([] : List UInt8).length < headerBytes := by
        decide
      simp [completeWithin, extract_of_length_lt empty]
  | cons frame frames induction =>
      have fitsFirst := fits frame List.mem_cons_self
      have fitsRest : ∀ later ∈ frames, later.payload.length ≤ maxPayload :=
        fun later member => fits later (List.mem_cons_of_mem frame member)
      rw [stream_cons] at start
      by_cases whole : frame.bytes.length ≤ bytes.length
      · -- the first frame is complete: it is returned and the reading goes on after it
        have firstBytes : frame.bytes <+: bytes :=
          List.prefix_of_prefix_length_le (List.prefix_append _ _) start whole
        obtain ⟨rest, rfl⟩ := firstBytes
        have restStart : rest <+: stream frames :=
          (List.prefix_append_right_inj frame.bytes).mp start
        have counted : completeWithin (frame :: frames) (frame.bytes ++ rest).length =
            completeWithin frames rest.length + 1 := by
          rw [completeWithin, if_pos whole, List.length_append, Nat.add_sub_cancel_left]
        rw [extract_bytes_append fitsFirst, induction fitsRest restStart, counted,
          List.take_succ_cons, stream_cons, List.length_append,
          ← List.drop_drop, List.drop_left' rfl]
      · -- the first frame is not complete: nothing is returned
        have partFirst : bytes <+: frame.bytes :=
          List.prefix_of_prefix_length_le start (List.prefix_append _ _) (by omega)
        rw [extract_of_prefix_bytes fitsFirst partFirst (by omega), completeWithin, if_neg whole]
        simp

/-! ## What the assembler holds -/

/-- The bytes an assembler fed `pushed` from the stream of `frames` should hold: the pushed bytes
after the frames that lie wholly within them. -/
def heldAfter (frames : List Frame) (pushed : List UInt8) : List UInt8 :=
  pushed.drop (stream (frames.take (completeWithin frames pushed.length))).length

theorem stream_append_heldAfter {frames : List Frame} {pushed : List UInt8}
    (start : pushed <+: stream frames) :
    stream (frames.take (completeWithin frames pushed.length)) ++ heldAfter frames pushed =
      pushed := by
  have completeFirst :
      stream (frames.take (completeWithin frames pushed.length)) <+: pushed := by
    apply List.prefix_of_prefix_length_le _ start
      (length_stream_take_completeWithin_le frames pushed.length)
    rw [← stream_take_append_drop frames (completeWithin frames pushed.length)]
    exact List.prefix_append _ _
  have firstPart := List.prefix_iff_eq_take.mp completeFirst
  calc stream (frames.take (completeWithin frames pushed.length)) ++ heldAfter frames pushed
      = pushed.take (stream (frames.take (completeWithin frames pushed.length))).length ++
          pushed.drop (stream (frames.take (completeWithin frames pushed.length))).length := by
        rw [heldAfter, ← firstPart]
    _ = pushed := List.take_append_drop _ _

theorem heldAfter_isPrefix_remaining {frames : List Frame} {pushed : List UInt8}
    (start : pushed <+: stream frames) :
    heldAfter frames pushed <+:
      stream (frames.drop (completeWithin frames pushed.length)) := by
  have whole := stream_take_append_drop frames (completeWithin frames pushed.length)
  rw [← stream_append_heldAfter start, ← whole] at start
  exact (List.prefix_append_right_inj _).mp start

theorem completeWithin_heldAfter {frames : List Frame} {pushed : List UInt8}
    (start : pushed <+: stream frames) :
    completeWithin (frames.drop (completeWithin frames pushed.length))
      (heldAfter frames pushed).length = 0 := by
  have counted := completeWithin_stream_take_add frames
    (completeWithin_le_length frames pushed.length) (heldAfter frames pushed).length
  rw [← List.length_append, stream_append_heldAfter start] at counted
  omega

theorem extract_heldAfter {frames : List Frame}
    (fits : ∀ frame ∈ frames, frame.payload.length ≤ maxPayload)
    {pushed : List UInt8} (start : pushed <+: stream frames) :
    extract (heldAfter frames pushed) = ⟨[], heldAfter frames pushed, none⟩ := by
  have fitsRest : ∀ later ∈ frames.drop (completeWithin frames pushed.length),
      later.payload.length ≤ maxPayload :=
    fun later member => fits later (List.mem_of_mem_drop member)
  rw [extract_prefix_stream fitsRest (heldAfter_isPrefix_remaining start),
    completeWithin_heldAfter start]
  simp

/-! ## Pushing chunks -/

/-- The frames whose last byte lies past the first `before` bytes of their stream and within
the first `after`. -/
def completedBetween (frames : List Frame) (before after : Nat) : List Frame :=
  (frames.take (completeWithin frames after)).drop (completeWithin frames before)

/-- The frames that each chunk completes, when the chunks follow the bytes `pushed`: for every
chunk, the frames whose last byte it delivers. -/
def completedBy (frames : List Frame) : List UInt8 → List (List UInt8) → List (List Frame)
  | _, [] => []
  | pushed, chunk :: chunks =>
      completedBetween frames pushed.length (pushed ++ chunk).length ::
        completedBy frames (pushed ++ chunk) chunks

theorem completedBetween_append (frames : List Frame) {before middle after : Nat}
    (first : before ≤ middle) (second : middle ≤ after) :
    completedBetween frames before middle ++ completedBetween frames middle after =
      completedBetween frames before after := by
  have countFirst := completeWithin_mono frames first
  have countSecond := completeWithin_mono frames second
  unfold completedBetween
  rw [List.drop_take, List.drop_take, List.drop_take]
  have steps : completeWithin frames after - completeWithin frames before =
      (completeWithin frames middle - completeWithin frames before) +
        (completeWithin frames after - completeWithin frames middle) := by
    omega
  have skip : completeWithin frames before +
      (completeWithin frames middle - completeWithin frames before) =
        completeWithin frames middle := by
    omega
  rw [steps, List.take_add, List.drop_drop, skip]

/-- The frames the chunks complete, in order, are the frames wholly within the pushed bytes
and not within the bytes before them. -/
theorem flatten_completedBy (frames : List Frame) (pushed : List UInt8)
    (chunks : List (List UInt8)) :
    (completedBy frames pushed chunks).flatten =
      completedBetween frames pushed.length (pushed ++ chunks.flatten).length := by
  induction chunks generalizing pushed with
  | nil =>
      simp [completedBy, completedBetween]
  | cons chunk chunks induction =>
      rw [completedBy, List.flatten_cons, induction, List.flatten_cons, ← List.append_assoc,
        completedBetween_append]
      · simp
      · simp

theorem completedBy_take (frames : List Frame) (pushed : List UInt8)
    (chunks : List (List UInt8)) (count : Nat) :
    completedBy frames pushed (chunks.take count) =
      (completedBy frames pushed chunks).take count := by
  induction chunks generalizing pushed count with
  | nil =>
      simp [completedBy]
  | cons chunk chunks induction =>
      cases count with
      | zero =>
          simp [completedBy]
      | succ count =>
          simp [completedBy, induction]

/-- One push of the next piece of a stream returns the frames it completes and holds the rest. -/
theorem push_of_heldAfter {frames : List Frame}
    (fits : ∀ frame ∈ frames, frame.payload.length ≤ maxPayload)
    {assembler : Assembler} {pushed chunk : List UInt8}
    (held : assembler.pending = heldAfter frames pushed)
    (start : pushed ++ chunk <+: stream frames) :
    assembler.push chunk =
      (⟨heldAfter frames (pushed ++ chunk)⟩,
        .ok (completedBetween frames pushed.length (pushed ++ chunk).length)) := by
  have pushedStart : pushed <+: stream frames :=
    List.IsPrefix.trans (List.prefix_append _ _) start
  have split := stream_append_heldAfter pushedStart
  have whole := stream_take_append_drop frames (completeWithin frames pushed.length)
  have restStart : assembler.pending ++ chunk <+:
      stream (frames.drop (completeWithin frames pushed.length)) := by
    rw [← split, ← whole, List.append_assoc] at start
    rw [held]
    exact (List.prefix_append_right_inj _).mp start
  have fitsRest : ∀ later ∈ frames.drop (completeWithin frames pushed.length),
      later.payload.length ≤ maxPayload :=
    fun later member => fits later (List.mem_of_mem_drop member)
  have counted : completeWithin frames (pushed ++ chunk).length =
      completeWithin frames pushed.length +
        completeWithin (frames.drop (completeWithin frames pushed.length))
          (assembler.pending ++ chunk).length := by
    rw [← completeWithin_stream_take_add frames (completeWithin_le_length frames pushed.length),
      held, ← List.length_append, ← List.append_assoc, split]
  unfold Assembler.push
  rw [extract_prefix_stream fitsRest restStart]
  simp only [Prod.mk.injEq, Assembler.mk.injEq]
  constructor
  · have pushedSplit : pushed ++ chunk =
        stream (frames.take (completeWithin frames pushed.length)) ++
          (assembler.pending ++ chunk) := by
      rw [held, ← List.append_assoc, split]
    rw [heldAfter, counted, List.take_add, stream_append, pushedSplit]
    simp only [List.length_append]
    rw [List.drop_length_add_append]
  · rw [completedBetween, counted, List.drop_take, Nat.add_sub_cancel_left]

/-- Pushing the next pieces of a stream, one after another: each push returns the frames it
completes, and the assembler ends holding the rest. -/
theorem pushAll_of_heldAfter {frames : List Frame}
    (fits : ∀ frame ∈ frames, frame.payload.length ≤ maxPayload)
    {assembler : Assembler} {pushed : List UInt8} (chunks : List (List UInt8))
    (held : assembler.pending = heldAfter frames pushed)
    (start : pushed ++ chunks.flatten <+: stream frames) :
    assembler.pushAll chunks =
      (⟨heldAfter frames (pushed ++ chunks.flatten)⟩,
        (completedBy frames pushed chunks).map Except.ok) := by
  induction chunks generalizing assembler pushed with
  | nil =>
      cases assembler
      simp only at held
      simp [Assembler.pushAll, completedBy, held]
  | cons chunk chunks induction =>
      rw [List.flatten_cons, ← List.append_assoc] at start
      have firstStart : pushed ++ chunk <+: stream frames :=
        List.IsPrefix.trans (List.prefix_append _ _) start
      rw [Assembler.pushAll, push_of_heldAfter fits held firstStart]
      simp only
      rw [@induction ⟨heldAfter frames (pushed ++ chunk)⟩ (pushed ++ chunk) rfl start]
      simp [completedBy, List.append_assoc]

/-! ## The stream under any chunking -/

/-- Frames written one after another and pushed into a fresh assembler in chunks cut anywhere.
Every frame is written as its bytes; every push succeeds and returns the frames whose last byte
it delivers, so that the pushes return all the frames in order; after every push the bytes
pushed so far are the bytes of the frames returned so far followed by what the assembler holds,
and what it holds reads as no frame and no error.  A payload over 1 MiB is refused before
anything is written. -/
theorem pushAll_frameStream {frames : List Frame}
    (fits : ∀ frame ∈ frames, frame.payload.length ≤ maxPayload)
    (chunks : List (List UInt8)) (cut : chunks.flatten = stream frames) :
    (∀ frame ∈ frames, writeFrame frame.id frame.payload = .ok frame.bytes) ∧
    (Assembler.pushAll {} chunks).2 = (completedBy frames [] chunks).map Except.ok ∧
    (completedBy frames [] chunks).flatten = frames ∧
    (∀ count : Nat,
      (chunks.take count).flatten =
          stream ((completedBy frames [] chunks).take count).flatten ++
            (Assembler.pushAll {} (chunks.take count)).1.pending ∧
        extract (Assembler.pushAll {} (chunks.take count)).1.pending =
          ⟨[], (Assembler.pushAll {} (chunks.take count)).1.pending, none⟩) ∧
    (∀ (id : UInt64) (payload : List UInt8), maxPayload < payload.length →
      writeFrame id payload = .error (.frameTooLarge (min payload.length maxLength))) := by
  have freshHeld : ({} : Assembler).pending = heldAfter frames [] := by
    simp [heldAfter]
  have takeStart : ∀ count : Nat, (chunks.take count).flatten <+: stream frames := by
    intro count
    have split := congrArg List.flatten (List.take_append_drop count chunks)
    rw [List.flatten_append, cut] at split
    rw [← split]
    exact List.prefix_append _ _
  have whole : chunks.flatten <+: stream frames := by
    rw [cut]
  refine ⟨fun frame member => writeFrame_of_fits frame (fits frame member), ?_, ?_, ?_,
    writeFrame_of_too_large⟩
  · rw [pushAll_of_heldAfter fits chunks freshHeld whole]
  · rw [flatten_completedBy, List.nil_append, cut, List.length_nil, completedBetween,
      completeWithin_length_stream, completeWithin_zero, List.take_length, List.drop_zero]
  · intro count
    have start := takeStart count
    rw [pushAll_of_heldAfter fits (chunks.take count) freshHeld start,
      ← completedBy_take, flatten_completedBy, List.nil_append, List.length_nil, completedBetween,
      completeWithin_zero, List.drop_zero]
    exact ⟨(stream_append_heldAfter start).symm, extract_heldAfter fits start⟩

/-- Frames 7 with payload `hello` and 8 with none, cut inside the first header, inside the
first payload, and after the end. -/
theorem pushAll_frameStream_cut_in_header :
    (∀ frame ∈ [(⟨7, [104, 101, 108, 108, 111]⟩ : Frame), ⟨8, []⟩],
        frame.payload.length ≤ maxPayload) ∧
      [[0, 0, 0, 0, 0], [0, 0, 7, 0, 0, 0, 5, 104, 101],
          [108, 108, 111, 0, 0, 0, 0, 0, 0, 0, 8, 0, 0, 0, 0], []].flatten =
        stream [⟨7, [104, 101, 108, 108, 111]⟩, ⟨8, []⟩] ∧
      ((∀ frame ∈ [(⟨7, [104, 101, 108, 108, 111]⟩ : Frame), ⟨8, []⟩],
          writeFrame frame.id frame.payload = .ok frame.bytes) ∧
        (Assembler.pushAll {} [[0, 0, 0, 0, 0], [0, 0, 7, 0, 0, 0, 5, 104, 101],
            [108, 108, 111, 0, 0, 0, 0, 0, 0, 0, 8, 0, 0, 0, 0], []]).2 =
          (completedBy [⟨7, [104, 101, 108, 108, 111]⟩, ⟨8, []⟩] []
            [[0, 0, 0, 0, 0], [0, 0, 7, 0, 0, 0, 5, 104, 101],
              [108, 108, 111, 0, 0, 0, 0, 0, 0, 0, 8, 0, 0, 0, 0], []]).map Except.ok ∧
        (completedBy [⟨7, [104, 101, 108, 108, 111]⟩, ⟨8, []⟩] []
            [[0, 0, 0, 0, 0], [0, 0, 7, 0, 0, 0, 5, 104, 101],
              [108, 108, 111, 0, 0, 0, 0, 0, 0, 0, 8, 0, 0, 0, 0], []]).flatten =
          [⟨7, [104, 101, 108, 108, 111]⟩, ⟨8, []⟩] ∧
        (∀ count : Nat,
          ([[0, 0, 0, 0, 0], [0, 0, 7, 0, 0, 0, 5, 104, 101],
              [108, 108, 111, 0, 0, 0, 0, 0, 0, 0, 8, 0, 0, 0, 0], []].take count).flatten =
              stream ((completedBy [⟨7, [104, 101, 108, 108, 111]⟩, ⟨8, []⟩] []
                [[0, 0, 0, 0, 0], [0, 0, 7, 0, 0, 0, 5, 104, 101],
                  [108, 108, 111, 0, 0, 0, 0, 0, 0, 0, 8, 0, 0, 0, 0], []]).take count).flatten ++
                (Assembler.pushAll {} ([[0, 0, 0, 0, 0], [0, 0, 7, 0, 0, 0, 5, 104, 101],
                  [108, 108, 111, 0, 0, 0, 0, 0, 0, 0, 8, 0, 0, 0, 0], []].take
                    count)).1.pending ∧
            extract (Assembler.pushAll {} ([[0, 0, 0, 0, 0], [0, 0, 7, 0, 0, 0, 5, 104, 101],
                [108, 108, 111, 0, 0, 0, 0, 0, 0, 0, 8, 0, 0, 0, 0], []].take count)).1.pending =
              ⟨[], (Assembler.pushAll {} ([[0, 0, 0, 0, 0], [0, 0, 7, 0, 0, 0, 5, 104, 101],
                [108, 108, 111, 0, 0, 0, 0, 0, 0, 0, 8, 0, 0, 0, 0], []].take count)).1.pending,
                none⟩) ∧
        (∀ (id : UInt64) (payload : List UInt8), maxPayload < payload.length →
          writeFrame id payload = .error (.frameTooLarge (min payload.length maxLength)))) := by
  have fits : ∀ frame ∈ [(⟨7, [104, 101, 108, 108, 111]⟩ : Frame), ⟨8, []⟩],
      frame.payload.length ≤ maxPayload := by
    decide
  have cut : [[0, 0, 0, 0, 0], [0, 0, 7, 0, 0, 0, 5, 104, 101],
      [108, 108, 111, 0, 0, 0, 0, 0, 0, 0, 8, 0, 0, 0, 0], []].flatten =
        stream [⟨7, [104, 101, 108, 108, 111]⟩, ⟨8, []⟩] := by
    decide
  exact ⟨fits, cut, pushAll_frameStream fits _ cut⟩

/- The same cutting, run: the second chunk ends inside the first payload and returns nothing;
the third delivers the rest of it and the whole empty frame 8. -/
example :
    (Assembler.pushAll {} [[0, 0, 0, 0, 0], [0, 0, 7, 0, 0, 0, 5, 104, 101],
        [108, 108, 111, 0, 0, 0, 0, 0, 0, 0, 8, 0, 0, 0, 0], []]).2 =
      [.ok [], .ok [], .ok [⟨7, [104, 101, 108, 108, 111]⟩, ⟨8, []⟩], .ok []] := by
  decide +kernel

end Gatehouse.Worker
