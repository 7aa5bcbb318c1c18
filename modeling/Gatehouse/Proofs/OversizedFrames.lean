import Mathlib
import Gatehouse.Proofs.FrameStream
import Gatehouse.Proofs.BridgeCorrelation

/-!
# An oversized header is a sticky error

A header that declares more than 1 MiB cannot be skipped: the channel has no way to find the
next frame boundary.  The assembler reports such a header with its declared length and keeps it
at the front of what it holds, so every later push reads it again and reports it again.  The
frames that completed in the same push are consumed with it and never returned, and the bridge
ends the worker's session at the first report, shutting down every waiting connection
unanswered.

A reading stops in one of three ways (`extract_of_decode?_none`, `extract_of_tooLarge`,
`extract_of_short`), and reading again what it kept finds no frame (`extract_rest`), so every
push leaves the assembler `Drained`.  A prefix of frames followed by an oversized header reads
as the frames wholly within it, and as the header's error once its twelve bytes are there
(`extract_prefix_oversized`).  From that, one push at a time (`push_toward_oversized`), the
main theorem `pushAll_oversized_header` follows: however the bytes are cut into pushes, each
push before the header is complete returns the frames whose last byte it delivers, and every
push from the one that completes the header on reports the header's length.
-/

namespace Gatehouse.Worker

/-! ## The three ways a reading stops -/

section Stops

variable {bytes : List UInt8}

theorem extract_of_decode?_none (noHeader : FrameHeader.decode? bytes = none) :
    extract bytes = ⟨[], bytes, none⟩ := by
  rw [extract]
  split
  · rfl
  · next header found =>
    rw [noHeader] at found
    cases found

theorem extract_of_tooLarge {header : FrameHeader} (found : FrameHeader.decode? bytes = some header)
    (large : maxPayload < header.length.toNat) :
    extract bytes = ⟨[], bytes, some header.length.toNat⟩ := by
  rw [extract]
  split
  · next noHeader =>
    rw [found] at noHeader
    cases noHeader
  · next header' found' =>
    rw [found] at found'
    cases found'
    rw [if_pos large]

theorem extract_of_short {header : FrameHeader} (found : FrameHeader.decode? bytes = some header)
    (fits : header.length.toNat ≤ maxPayload)
    (short : bytes.length < headerBytes + header.length.toNat) :
    extract bytes = ⟨[], bytes, none⟩ := by
  rw [extract]
  split
  · rfl
  · next header' found' =>
    rw [found] at found'
    cases found'
    rw [if_neg (Nat.not_lt.mpr fits), if_pos short]

end Stops

theorem extract_rest (bytes : List UInt8) :
    extract (extract bytes).rest = ⟨[], (extract bytes).rest, (extract bytes).tooLarge⟩ := by
  fun_induction extract bytes with
  | case1 bytes noHeader => exact extract_of_decode?_none noHeader
  | case2 bytes header found large => exact extract_of_tooLarge found large
  | case3 bytes header found fits short => exact extract_of_short found (Nat.not_lt.mp fits) short
  | case4 bytes header found fits long frame later induction => exact induction

theorem extract_stream_append {frames : List Frame}
    (fits : ∀ frame ∈ frames, frame.payload.length ≤ maxPayload) (bytes : List UInt8) :
    extract (stream frames ++ bytes) =
      { extract bytes with frames := frames ++ (extract bytes).frames } := by
  induction frames with
  | nil => simp
  | cons frame frames induction =>
    have fitsRest : ∀ later ∈ frames, later.payload.length ≤ maxPayload :=
      fun later member => fits later (List.mem_cons_of_mem frame member)
    rw [stream_cons, List.append_assoc, extract_bytes_append (fits frame List.mem_cons_self),
      induction fitsRest]
    rfl

theorem stream_append_heldAfter_of_prefix {frames : List Frame} {tail pushed : List UInt8}
    (start : pushed <+: stream frames ++ tail) :
    stream (frames.take (completeWithin frames pushed.length)) ++ heldAfter frames pushed =
      pushed := by
  have completeFirst :
      stream (frames.take (completeWithin frames pushed.length)) <+: pushed := by
    apply List.prefix_of_prefix_length_le _ start
      (length_stream_take_completeWithin_le frames pushed.length)
    rw [← stream_take_append_drop frames (completeWithin frames pushed.length),
      List.append_assoc]
    exact List.prefix_append _ _
  rw [heldAfter, List.prefix_iff_eq_take.mp completeFirst, List.length_take_of_le
    (List.IsPrefix.length_le completeFirst), List.take_append_drop]

theorem completeWithin_bytes_append (frame : Frame) (frames : List Frame) (after : List UInt8) :
    completeWithin (frame :: frames) (frame.bytes ++ after).length =
      completeWithin frames after.length + 1 := by
  rw [completeWithin, if_pos (by simp), List.length_append, Nat.add_sub_cancel_left]

theorem heldAfter_bytes_append (frame : Frame) (frames : List Frame) (after : List UInt8) :
    heldAfter (frame :: frames) (frame.bytes ++ after) = heldAfter frames after := by
  rw [heldAfter, completeWithin_bytes_append, List.take_succ_cons, stream_cons, List.length_append,
    ← List.drop_drop, List.drop_left' rfl, heldAfter]

/-- Reading any prefix of frames that fit followed by a header that declares too much: the
frames wholly within it are returned and the bytes after them kept, and once all twelve bytes of
the header are there, the header stops the reading with the length it declares. -/
theorem extract_prefix_oversized {frames : List Frame}
    (fits : ∀ frame ∈ frames, frame.payload.length ≤ maxPayload)
    {header : FrameHeader} (large : maxPayload < header.length.toNat) {rest bytes : List UInt8}
    (start : bytes <+: stream frames ++ header.encode ++ rest) :
    extract bytes =
      ⟨frames.take (completeWithin frames bytes.length), heldAfter frames bytes,
        if (stream frames).length + headerBytes ≤ bytes.length then some header.length.toNat
        else none⟩ := by
  induction frames generalizing bytes with
  | nil =>
    rw [stream_nil, List.nil_append] at start
    by_cases whole : headerBytes ≤ bytes.length
    · have headerFirst : header.encode <+: bytes := by
        apply List.prefix_of_prefix_length_le (List.prefix_append _ _) start
        rw [length_encode]
        exact whole
      rw [extract_of_tooLarge (FrameHeader.decode?_of_encode_prefix headerFirst) large]
      simp [heldAfter, completeWithin, whole]
    · rw [extract_of_length_lt (Nat.lt_of_not_le whole)]
      simp [heldAfter, completeWithin, whole]
  | cons frame frames induction =>
    have fitsFirst := fits frame List.mem_cons_self
    have fitsRest : ∀ later ∈ frames, later.payload.length ≤ maxPayload :=
      fun later member => fits later (List.mem_cons_of_mem frame member)
    simp only [stream_cons, List.append_assoc] at start
    by_cases whole : frame.bytes.length ≤ bytes.length
    · -- the first frame is complete: it is returned and the reading goes on after it
      obtain ⟨after, rfl⟩ : frame.bytes <+: bytes :=
        List.prefix_of_prefix_length_le (List.prefix_append _ _) start whole
      have restStart : after <+: stream frames ++ header.encode ++ rest := by
        rw [List.append_assoc]
        exact (List.prefix_append_right_inj frame.bytes).mp start
      have shifted : (stream (frame :: frames)).length + headerBytes ≤
          (frame.bytes ++ after).length ↔ (stream frames).length + headerBytes ≤ after.length := by
        simp only [stream_cons, List.length_append]
        omega
      rw [extract_bytes_append fitsFirst, induction fitsRest restStart,
        completeWithin_bytes_append, heldAfter_bytes_append]
      simp only [shifted, List.take_succ_cons]
    · -- the first frame is not complete: nothing is returned
      have partFirst : bytes <+: frame.bytes :=
        List.prefix_of_prefix_length_le start (List.prefix_append _ _) (by omega)
      have notYet : ¬ (stream (frame :: frames)).length + headerBytes ≤ bytes.length := by
        simp only [stream_cons, List.length_append]
        omega
      rw [extract_of_prefix_bytes fitsFirst partFirst (by omega), if_neg notYet]
      simp [heldAfter, completeWithin, whole]

theorem completeWithin_of_length_stream_le {frames : List Frame} {count : Nat}
    (past : (stream frames).length ≤ count) : completeWithin frames count = frames.length := by
  have atLeast := completeWithin_mono frames past
  rw [completeWithin_length_stream] at atLeast
  exact Nat.le_antisymm (completeWithin_le_length frames count) atLeast

theorem heldAfter_of_length_stream_le {frames : List Frame} {pushed : List UInt8}
    (past : (stream frames).length ≤ pushed.length) :
    heldAfter frames pushed = pushed.drop (stream frames).length := by
  rw [heldAfter, completeWithin_of_length_stream_le past, List.take_length]

namespace Assembler

/-- An assembler in which no complete frame waits.  A fresh assembler is, and so is every
assembler after a push (`drained_push`). -/
def Drained (a : Assembler) : Prop :=
  (extract a.pending).frames = []

theorem drained_empty : Drained {} := by
  rw [Drained, extract_of_length_lt (by decide)]

theorem drained_push (a : Assembler) (chunk : List UInt8) : (a.push chunk).1.Drained := by
  unfold push
  dsimp only
  split <;> simp [Drained, extract_rest]

theorem length_pushAll (a : Assembler) (chunks : List (List UInt8)) :
    (a.pushAll chunks).2.length = chunks.length := by
  induction chunks generalizing a with
  | nil => rfl
  | cons chunk chunks induction => simp [pushAll, induction]

theorem pushAll_take_succ (a : Assembler) (chunks : List (List UInt8)) {j : Nat}
    (inRange : j < chunks.length) :
    (a.pushAll (chunks.take (j + 1))).1 = ((a.pushAll (chunks.take j)).1.push chunks[j]).1 := by
  induction chunks generalizing a j with
  | nil => simp at inRange
  | cons chunk chunks induction =>
    cases j with
    | zero => simp [pushAll]
    | succ j => simp [pushAll, induction _ (Nat.lt_of_succ_lt_succ inRange)]

theorem getElem?_pushAll (a : Assembler) (chunks : List (List UInt8)) {j : Nat}
    (inRange : j < chunks.length) :
    (a.pushAll chunks).2[j]? = some ((a.pushAll (chunks.take j)).1.push chunks[j]).2 := by
  induction chunks generalizing a j with
  | nil => simp at inRange
  | cons chunk chunks induction =>
    cases j with
    | zero => simp [pushAll]
    | succ j => simp [pushAll, induction _ (Nat.lt_of_succ_lt_succ inRange)]

end Assembler

/-! ## Pushing toward an oversized header -/

section Oversized

variable {frames : List Frame} (fits : ∀ frame ∈ frames, frame.payload.length ≤ maxPayload)
  {header : FrameHeader} (large : maxPayload < header.length.toNat) {rest : List UInt8}

include fits large

/-- One push of the next piece of frames followed by an oversized header.  The assembler holds
the bytes after the frames already complete.  Once the bytes pushed reach the end of the header,
the push reports the header's length and keeps the bytes from the header on; before that it
returns the frames whose last byte it delivers. -/
theorem push_toward_oversized {assembler : Assembler} {pushed chunk : List UInt8}
    (held : assembler.pending = heldAfter frames pushed)
    (start : pushed ++ chunk <+: stream frames ++ header.encode ++ rest) :
    assembler.push chunk =
      (⟨heldAfter frames (pushed ++ chunk)⟩,
        if (stream frames).length + headerBytes ≤ (pushed ++ chunk).length then
          .error (.frameTooLarge header.length.toNat)
        else .ok (completedBetween frames pushed.length (pushed ++ chunk).length)) := by
  have pushedStart : pushed <+: stream frames ++ (header.encode ++ rest) := by
    rw [← List.append_assoc]
    exact List.IsPrefix.trans (List.prefix_append _ _) start
  have fitsDone : ∀ frame ∈ frames.take (completeWithin frames pushed.length),
      frame.payload.length ≤ maxPayload :=
    fun frame member => fits frame (List.mem_of_mem_take member)
  have again : extract (pushed ++ chunk) =
      { extract (assembler.pending ++ chunk) with
        frames := frames.take (completeWithin frames pushed.length) ++
          (extract (assembler.pending ++ chunk)).frames } := by
    rw [← extract_stream_append fitsDone, held, ← List.append_assoc,
      stream_append_heldAfter_of_prefix pushedStart]
  have whole := extract_prefix_oversized fits large start
  rw [again] at whole
  simp only [Extraction.mk.injEq] at whole
  obtain ⟨framesRead, restRead, errorRead⟩ := whole
  have newFrames : (extract (assembler.pending ++ chunk)).frames =
      completedBetween frames pushed.length (pushed ++ chunk).length := by
    have counted : (frames.take (completeWithin frames pushed.length)).length =
        completeWithin frames pushed.length :=
      List.length_take_of_le (completeWithin_le_length frames pushed.length)
    rw [completedBetween, ← framesRead, List.drop_left' counted]
  unfold Assembler.push
  by_cases reached : (stream frames).length + headerBytes ≤ (pushed ++ chunk).length
  · rw [if_pos reached] at errorRead
    simp only [errorRead, restRead, if_pos reached]
  · rw [if_neg reached] at errorRead
    simp only [errorRead, restRead, newFrames, if_neg reached]

/-- Pushes of the next pieces of frames followed by an oversized header leave the assembler
holding what follows the frames complete in all the bytes pushed. -/
theorem pending_pushAll_toward_oversized {assembler : Assembler} {pushed : List UInt8}
    (chunks : List (List UInt8)) (held : assembler.pending = heldAfter frames pushed)
    (start : pushed ++ chunks.flatten <+: stream frames ++ header.encode ++ rest) :
    (assembler.pushAll chunks).1.pending = heldAfter frames (pushed ++ chunks.flatten) := by
  induction chunks generalizing assembler pushed with
  | nil => simpa [Assembler.pushAll] using held
  | cons chunk chunks induction =>
    rw [List.flatten_cons, ← List.append_assoc] at start
    have firstStart : pushed ++ chunk <+: stream frames ++ header.encode ++ rest :=
      List.IsPrefix.trans (List.prefix_append _ _) start
    rw [Assembler.pushAll, push_toward_oversized fits large held firstStart]
    simp only
    rw [@induction ⟨heldAfter frames (pushed ++ chunk)⟩ (pushed ++ chunk) rfl start,
      List.flatten_cons, List.append_assoc]

theorem heldAfter_of_drained {assembler : Assembler} (drained : assembler.Drained)
    (start : assembler.pending <+: stream frames ++ header.encode ++ rest) :
    heldAfter frames assembler.pending = assembler.pending := by
  have read := extract_prefix_oversized fits large start
  unfold Assembler.Drained at drained
  rw [read] at drained
  dsimp only at drained
  rw [heldAfter, drained, stream_nil, List.length_nil, List.drop_zero]

end Oversized

namespace Bridge

/-- Bytes whose push fails end the worker's session: every pending connection is shut down, in
order, and nothing is written to any. -/
theorem receive_of_push_error {b : Bridge} {bytes : List UInt8} {error : ChannelError}
    (refused : (b.incoming.push bytes).2 = .error error) :
    b.receive bytes =
      { b with connected := false, pending := [],
               log := b.log ++ b.pending.map fun entry => (entry.2.client, .shutDown),
               incoming := (b.incoming.push bytes).1 } := by
  cases pushed : b.incoming.push bytes with
  | mk incoming answer =>
    rw [pushed] at refused
    dsimp only at refused
    subst refused
    simp [receive, pushed, disconnect, shutAll_eq]

end Bridge

/-! ## The error is sticky -/

/-- Oversized frames are a sticky error.  Take an assembler in which no complete frame waits,
which every push leaves, and pushes such that the bytes it holds followed by all the pushed
bytes are frames that fit, then a header declaring more than 1 MiB, then anything.  There is one
answer per push.  Every push that ends at or past the end of that header reports its declared
length, so no frame is returned from the push that completes the header on, and the assembler
then holds the bytes from the header on: the frames before it are consumed, those that arrived
in the same push unreturned.  Every push before it returns exactly the frames whose last byte it
delivers.  A bridge whose assembler receives a push that reports the header ends the worker's
session: no worker is connected, no connection waits, and each waiting connection is shut down
in order with nothing written to it. -/
theorem pushAll_oversized_header {assembler : Assembler} (drained : assembler.Drained)
    {frames : List Frame} (fits : ∀ frame ∈ frames, frame.payload.length ≤ maxPayload)
    {header : FrameHeader} (large : maxPayload < header.length.toNat)
    {rest : List UInt8} {chunks : List (List UInt8)}
    (input : assembler.pending ++ chunks.flatten = stream frames ++ header.encode ++ rest) :
    let received := fun count : Nat => assembler.pending ++ (chunks.take count).flatten
    let headerEnd := (stream frames).length + headerBytes
    (assembler.pushAll chunks).2.length = chunks.length ∧
    (∀ j, j < chunks.length → headerEnd ≤ (received (j + 1)).length →
      (assembler.pushAll chunks).2[j]? = some (.error (.frameTooLarge header.length.toNat)) ∧
      (assembler.pushAll (chunks.take (j + 1))).1.pending =
        (received (j + 1)).drop (stream frames).length) ∧
    (∀ j, j < chunks.length → (received (j + 1)).length < headerEnd →
      (assembler.pushAll chunks).2[j]? =
        some (.ok (completedBetween frames (received j).length (received (j + 1)).length))) ∧
    (∀ (b : Bridge) (j : Nat) (inRange : j < chunks.length),
      headerEnd ≤ (received (j + 1)).length →
      b.incoming = (assembler.pushAll (chunks.take j)).1 →
      b.receive chunks[j] =
        { b with connected := false, pending := [],
                 log := b.log ++ b.pending.map fun entry => (entry.2.client, .shutDown),
                 incoming := (assembler.pushAll (chunks.take (j + 1))).1 }) := by
  intro received headerEnd
  have receivedStart : ∀ count, received count <+: stream frames ++ header.encode ++ rest := by
    intro count
    rw [← input]
    exact (List.prefix_append_right_inj _).mpr (List.take_prefix count chunks).flatten
  have receivedSucc : ∀ j (inRange : j < chunks.length),
      received (j + 1) = received j ++ chunks[j] := by
    intro j inRange
    show assembler.pending ++ (chunks.take (j + 1)).flatten =
      assembler.pending ++ (chunks.take j).flatten ++ chunks[j]
    rw [List.take_add_one, List.getElem?_eq_getElem inRange, Option.toList_some, List.flatten_append,
      List.flatten_singleton, List.append_assoc]
  have freshStart : assembler.pending <+: stream frames ++ header.encode ++ rest := by
    rw [← input]
    exact List.prefix_append _ _
  have fresh := heldAfter_of_drained fits large drained freshStart
  have heldAt : ∀ count, (assembler.pushAll (chunks.take count)).1.pending =
      heldAfter frames (received count) :=
    fun count => pending_pushAll_toward_oversized fits large (chunks.take count) fresh.symm
      (receivedStart count)
  have pushAt : ∀ j (inRange : j < chunks.length),
      (assembler.pushAll (chunks.take j)).1.push chunks[j] =
        (⟨heldAfter frames (received (j + 1))⟩,
          if headerEnd ≤ (received (j + 1)).length then
            .error (.frameTooLarge header.length.toNat)
          else .ok (completedBetween frames (received j).length (received (j + 1)).length)) := by
    intro j inRange
    rw [receivedSucc j inRange]
    exact push_toward_oversized fits large (heldAt j) (receivedSucc j inRange ▸ receivedStart (j + 1))
  refine ⟨Assembler.length_pushAll assembler chunks, fun j inRange reached => ⟨?_, ?_⟩,
    fun j inRange before => ?_, fun b j inRange reached incoming => ?_⟩
  · rw [Assembler.getElem?_pushAll assembler chunks inRange, pushAt j inRange, if_pos reached]
  · rw [heldAt, heldAfter_of_length_stream_le (by omega)]
  · rw [Assembler.getElem?_pushAll assembler chunks inRange, pushAt j inRange,
      if_neg (Nat.not_le.mpr before)]
  · have refused : (b.incoming.push chunks[j]).2 = .error (.frameTooLarge header.length.toNat) := by
      rw [incoming, pushAt j inRange, if_pos reached]
    rw [Bridge.receive_of_push_error refused, incoming,
      Assembler.pushAll_take_succ assembler chunks inRange]

/-- Frame 1 with payload `5` and the empty frame 2, then a header for frame 3 that declares
2000000 bytes. -/
def overflowFrames : List Frame :=
  [⟨1, [5]⟩, ⟨2, []⟩]

def overflowHeader : FrameHeader :=
  ⟨3, 2000000⟩

/-- Frame 1 alone; then frame 2, the oversized header and one more byte; then one byte. -/
def overflowChunks : List (List UInt8) :=
  [[0, 0, 0, 0, 0, 0, 0, 1, 0, 0, 0, 1, 5],
    [0, 0, 0, 0, 0, 0, 0, 2, 0, 0, 0, 0, 0, 0, 0, 0, 0, 0, 0, 3, 0, 30, 132, 128, 9],
    [7]]

/-- Frame 2 arrives in the push that completes the oversized header, and is consumed with it. -/
theorem pushAll_oversized_header_after_frame :
    Assembler.Drained {} ∧ (∀ frame ∈ overflowFrames, frame.payload.length ≤ maxPayload) ∧
      maxPayload < overflowHeader.length.toNat ∧
      ({} : Assembler).pending ++ overflowChunks.flatten =
        stream overflowFrames ++ overflowHeader.encode ++ [9, 7] ∧
      let received := fun count : Nat =>
        ({} : Assembler).pending ++ (overflowChunks.take count).flatten
      let headerEnd := (stream overflowFrames).length + headerBytes
      (Assembler.pushAll {} overflowChunks).2.length = overflowChunks.length ∧
      (∀ j, j < overflowChunks.length → headerEnd ≤ (received (j + 1)).length →
        (Assembler.pushAll {} overflowChunks).2[j]? =
          some (.error (.frameTooLarge overflowHeader.length.toNat)) ∧
        (Assembler.pushAll {} (overflowChunks.take (j + 1))).1.pending =
          (received (j + 1)).drop (stream overflowFrames).length) ∧
      (∀ j, j < overflowChunks.length → (received (j + 1)).length < headerEnd →
        (Assembler.pushAll {} overflowChunks).2[j]? =
          some (.ok (completedBetween overflowFrames (received j).length
            (received (j + 1)).length))) ∧
      (∀ (b : Bridge) (j : Nat) (inRange : j < overflowChunks.length),
        headerEnd ≤ (received (j + 1)).length →
        b.incoming = (Assembler.pushAll {} (overflowChunks.take j)).1 →
        b.receive overflowChunks[j] =
          { b with connected := false, pending := [],
                   log := b.log ++ b.pending.map fun entry => (entry.2.client, .shutDown),
                   incoming := (Assembler.pushAll {} (overflowChunks.take (j + 1))).1 }) := by
  have fits : ∀ frame ∈ overflowFrames, frame.payload.length ≤ maxPayload := by
    decide
  have large : maxPayload < overflowHeader.length.toNat := by
    decide
  have input : ({} : Assembler).pending ++ overflowChunks.flatten =
      stream overflowFrames ++ overflowHeader.encode ++ [9, 7] := by
    decide
  exact ⟨Assembler.drained_empty, fits, large, input,
    pushAll_oversized_header Assembler.drained_empty fits large input⟩

example :
    (Assembler.pushAll {} overflowChunks).2 =
      [.ok [⟨1, [5]⟩], .error (.frameTooLarge 2000000), .error (.frameTooLarge 2000000)] := by
  decide +kernel

end Gatehouse.Worker
