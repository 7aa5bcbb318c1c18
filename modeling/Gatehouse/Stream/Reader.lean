/-!
# Buffered byte streams

A connection is read through a buffer.  Each read of the source gives some of its bytes, as many
as it has ready: where one read ends and the next begins is up to the source, and a read that
gives nothing means the source is exhausted.  A buffered reader keeps the bytes of its last read
until they are consumed, and reads the source again only once its buffer is empty.

A limited reader lets at most `limit` more bytes of a buffered reader through.  `readUntil`
collects bytes up to and including a delimiter: each round fills the reader, takes the available
bytes up to the delimiter if it is among them and stops, and otherwise takes them all and goes
on, until no byte is available.
-/

namespace Gatehouse.Stream

/-- A buffered reader: the bytes of its buffer not yet consumed, and the reads its source will
still give, in order.  Each read gives at least one byte; after the last, the source is
exhausted. -/
structure Reader where
  buffered : List UInt8
  pending : List (List UInt8)
  pending_ne_nil : ∀ chunk ∈ pending, chunk ≠ []

namespace Reader

/-- The bytes still to be read, buffered or not. -/
def bytes (r : Reader) : List UInt8 :=
  r.buffered ++ r.pending.flatten

/-- Makes bytes available: an empty buffer is filled by the next read of the source. -/
def fill : Reader → Reader
  | ⟨[], chunk :: later, nonempty⟩ =>
    ⟨chunk, later, fun other member => nonempty other (List.mem_cons_of_mem chunk member)⟩
  | r => r

/-- Marks the first `n` buffered bytes as consumed. -/
def consume (r : Reader) (n : Nat) : Reader :=
  { r with buffered := r.buffered.drop n }

@[simp]
theorem bytes_fill (r : Reader) : r.fill.bytes = r.bytes := by
  rcases r with ⟨_ | ⟨byte, buffered⟩, _ | ⟨chunk, later⟩, chunks⟩
  · rfl
  · simp [fill, bytes]
  · rfl
  · rfl

theorem fill_buffered_ne_nil {r : Reader} (nonempty : r.bytes ≠ []) : r.fill.buffered ≠ [] := by
  rcases r with ⟨_ | ⟨byte, buffered⟩, _ | ⟨chunk, later⟩, chunks⟩
  · simp [bytes] at nonempty
  · exact chunks chunk List.mem_cons_self
  · exact List.cons_ne_nil byte buffered
  · exact List.cons_ne_nil byte buffered

theorem bytes_consume {r : Reader} {n : Nat} (within : n ≤ r.buffered.length) :
    (r.consume n).bytes = r.bytes.drop n := by
  simp [consume, bytes, List.drop_append_of_le_length within]

end Reader

/-- A reader that lets at most `limit` more bytes of its inner reader through. -/
structure Limited where
  limit : Nat
  inner : Reader

namespace Limited

/-- Makes bytes available; once the limit is reached the inner reader is not read at all. -/
def fill (r : Limited) : Limited :=
  if r.limit = 0 then r else { r with inner := r.inner.fill }

/-- The buffered bytes, as far as the limit lets them through. -/
def available (r : Limited) : List UInt8 :=
  r.inner.buffered.take r.limit

/-- Marks `n` bytes as consumed, never more than the limit. -/
def consume (r : Limited) (n : Nat) : Limited :=
  ⟨r.limit - min n r.limit, r.inner.consume (min n r.limit)⟩

@[simp]
theorem limit_fill (r : Limited) : r.fill.limit = r.limit := by
  unfold fill
  split <;> rfl

@[simp]
theorem bytes_inner_fill (r : Limited) : r.fill.inner.bytes = r.inner.bytes := by
  unfold fill
  split
  · rfl
  · exact r.inner.bytes_fill

theorem length_available_le (r : Limited) : r.available.length ≤ r.limit :=
  List.length_take_le _ _

theorem consume_of_le_available {r : Limited} {n : Nat} (within : n ≤ r.available.length) :
    (r.consume n).limit = r.limit - n ∧ (r.consume n).inner.bytes = r.inner.bytes.drop n := by
  have atMost : n ≤ r.limit := Nat.le_trans within r.length_available_le
  have buffered : n ≤ r.inner.buffered.length := Nat.le_trans within (List.length_take_le' _ _)
  simp only [consume, Nat.min_eq_left atMost, true_and]
  exact Reader.bytes_consume buffered

theorem limit_consume_available_lt {r : Limited} (nonempty : r.available ≠ []) :
    (r.consume r.available.length).limit < r.limit := by
  have positive := List.length_pos_iff.mpr nonempty
  have atMost := r.length_available_le
  rw [(consume_of_le_available (Nat.le_refl _)).1]
  omega

theorem available_isPrefix (r : Limited) : r.available <+: r.inner.bytes :=
  (List.take_prefix r.limit r.inner.buffered).trans (List.prefix_append _ _)

theorem available_fill_isPrefix (r : Limited) : r.fill.available <+: r.inner.bytes :=
  r.bytes_inner_fill ▸ r.fill.available_isPrefix

theorem available_fill_eq_nil {r : Limited} (empty : r.fill.available = []) :
    r.limit = 0 ∨ r.inner.bytes = [] := by
  by_cases reached : r.limit = 0
  · exact .inl reached
  · by_cases exhausted : r.inner.bytes = []
    · exact .inr exhausted
    · have filled : r.fill.inner = r.inner.fill := by simp [fill, reached]
      have taken := List.take_eq_nil_iff.mp empty
      simp only [limit_fill, reached, false_or, filled] at taken
      exact absurd taken (Reader.fill_buffered_ne_nil exhausted)

/-- Reads bytes up to and including the first `delim`.  Each round fills the reader: the
available bytes are taken up to the first `delim` when it is among them, which ends the read;
otherwise they are all taken, and the read goes on until a round finds nothing available. -/
def readUntil (r : Limited) (delim : UInt8) : List UInt8 × Limited :=
  let ready := r.fill
  if delim ∈ ready.available then
    let through := ready.available.idxOf delim + 1
    (ready.available.take through, ready.consume through)
  else if _empty : ready.available = [] then ([], ready.consume 0)
  else
    let next := (ready.consume ready.available.length).readUntil delim
    (ready.available ++ next.1, next.2)
termination_by r.limit
decreasing_by
  exact r.limit_fill ▸ limit_consume_available_lt _empty

end Limited

end Gatehouse.Stream
