import Mathlib
import Gatehouse.Proofs.RequestReading

/-!
# Reading lines through a buffer

A connection is read line by line through a buffered reader, whose reads end wherever the source
ends them.  Reading a line fills the reader round after round and collects bytes up to LF,
through a limit of 8192 bytes.

Whatever the reads, the lines are those of the stream read all at once: a line is the shortest
prefix of the remaining bytes that ends with LF when that prefix has at most 8192 bytes, and
otherwise the first 8192 bytes (`firstLine`); an exhausted reader gives no line.  One round of
`readUntil` takes bytes that the line rule takes too (`splitLine_append_of_no_lf`,
`splitLine_of_lf`), so a whole read is one cut by that rule (`readUntil_lf`), and lines read one
after another cut the stream into its segments.

Main statement: `Line.readFrom?_cuts_by_line_rule`.
-/

namespace Gatehouse.Http.Line

open Gatehouse.Text Gatehouse.Stream

theorem exists_split_at_idxOf {l : List UInt8} {a : UInt8} (found : a ∈ l) :
    ∃ body after, l = body ++ a :: after ∧ a ∉ body ∧ body.length = l.idxOf a := by
  induction l with
  | nil => cases found
  | cons x l induction =>
    by_cases here : x = a
    · subst here
      exact ⟨[], l, rfl, List.not_mem_nil, by simp⟩
    · have later : a ∈ l := (List.mem_cons.mp found).resolve_left (Ne.symm here)
      obtain ⟨body, after, rfl, missing, counted⟩ := induction later
      refine ⟨x :: body, after, rfl, by simp [Ne.symm here, missing], ?_⟩
      simp [List.idxOf_cons, beq_false_of_ne here, counted]

@[simp]
theorem splitLine_nil (budget : Nat) : splitLine budget [] = ([], []) := by
  cases budget <;> rfl

theorem splitLine_append_of_no_lf {line : List UInt8} (noLf : ∀ byte ∈ line, byte ≠ lf)
    {budget : Nat} (fits : line.length ≤ budget) (rest : List UInt8) :
    splitLine budget (line ++ rest) =
      (line ++ (splitLine (budget - line.length) rest).1,
        (splitLine (budget - line.length) rest).2) := by
  induction line generalizing budget with
  | nil => rfl
  | cons byte line induction =>
    obtain ⟨budget, rfl⟩ : ∃ smaller, budget = smaller + 1 :=
      Nat.exists_eq_add_one.mpr (by simp at fits; omega)
    have notLf : byte ≠ lf := noLf byte List.mem_cons_self
    rw [List.cons_append, splitLine, if_neg notLf,
      induction (fun other member => noLf other (List.mem_cons_of_mem byte member))
        (by simpa using fits)]
    simp

/-- Reading up to LF through a limited reader cuts its stream by the line rule, with the limit
as budget, however the stream is buffered. -/
theorem readUntil_lf (r : Limited) :
    (r.readUntil lf).1 = (splitLine r.limit r.inner.bytes).1 ∧
      (r.readUntil lf).2.inner.bytes = (splitLine r.limit r.inner.bytes).2 := by
  fun_induction r.readUntil lf with
  | case1 r ready found through =>
    obtain ⟨body, after, split, noLf, counted⟩ := exists_split_at_idxOf found
    obtain ⟨tail, whole⟩ : ready.available <+: r.inner.bytes := r.available_fill_isPrefix
    have fits : body.length < r.limit := by
      have atMost : ready.available.length ≤ r.limit := r.limit_fill ▸ ready.length_available_le
      rw [split] at atMost
      simp at atMost
      omega
    have bytes : r.inner.bytes = body ++ lf :: (after ++ tail) := by
      rw [← whole, split]
      simp
    have cut : through = body.length + 1 := by rw [counted]
    have rest := (@Limited.consume_of_le_available ready through
      (by rw [cut, split]; simp)).2
    have same : ready.inner.bytes = r.inner.bytes := r.bytes_inner_fill
    rw [bytes, splitLine_of_lf (fun byte member isLf => noLf (isLf ▸ member)) fits, rest, same,
      bytes, cut]
    refine ⟨by rw [split]; simp [List.take_append], ?_⟩
    simp
  | case2 r ready missing empty =>
    have rest := (@Limited.consume_of_le_available ready 0 (Nat.zero_le _)).2
    have same : ready.inner.bytes = r.inner.bytes := r.bytes_inner_fill
    rw [rest, same]
    rcases Limited.available_fill_eq_nil empty with reached | exhausted
    · rw [reached]
      simp [splitLine]
    · rw [exhausted]
      simp
  | case3 r ready missing nonempty next induction =>
    obtain ⟨tail, whole⟩ : ready.available <+: r.inner.bytes := r.available_fill_isPrefix
    have noLf : ∀ byte ∈ ready.available, byte ≠ lf :=
      fun byte member isLf => missing (isLf ▸ member)
    have fits : ready.available.length ≤ r.limit := r.limit_fill ▸ ready.length_available_le
    obtain ⟨limit, rest⟩ := @Limited.consume_of_le_available ready _ le_rfl
    have same : ready.inner.bytes = r.inner.bytes := r.bytes_inner_fill
    have dropped : r.inner.bytes.drop ready.available.length = tail := by
      rw [← whole, List.drop_left]
    rw [limit, rest, same, dropped, Limited.limit_fill] at induction
    obtain ⟨taken, left⟩ := induction
    rw [← whole, splitLine_append_of_no_lf noLf fits, ← taken, ← left]
    exact ⟨rfl, rfl⟩

/-- A line read from a buffered reader is the first line of its stream read all at once. -/
theorem readFrom?_bytes (reader : Reader) :
    (readFrom? reader).map (fun read => (read.1, read.2.bytes)) = readLine? reader.bytes := by
  obtain ⟨line, rest⟩ := readUntil_lf ⟨maxLineBytes, reader⟩
  dsimp only at line rest
  rcases bytes : reader.bytes with _ | ⟨byte, later⟩
  · have empty : (Limited.readUntil ⟨maxLineBytes, reader⟩ lf).1 = [] := by
      rw [line, bytes, splitLine_nil]
    simp [readFrom?, empty, readLine?]
  · have nonempty : (splitLine maxLineBytes (byte :: later)).1 ≠ [] :=
      @splitLine_fst_ne_nil 8191 byte later
    rw [bytes] at line rest
    simp [readFrom?, line, rest, nonempty, readLine?, take?]

theorem length_bytes_lt_of_readFrom? {reader rest : Reader} {line : String}
    (read : readFrom? reader = some (line, rest)) : rest.bytes.length < reader.bytes.length := by
  have flat := readFrom?_bytes reader
  rw [read, Option.map_some] at flat
  exact readLine?_rest_length flat.symm

/-- Reads lines from a buffered reader until it is exhausted. -/
def readAllFrom (reader : Reader) : List String :=
  match _found : readFrom? reader with
  | none => []
  | some (line, rest) => line :: readAllFrom rest
termination_by reader.bytes.length
decreasing_by exact length_bytes_lt_of_readFrom? _found

/-- Lines read one after another are the lines of the stream. -/
theorem readAllFrom_eq_textLines (reader : Reader) :
    readAllFrom reader = textLines reader.bytes := by
  fun_induction readAllFrom reader with
  | case1 reader exhausted =>
    have flat := readFrom?_bytes reader
    rw [exhausted, Option.map_none] at flat
    rw [readLine?_eq_none_iff.mp flat.symm, textLines_nil]
  | case2 reader line rest read induction =>
    have flat := readFrom?_bytes reader
    rw [read, Option.map_some] at flat
    rw [textLines_of_readLine? flat.symm, induction]

theorem flatten_segment (bytes : List UInt8) : (segment bytes).flatten = bytes := by
  fun_induction segment bytes with
  | case1 bytes exhausted =>
    cases bytes with
    | nil => rfl
    | cons byte later => cases exhausted
  | case2 bytes line rest cut shorter induction =>
    rw [List.flatten_cons, induction]
    cases bytes with
    | nil => cases cut
    | cons byte later =>
      have split := splitLine_append maxLineBytes (byte :: later)
      rwa [show splitLine maxLineBytes (byte :: later) = (line, rest) from Option.some.inj cut]
        at split

theorem splitLine_eq_take (budget : Nat) (bytes : List UInt8) :
    splitLine budget bytes =
      if lf ∈ bytes.take budget then
        (bytes.take (bytes.idxOf lf + 1), bytes.drop (bytes.idxOf lf + 1))
      else (bytes.take budget, bytes.drop budget) := by
  induction budget generalizing bytes with
  | zero => simp [splitLine]
  | succ budget induction =>
    cases bytes with
    | nil => simp
    | cons byte bytes =>
      by_cases isLf : byte = lf
      · simp [splitLine, isLf]
      · have differs : (byte == lf) = false := beq_false_of_ne isLf
        rw [splitLine, if_neg isLf, induction]
        simp [List.idxOf_cons, differs, Ne.symm isLf]
        split_ifs <;> rfl

/-- The first line of a stream by the reading rule: its shortest prefix that ends with LF when
that has at most 8192 bytes, and otherwise its first 8192 bytes. -/
def firstLine (bytes : List UInt8) : List UInt8 :=
  if lf ∈ bytes.take maxLineBytes then bytes.take (bytes.idxOf lf + 1)
  else bytes.take maxLineBytes

theorem splitLine_maxLineBytes (bytes : List UInt8) :
    splitLine maxLineBytes bytes = (firstLine bytes, bytes.drop (firstLine bytes).length) := by
  rw [splitLine_eq_take, firstLine]
  split_ifs with found
  · have within : bytes.idxOf lf + 1 ≤ bytes.length :=
      List.idxOf_lt_length_of_mem (List.mem_of_mem_take found)
    rw [List.length_take_of_le within]
  · rw [List.length_take]
    rcases le_total maxLineBytes bytes.length with within | beyond
    · rw [Nat.min_eq_left within]
    · rw [Nat.min_eq_right beyond, List.drop_length, List.drop_eq_nil_of_le beyond]

/-- Reading a line from a buffered reader gives nothing exactly when the reader is exhausted,
and otherwise the first line of its stream, read as text, leaving the bytes after it; so lines
read one after another are the raw lines of the stream, read as text, and these make up the
stream.  None of it depends on where the reads of the source end. -/
theorem readFrom?_cuts_by_line_rule (reader : Reader) :
    (readFrom? reader).map (fun read => (read.1, read.2.bytes)) =
        (if reader.bytes = [] then none
          else some (Utf8.decodeLossy (firstLine reader.bytes),
            reader.bytes.drop (firstLine reader.bytes).length)) ∧
      readAllFrom reader = (segment reader.bytes).map Utf8.decodeLossy ∧
      (segment reader.bytes).flatten = reader.bytes := by
  refine ⟨?_, readAllFrom_eq_textLines reader, flatten_segment reader.bytes⟩
  rw [readFrom?_bytes]
  split_ifs with exhausted
  · rw [exhausted]
    rfl
  · rw [readLine?, take?_of_ne_nil exhausted, splitLine_maxLineBytes]
    rfl

end Gatehouse.Http.Line
