import Mathlib
import Gatehouse.Http.Request

/-!
# Reading a request head line by line

`Request.parse` reads a request with a loop: one line for the request line, then header lines
until a blank line or the end of the stream, skipping lines that are not headers and keeping at
most 64 headers.  This module gives the same request a reading of its own, from the list of the
stream's lines (`ofLines`): the first three words of the first line give the method, the target
and the version; the lines after it up to the first blank one are the header lines; the headers
are the first 64 of them that read as headers.

The lines are cut by the line rule of `Line.segment`: at each LF, or after 8192 bytes when no LF
comes within them, so that the rest of a long line is read as a line of its own.  With lines cut
at every LF and no limit, the two readings differ (`parse_ne_ofLines_lfLines`).

Main statement: `parse_eq_ofLines`.
-/

namespace Gatehouse.Http

open Gatehouse.Text

namespace Line

@[simp]
theorem take?_nil : take? [] = none :=
  rfl

@[simp]
theorem segment_nil : segment [] = [] := by
  rw [segment]
  rfl

theorem segment_of_take? {bytes line rest : List UInt8} (cut : take? bytes = some (line, rest)) :
    segment bytes = line :: segment rest := by
  rw [segment]
  split
  · next noLine =>
      rw [cut] at noLine
      cases noLine
  · next line' rest' cut' =>
      rw [cut] at cut'
      cases cut'
      rfl

/-- The lines of a stream as text: cut by the line rule, each read lossily. -/
def textLines (bytes : List UInt8) : List String :=
  (segment bytes).map Utf8.decodeLossy

theorem readLine?_eq_none_iff {bytes : List UInt8} : readLine? bytes = none ↔ bytes = [] := by
  cases bytes with
  | nil =>
      simp [readLine?]
  | cons byte bytes =>
      simp [readLine?, take?]

theorem textLines_of_readLine? {bytes rest : List UInt8} {line : String}
    (read : readLine? bytes = some (line, rest)) :
    textLines bytes = line :: textLines rest := by
  unfold readLine? at read
  obtain ⟨⟨rawLine, rawRest⟩, cut, decoded⟩ := Option.map_eq_some_iff.mp read
  simp only [Prod.mk.injEq] at decoded
  obtain ⟨rfl, rfl⟩ := decoded
  rw [textLines, segment_of_take? cut, List.map_cons]
  rfl

theorem textLines_nil : textLines [] = [] := by
  simp [textLines]

theorem take?_of_ne_nil {bytes : List UInt8} (nonempty : bytes ≠ []) :
    take? bytes = some (splitLine maxLineBytes bytes) := by
  cases bytes with
  | nil =>
      exact absurd rfl nonempty
  | cons byte bytes =>
      rfl

theorem splitLine_of_no_lf {line : List UInt8} (noLf : ∀ byte ∈ line, byte ≠ lf)
    (rest : List UInt8) :
    splitLine line.length (line ++ rest) = (line, rest) := by
  induction line with
  | nil =>
      rfl
  | cons byte line induction =>
      have notLf : byte ≠ lf := noLf byte List.mem_cons_self
      rw [List.length_cons, List.cons_append, splitLine, if_neg notLf,
        induction (fun other member => noLf other (List.mem_cons_of_mem byte member))]

theorem splitLine_of_lf {line : List UInt8} (noLf : ∀ byte ∈ line, byte ≠ lf)
    {budget : Nat} (fits : line.length < budget) (rest : List UInt8) :
    splitLine budget (line ++ lf :: rest) = (line ++ [lf], rest) := by
  induction line generalizing budget with
  | nil =>
      cases budget with
      | zero =>
          simp at fits
      | succ budget =>
          simp [splitLine]
  | cons byte line induction =>
      cases budget with
      | zero =>
          simp at fits
      | succ budget =>
          have notLf : byte ≠ lf := noLf byte List.mem_cons_self
          rw [List.cons_append, splitLine, if_neg notLf,
            induction (fun other member => noLf other (List.mem_cons_of_mem byte member))
              (by simpa using fits)]
          rfl

end Line

namespace Request

/-! ## Header lines -/

/-- The header lines of a head: its lines up to the first blank one. -/
def headerLines (lines : List String) : List String :=
  lines.takeWhile fun line => !isBlankLine line

theorem headerLines_cons_of_blank {line : String} (blank : isBlankLine line = true)
    (lines : List String) :
    headerLines (line :: lines) = [] := by
  simp [headerLines, blank]

theorem headerLines_cons_of_not_blank {line : String} (notBlank : ¬ isBlankLine line = true)
    (lines : List String) :
    headerLines (line :: lines) = line :: headerLines lines := by
  simp [headerLines, notBlank]

/-- The headers that header lines give: the first 64 lines that read as headers, in order. -/
def keptHeaders (lines : List String) : List Header :=
  (lines.filterMap Header.parse?).take maxHeaders

theorem pushHeader_of_lt {headers : List Header} (below : headers.length < maxHeaders)
    (header : Header) :
    pushHeader headers header = headers ++ [header] := by
  simp [pushHeader, below]

theorem pushHeader_of_full {headers : List Header} (full : ¬ headers.length < maxHeaders)
    (header : Header) :
    pushHeader headers header = headers := by
  simp [pushHeader, full]

/-- The header loop reads every line up to the first blank one, skips the lines that are not
headers and keeps at most 64 headers; it never stops at a malformed line. -/
theorem readHeaders_fst {headers : List Header} (room : headers.length ≤ maxHeaders)
    (bytes : List UInt8) :
    (readHeaders headers bytes).1 =
      (headers ++ (headerLines (Line.textLines bytes)).filterMap Header.parse?).take
        maxHeaders := by
  fun_induction readHeaders headers bytes with
  | case1 headers bytes exhausted =>
      rw [Line.readLine?_eq_none_iff.mp exhausted, Line.textLines_nil]
      simp [headerLines, List.take_of_length_le room]
  | case2 headers bytes line rest read _ blank =>
      rw [Line.textLines_of_readLine? read, headerLines_cons_of_blank blank]
      simp [List.take_of_length_le room]
  | case3 headers bytes line rest read _ notBlank malformed induction =>
      rw [induction room, Line.textLines_of_readLine? read, headerLines_cons_of_not_blank notBlank,
        List.filterMap_cons_none malformed]
  | case4 headers bytes line rest read _ notBlank header wellFormed induction =>
      rw [Line.textLines_of_readLine? read, headerLines_cons_of_not_blank notBlank,
        List.filterMap_cons_some wellFormed]
      by_cases below : headers.length < maxHeaders
      · have grown : (headers ++ [header]).length ≤ maxHeaders := by
          simp only [List.length_append, List.length_singleton]
          omega
        rw [pushHeader_of_lt below] at induction ⊢
        rw [induction grown, List.append_assoc, List.singleton_append]
      · have exactly : headers.length = maxHeaders := by
          omega
        rw [pushHeader_of_full below] at induction ⊢
        rw [induction room, List.take_left' exactly, List.take_left' exactly]

/-! ## The request line -/

/-- The request a head reads as, from its lines: the request line is the first line (an empty
head reads as an empty request line), and the headers are kept from the header lines after
it. -/
def ofLines (lines : List String) : Request :=
  { ofRequestLine (lines.headD "") with headers := keptHeaders (headerLines lines.tail) }

end Request

theorem Method.ofText?_eq_some_iff {word : String} {method : Method} :
    Method.ofText? word = some method ↔ word = method.text := by
  constructor
  · intro found
    unfold Method.ofText? at found
    split at found <;> cases found <;> rfl
  · rintro rfl
    exact Method.ofText?_text method

theorem Version.ofText?_eq_some_iff {word : String} {version : Version} :
    Version.ofText? word = some version ↔ word = version.text := by
  constructor
  · intro found
    unfold Version.ofText? at found
    split at found <;> cases found <;> rfl
  · rintro rfl
    exact Version.ofText?_text version

namespace Request

theorem valid_ofRequestLine (line : String) :
    (ofRequestLine line).valid = true ↔
      (∃ method : Method, (Blank.fields line)[0]? = some method.text) ∧
      (∃ version : Version, (Blank.fields line)[2]? = some version.text) ∧
      (Uri.parse ((Blank.fields line)[1]?.getD "")).valid = true := by
  simp [valid, ofRequestLine, Option.isSome_iff_exists, Option.bind_eq_some_iff,
    Method.ofText?_eq_some_iff, Version.ofText?_eq_some_iff, and_assoc]

/-! ## The reading -/

/-- The request read from a stream is the request its lines read as. -/
theorem parse_eq_ofLines (bytes : List UInt8) :
    parse bytes = ofLines (Line.textLines bytes) := by
  unfold parse read?
  cases read : Line.readLine? bytes with
  | none =>
      rw [Line.readLine?_eq_none_iff.mp read, Line.textLines_nil]
      rfl
  | some lineAndRest =>
      obtain ⟨line, rest⟩ := lineAndRest
      simp only
      rw [Line.textLines_of_readLine? read, ofLines, readHeaders_fst (Nat.zero_le _),
        List.nil_append]
      rfl

/-- A request head reads as its lines: the lines are cut at each LF or after 8192 bytes and
read lossily; the first line is the request line (an empty head reads as the empty request
line), whose first three words give the method, the target and the version, and which is valid
when the first is a method, the third a version and the second a valid target; the headers are
the first 64 well-formed lines among those up to the first blank one, malformed lines being
skipped; and the head has a `Host` header when one of those kept is `Host`. -/
theorem parse_reads_head_lines (bytes : List UInt8) :
    parse bytes = ofLines (Line.textLines bytes) ∧
    parse [] = ofRequestLine "" ∧
    ((parse bytes).valid = true ↔
      (∃ method : Method,
        (Blank.fields ((Line.textLines bytes).headD ""))[0]? = some method.text) ∧
      (∃ version : Version,
        (Blank.fields ((Line.textLines bytes).headD ""))[2]? = some version.text) ∧
      (Uri.parse ((Blank.fields ((Line.textLines bytes).headD ""))[1]?.getD "")).valid =
        true) ∧
    ((parse bytes).hasHost = true ↔
      ∃ header ∈ (parse bytes).headers, header.key = "Host") := by
  refine ⟨parse_eq_ofLines bytes, ?_, ?_, ?_⟩
  · rw [parse_eq_ofLines, Line.textLines_nil]
    rfl
  · rw [parse_eq_ofLines, ofLines]
    exact valid_ofRequestLine _
  · simp [hasHost]

/-! ## Lines cut at every LF -/

/-- A stream cut at every LF, however long its lines are; the last line may lack its LF. -/
def lfLines : List UInt8 → List (List UInt8)
  | [] => []
  | byte :: bytes =>
      if byte = Line.lf then [byte] :: lfLines bytes
      else
        match lfLines bytes with
        | [] => [[byte]]
        | line :: lines => (byte :: line) :: lines

theorem lfLines_append_line {line : List UInt8} (noLf : ∀ byte ∈ line, byte ≠ Line.lf)
    (rest : List UInt8) :
    lfLines (line ++ Line.lf :: rest) = (line ++ [Line.lf]) :: lfLines rest := by
  induction line with
  | nil =>
      simp [lfLines]
  | cons byte line induction =>
      have notLf : byte ≠ Line.lf := noLf byte List.mem_cons_self
      rw [List.cons_append, lfLines, if_neg notLf,
        induction (fun other member => noLf other (List.mem_cons_of_mem byte member))]
      rfl

/-- With lines cut at every LF, a request line of 8192 bytes followed by CRLF and a `Host`
line reads as a head with that header; the line rule cuts the request line after its 8192
bytes, so that the CRLF after it is read as the blank line that ends the head. -/
theorem parse_ne_ofLines_lfLines :
    parse (List.replicate 8192 97 ++ [13, 10, 72, 111, 115, 116, 58, 32, 120, 13, 10, 13, 10]) ≠
      ofLines ((lfLines (List.replicate 8192 97 ++
        [13, 10, 72, 111, 115, 116, 58, 32, 120, 13, 10, 13, 10])).map Utf8.decodeLossy) := by
  have noLf : ∀ byte ∈ List.replicate 8192 (97 : UInt8), byte ≠ Line.lf := by
    intro byte member
    rw [List.eq_of_mem_replicate member]
    decide
  have firstCut : Line.take? (List.replicate 8192 97 ++
      [13, 10, 72, 111, 115, 116, 58, 32, 120, 13, 10, 13, 10]) =
        some (List.replicate 8192 97,
          [13, 10, 72, 111, 115, 116, 58, 32, 120, 13, 10, 13, 10]) := by
    have cut := Line.splitLine_of_no_lf noLf
      [13, 10, 72, 111, 115, 116, 58, 32, 120, 13, 10, 13, 10]
    rw [List.length_replicate] at cut
    rw [Line.take?_of_ne_nil (List.append_ne_nil_of_right_ne_nil _ (List.cons_ne_nil _ _)),
      Line.maxLineBytes, cut]
  have secondCut : Line.segment [13, 10, 72, 111, 115, 116, 58, 32, 120, 13, 10, 13, 10] =
      [[13, 10], [72, 111, 115, 116, 58, 32, 120, 13, 10], [13, 10]] := by
    rw [Line.segment_of_take? (by rfl), Line.segment_of_take? (by rfl),
      Line.segment_of_take? (by rfl), Line.segment_nil]
  have blank : isBlankLine (Utf8.decodeLossy [13, 10]) = true := by
    decide +kernel
  have lfCut : lfLines (List.replicate 8192 97 ++
      [13, 10, 72, 111, 115, 116, 58, 32, 120, 13, 10, 13, 10]) =
        (List.replicate 8192 97 ++ [13, 10]) ::
          [[72, 111, 115, 116, 58, 32, 120, 13, 10], [13, 10]] := by
    have crFree : ∀ byte ∈ List.replicate 8192 (97 : UInt8) ++ [13], byte ≠ Line.lf := by
      intro byte member
      rcases List.mem_append.mp member with early | late
      · exact noLf byte early
      · rw [List.mem_singleton.mp late]
        decide
    have cut := lfLines_append_line crFree [72, 111, 115, 116, 58, 32, 120, 13, 10, 13, 10]
    simp only [List.append_assoc, List.singleton_append, Line.lf] at cut
    rw [cut]
    rfl
  have hostLine : keptHeaders (headerLines
      [Utf8.decodeLossy [72, 111, 115, 116, 58, 32, 120, 13, 10],
        Utf8.decodeLossy [13, 10]]) = [⟨"Host", "x"⟩] := by
    decide +kernel
  intro same
  have sameHeaders := congrArg Request.headers same
  rw [parse_eq_ofLines, Line.textLines, Line.segment_of_take? firstCut, secondCut,
    lfCut] at sameHeaders
  simp only [ofLines, List.map_cons, List.map_nil, List.tail_cons,
    headerLines_cons_of_blank blank, hostLine] at sameHeaders
  simp [keptHeaders] at sameHeaders

end Request

end Gatehouse.Http
