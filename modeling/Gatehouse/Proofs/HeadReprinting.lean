import Mathlib
import Gatehouse.Proofs.ResponseFraming

/-!
# Response heads printed again

A client reads a response head (`ResponseHead.parse`) and may print it again
(`ResponseHead.toBytes`): the status line as it was read, every header but `Keep-Alive`, and an
empty line.  Reading that print gives the head back, and the offset it returns is the whole
print.  The one change is in the values: a value cut at 1024 bytes may end with a CR, and that CR
goes with the line end when the printed line is read (`Header.withoutValueEnd`,
`ResponseHead.parse_toBytes_loses_cut_return`).

Every head that reading gives is of the kind that prints on one line per field
(`ResponseHead.Unbroken`): its code fits 16 bits, its reason holds no line feed and does not
end with CR or LF, and its headers are as reading a line gives them, with no line feed.  That is
what the printed head needs to read back.

Main statement: `ResponseHead.parse_toBytes_parse`.
-/

namespace Gatehouse.Http

open Gatehouse.Text

namespace Header

/-- A header as reading a line with no line feed gives it. -/
structure Unbroken (header : Header) : Prop where
  readable : header.Readable
  lineFeed_not_mem_key : '\n' ∉ header.key.toList
  lineFeed_not_mem_value : '\n' ∉ header.value.toList

theorem subset_of_parse? {line : String} {header : Header} (read : parse? line = some header) :
    header.key.toList ⊆ line.toList ∧ header.value.toList ⊆ line.toList := by
  obtain ⟨key, after, split, first, -, -⟩ := (isSome_parse?_iff line).mp (by rw [read]; rfl)
  obtain ⟨keyIs, valueIs⟩ := parse?_eq_some_of_split split first read
  have within : key ++ ':' :: after ⊆ line.toList :=
    split ▸ (dropLineEnd_isPrefix_self line.toList).subset
  constructor
  · rw [keyIs]
    exact List.Subset.trans (List.subset_append_left key _) within
  · rw [valueIs]
    refine List.Subset.trans ?_ within
    exact List.Subset.trans (takeBytes_isPrefix_self _ _).subset
      (List.Subset.trans (Blank.dropLeading_isSuffix_self after).subset
        (List.Subset.trans (List.subset_cons_self ':' after) (List.subset_append_right key _)))

theorem unbroken_of_parse? {line : String} {header : Header} (read : parse? line = some header)
    (noFeed : '\n' ∉ line.toList) : header.Unbroken :=
  ⟨readable_of_parse? read, fun feed => noFeed ((subset_of_parse? read).1 feed),
    fun feed => noFeed ((subset_of_parse? read).2 feed)⟩

end Header

namespace Version

theorem text_no_space (version : Option Version) :
    ' ' ∉ (textOf version).toList ∧ '\n' ∉ (textOf version).toList := by
  rcases version with _ | _ | _ <;> decide

theorem ofText?_textOf (version : Option Version) :
    ofText? (textOf version) = version := by
  rcases version with _ | version
  · rfl
  · exact ofText?_text version

end Version

namespace ResponseHead

/-! ## Lines read from bytes -/

theorem lf_not_mem_splitAtLf : ∀ bytes : List UInt8, (10 : UInt8) ∉ (splitAtLf bytes).1
  | [] => by simp [splitAtLf]
  | byte :: bytes => by
    rw [splitAtLf]
    split
    · simp
    · next notLf =>
      rw [List.mem_cons, not_or]
      exact ⟨Ne.symm notLf, lf_not_mem_splitAtLf bytes⟩

theorem dropCr_sublist (line : List UInt8) : List.Sublist (dropCr line) line := by
  unfold dropCr
  split
  · exact List.dropLast_sublist line
  · exact List.Sublist.refl line

theorem lineFeed_not_mem_of_nextLine? {bytes rest : List UInt8} {line : String}
    (read : nextLine? bytes = some (line, rest)) : '\n' ∉ line.toList := by
  cases bytes with
  | nil => cases read
  | cons byte bytes =>
    simp only [nextLine?, Option.some.injEq, Prod.mk.injEq] at read
    rw [← read.1, Utf8.lineFeed_mem_decodeLossy_iff]
    exact fun lf => lf_not_mem_splitAtLf _ (List.Sublist.subset (dropCr_sublist _) lf)

theorem readHeaders_unbroken {headers : List Header} (unbroken : ∀ h ∈ headers, h.Unbroken)
    (bytes : List UInt8) : ∀ h ∈ (readHeaders headers bytes).1, h.Unbroken := by
  revert unbroken
  fun_induction readHeaders headers bytes with
  | case1 => exact id
  | case2 => exact id
  | case3 headers bytes line rest read _ notBlank malformed induction => exact induction
  | case4 headers bytes line rest read _ notBlank header found induction =>
    intro unbroken
    apply induction
    intro h member
    rcases List.mem_append.mp member with old | new
    · exact unbroken h old
    · rw [List.mem_singleton.mp new]
      exact Header.unbroken_of_parse? found (lineFeed_not_mem_of_nextLine? read)

/-! ## Heads that print on one line per field -/

/-- A head whose fields print on one line each and read back: a 16-bit code, a reason with no
line feed that does not end with CR or LF, and headers as reading a line with no line feed gives
them. -/
structure Unbroken (head : ResponseHead) : Prop where
  status_le : head.status ≤ Numeral.maxU16
  lineFeed_not_mem_reason : '\n' ∉ head.reason.toList
  reason_ends : ∀ char ∈ head.reason.toList.getLast?, isLineEnd char = false
  headers_unbroken : ∀ header ∈ head.headers, header.Unbroken

theorem forall_getLast?_of_isSuffix {part chars : List Char} (after : part <:+ chars)
    {property : Char → Prop} (last : ∀ char ∈ chars.getLast?, property char) :
    ∀ char ∈ part.getLast?, property char := by
  obtain ⟨before, rfl⟩ := after
  intro char member
  apply last
  cases part with
  | nil => cases member
  | cons first part => rwa [List.getLast?_append_of_ne_nil _ (List.cons_ne_nil first part)]

theorem splitStatusLine_isSuffix (chars : List Char) :
    ((splitStatusLine chars).2.2.getD []) <:+ chars := by
  unfold splitStatusLine
  rw [List.span_eq_takeWhile_dropWhile]
  split
  · exact List.nil_suffix
  · next first spaced rest cut =>
    have restSuffix : rest <:+ chars := by
      have suffix := List.dropWhile_suffix (fun char => char != ' ') (l := chars)
      simp only [Prod.mk.injEq] at cut
      rw [cut.2] at suffix
      exact (List.suffix_cons spaced rest).trans suffix
    rw [List.span_eq_takeWhile_dropWhile]
    split
    · exact List.nil_suffix
    · next second spaced' third cut' =>
      simp only [Prod.mk.injEq] at cut'
      have thirdSuffix := List.dropWhile_suffix (fun char => char != ' ') (l := rest)
      rw [cut'.2] at thirdSuffix
      exact ((List.suffix_cons spaced' third).trans thirdSuffix).trans restSuffix

theorem unbroken_ofStatusLine {line : String} (noFeed : '\n' ∉ line.toList) :
    (ofStatusLine line).Unbroken := by
  have reasonSuffix : (ofStatusLine line).reason.toList <:+ dropLineEnd line.toList := by
    simp only [ofStatusLine, String.toList_ofList]
    exact splitStatusLine_isSuffix _
  refine ⟨?_, fun feed => noFeed ?_, ?_, by simp [ofStatusLine]⟩
  · simp only [ofStatusLine]
    split
    · split
      · next read => exact Numeral.le_of_readU16 read
      · exact Nat.zero_le _
    · exact Nat.zero_le _
  · exact (dropLineEnd_isPrefix_self line.toList).subset (reasonSuffix.subset feed)
  · exact forall_getLast?_of_isSuffix reasonSuffix (getLast?_dropLineEnd line.toList)

theorem unbroken_parse (raw : List UInt8) : (parse raw).1.Unbroken := by
  unfold parse
  split
  · exact @unbroken_ofStatusLine "" (by decide)
  · next line rest read =>
    have statusLine := unbroken_ofStatusLine (lineFeed_not_mem_of_nextLine? read)
    have kept := @readHeaders_unbroken [] (fun _ member => by cases member) rest
    generalize readHeaders [] rest = result at kept ⊢
    obtain ⟨headers, left⟩ := result
    exact ⟨statusLine.status_le, statusLine.lineFeed_not_mem_reason, statusLine.reason_ends, kept⟩

/-! ## A printed head read back -/

theorem parse_of_nextLine? {raw rest : List UInt8} {line : String}
    (read : nextLine? raw = some (line, rest)) :
    parse raw = ({ ofStatusLine line with headers := (readHeaders [] rest).1 },
      raw.length - (readHeaders [] rest).2.length) := by
  rw [parse, read]

theorem readHeaders_of_header {headers : List Header} {bytes rest : List UInt8} {line : String}
    {header : Header} (read : nextLine? bytes = some (line, rest)) (notEmpty : line.isEmpty = false)
    (found : Header.parse? line = some header) :
    readHeaders headers bytes = readHeaders (headers ++ [header]) rest := by
  rw [readHeaders]
  split
  · next absent => rw [read] at absent; cases absent
  · next other after taken =>
    rw [read] at taken
    cases taken
    simp only [notEmpty, Bool.false_eq_true, if_false, found]

/-- Printed header lines are read back as their headers, each less the CR and LF characters at
the end of its value, up to the empty line. -/
theorem readHeaders_encode_unbroken_lines {printed : List Header}
    (unbroken : ∀ header ∈ printed, header.Unbroken) (headers : List Header)
    (rest : List UInt8) :
    readHeaders headers
        (Utf8.encode (String.join (printed.map Header.line)) ++ [13, 10] ++ rest) =
      (headers ++ printed.map Header.withoutValueEnd, rest) := by
  induction printed generalizing headers with
  | nil =>
    simpa [show Utf8.encode "" = [] from rfl] using readHeaders_crlf headers rest
  | cons header printed induction =>
    have headerUnbroken := unbroken header List.mem_cons_self
    have noFeed : '\n' ∉ (header.key ++ ": " ++ header.value).toList := by
      simp [headerUnbroken.lineFeed_not_mem_key, headerUnbroken.lineFeed_not_mem_value]
    have notEmpty : (header.key ++ ": " ++ header.value).isEmpty = false := by
      have keyNonempty := headerUnbroken.readable.key_ne_nil
      simp only [String.isEmpty_eq_false_iff, ne_eq, String.append_eq_empty_iff]
      intro keyEmpty
      exact keyNonempty (by simp [keyEmpty.1])
    have reads : Header.parse? (header.key ++ ": " ++ header.value) =
        some header.withoutValueEnd := by
      rw [← Header.parse?_append_crlf, ← Header.line_eq,
        Header.parse?_line_eq headerUnbroken.readable]
    have read := nextLine?_encode_crlf noFeed
      (Utf8.encode (String.join (printed.map Header.line)) ++ [13, 10] ++ rest)
    have bytes : Utf8.encode (String.join ((header :: printed).map Header.line)) ++ [13, 10] ++
        rest = Utf8.encode (header.key ++ ": " ++ header.value) ++ [13, 10] ++
          (Utf8.encode (String.join (printed.map Header.line)) ++ [13, 10] ++ rest) := by
      rw [List.map_cons, String.join_cons, Header.line_eq, Utf8.encode_append,
        Utf8.encode_append, show Utf8.encode "\r\n" = [13, 10] from rfl]
      simp only [List.append_assoc]
    rw [bytes, readHeaders_of_header read notEmpty reads,
      induction (fun other member => unbroken other (List.mem_cons_of_mem header member)),
      List.append_assoc, List.singleton_append, List.map_cons]

/-- The printed status line of a head with a 16-bit code reads back as the head's version, code
and reason. -/
theorem ofStatusLine_statusText {head : ResponseHead} (unbroken : head.Unbroken) :
    ofStatusLine (Version.textOf head.version ++ " " ++ toString head.status ++ " " ++ head.reason) =
      { version := head.version, status := head.status, reason := head.reason } := by
  have codeNoSpace : ' ' ∉ (toString head.status).toList := fun space => by
    cases Numeral.isDigit_of_mem_toString head.status ' ' space
  have lastKept : ∀ char ∈ ((Version.textOf head.version).toList ++ ' ' ::
      (toString head.status).toList ++ [' ']).getLast?, isLineEnd char = false := by
    intro char last
    rw [List.getLast?_concat, Option.mem_def, Option.some.injEq] at last
    rw [← last]
    rfl
  have text : dropLineEnd
      (Version.textOf head.version ++ " " ++ toString head.status ++ " " ++ head.reason).toList =
      (Version.textOf head.version).toList ++ ' ' ::
        ((toString head.status).toList ++ ' ' :: head.reason.toList) := by
    have joined : (Version.textOf head.version ++ " " ++ toString head.status ++ " " ++
        head.reason).toList = ((Version.textOf head.version).toList ++ ' ' ::
          (toString head.status).toList ++ [' ']) ++ head.reason.toList := by
      simp
    rw [joined, dropLineEnd_append_of_getLast? lastKept,
      (dropLineEnd_eq_self_iff _).mpr unbroken.reason_ends]
    simp
  simp only [ofStatusLine, text, splitStatusLine,
    span_append_of_not_mem (Version.text_no_space head.version).1,
    span_append_of_not_mem codeNoSpace, String.ofList_toList, Version.ofText?_textOf,
    Numeral.readU16_toString unbroken.status_le, Option.getD_some]

theorem toBytes_eq (head : ResponseHead) :
    head.toBytes = Utf8.encode (Version.textOf head.version ++ " " ++ toString head.status ++ " " ++
        head.reason) ++ [13, 10] ++
      (Utf8.encode (String.join
        ((head.headers.filter (·.key != "Keep-Alive")).map Header.line)) ++ [13, 10] ++ []) := by
  simp only [toBytes, text, Utf8.encode_append, List.append_assoc, List.append_nil]
  rfl

/-- A head that prints on one line per field reads back from its print, without its
`Keep-Alive` headers and with the CR and LF characters at the end of its values dropped, and the
offset is the whole print. -/
theorem parse_toBytes_of_unbroken {head : ResponseHead} (unbroken : head.Unbroken) :
    parse head.toBytes =
      ({ head with
          headers := ((head.headers.filter (·.key != "Keep-Alive")).map Header.withoutValueEnd) },
        head.toBytes.length) := by
  have noFeed : '\n' ∉ (Version.textOf head.version ++ " " ++ toString head.status ++ " " ++
      head.reason).toList := by
    simp only [String.toList_append, List.mem_append, not_or]
    refine ⟨⟨⟨⟨(Version.text_no_space head.version).2, by decide⟩, fun feed => ?_⟩, by decide⟩,
      unbroken.lineFeed_not_mem_reason⟩
    cases Numeral.isDigit_of_mem_toString head.status '\n' feed
  have kept : ∀ header ∈ head.headers.filter (·.key != "Keep-Alive"), header.Unbroken :=
    fun header member => unbroken.headers_unbroken header (List.mem_of_mem_filter member)
  conv_lhs => rw [toBytes_eq]
  rw [parse, nextLine?_encode_crlf noFeed]
  simp only [readHeaders_encode_unbroken_lines kept, List.nil_append, List.length_nil,
    Nat.sub_zero, ofStatusLine_statusText unbroken]
  rw [← toBytes_eq]

/-- A response head read from any bytes, printed again and read back, is the same head without
its `Keep-Alive` headers and with the CR characters at the end of its values dropped; the
offset returned is the length of the print.  This holds of invalid heads too. -/
theorem parse_toBytes_parse (raw : List UInt8) :
    let head : ResponseHead := (parse raw).1
    parse head.toBytes =
      ({ head with
          headers := ((head.headers.filter (·.key != "Keep-Alive")).map Header.withoutValueEnd) },
        head.toBytes.length) :=
  parse_toBytes_of_unbroken (unbroken_parse raw)

/-- A head whose header value is cut at 1024 bytes right after a CR: printed and read back, the
value has lost its CR. -/
theorem parse_toBytes_loses_cut_return :
    (parse (Utf8.encode
        ("HTTP/1.0 200 OK\r\nX: " ++ String.ofList (List.replicate 1023 'a') ++ "\rb\r\n\r\n"))).1 =
        { version := some .http10, status := 200, reason := "OK",
          headers := [⟨"X", String.ofList (List.replicate 1023 'a' ++ ['\r'])⟩] } ∧
      (parse ({ version := some .http10, status := 200, reason := "OK",
                headers := [⟨"X", String.ofList (List.replicate 1023 'a' ++ ['\r'])⟩] } :
          ResponseHead).toBytes).1 ≠
        { version := some .http10, status := 200, reason := "OK",
          headers := [⟨"X", String.ofList (List.replicate 1023 'a' ++ ['\r'])⟩] } := by
  have headerNoFeed :
      '\n' ∉ ("X: " ++ String.ofList (List.replicate 1023 'a') ++ "\rb").toList := by
    simp only [String.toList_append, String.toList_ofList, List.mem_append, List.mem_replicate,
      not_or]
    exact ⟨⟨by decide, by decide⟩, by decide⟩
  have cutUnbroken := Header.unbroken_of_parse? Header.parse?_value_cut_after_return headerNoFeed
  constructor
  · have bytes : Utf8.encode
        ("HTTP/1.0 200 OK\r\nX: " ++ String.ofList (List.replicate 1023 'a') ++ "\rb\r\n\r\n") =
        Utf8.encode "HTTP/1.0 200 OK" ++ [13, 10] ++
          (Utf8.encode ("X: " ++ String.ofList (List.replicate 1023 'a') ++ "\rb") ++ [13, 10] ++
            ([13, 10] ++ [])) := by
      rw [show "HTTP/1.0 200 OK\r\nX: " = "HTTP/1.0 200 OK" ++ "\r\n" ++ "X: " by decide,
        show "\rb\r\n\r\n" = "\rb" ++ "\r\n" ++ "\r\n" by decide]
      simp only [Utf8.encode_append, show Utf8.encode "\r\n" = [13, 10] from rfl,
        List.append_assoc, List.append_nil]
    have notEmpty : ("X: " ++ String.ofList (List.replicate 1023 'a') ++ "\rb").isEmpty = false := by
      simp only [String.isEmpty_eq_false_iff, ne_eq, String.append_eq_empty_iff]
      intro empty
      exact absurd empty.2 (by decide)
    rw [bytes, parse_of_nextLine? (nextLine?_encode_crlf (by decide) _),
      readHeaders_of_header (nextLine?_encode_crlf headerNoFeed _) notEmpty
        Header.parse?_value_cut_after_return, readHeaders_crlf, List.nil_append,
      show ofStatusLine "HTTP/1.0 200 OK" = { version := some .http10, status := 200, reason := "OK" }
        by decide +kernel]
  · have unbroken : ResponseHead.Unbroken
        { version := some .http10, status := 200, reason := "OK",
          headers := [⟨"X", String.ofList (List.replicate 1023 'a' ++ ['\r'])⟩] } :=
      ⟨show 200 ≤ Numeral.maxU16 by decide, show '\n' ∉ "OK".toList by simp,
        show ∀ char ∈ "OK".toList.getLast?, isLineEnd char = false by simp [isLineEnd],
        fun header member => by
          rw [List.mem_singleton.mp member]
          exact cutUnbroken⟩
    have kept : [(⟨"X", String.ofList (List.replicate 1023 'a' ++ ['\r'])⟩ : Header)].filter
        (·.key != "Keep-Alive") = [⟨"X", String.ofList (List.replicate 1023 'a' ++ ['\r'])⟩] :=
      List.filter_cons_of_pos (by decide)
    rw [parse_toBytes_of_unbroken unbroken, kept]
    intro same
    have values := congrArg (fun head : ResponseHead => head.headers.map (·.value.toList)) same
    simp only [List.map_cons, List.map_nil, Header.withoutValueEnd, String.toList_ofList,
      List.cons.injEq, and_true] at values
    have ends := (dropLineEnd_eq_self_iff _).mp values
    rw [List.getLast?_concat] at ends
    exact absurd (ends '\r' rfl) (by decide)

end ResponseHead

end Gatehouse.Http
