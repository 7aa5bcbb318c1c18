import Mathlib
import Gatehouse.Http.Response
import Gatehouse.Http.ResponseHead
import Gatehouse.Proofs.HeaderLines

/-!
# Printed responses read back

A response prints as an HTTP/1.0 status line, one `name: value` line per header, an empty line
and the body (`Response.toBytes`); a client reads the head back with `ResponseHead.parse`, which
cuts lines at LF, drops one CR, and stops at the first empty line.  The two agree: a response
whose headers all print as lines that read back (`Header.Printable`) is read as its status line
and its headers in order, and the offset the reader returns is where the body starts.  The body
is never read, so it may hold anything, CRLF and empty lines included.

A response built from `Response.new` by setting headers and bodies keeps its headers printable
when every header set is printable and every body is shorter than `2 ^ 64` bytes, as a length of
a machine word is: its `Content-Length` then has at most twenty digits, far below the 1024 bytes
a value keeps when it is read.

Main statements: `Response.parse_toBytes` and `Response.parse_build_toBytes`.
-/

namespace Gatehouse.Http

open Gatehouse.Text

/-! ## Lines of a head -/

namespace ResponseHead

theorem splitAtLf_append_lf {line : List UInt8} (noLf : (10 : UInt8) ∉ line)
    (rest : List UInt8) : splitAtLf (line ++ 10 :: rest) = (line, rest) := by
  induction line with
  | nil => simp [splitAtLf]
  | cons byte line induction =>
    have notLf : byte ≠ 10 := fun same => noLf (same ▸ List.mem_cons_self)
    rw [List.cons_append, splitAtLf, if_neg notLf,
      induction (fun member => noLf (List.mem_cons_of_mem byte member))]

theorem dropCr_append_cr (line : List UInt8) : dropCr (line ++ [13]) = line := by
  simp [dropCr]

theorem nextLine?_encode_crlf {text : String} (noFeed : '\n' ∉ text.toList)
    (rest : List UInt8) :
    nextLine? (Utf8.encode text ++ [13, 10] ++ rest) = some (text, rest) := by
  have noLf : (10 : UInt8) ∉ Utf8.encode text ++ [13] := by
    rw [List.mem_append, Utf8.encode, Utf8.lf_mem_encodeChars_iff]
    simp [noFeed]
  have shape : Utf8.encode text ++ [13, 10] ++ rest = (Utf8.encode text ++ [13]) ++ 10 :: rest := by
    simp
  rw [shape, nextLine?.eq_2 _ (List.append_ne_nil_of_right_ne_nil _ (List.cons_ne_nil _ _)),
    splitAtLf_append_lf noLf]
  dsimp only
  rw [dropCr_append_cr, Utf8.decodeLossy_encode]

theorem readHeaders_crlf (headers : List Header) (rest : List UInt8) :
    readHeaders headers ([13, 10] ++ rest) = (headers, rest) := by
  have emptyLine : nextLine? ([13, 10] ++ rest) = some ("", rest) :=
    @nextLine?_encode_crlf "" (by simp) rest
  rw [readHeaders]
  split
  · next absent => rw [emptyLine] at absent; cases absent
  · next line after read =>
    rw [emptyLine] at read
    cases read
    rfl

theorem Header.line_eq (header : Header) :
    header.line = (header.key ++ ": " ++ header.value) ++ "\r\n" := by
  simp [Header.line, String.append_assoc]

theorem Header.parse?_append_crlf (text : String) :
    Header.parse? (text ++ "\r\n") = Header.parse? text := by
  have ends : dropLineEnd (text ++ "\r\n").toList = dropLineEnd text.toList := by
    rw [String.toList_append, show "\r\n".toList = ['\r'] ++ ['\n'] from rfl,
      ← List.append_assoc, dropLineEnd_append_of_lineEnd _ (by decide),
      dropLineEnd_append_of_lineEnd _ (by decide)]
  simp only [Header.parse?, ends]

/-- Printed header lines are read back as their headers, in order, up to the empty line. -/
theorem readHeaders_encode_lines {printed : List Header}
    (printable : ∀ header ∈ printed, header.Printable) (headers : List Header)
    (rest : List UInt8) :
    readHeaders headers
        (Utf8.encode (String.join (printed.map Header.line)) ++ [13, 10] ++ rest) =
      (headers ++ printed, rest) := by
  induction printed generalizing headers with
  | nil =>
    simpa [show Utf8.encode "" = [] from rfl] using readHeaders_crlf headers rest
  | cons header printed induction =>
    have headerPrintable := printable header List.mem_cons_self
    have noFeed : '\n' ∉ (header.key ++ ": " ++ header.value).toList := by
      simp [headerPrintable.lineFeed_not_mem_key, headerPrintable.lineFeed_not_mem_value]
    have notEmpty : (header.key ++ ": " ++ header.value).isEmpty = false := by
      have keyNonempty := headerPrintable.key_ne_nil
      simp only [String.isEmpty_eq_false_iff, ne_eq, String.append_eq_empty_iff]
      intro keyEmpty
      exact keyNonempty (by simp [keyEmpty.1])
    have reads : Header.parse? (header.key ++ ": " ++ header.value) = some header := by
      rw [← Header.parse?_append_crlf, ← Header.line_eq, Header.parse?_line headerPrintable]
    have read := nextLine?_encode_crlf noFeed
      (Utf8.encode (String.join (printed.map Header.line)) ++ [13, 10] ++ rest)
    have bytes : Utf8.encode (String.join ((header :: printed).map Header.line)) ++ [13, 10] ++
        rest = Utf8.encode (header.key ++ ": " ++ header.value) ++ [13, 10] ++
          (Utf8.encode (String.join (printed.map Header.line)) ++ [13, 10] ++ rest) := by
      rw [List.map_cons, String.join_cons, Header.line_eq, Utf8.encode_append,
        Utf8.encode_append, show Utf8.encode "\r\n" = [13, 10] from rfl]
      simp only [List.append_assoc]
    rw [bytes, readHeaders]
    split
    · next absent => rw [read] at absent; cases absent
    · next line after found =>
      rw [read] at found
      cases found
      simp only [notEmpty, Bool.false_eq_true, if_false, reads]
      rw [induction (fun other member => printable other (List.mem_cons_of_mem header member)),
        List.append_assoc, List.singleton_append]

theorem ofStatusLine_statusLine (status : Status) :
    ofStatusLine (Version.http10.text ++ " " ++ status.display) =
      { version := some .http10, status := status.code, reason := status.reason } := by
  cases status <;> decide +kernel

theorem lineFeed_not_mem_statusLine (status : Status) :
    '\n' ∉ (Version.http10.text ++ " " ++ status.display).toList := by
  cases status <;> decide

theorem valid_ofStatusLine_statusLine (status : Status) :
    (ofStatusLine (Version.http10.text ++ " " ++ status.display)).valid = true := by
  cases status <;> decide +kernel

end ResponseHead

/-! ## A printed response read back -/

namespace Response

/-- The headers of a response as header lines, in order. -/
def headerList (r : Response) : List Header :=
  r.headers.entries.map fun entry => ⟨entry.1, entry.2⟩

/-- A response whose headers all print as lines that read back. -/
def Printable (r : Response) : Prop :=
  ∀ header ∈ r.headerList, header.Printable

theorem openHeadText_eq (r : Response) :
    r.openHeadText = Version.http10.text ++ " " ++ r.status.display ++ "\r\n" ++
      String.join (r.headerList.map Header.line) := by
  rw [headerList, List.map_map]
  rfl

theorem toBytes_eq (r : Response) :
    r.toBytes = Utf8.encode (Version.http10.text ++ " " ++ r.status.display) ++ [13, 10] ++
      (Utf8.encode (String.join (r.headerList.map Header.line)) ++ [13, 10] ++ r.body) := by
  simp only [toBytes, head, openHead, openHeadText_eq, Utf8.encode_append, List.append_assoc]
  rfl

theorem length_head (r : Response) : r.head.length = r.toBytes.length - r.body.length := by
  simp [toBytes]

/-- A response whose headers print as lines that read back is read as its status line and
its headers, and its body starts where the reading stops. -/
theorem parse_toBytes {r : Response} (printable : r.Printable) :
    ResponseHead.parse r.toBytes =
      ({ version := some .http10, status := r.status.code, reason := r.status.reason,
          headers := r.headerList }, r.head.length) := by
  rw [length_head, toBytes_eq, ResponseHead.parse,
    ResponseHead.nextLine?_encode_crlf (ResponseHead.lineFeed_not_mem_statusLine r.status)]
  simp only [ResponseHead.readHeaders_encode_lines printable, List.nil_append,
    ResponseHead.ofStatusLine_statusLine]

theorem drop_parse_toBytes {r : Response} (printable : r.Printable) :
    r.toBytes.drop (ResponseHead.parse r.toBytes).2 = r.body := by
  rw [parse_toBytes printable]
  simp [toBytes]

/-! ## Responses built step by step -/

/-- One step of building a response: setting a header, or setting the body from a text or
from bytes, which also sets `Content-Length`. -/
inductive Step where
  | header (name value : String)
  | body (text : String)
  | bodyBytes (bytes : List UInt8)
  deriving DecidableEq, Repr

/-- The response after one step. -/
def Step.apply (r : Response) : Step → Response
  | .header name value => r.withHeader name value
  | .body text => r.withBody text
  | .bodyBytes bytes => r.withBodyBytes bytes

/-- The response of a status after the steps, in order. -/
def build (status : Status) (steps : List Step) : Response :=
  steps.foldl Step.apply (new status)

/-- A step the printer is made for: a header that prints as a line that reads back, or a body
whose length fits a machine word. -/
def Step.Allowed : Step → Prop
  | .header name value => Header.Printable ⟨name, value⟩
  | .body text => (Utf8.encode text).length < 2 ^ 64
  | .bodyBytes bytes => bytes.length < 2 ^ 64

theorem status_apply (r : Response) (step : Step) : (step.apply r).status = r.status := by
  cases step <;> rfl

theorem status_build (status : Status) (steps : List Step) :
    (build status steps).status = status := by
  suffices kept : ∀ r : Response, (steps.foldl Step.apply r).status = r.status from
    kept (new status)
  induction steps with
  | nil => intro r; rfl
  | cons step steps induction =>
    intro r
    rw [List.foldl_cons, induction, status_apply]

/-! ## Headers that stay printable -/

theorem mem_setEntry {name value : String} {entries : List (String × String)}
    {entry : String × String} (member : entry ∈ HeaderTable.setEntry name value entries) :
    entry ∈ entries ∨ entry = (name, value) := by
  induction entries with
  | nil => exact .inr (List.mem_singleton.mp member)
  | cons first entries induction =>
    rw [HeaderTable.setEntry] at member
    split_ifs at member with same
    · rcases List.mem_cons.mp member with rfl | later
      · exact .inr (by rw [same])
      · exact .inl (List.mem_cons_of_mem _ later)
    · rcases List.mem_cons.mp member with rfl | later
      · exact .inl List.mem_cons_self
      · rcases induction later with old | set
        · exact .inl (List.mem_cons_of_mem _ old)
        · exact .inr set

theorem Printable.withHeader {r : Response} (printable : r.Printable) {name value : String}
    (header : Header.Printable ⟨name, value⟩) : (r.withHeader name value).Printable := by
  intro other member
  obtain ⟨entry, found, rfl⟩ := List.mem_map.mp member
  rcases mem_setEntry found with old | rfl
  · exact printable _ (List.mem_map_of_mem old)
  · exact header

theorem facts_of_isDigit {char : Char} (digit : char.isDigit = true) :
    char.utf8Size = 1 ∧ Blank.isBlank char = false ∧ char ≠ '\n' ∧ char ≠ '\r' := by
  have bounds : 48 ≤ char.toNat ∧ char.toNat ≤ 57 := by
    simp only [Char.isDigit, Bool.and_eq_true, decide_eq_true_eq] at digit
    exact ⟨digit.1, digit.2⟩
  refine ⟨?_, ?_, ?_, ?_⟩
  · have small : char.val ≤ 127 := by
      rw [UInt32.le_iff_toNat_le]
      exact Nat.le_trans bounds.2 (by decide)
    simp [Char.utf8Size, small]
  · simp only [Blank.isBlank]
    simp
    omega
  · intro feed
    subst feed
    simp at bounds
  · intro carriage
    subst carriage
    simp at bounds

/-- The `Content-Length` of a body that fits a machine word prints as a line that reads back:
it is at most twenty digits. -/
theorem printable_contentLength {length : Nat} (fits : length < 2 ^ 64) :
    Header.Printable ⟨"Content-Length", toString length⟩ := by
  have digits : ∀ char ∈ (toString length).toList, char.isDigit = true := by
    rw [Nat.toString_eq_repr, Nat.repr_eq_ofList_toDigits, String.toList_ofList]
    exact fun char member => Nat.isDigit_of_mem_toDigits (by norm_num) (by norm_num) member
  have short : (toString length).toList.length ≤ 20 := by
    rw [Nat.toString_eq_repr, Nat.repr_eq_ofList_toDigits, String.toList_ofList]
    exact Nat.toDigits_length 10 length 20 (by norm_num) (lt_of_lt_of_le fits (by norm_num))
  have bytes : byteCount (toString length).toList = (toString length).toList.length := by
    have ones : (toString length).toList.map Char.utf8Size =
        (toString length).toList.map fun _ => 1 :=
      List.map_congr_left fun char member => (facts_of_isDigit (digits char member)).1
    rw [byteCount_eq_sum, ones]
    simp
  refine ⟨?_, ?_, ?_, ?_, ?_, ?_, ?_, ?_⟩
  · show "Content-Length".toList ≠ []
    decide
  · show ':' ∉ "Content-Length".toList
    decide
  · show byteCount "Content-Length".toList ≤ 256
    decide
  · show '\n' ∉ "Content-Length".toList
    decide
  · show byteCount (toString length).toList ≤ 1024
    omega
  · intro char first
    exact (facts_of_isDigit (digits char (List.mem_of_mem_head? first))).2.1
  · intro feed
    exact (facts_of_isDigit (digits _ feed)).2.2.1 rfl
  · intro last
    exact (facts_of_isDigit (digits _ (List.mem_of_getLast? last))).2.2.2 rfl

theorem Printable.withBodyBytes {r : Response} (printable : r.Printable) {bytes : List UInt8}
    (fits : bytes.length < 2 ^ 64) : (r.withBodyBytes bytes).Printable :=
  @Printable.withHeader { r with body := bytes } printable "Content-Length"
    (toString bytes.length) (printable_contentLength fits)

theorem printable_server : Header.Printable ⟨"Server", serverSoftware⟩ := by
  refine ⟨by decide, by decide, by decide, by decide, by decide, ?_, by decide, by decide⟩
  simp [serverSoftware, Blank.isBlank]

theorem printable_new (status : Status) : (new status).Printable := by
  intro header member
  simp only [headerList, new, List.map_cons, List.map_nil, List.mem_singleton] at member
  rw [member]
  exact printable_server

theorem Printable.apply {r : Response} (printable : r.Printable) {step : Step}
    (allowed : step.Allowed) : (step.apply r).Printable := by
  cases step with
  | header name value => exact printable.withHeader allowed
  | body text => exact printable.withBodyBytes allowed
  | bodyBytes bytes => exact printable.withBodyBytes allowed

theorem printable_build (status : Status) {steps : List Step}
    (allowed : ∀ step ∈ steps, step.Allowed) : (build status steps).Printable := by
  suffices kept : ∀ r : Response, r.Printable → (steps.foldl Step.apply r).Printable from
    kept (new status) (printable_new status)
  induction steps with
  | nil => exact fun r printable => printable
  | cons step steps induction =>
    intro r printable
    rw [List.foldl_cons]
    exact induction (fun other member => allowed other (List.mem_cons_of_mem step member)) _
      (printable.apply (allowed step List.mem_cons_self))

/-- A response built from `Response.new` by setting printable headers and bodies that fit a
machine word reads back as a valid HTTP/1.0 head with its status's code and reason and its
headers in order, and its body is exactly what follows the offset the reading returns. -/
theorem parse_build_toBytes (status : Status) (steps : List Step)
    (allowed : ∀ step ∈ steps, step.Allowed) :
    (ResponseHead.parse (build status steps).toBytes).1.valid = true ∧
      (ResponseHead.parse (build status steps).toBytes).1 =
        { version := some .http10, status := status.code, reason := status.reason,
          headers := (build status steps).headerList } ∧
      (build status steps).toBytes.drop (ResponseHead.parse (build status steps).toBytes).2 =
        (build status steps).body := by
  have printable := printable_build status allowed
  have read := parse_toBytes printable
  rw [status_build] at read
  refine ⟨?_, by rw [read], drop_parse_toBytes printable⟩
  rw [read]
  cases status <;> rfl

/-- A 404 page with a body that holds an empty line and CRLF reads back whole. -/
theorem parse_build_toBytes_page_with_blank_line :
    (∀ step ∈ [Step.header "Content-Type" "text/html", Step.body "one\r\n\r\ntwo"],
        step.Allowed) ∧
      (ResponseHead.parse (build .notFound
        [.header "Content-Type" "text/html", .body "one\r\n\r\ntwo"]).toBytes).1.valid = true ∧
      (ResponseHead.parse (build .notFound
        [.header "Content-Type" "text/html", .body "one\r\n\r\ntwo"]).toBytes).1 =
        { version := some .http10, status := 404, reason := "Not Found",
          headers := (build .notFound
            [.header "Content-Type" "text/html", .body "one\r\n\r\ntwo"]).headerList } ∧
      (build .notFound [.header "Content-Type" "text/html", .body "one\r\n\r\ntwo"]).toBytes.drop
          (ResponseHead.parse (build .notFound
            [.header "Content-Type" "text/html", .body "one\r\n\r\ntwo"]).toBytes).2 =
        (build .notFound [.header "Content-Type" "text/html", .body "one\r\n\r\ntwo"]).body := by
  have allowed : ∀ step ∈ [Step.header "Content-Type" "text/html", Step.body "one\r\n\r\ntwo"],
      step.Allowed := by
    intro step member
    simp only [List.mem_cons, List.not_mem_nil, or_false] at member
    rcases member with rfl | rfl
    · exact ⟨by decide, by decide, by decide, by decide, by decide, by simp [Blank.isBlank],
        by decide, by decide⟩
    · show (Utf8.encode "one\r\n\r\ntwo").length < 2 ^ 64
      decide
  exact ⟨allowed, parse_build_toBytes .notFound _ allowed⟩

end Response

end Gatehouse.Http
