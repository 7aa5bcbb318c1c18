import Mathlib
import Gatehouse.Proofs.RequestReading
import Gatehouse.Proofs.HeaderLines

/-!
# Printed requests read back

A request prints as an HTTP/1.0 request line with its path and query, its headers but
`Keep-Alive`, and a blank line (`Request.toBytes`).  Reading the printed forms of requests one
after another from one stream gives each request back, with nothing left over: the same method,
path, query and headers (less `Keep-Alive`), as HTTP/1.0, with no host and the default port.

This holds of every valid request read from a byte string, on three conditions that its printed
form can break otherwise:
- the printed request line fits in one line read, 8192 bytes: a longer one is cut and its rest
  read as a line of its own;
- the path and query hold no `://`, which the reading of a target takes for the end of a scheme
  (`readMany_printed_scheme_in_path`);
- no header value ends with CR: a value cut at 1024 bytes can, and the reading of the printed
  line drops that CR with the line end.

Main statement: `readMany_printed_requests`.
-/

/-! ## Words of a printed request line -/

namespace Gatehouse.Text.Blank

theorem not_blank_of_mem_splitOnP {chars word : List Char}
    (member : word ∈ chars.splitOnP isBlank) : ∀ char ∈ word, isBlank char = false := by
  induction chars generalizing word with
  | nil =>
    rw [List.splitOnP_nil, List.mem_singleton] at member
    subst member
    simp
  | cons char chars induction =>
    rw [List.splitOnP_cons_eq_if_modifyHead] at member
    split_ifs at member with blank
    · rcases List.mem_cons.mp member with rfl | later
      · simp
      · exact induction later
    · obtain ⟨first, words, pieces⟩ :=
        List.exists_cons_of_ne_nil (List.splitOnP_ne_nil isBlank chars)
      rw [pieces, List.modifyHead_cons] at member
      have firstWord : first ∈ chars.splitOnP isBlank := pieces ▸ List.mem_cons_self
      rcases List.mem_cons.mp member with rfl | later
      · intro other inWord
        rcases List.mem_cons.mp inWord with rfl | inFirst
        · simpa using blank
        · exact induction firstWord other inFirst
      · exact induction (pieces ▸ List.mem_cons_of_mem first later)

theorem not_blank_of_mem_fields {text word : String} (member : word ∈ fields text) :
    ∀ char ∈ word.toList, isBlank char = false := by
  obtain ⟨chars, found, rfl⟩ := List.mem_map.mp member
  rw [String.toList_ofList]
  exact not_blank_of_mem_splitOnP (List.mem_filter.mp found).1

theorem fields_of_three_words {text : String} {first second third : List Char}
    (shape : text.toList = first ++ ' ' :: second ++ ' ' :: third ++ ['\r', '\n'])
    (unbroken : ∀ word ∈ [first, second, third],
      word ≠ [] ∧ ∀ char ∈ word, isBlank char = false) :
    fields text = [String.ofList first, String.ofList second, String.ofList third] := by
  have firstWord := unbroken first (by simp)
  have secondWord := unbroken second (by simp)
  have thirdWord := unbroken third (by simp)
  have feedBlank : isBlank '\n' = true := by decide
  rw [fields, words, shape]
  simp only [List.append_assoc, List.cons_append]
  rw [List.splitOnP_append_cons_of_forall_mem firstWord.2 ' ' (by decide),
    List.splitOnP_append_cons_of_forall_mem secondWord.2 ' ' (by decide),
    List.splitOnP_append_cons_of_forall_mem thirdWord.2 '\r' (by decide)]
  simp [List.splitOnP_cons_eq_if_modifyHead, firstWord.1, secondWord.1, thirdWord.1, feedBlank]

end Gatehouse.Text.Blank

namespace Gatehouse.Http

open Gatehouse.Text

/-! ## Targets -/

namespace Uri

theorem span_of_no_query {path rest : List Char} (noQuery : '?' ∉ path)
    (starts : ∀ char ∈ rest.head?, char = '?') :
    (path ++ rest).span (· != '?') = (path, rest) := by
  have kept : ∀ char ∈ path, (char != '?') = true := by
    intro char member
    have notQuery : char ≠ '?' := fun same => noQuery (same ▸ member)
    simpa using notQuery
  rw [List.span_eq_takeWhile_dropWhile, List.takeWhile_append_of_pos kept,
    List.dropWhile_append_of_pos kept]
  cases rest with
  | nil => simp
  | cons char rest =>
    have query : char = '?' := starts char rfl
    subst query
    simp

theorem exists_split_at_query (rest : List Char) :
    ∃ path after, rest = path ++ after ∧ '?' ∉ path ∧
      ∀ char ∈ after.head?, char = '?' := by
  refine ⟨rest.takeWhile (· != '?'), rest.dropWhile (· != '?'),
    List.takeWhile_append_dropWhile.symm, fun query => ?_, fun char first => ?_⟩
  · have kept := List.mem_takeWhile_imp query
    simp at kept
  · have stops := List.head?_dropWhile_not (fun char => char != '?') rest
    rw [Option.mem_def.mp first] at stops
    simpa using stops

theorem toList_pathAndQuery_of_split {base : Uri} (static : base.isDynamic = false)
    {path after : List Char} (pathFree : '?' ∉ path)
    (starts : ∀ char ∈ after.head?, char = '?') :
    (withPathAndQuery base (path ++ after)).pathAndQuery.toList =
      (if path = [] then ['/'] else path) ++ after := by
  unfold withPathAndQuery
  rw [span_of_no_query pathFree starts]
  cases after with
  | nil =>
    by_cases empty : path = [] <;> simp [pathAndQuery, static, empty]
  | cons query rest =>
    have isQuery : query = '?' := starts query rfl
    subst isQuery
    by_cases empty : path = [] <;> simp [pathAndQuery, empty]

theorem withPathAndQuery_pathAndQuery_of_split {base : Uri} (static : base.isDynamic = false)
    (noQuery : base.query = "") {path after : List Char} (pathFree : '?' ∉ path)
    (starts : ∀ char ∈ after.head?, char = '?') :
    withPathAndQuery {} (withPathAndQuery base (path ++ after)).pathAndQuery.toList =
      { withPathAndQuery base (path ++ after) with host := "", port := defaultPort } := by
  unfold withPathAndQuery
  rw [span_of_no_query pathFree starts]
  cases after with
  | nil =>
    by_cases empty : path = []
    · subst empty
      simp [pathAndQuery, static, noQuery]
    · have same : (path ++ []).span (· != '?') = (path, []) :=
        span_of_no_query pathFree (by simp)
      rw [List.append_nil, List.span_eq_takeWhile_dropWhile, Prod.mk.injEq] at same
      simp [pathAndQuery, static, noQuery, empty, same.1, same.2]
  | cons query rest =>
    have isQuery : query = '?' := starts query rfl
    subst isQuery
    by_cases empty : path = []
    · subst empty
      simp [pathAndQuery]
    · have same := @span_of_no_query path ('?' :: rest) pathFree (by simp)
      rw [List.span_eq_takeWhile_dropWhile, Prod.mk.injEq] at same
      simp [pathAndQuery, empty, same.1, same.2]

theorem toList_pathAndQuery_eq_slash_cons {base : Uri} (static : base.isDynamic = false)
    {path after : List Char} (pathFree : '?' ∉ path)
    (afterStarts : ∀ char ∈ after.head?, char = '?')
    (starts : ∀ char ∈ (path ++ after).head?, endsAuthority char = true) :
    ∃ tail, (withPathAndQuery base (path ++ after)).pathAndQuery.toList = '/' :: tail := by
  rw [toList_pathAndQuery_of_split static pathFree afterStarts]
  cases path with
  | nil => exact ⟨after, rfl⟩
  | cons first tail =>
    have ends := starts first rfl
    have notQuery : first ≠ '?' := fun same => pathFree (same ▸ List.mem_cons_self)
    simp only [endsAuthority, Bool.or_eq_true, beq_iff_eq, notQuery, or_false] at ends
    exact ⟨tail ++ after, by simp [ends]⟩

theorem isSuffix_of_afterScheme? {chars rest : List Char} (found : afterScheme? chars = some rest) :
    rest <:+ chars := by
  fun_induction afterScheme? chars with
  | case1 rest' =>
    cases found
    exact (List.suffix_cons _ _).trans ((List.suffix_cons _ _).trans (List.suffix_cons _ _))
  | case2 char rest' notScheme induction => exact (induction found).trans (List.suffix_cons _ _)
  | case3 => cases found

/-- A valid target is the split of its path and query part, after a host and perhaps a port:
the part is what follows the authority, so it starts with `/` or `?` unless it is empty. -/
theorem exists_withPathAndQuery_of_valid {raw : String} (valid : (parse raw).valid = true) :
    ∃ base rest, base.isDynamic = false ∧ base.query = "" ∧
      (∀ char ∈ rest.head?, endsAuthority char = true) ∧ rest <:+ raw.toList ∧
      parse raw = withPathAndQuery base rest := by
  unfold parse at valid ⊢
  dsimp only at valid ⊢
  split_ifs at valid ⊢
  simp only [List.span_eq_takeWhile_dropWhile] at valid ⊢
  have suffix : (afterScheme? raw.toList).getD raw.toList <:+ raw.toList := by
    cases found : afterScheme? raw.toList with
    | none => exact List.suffix_refl _
    | some rest => exact isSuffix_of_afterScheme? found
  generalize (afterScheme? raw.toList).getD raw.toList = rest at valid suffix ⊢
  have starts : ∀ char ∈ (rest.dropWhile fun char => !endsAuthority char).head?,
      endsAuthority char = true := by
    intro char first
    have ends := List.head?_dropWhile_not (fun char => !endsAuthority char) rest
    rw [Option.mem_def.mp first] at ends
    simpa using ends
  have within := (List.dropWhile_suffix (fun char => !endsAuthority char)).trans suffix
  split at valid
  · exact ⟨_, _, rfl, rfl, starts, within, rfl⟩
  · split at valid
    · next _ host _ _ _ _ number _ =>
      exact ⟨{ host := String.ofList host, port := number }, _, rfl, rfl, starts, within, rfl⟩
    · simp at valid

theorem pathAndQuery_of_valid {raw : String} (valid : (parse raw).valid = true) :
    (∃ tail, (parse raw).pathAndQuery.toList = '/' :: tail) ∧
      ∀ char ∈ (parse raw).pathAndQuery.toList, char = '/' ∨ char ∈ raw.toList := by
  obtain ⟨base, rest, static, -, starts, within, parsed⟩ :=
    exists_withPathAndQuery_of_valid valid
  obtain ⟨path, after, rfl, pathFree, afterStarts⟩ := exists_split_at_query rest
  rw [parsed]
  refine ⟨toList_pathAndQuery_eq_slash_cons static pathFree afterStarts starts, ?_⟩
  intro char member
  rw [toList_pathAndQuery_of_split static pathFree afterStarts] at member
  rcases List.mem_append.mp member with early | late
  · split_ifs at early
    · exact .inl (List.mem_singleton.mp early)
    · exact .inr (within.subset (List.mem_append_left after early))
  · exact .inr (within.subset (List.mem_append_right path late))

theorem parse_of_slash {text : String} {tail : List Char} (slash : text.toList = '/' :: tail)
    (noScheme : afterScheme? text.toList = none) :
    parse text = withPathAndQuery {} text.toList := by
  unfold parse
  dsimp only
  rw [noScheme, Option.getD_none, slash]
  simp [endsAuthority]

theorem parse_pathAndQuery {raw : String} (valid : (parse raw).valid = true)
    (noScheme : afterScheme? (parse raw).pathAndQuery.toList = none) :
    parse (parse raw).pathAndQuery = { parse raw with host := "", port := defaultPort } := by
  obtain ⟨tail, slash⟩ := (pathAndQuery_of_valid valid).1
  obtain ⟨base, rest, static, noQuery, -, -, parsed⟩ := exists_withPathAndQuery_of_valid valid
  obtain ⟨path, after, rfl, pathFree, afterStarts⟩ := exists_split_at_query rest
  rw [parse_of_slash slash noScheme, parsed,
    withPathAndQuery_pathAndQuery_of_split static noQuery pathFree afterStarts]

end Uri

/-! ## The lines of a stream -/

namespace Line

theorem splitLine_fst_shape (budget : Nat) (bytes : List UInt8) :
    lf ∉ (splitLine budget bytes).1 ∨
      ∃ body, lf ∉ body ∧ (splitLine budget bytes).1 = body ++ [lf] := by
  induction budget generalizing bytes with
  | zero => exact .inl List.not_mem_nil
  | succ budget induction =>
    cases bytes with
    | nil => exact .inl List.not_mem_nil
    | cons byte bytes =>
      rw [splitLine]
      split_ifs with isLf
      · exact .inr ⟨[], List.not_mem_nil, by simp [isLf]⟩
      · have shorter := induction bytes
        generalize splitLine budget bytes = cut at shorter ⊢
        obtain ⟨line, rest⟩ := cut
        rcases shorter with noLf | ⟨body, noLf, ended⟩
        · exact .inl (by simpa [Ne.symm isLf] using noLf)
        · exact .inr ⟨byte :: body, by simp [Ne.symm isLf, noLf], by simpa using ended⟩

theorem shape_of_mem_segment {bytes piece : List UInt8} (member : piece ∈ segment bytes) :
    lf ∉ piece ∨ ∃ body, lf ∉ body ∧ piece = body ++ [lf] := by
  fun_induction segment bytes with
  | case1 => simp at member
  | case2 bytes line rest cut _ induction =>
    rcases List.mem_cons.mp member with rfl | later
    · have split : splitLine maxLineBytes bytes = (piece, rest) := by
        cases bytes with
        | nil => cases cut
        | cons byte bytes => exact Option.some.inj cut
      simpa [split] using splitLine_fst_shape maxLineBytes bytes
    · exact induction later

theorem lineFeed_not_mem_dropLineEnd {bytes : List UInt8} {line : String}
    (member : line ∈ textLines bytes) : '\n' ∉ dropLineEnd line.toList := by
  obtain ⟨piece, inSegment, rfl⟩ := List.mem_map.mp member
  intro feed
  have lfByte : lf = 10 := rfl
  rcases shape_of_mem_segment inSegment with noLf | ⟨body, noLf, rfl⟩
  · rw [lfByte] at noLf
    exact noLf ((Utf8.lineFeed_mem_decodeLossy_iff piece).mp
      ((dropLineEnd_isPrefix_self _).subset feed))
  · rw [lfByte] at noLf feed
    rw [Utf8.decodeLossy_append_lf, String.toList_append,
      show "\n".toList = ['\n'] from rfl, dropLineEnd_append_of_lineEnd _ (by decide)] at feed
    exact noLf ((Utf8.lineFeed_mem_decodeLossy_iff body).mp
      ((dropLineEnd_isPrefix_self _).subset feed))

theorem readLine?_encode {text : String} {body : List Char} (shape : text.toList = body ++ ['\n'])
    (noFeed : '\n' ∉ body) (fits : (Utf8.encode text).length ≤ maxLineBytes)
    (rest : List UInt8) :
    readLine? (Utf8.encode text ++ rest) = some (text, rest) := by
  have bytes : Utf8.encode text = Utf8.encodeChars body ++ [lf] := by
    rw [Utf8.encode, shape, Utf8.encodeChars_append]
    rfl
  have noLf : ∀ byte ∈ Utf8.encodeChars body, byte ≠ lf := by
    intro byte member isLf
    subst isLf
    exact noFeed ((Utf8.lf_mem_encodeChars_iff body).mp member)
  have short : (Utf8.encodeChars body).length < maxLineBytes := by
    rw [bytes, List.length_append, List.length_singleton] at fits
    omega
  rw [bytes, List.append_assoc, List.singleton_append, readLine?,
    take?_of_ne_nil (List.append_ne_nil_of_right_ne_nil _ (List.cons_ne_nil _ _)),
    splitLine_of_lf noLf short, Option.map_some, ← bytes]
  simp only [Utf8.decodeLossy_encode]

end Line


theorem Method.text_unbroken (method : Method) :
    method.text.toList ≠ [] ∧ ∀ char ∈ method.text.toList, Blank.isBlank char = false := by
  cases method <;> simp [Method.text, Blank.isBlank]

theorem Version.text_unbroken (version : Version) :
    version.text.toList ≠ [] ∧
      ∀ char ∈ version.text.toList, Blank.isBlank char = false := by
  cases version <;> simp [Version.text, Blank.isBlank]

namespace Request

/-! ## The printed form -/

/-- The first line of the printed form of a request. -/
def requestLine (request : Request) : String :=
  Method.textOf request.method ++ " " ++ request.uri.pathAndQuery ++ " " ++
    Version.http10.text ++ "\r\n"

theorem toList_requestLine (request : Request) :
    request.requestLine.toList =
      (Method.textOf request.method).toList ++ ' ' :: request.uri.pathAndQuery.toList ++
        ' ' :: Version.http10.text.toList ++ ['\r', '\n'] := by
  simp [requestLine]

theorem toBytes_eq (request : Request) :
    request.toBytes = Utf8.encode request.requestLine ++
      (((request.headers.filter (·.key != "Keep-Alive")).map fun header =>
          Utf8.encode header.line).flatten ++ Utf8.encode "\r\n") := by
  rw [toBytes, text, Utf8.encode_append, Utf8.encode_append, Utf8.encode_join, List.map_map,
    List.append_assoc]
  rfl

/-- A request whose printed form reads back: a known method, a printed target of one word,
a request line within one line read, and at most 64 headers that print and read back. -/
structure Printable (request : Request) : Prop where
  method_isSome : request.method.isSome = true
  target_ne_nil : request.uri.pathAndQuery.toList ≠ []
  target_unbroken : ∀ char ∈ request.uri.pathAndQuery.toList, Blank.isBlank char = false
  line_fits : (Utf8.encode request.requestLine).length ≤ Line.maxLineBytes
  headers_printable : ∀ header ∈ request.headers, header.Printable
  headers_fit : request.headers.length ≤ maxHeaders

/-- What the printed form of a request reads as: its printed request line read again, and the
headers it prints. -/
def readBack (request : Request) : Request :=
  { ofRequestLine request.requestLine with
    headers := request.headers.filter (·.key != "Keep-Alive") }

/-! ## Reading the printed form -/

theorem readHeaders_of_blank {headers : List Header} {bytes rest : List UInt8} {line : String}
    (read : Line.readLine? bytes = some (line, rest)) (blank : isBlankLine line = true) :
    readHeaders headers bytes = (headers, rest) := by
  rw [readHeaders]
  split
  · next noLine =>
    rw [read] at noLine
    cases noLine
  · next line' rest' read' =>
    rw [read] at read'
    cases read'
    rw [if_pos blank]

theorem readHeaders_of_header {headers : List Header} {bytes rest : List UInt8} {line : String}
    (read : Line.readLine? bytes = some (line, rest)) (notBlank : isBlankLine line = false)
    {header : Header} (parsed : Header.parse? line = some header) :
    readHeaders headers bytes = readHeaders (pushHeader headers header) rest := by
  rw [readHeaders]
  split
  · next noLine =>
    rw [read] at noLine
    cases noLine
  · next line' rest' read' =>
    rw [read] at read'
    cases read'
    simp [notBlank, parsed]

theorem readLine?_crlf (rest : List UInt8) :
    Line.readLine? (Utf8.encode "\r\n" ++ rest) = some ("\r\n", rest) :=
  @Line.readLine?_encode "\r\n" ['\r'] rfl (by decide) (by decide) rest

theorem Header.readLine?_line {header : Header} (printable : header.Printable)
    (rest : List UInt8) :
    Line.readLine? (Utf8.encode header.line ++ rest) = some (header.line, rest) := by
  have shape : header.line.toList =
      (header.key.toList ++ ':' :: ' ' :: header.value.toList ++ ['\r']) ++ ['\n'] := by
    rw [Header.toList_line]
    simp
  have noFeed : '\n' ∉ header.key.toList ++ ':' :: ' ' :: header.value.toList ++ ['\r'] := by
    simp [printable.lineFeed_not_mem_key, printable.lineFeed_not_mem_value]
  have fits : (Utf8.encode header.line).length ≤ Line.maxLineBytes := by
    rw [Utf8.encode, length_encodeChars_eq_byteCount, Header.toList_line, byteCount_append,
      byteCount_append, byteCount_cons, byteCount_cons]
    have keyFits := printable.key_fits
    have valueFits := printable.value_fits
    have lineEnd : byteCount ['\r', '\n'] = 2 := by decide
    simp only [maxKeyBytes, maxValueBytes] at keyFits valueFits
    rw [lineEnd, show Char.utf8Size ':' = 1 from rfl, show Char.utf8Size ' ' = 1 from rfl,
      Line.maxLineBytes]
    omega
  exact Line.readLine?_encode shape noFeed fits rest

/-- The header lines of a printed form, then its blank line, read as those headers. -/
theorem readHeaders_printed {printed : List Header}
    (printable : ∀ header ∈ printed, header.Printable) {headers : List Header}
    (room : headers.length + printed.length ≤ maxHeaders) (rest : List UInt8) :
    readHeaders headers
        ((printed.map fun header => Utf8.encode header.line).flatten ++
          (Utf8.encode "\r\n" ++ rest)) =
      (headers ++ printed, rest) := by
  induction printed generalizing headers with
  | nil =>
    rw [List.map_nil, List.flatten_nil, List.nil_append, List.append_nil]
    exact readHeaders_of_blank (readLine?_crlf rest) (by decide)
  | cons header printed induction =>
    have headerPrintable := printable header List.mem_cons_self
    have notBlank : isBlankLine header.line = false := by
      simp [isBlankLine, Header.dropLineEnd_line headerPrintable]
    have below : headers.length < maxHeaders := by
      simp only [List.length_cons] at room
      omega
    rw [List.map_cons, List.flatten_cons, List.append_assoc,
      readHeaders_of_header (Header.readLine?_line headerPrintable _) notBlank
        (Header.parse?_line headerPrintable),
      pushHeader_of_lt below,
      induction (fun other member => printable other (List.mem_cons_of_mem header member))
        (by simp only [List.length_append, List.length_cons, List.length_nil] at room ⊢; omega),
      List.append_assoc, List.singleton_append]

theorem ofRequestLine_requestLine {request : Request} (printable : request.Printable) :
    ofRequestLine request.requestLine =
      { method := request.method, uri := Uri.parse request.uri.pathAndQuery,
        version := some .http10 } := by
  obtain ⟨method, found⟩ := Option.isSome_iff_exists.mp printable.method_isSome
  have methodText : Method.textOf request.method = method.text := by
    rw [found]
    rfl
  have words : Blank.fields request.requestLine =
      [method.text, request.uri.pathAndQuery, Version.http10.text] := by
    rw [Blank.fields_of_three_words (toList_requestLine request)]
    · simp [methodText]
    · intro word member
      simp only [List.mem_cons, List.not_mem_nil, or_false] at member
      rcases member with rfl | rfl | rfl
      · rw [methodText]
        exact Method.text_unbroken method
      · exact ⟨printable.target_ne_nil, printable.target_unbroken⟩
      · exact Version.text_unbroken .http10
  simp [ofRequestLine, words, found]

theorem readLine?_requestLine {request : Request} (printable : request.Printable)
    (rest : List UInt8) :
    Line.readLine? (Utf8.encode request.requestLine ++ rest) =
      some (request.requestLine, rest) := by
  obtain ⟨method, found⟩ := Option.isSome_iff_exists.mp printable.method_isSome
  have shape : request.requestLine.toList =
      (method.text.toList ++ ' ' :: request.uri.pathAndQuery.toList ++
        ' ' :: Version.http10.text.toList ++ ['\r']) ++ ['\n'] := by
    rw [toList_requestLine, found]
    simp [Method.textOf]
  have noFeed : '\n' ∉ method.text.toList ++ ' ' :: request.uri.pathAndQuery.toList ++
      ' ' :: Version.http10.text.toList ++ ['\r'] := by
    have feedBlank : Blank.isBlank '\n' = true := by decide
    have methodWord : '\n' ∉ method.text.toList := fun feed => by
      simpa [feedBlank] using (Method.text_unbroken method).2 '\n' feed
    have targetWord : '\n' ∉ request.uri.pathAndQuery.toList := fun feed => by
      simpa [feedBlank] using printable.target_unbroken '\n' feed
    have versionWord : '\n' ∉ Version.http10.text.toList := fun feed => by
      simpa [feedBlank] using (Version.text_unbroken .http10).2 '\n' feed
    simp [methodWord, targetWord, versionWord]
  exact Line.readLine?_encode shape noFeed printable.line_fits rest

/-- The printed form of a request reads as one request, followed by whatever comes after it. -/
theorem read?_toBytes {request : Request} (printable : request.Printable) (rest : List UInt8) :
    read? (request.toBytes ++ rest) = some (request.readBack, rest) := by
  have kept : (request.headers.filter (·.key != "Keep-Alive")).length ≤ maxHeaders :=
    (List.length_filter_le _ _).trans printable.headers_fit
  have keptPrintable : ∀ header ∈ request.headers.filter (·.key != "Keep-Alive"),
      header.Printable := fun header member =>
    printable.headers_printable header (List.mem_filter.mp member).1
  rw [toBytes_eq, List.append_assoc, read?, readLine?_requestLine printable]
  simp only [List.append_assoc]
  rw [readHeaders_printed keptPrintable (by simpa using kept), List.nil_append]
  rfl

/-- Printed forms one after another read as their requests, one each, and nothing is left. -/
theorem readMany_flatMap_toBytes {requests : List Request}
    (printable : ∀ request ∈ requests, request.Printable) {limit : Nat}
    (enough : requests.length ≤ limit) :
    readMany limit (requests.flatMap toBytes) = (requests.map readBack, []) := by
  induction requests generalizing limit with
  | nil =>
    cases limit <;> rfl
  | cons request requests induction =>
    obtain ⟨limit, rfl⟩ : ∃ fewer, limit = fewer + 1 :=
      ⟨limit - 1, by simp only [List.length_cons] at enough; omega⟩
    rw [List.flatMap_cons, readMany, read?_toBytes (printable request List.mem_cons_self)]
    simp only
    rw [induction (fun other member => printable other (List.mem_cons_of_mem request member))
      (by simpa using enough)]
    rfl

/-! ## Requests read from bytes -/

/-- A valid request read from bytes prints as a form that reads back, once its request line fits
and no header value ends with CR. -/
theorem printable_parse {bytes : List UInt8} (valid : (parse bytes).valid = true)
    (fits : (Utf8.encode (parse bytes).requestLine).length ≤ Line.maxLineBytes)
    (ends : ∀ header ∈ (parse bytes).headers, header.value.toList.getLast? ≠ some '\r') :
    (parse bytes).Printable := by
  have lines := parse_eq_ofLines bytes
  simp only [Request.valid, Bool.and_eq_true] at valid
  obtain ⟨⟨methodKnown, -⟩, targetValid⟩ := valid
  have target : (parse bytes).uri =
      Uri.parse ((Blank.fields ((Line.textLines bytes).headD ""))[1]?.getD "") := by
    rw [lines]
    rfl
  have unbroken :
      ∀ char ∈ ((Blank.fields ((Line.textLines bytes).headD ""))[1]?.getD "").toList,
        Blank.isBlank char = false := by
    cases word : (Blank.fields ((Line.textLines bytes).headD ""))[1]? with
    | none => simp
    | some word' => exact Blank.not_blank_of_mem_fields (List.mem_of_getElem? word)
  rw [target] at targetValid
  have printed := Uri.pathAndQuery_of_valid targetValid
  refine ⟨methodKnown, ?_, ?_, fits, ?_, ?_⟩
  · obtain ⟨tail, slash⟩ := printed.1
    rw [target, slash]
    exact List.cons_ne_nil _ _
  · intro char member
    rw [target] at member
    rcases printed.2 char member with slash | inTarget
    · rw [slash]
      decide
    · exact unbroken char inTarget
  · intro header member
    have kept : (parse bytes).headers =
        keptHeaders (headerLines (Line.textLines bytes).tail) := by
      rw [lines]
      rfl
    rw [kept] at member
    obtain ⟨line, inHead, parsed⟩ := List.mem_filterMap.mp (List.mem_of_mem_take member)
    have inLines : line ∈ Line.textLines bytes :=
      List.mem_of_mem_tail ((List.takeWhile_prefix _).subset inHead)
    exact Header.printable_of_parse? parsed (Line.lineFeed_not_mem_dropLineEnd inLines)
      (ends header (kept ▸ member))
  · rw [lines]
    exact List.length_take_le _ _

theorem hasHost_filter_keepAlive (headers : List Header) :
    (headers.filter (·.key != "Keep-Alive")).any (·.key == "Host") =
      headers.any (·.key == "Host") := by
  induction headers with
  | nil => rfl
  | cons header headers induction =>
    by_cases keepAlive : header.key = "Keep-Alive" <;> simp [keepAlive, induction]

/-- Reading back the printed form of a valid request read from bytes gives its method, path,
query and headers but `Keep-Alive`, as a valid HTTP/1.0 request with no host and the default
port. -/
theorem readBack_parse {bytes : List UInt8} (valid : (parse bytes).valid = true)
    (printable : (parse bytes).Printable)
    (noScheme : Uri.afterScheme? (parse bytes).uri.pathAndQuery.toList = none) :
    (parse bytes).readBack =
      { method := (parse bytes).method,
        uri := { (parse bytes).uri with host := "", port := defaultPort },
        version := some .http10,
        headers := (parse bytes).headers.filter (·.key != "Keep-Alive") } := by
  have target : (parse bytes).uri =
      Uri.parse ((Blank.fields ((Line.textLines bytes).headD ""))[1]?.getD "") := by
    rw [parse_eq_ofLines]
    rfl
  have targetValid : (parse bytes).uri.valid = true := by
    simp only [Request.valid, Bool.and_eq_true] at valid
    exact valid.2
  rw [target] at targetValid noScheme
  rw [readBack, ofRequestLine_requestLine printable, target,
    Uri.parse_pathAndQuery targetValid noScheme]

/-- Requests read from byte strings, printed one after another on one stream, read back one for
one and leave nothing over: each read request is valid, has the method, path, query, kind of
target and `Host` header of its original, and its headers but `Keep-Alive` in their order, as
HTTP/1.0 with no host and the default port.  This holds when each printed request line fits in
one line read, no printed path and query holds `://`, and no header value ends with CR. -/
theorem readMany_printed_requests (messages : List (List UInt8))
    (valid : ∀ message ∈ messages, (parse message).valid = true)
    (lineFits : ∀ message ∈ messages,
      (Utf8.encode (parse message).requestLine).length ≤ Line.maxLineBytes)
    (noScheme : ∀ message ∈ messages,
      Uri.afterScheme? (parse message).uri.pathAndQuery.toList = none)
    (noTrailingCr : ∀ message ∈ messages, ∀ header ∈ (parse message).headers,
      header.value.toList.getLast? ≠ some '\r')
    (limit : Nat) (enough : messages.length ≤ limit) :
    (readMany limit (messages.flatMap fun message => (parse message).toBytes)).2 = [] ∧
    List.Forall₂ (fun message read =>
        read.valid = true ∧ read.method = (parse message).method ∧
        read.path = (parse message).path ∧ read.query = (parse message).query ∧
        read.uri.isDynamic = (parse message).uri.isDynamic ∧
        read.hasHost = (parse message).hasHost ∧
        read.headers = (parse message).headers.filter (·.key != "Keep-Alive") ∧
        read.version = some .http10 ∧ read.uri.host = "" ∧ read.uri.port = defaultPort)
      messages (readMany limit (messages.flatMap fun message => (parse message).toBytes)).1 := by
  have printable : ∀ request ∈ messages.map parse, request.Printable := by
    intro request member
    obtain ⟨message, inMessages, rfl⟩ := List.mem_map.mp member
    exact printable_parse (valid message inMessages) (lineFits message inMessages)
      (noTrailingCr message inMessages)
  have stream : (messages.flatMap fun message => (parse message).toBytes) =
      (messages.map parse).flatMap toBytes := by
    rw [List.flatMap_map]
  rw [stream, readMany_flatMap_toBytes printable (by simpa using enough), List.map_map]
  refine ⟨rfl, List.forall₂_map_right_iff.mpr (List.forall₂_same.mpr ?_)⟩
  intro message member
  have printableMessage := printable (parse message) (List.mem_map_of_mem member)
  have targetValid : (parse message).uri.valid = true := by
    have known := valid message member
    simp only [Request.valid, Bool.and_eq_true] at known
    exact known.2
  rw [Function.comp_apply, readBack_parse (valid message member) printableMessage
    (noScheme message member)]
  refine ⟨?_, rfl, rfl, rfl, rfl, hasHost_filter_keepAlive _, rfl, rfl, rfl, rfl⟩
  simp [Request.valid, targetValid, printableMessage.method_isSome]

/-- Two heads read back from one stream: one with a query, a `Host` header and a `Keep-Alive`
header to drop, and one with a scheme, a host and a port, a malformed line and an empty value. -/
theorem readMany_printed_requests_two_heads :
    let messages := [Utf8.encode "GET /a?b=1 HTTP/1.1\r\nHost: x\r\nKeep-Alive: 5\r\n\r\n",
      Utf8.encode "POST http://h:81/c HTTP/1.0\r\nbad line\r\nX:\r\n\r\n"]
    (∀ message ∈ messages, (parse message).valid = true) ∧
    (∀ message ∈ messages,
      (Utf8.encode (parse message).requestLine).length ≤ Line.maxLineBytes) ∧
    (∀ message ∈ messages, Uri.afterScheme? (parse message).uri.pathAndQuery.toList = none) ∧
    (∀ message ∈ messages, ∀ header ∈ (parse message).headers,
      header.value.toList.getLast? ≠ some '\r') ∧
    messages.length ≤ 2 ∧
    (readMany 2 (messages.flatMap fun message => (parse message).toBytes)).2 = [] ∧
    List.Forall₂ (fun message read =>
        read.valid = true ∧ read.method = (parse message).method ∧
        read.path = (parse message).path ∧ read.query = (parse message).query ∧
        read.uri.isDynamic = (parse message).uri.isDynamic ∧
        read.hasHost = (parse message).hasHost ∧
        read.headers = (parse message).headers.filter (·.key != "Keep-Alive") ∧
        read.version = some .http10 ∧ read.uri.host = "" ∧ read.uri.port = defaultPort)
      messages (readMany 2 (messages.flatMap fun message => (parse message).toBytes)).1 := by
  intro messages
  have valid : ∀ message ∈ messages, (parse message).valid = true := by decide +kernel
  have lineFits : ∀ message ∈ messages,
      (Utf8.encode (parse message).requestLine).length ≤ Line.maxLineBytes := by
    decide +kernel
  have noScheme : ∀ message ∈ messages,
      Uri.afterScheme? (parse message).uri.pathAndQuery.toList = none := by
    decide +kernel
  have noTrailingCr : ∀ message ∈ messages, ∀ header ∈ (parse message).headers,
      header.value.toList.getLast? ≠ some '\r' := by
    decide +kernel
  exact ⟨valid, lineFits, noScheme, noTrailingCr, by decide,
    readMany_printed_requests messages valid lineFits noScheme noTrailingCr 2 (by decide)⟩

/-- A path that holds `://` does not read back: the target `h://x/p://q` has the path `/p://q`,
printed as `GET /p://q HTTP/1.0`, whose target reads as the scheme `/p`, the host `q` and the
path `/`. -/
theorem readMany_printed_scheme_in_path :
    (parse (Utf8.encode "GET h://x/p://q HTTP/1.0\r\n\r\n")).valid = true ∧
    (parse (Utf8.encode "GET h://x/p://q HTTP/1.0\r\n\r\n")).path = "/p://q" ∧
    ((readMany 2 (parse (Utf8.encode "GET h://x/p://q HTTP/1.0\r\n\r\n")).toBytes).1.map
      Request.path) = ["/"] := by
  decide +kernel

end Request

end Gatehouse.Http
