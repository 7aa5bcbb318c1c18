import Mathlib
import Gatehouse.Http.Header
import Gatehouse.Proofs.Utf8RoundTrip

/-!
# Header lines read back

A header prints as `key: value` and CRLF (`Header.line`).  The printed line reads back as the
same header when the header is one that reading a line can give: a non-empty key of at most 256
bytes with no colon, a value of at most 1024 bytes that starts with no blank and does not end
with CR, and no line feed in either (`Header.Printable`).

Every header read from a line with no line feed before its end is of that kind, but for one
thing: its value is cut at 1024 bytes and may then end with a CR, which the reading of the
printed line drops with the line end.

Reading a line is described whole: it gives a header exactly when, less its line end, the line
has a colon with a non-empty key of at most 256 bytes before the first one; the value is the
longest prefix of at most 1024 bytes of what follows, less its leading blanks.  Any header so
read (`Header.Readable`) comes back from its printed line with the CR and LF characters at the
end of its value dropped (`Header.parse?_line_eq`), so whole exactly when its value ends with
neither; a value cut right after a CR does not (`Header.parse?_line_loses_cut_return`).

Main statements: `Header.parse?_line`, `Header.printable_of_parse?` and
`Header.parse?_splits_at_first_colon`.
-/

namespace Gatehouse.Text.Blank

theorem dropLeading_isSuffix_self (chars : List Char) : dropLeading chars <:+ chars :=
  List.dropWhile_suffix _

theorem head_dropLeading (chars : List Char) :
    ∀ char ∈ (dropLeading chars).head?, isBlank char = false := by
  intro char first
  have notBlank := List.head?_dropWhile_not isBlank chars
  rw [Option.mem_def, dropLeading] at first
  rw [first] at notBlank
  exact notBlank

theorem dropLeading_cons_of_blank {blank : Char} (isBlank_blank : isBlank blank = true)
    {chars : List Char} (starts : ∀ char ∈ chars.head?, isBlank char = false) :
    dropLeading (blank :: chars) = chars := by
  rw [dropLeading, List.dropWhile_cons_of_pos isBlank_blank]
  cases chars with
  | nil => rfl
  | cons char chars =>
    exact List.dropWhile_cons_of_neg (by simpa using starts char rfl)

end Gatehouse.Text.Blank

namespace Gatehouse.Http

open Gatehouse.Text

/-! ## Byte counts -/

theorem foldl_add_utf8Size (start : Nat) (chars : List Char) :
    chars.foldl (fun acc char => acc + char.utf8Size) start =
      start + (chars.map Char.utf8Size).sum := by
  induction chars generalizing start with
  | nil => simp
  | cons char chars induction =>
    rw [List.foldl_cons, induction, List.map_cons, List.sum_cons]
    omega

theorem byteCount_eq_sum (chars : List Char) :
    byteCount chars = (chars.map Char.utf8Size).sum := by
  rw [byteCount, foldl_add_utf8Size, Nat.zero_add]

theorem byteCount_cons (char : Char) (chars : List Char) :
    byteCount (char :: chars) = char.utf8Size + byteCount chars := by
  simp [byteCount_eq_sum]

theorem byteCount_append (first second : List Char) :
    byteCount (first ++ second) = byteCount first + byteCount second := by
  simp [byteCount_eq_sum]

theorem length_encodeChars_eq_byteCount (chars : List Char) :
    (Utf8.encodeChars chars).length = byteCount chars := by
  rw [Utf8.length_encodeChars, byteCount_eq_sum]

/-! ## Cutting a value to its byte budget -/

theorem takeBytes_isPrefix_self (budget : Nat) (chars : List Char) :
    takeBytes budget chars <+: chars := by
  induction chars generalizing budget with
  | nil => exact List.nil_prefix
  | cons char chars induction =>
    rw [takeBytes]
    split_ifs
    · exact List.cons_prefix_cons.mpr ⟨rfl, induction _⟩
    · exact List.nil_prefix

theorem byteCount_takeBytes_le (budget : Nat) (chars : List Char) :
    byteCount (takeBytes budget chars) ≤ budget := by
  induction chars generalizing budget with
  | nil => simp [takeBytes, byteCount]
  | cons char chars induction =>
    rw [takeBytes]
    split_ifs with fits
    · have rest := induction (budget - char.utf8Size)
      rw [byteCount_cons]
      omega
    · simp [byteCount]

theorem byteCount_le_of_isPrefix {part chars : List Char} (before : part <+: chars) :
    byteCount part ≤ byteCount chars := by
  obtain ⟨rest, rfl⟩ := before
  rw [byteCount_append]
  omega

theorem prefix_takeBytes_of_byteCount_le {budget : Nat} {part chars : List Char}
    (before : part <+: chars) (fits : byteCount part ≤ budget) :
    part <+: takeBytes budget chars := by
  induction chars generalizing part budget with
  | nil =>
    rw [List.prefix_nil.mp before]
    exact List.nil_prefix
  | cons char chars induction =>
    cases part with
    | nil => exact List.nil_prefix
    | cons first part =>
      obtain ⟨rfl, rest⟩ := List.cons_prefix_cons.mp before
      rw [byteCount_cons] at fits
      rw [takeBytes, if_pos (by omega)]
      exact List.cons_prefix_cons.mpr ⟨rfl, induction rest (by omega)⟩

theorem takeBytes_of_byteCount_le {budget : Nat} {chars : List Char}
    (fits : byteCount chars ≤ budget) : takeBytes budget chars = chars := by
  induction chars generalizing budget with
  | nil => rfl
  | cons char chars induction =>
    rw [byteCount_cons] at fits
    rw [takeBytes, if_pos (by omega), induction (by omega)]

/-! ## Line ends -/

theorem dropLineEnd_isPrefix_self (chars : List Char) : dropLineEnd chars <+: chars := by
  refine ⟨(chars.reverse.takeWhile isLineEnd).reverse, ?_⟩
  rw [dropLineEnd, ← List.reverse_append, List.takeWhile_append_dropWhile, List.reverse_reverse]

theorem dropLineEnd_append_of_lineEnd (chars : List Char) {lineEnd : Char}
    (ends : isLineEnd lineEnd = true) :
    dropLineEnd (chars ++ [lineEnd]) = dropLineEnd chars := by
  rw [dropLineEnd, List.reverse_append, List.reverse_singleton, List.singleton_append,
    List.dropWhile_cons_of_pos ends, dropLineEnd]

theorem dropLineEnd_of_getLast? {chars : List Char}
    (last : ∀ char ∈ chars.getLast?, isLineEnd char = false) : dropLineEnd chars = chars := by
  have kept : chars.reverse.dropWhile isLineEnd = chars.reverse := by
    rw [← List.head?_reverse] at last
    cases reversed : chars.reverse with
    | nil => rfl
    | cons char rest =>
      rw [reversed] at last
      exact List.dropWhile_cons_of_neg (by simpa using last char rfl)
  rw [dropLineEnd, kept, List.reverse_reverse]

theorem getLast?_dropLineEnd (chars : List Char) :
    ∀ char ∈ (dropLineEnd chars).getLast?, isLineEnd char = false := by
  intro char last
  rw [dropLineEnd, List.getLast?_reverse] at last
  have kept := List.head?_dropWhile_not isLineEnd chars.reverse
  rw [Option.mem_def.mp last] at kept
  simpa using kept

theorem dropLineEnd_eq_self_iff (chars : List Char) :
    dropLineEnd chars = chars ↔ ∀ char ∈ chars.getLast?, isLineEnd char = false :=
  ⟨fun same => same ▸ getLast?_dropLineEnd chars, dropLineEnd_of_getLast?⟩

theorem dropLineEnd_append_of_getLast? {first : List Char}
    (last : ∀ char ∈ first.getLast?, isLineEnd char = false) (second : List Char) :
    dropLineEnd (first ++ second) = first ++ dropLineEnd second := by
  have kept := dropLineEnd_of_getLast? last
  rw [dropLineEnd] at kept
  rw [dropLineEnd, dropLineEnd, List.reverse_append, List.dropWhile_append]
  split
  · next ended =>
    rw [kept, List.isEmpty_iff.mp ended, List.reverse_nil, List.append_nil]
  · rw [List.reverse_append, List.reverse_reverse]

theorem exists_split_at_colon : ∀ {chars : List Char}, ':' ∈ chars →
    ∃ key after, chars = key ++ ':' :: after ∧ ':' ∉ key
  | char :: chars, member => by
    by_cases colon : char = ':'
    · exact ⟨[], chars, by rw [colon, List.nil_append], List.not_mem_nil⟩
    · obtain ⟨key, after, rfl, first⟩ :=
        exists_split_at_colon ((List.mem_cons.mp member).resolve_left fun same => colon same.symm)
      refine ⟨char :: key, after, rfl, ?_⟩
      rw [List.mem_cons, not_or]
      exact ⟨fun same => colon same.symm, first⟩

theorem span_append_of_not_mem {sep : Char} {key : List Char} (first : sep ∉ key)
    (after : List Char) : (key ++ sep :: after).span (· != sep) = (key, sep :: after) := by
  have separatorFree : ∀ char ∈ key, (char != sep) = true := by
    intro char member
    have notSeparator : char ≠ sep := fun same => first (same ▸ member)
    simpa using notSeparator
  rw [List.span_eq_takeWhile_dropWhile, List.takeWhile_append_of_pos separatorFree,
    List.dropWhile_append_of_pos separatorFree, List.takeWhile_cons_of_neg (by simp),
    List.dropWhile_cons_of_neg (by simp), List.append_nil]

namespace Header

/-! ## Headers that print and read back -/

/-- A header whose printed line reads back as the same header. -/
structure Printable (header : Header) : Prop where
  key_ne_nil : header.key.toList ≠ []
  colon_not_mem_key : ':' ∉ header.key.toList
  key_fits : byteCount header.key.toList ≤ maxKeyBytes
  lineFeed_not_mem_key : '\n' ∉ header.key.toList
  value_fits : byteCount header.value.toList ≤ maxValueBytes
  value_starts : ∀ char ∈ header.value.toList.head?, Blank.isBlank char = false
  lineFeed_not_mem_value : '\n' ∉ header.value.toList
  value_ends : header.value.toList.getLast? ≠ some '\r'

theorem toList_line (header : Header) :
    header.line.toList =
      (header.key.toList ++ ':' :: ' ' :: header.value.toList) ++ ['\r', '\n'] := by
  simp [line]

theorem dropLineEnd_line {header : Header} (printable : header.Printable) :
    dropLineEnd header.line.toList = header.key.toList ++ ':' :: ' ' :: header.value.toList := by
  have last : ∀ char ∈ (header.key.toList ++ ':' :: ' ' :: header.value.toList).getLast?,
      isLineEnd char = false := by
    intro char member
    rw [Option.mem_def, List.getLast?_append, List.getLast?_cons_cons] at member
    cases ending : header.value.toList.getLast? with
    | none =>
      rw [List.getLast?_eq_none_iff.mp ending] at member
      cases member
      decide
    | some last =>
      have notFeed : last ≠ '\n' := fun feed =>
        printable.lineFeed_not_mem_value (feed ▸ List.mem_of_getLast? ending)
      have notReturn : last ≠ '\r' := fun carriage => printable.value_ends (carriage ▸ ending)
      rw [List.getLast?_cons, ending] at member
      cases member
      simp [isLineEnd, notFeed, notReturn]
  rw [toList_line, show ['\r', '\n'] = ['\r'] ++ ['\n'] from rfl, ← List.append_assoc,
    dropLineEnd_append_of_lineEnd _ (by decide), dropLineEnd_append_of_lineEnd _ (by decide),
    dropLineEnd_of_getLast? last]

theorem parse?_line {header : Header} (printable : header.Printable) :
    parse? header.line = some header := by
  have colonFree : ∀ char ∈ header.key.toList, (char != ':') = true := by
    intro char member
    have notColon : char ≠ ':' := fun colon => printable.colon_not_mem_key (colon ▸ member)
    simpa using notColon
  have keyFits : (header.key.toList.isEmpty || decide (maxKeyBytes < byteCount header.key.toList))
      = false := by
    simpa [List.isEmpty_iff, printable.key_ne_nil] using printable.key_fits
  rw [parse?, dropLineEnd_line printable, List.span_eq_takeWhile_dropWhile,
    List.takeWhile_append_of_pos colonFree, List.dropWhile_append_of_pos colonFree,
    List.takeWhile_cons_of_neg (by decide), List.dropWhile_cons_of_neg (by decide),
    List.append_nil]
  simp only [keyFits, Bool.false_eq_true, if_false,
    Blank.dropLeading_cons_of_blank (show Blank.isBlank ' ' = true by decide)
      printable.value_starts,
    takeBytes_of_byteCount_le printable.value_fits, String.ofList_toList]

/-- A header read from a line with no line feed before its end is printable, once its value
does not end with CR. -/
theorem printable_of_parse? {line : String} {header : Header} (read : parse? line = some header)
    (noFeed : '\n' ∉ dropLineEnd line.toList)
    (ends : header.value.toList.getLast? ≠ some '\r') :
    header.Printable := by
  unfold parse? at read
  rw [List.span_eq_takeWhile_dropWhile] at read
  split at read
  · cases read
  · next key colon after parts =>
    simp only [Prod.mk.injEq] at parts
    obtain ⟨keyPart, afterPart⟩ := parts
    split_ifs at read with bad
    cases read
    simp only [Bool.or_eq_true, List.isEmpty_iff, decide_eq_true_eq, not_or, not_lt] at bad
    have keyWithin : ∀ char ∈ key, char ∈ dropLineEnd line.toList := fun char member =>
      (keyPart ▸ List.takeWhile_prefix _).subset member
    have afterWithin : ∀ char ∈ after, char ∈ dropLineEnd line.toList := by
      intro char member
      have suffix := afterPart ▸ List.dropWhile_suffix (fun char => char != ':')
      exact suffix.subset (List.mem_cons_of_mem colon member)
    have valueWithin : ∀ char ∈ takeBytes maxValueBytes (Blank.dropLeading after),
        char ∈ dropLineEnd line.toList := fun char member =>
      afterWithin char ((Blank.dropLeading_isSuffix_self after).subset
        ((takeBytes_isPrefix_self _ _).subset member))
    refine ⟨?_, ?_, ?_, ?_, ?_, ?_, ?_, ends⟩
    · simpa using bad.1
    · intro colonInKey
      have notColon := List.mem_takeWhile_imp (keyPart ▸ String.toList_ofList ▸ colonInKey)
      simp at notColon
    · simpa using bad.2
    · exact fun feed => noFeed (keyWithin '\n' (by simpa using feed))
    · simpa using byteCount_takeBytes_le maxValueBytes (Blank.dropLeading after)
    · intro char first
      rw [String.toList_ofList] at first
      obtain ⟨rest, cut⟩ := takeBytes_isPrefix_self maxValueBytes (Blank.dropLeading after)
      apply Blank.head_dropLeading after char
      rw [← cut, Option.mem_def, List.head?_append, Option.mem_def.mp first]
      rfl
    · exact fun feed => noFeed (valueWithin '\n' (by simpa using feed))

/-! ## What reading a line gives -/

theorem parse?_of_split {line : String} {key after : List Char}
    (split : dropLineEnd line.toList = key ++ ':' :: after) (first : ':' ∉ key) :
    parse? line =
      if key.isEmpty || maxKeyBytes < byteCount key then none
      else some ⟨String.ofList key, String.ofList (takeBytes maxValueBytes (Blank.dropLeading after))⟩ := by
  rw [parse?, split, span_append_of_not_mem first]

theorem parse?_of_colon_not_mem {line : String} (noColon : ':' ∉ dropLineEnd line.toList) :
    parse? line = none := by
  have colonFree : ∀ char ∈ dropLineEnd line.toList, (char != ':') = true := by
    intro char member
    have notColon : char ≠ ':' := fun colon => noColon (colon ▸ member)
    simpa using notColon
  rw [parse?, List.span_eq_takeWhile_dropWhile, List.takeWhile_eq_self_iff.mpr colonFree,
    List.dropWhile_eq_nil_iff.mpr colonFree]

/-- A line reads as a header exactly when, less its line end, it has a colon and the text before
the first one is a non-empty key of at most 256 bytes. -/
theorem isSome_parse?_iff (line : String) :
    (parse? line).isSome = true ↔
      ∃ key after, dropLineEnd line.toList = key ++ ':' :: after ∧ ':' ∉ key ∧ key ≠ [] ∧
        byteCount key ≤ maxKeyBytes := by
  constructor
  · intro read
    by_cases colon : ':' ∈ dropLineEnd line.toList
    · obtain ⟨key, after, split, first⟩ := exists_split_at_colon colon
      rw [parse?_of_split split first] at read
      split_ifs at read with bad
      · cases read
      · simp only [Bool.or_eq_true, List.isEmpty_iff, decide_eq_true_eq, not_or, not_lt] at bad
        exact ⟨key, after, split, first, bad.1, bad.2⟩
    · rw [parse?_of_colon_not_mem colon] at read
      cases read
  · rintro ⟨key, after, split, first, nonempty, fits⟩
    have good : (key.isEmpty || decide (maxKeyBytes < byteCount key)) = false := by
      simpa [List.isEmpty_iff, nonempty] using fits
    rw [parse?_of_split split first, good]
    rfl

/-- The key read is the text before the first colon; the value is the text after it, without its
leading blanks, cut to 1024 bytes. -/
theorem parse?_eq_some_of_split {line : String} {key after : List Char} {header : Header}
    (split : dropLineEnd line.toList = key ++ ':' :: after) (first : ':' ∉ key)
    (read : parse? line = some header) :
    header.key.toList = key ∧
      header.value.toList = takeBytes maxValueBytes (Blank.dropLeading after) := by
  rw [parse?_of_split split first] at read
  split_ifs at read
  cases read
  simp

/-- A header as reading a line gives it: a non-empty key of at most 256 bytes with no colon, and
a value of at most 1024 bytes that starts with no blank. -/
structure Readable (header : Header) : Prop where
  key_ne_nil : header.key.toList ≠ []
  colon_not_mem_key : ':' ∉ header.key.toList
  key_fits : byteCount header.key.toList ≤ maxKeyBytes
  value_fits : byteCount header.value.toList ≤ maxValueBytes
  value_starts : ∀ char ∈ header.value.toList.head?, Blank.isBlank char = false

theorem Printable.readable {header : Header} (printable : header.Printable) : header.Readable :=
  ⟨printable.key_ne_nil, printable.colon_not_mem_key, printable.key_fits, printable.value_fits,
    printable.value_starts⟩

theorem starts_of_isPrefix {part chars : List Char} (before : part <+: chars)
    (starts : ∀ char ∈ chars.head?, Blank.isBlank char = false) :
    ∀ char ∈ part.head?, Blank.isBlank char = false := by
  intro char first
  obtain ⟨rest, rfl⟩ := before
  apply starts
  rw [Option.mem_def, List.head?_append, Option.mem_def.mp first]
  rfl

/-- What a read header is: its key is the text before the first colon of the line less its line
end, and its value the text after that colon, without leading blanks, cut to 1024 bytes. -/
theorem exists_split_of_parse? {line : String} {header : Header}
    (read : parse? line = some header) :
    ∃ after, dropLineEnd line.toList = header.key.toList ++ ':' :: after ∧
      ':' ∉ header.key.toList ∧ header.key.toList ≠ [] ∧
      byteCount header.key.toList ≤ maxKeyBytes ∧
      header.value.toList = takeBytes maxValueBytes (Blank.dropLeading after) := by
  obtain ⟨key, after, split, first, nonempty, fits⟩ :=
    (isSome_parse?_iff line).mp (by rw [read]; rfl)
  obtain ⟨rfl, valueIs⟩ := parse?_eq_some_of_split split first read
  exact ⟨after, split, first, nonempty, fits, valueIs⟩

theorem readable_of_parse? {line : String} {header : Header} (read : parse? line = some header) :
    header.Readable := by
  obtain ⟨after, -, first, nonempty, fits, valueIs⟩ := exists_split_of_parse? read
  refine ⟨nonempty, first, fits, ?_, ?_⟩
  · rw [valueIs]
    exact byteCount_takeBytes_le _ _
  · rw [valueIs]
    exact starts_of_isPrefix (takeBytes_isPrefix_self _ _) (Blank.head_dropLeading after)

/-- The header with the CR and LF characters at the end of its value dropped. -/
def withoutValueEnd (header : Header) : Header :=
  { header with value := String.ofList (dropLineEnd header.value.toList) }

theorem dropLineEnd_toList_line (header : Header) :
    dropLineEnd header.line.toList =
      header.key.toList ++ ':' :: ' ' :: dropLineEnd header.value.toList := by
  have blankLast : ∀ char ∈ (header.key.toList ++ [':', ' ']).getLast?, isLineEnd char = false := by
    simp [List.getLast?_append, isLineEnd]
  rw [toList_line, show ['\r', '\n'] = ['\r'] ++ ['\n'] from rfl, ← List.append_assoc,
    dropLineEnd_append_of_lineEnd _ (by decide), dropLineEnd_append_of_lineEnd _ (by decide),
    show header.key.toList ++ ':' :: ' ' :: header.value.toList =
      (header.key.toList ++ [':', ' ']) ++ header.value.toList by simp,
    dropLineEnd_append_of_getLast? blankLast]
  simp

theorem parse?_line_eq {header : Header} (readable : header.Readable) :
    parse? header.line = some header.withoutValueEnd := by
  have kept := dropLineEnd_isPrefix_self header.value.toList
  have keyFits : (header.key.toList.isEmpty || decide (maxKeyBytes < byteCount header.key.toList))
      = false := by
    simpa [List.isEmpty_iff, readable.key_ne_nil] using readable.key_fits
  rw [parse?_of_split (dropLineEnd_toList_line header) readable.colon_not_mem_key, keyFits]
  simp only [Bool.false_eq_true, if_false,
    Blank.dropLeading_cons_of_blank (show Blank.isBlank ' ' = true by decide)
      (starts_of_isPrefix kept readable.value_starts),
    takeBytes_of_byteCount_le ((byteCount_le_of_isPrefix kept).trans readable.value_fits),
    String.ofList_toList]
  rfl

/-- A header that reading can give reads back from its printed line exactly when its value ends
with neither CR nor LF. -/
theorem parse?_line_eq_self_iff {header : Header} (readable : header.Readable) :
    parse? header.line = some header ↔
      ∀ char ∈ header.value.toList.getLast?, isLineEnd char = false := by
  rw [parse?_line_eq readable, Option.some.injEq, ← dropLineEnd_eq_self_iff]
  constructor
  · intro same
    have values := congrArg (fun h : Header => h.value.toList) same
    simpa [withoutValueEnd] using values
  · intro same
    simp [withoutValueEnd, same]

/-- Reading a header line: it is a header exactly when, less its trailing CR and LF characters,
it has a colon and the text before the first one is a non-empty key of at most 256 bytes.  The
key is that text, and the value is the longest prefix of at most 1024 bytes of the text after the
colon without its leading blanks.  Printed and read again, such a header comes back with the CR
and LF characters at the end of its value dropped, so it comes back whole exactly when its value
ends with neither. -/
theorem parse?_splits_at_first_colon (line : String) :
    ((parse? line).isSome = true ↔
      ∃ key after, dropLineEnd line.toList = key ++ ':' :: after ∧ ':' ∉ key ∧ key ≠ [] ∧
        byteCount key ≤ maxKeyBytes) ∧
    ∀ header, parse? line = some header →
      (∃ after, dropLineEnd line.toList = header.key.toList ++ ':' :: after ∧
        ':' ∉ header.key.toList ∧
        header.value.toList <+: Blank.dropLeading after ∧
        byteCount header.value.toList ≤ maxValueBytes ∧
        ∀ part, part <+: Blank.dropLeading after → byteCount part ≤ maxValueBytes →
          part <+: header.value.toList) ∧
      parse? header.line = some header.withoutValueEnd ∧
      (parse? header.line = some header ↔
        ∀ char ∈ header.value.toList.getLast?, isLineEnd char = false) := by
  refine ⟨isSome_parse?_iff line, fun header read => ?_⟩
  have readable := readable_of_parse? read
  obtain ⟨after, split, first, -, -, valueIs⟩ := exists_split_of_parse? read
  refine ⟨⟨after, split, first, ?_, readable.value_fits, fun part before fits => ?_⟩,
    parse?_line_eq readable, parse?_line_eq_self_iff readable⟩
  · rw [valueIs]
    exact takeBytes_isPrefix_self _ _
  · rw [valueIs]
    exact prefix_takeBytes_of_byteCount_le before fits

/-- A header read from a line is the one the line names; printed, it reads back. -/
theorem parse?_splits_at_first_colon_host :
    parse? "Host: example.com:8080\r\n" = some ⟨"Host", "example.com:8080"⟩ ∧
      parse? (Header.line ⟨"Host", "example.com:8080"⟩) = some ⟨"Host", "example.com:8080"⟩ := by
  have read : parse? "Host: example.com:8080\r\n" = some ⟨"Host", "example.com:8080"⟩ := by
    decide +kernel
  have ends : ∀ char ∈ "example.com:8080".toList.getLast?, isLineEnd char = false := by
    simp [isLineEnd]
  exact ⟨read, ((parse?_splits_at_first_colon _).2 _ read).2.2.mpr ends⟩

theorem takeBytes_of_utf8Size_one {chars : List Char} (single : ∀ char ∈ chars, char.utf8Size = 1)
    (budget : Nat) : takeBytes budget chars = chars.take budget := by
  induction chars generalizing budget with
  | nil => simp [takeBytes]
  | cons char chars induction =>
    have rest := induction fun other member => single other (List.mem_cons_of_mem char member)
    rw [takeBytes, single char List.mem_cons_self]
    cases budget with
    | zero => simp
    | succ budget => simp [rest]

/-- A line whose value is cut at 1024 bytes right after a CR: the value read keeps the CR. -/
theorem parse?_value_cut_after_return :
    parse? ("X: " ++ String.ofList (List.replicate 1023 'a') ++ "\rb") =
      some ⟨"X", String.ofList (List.replicate 1023 'a' ++ ['\r'])⟩ := by
  generalize letters : List.replicate 1023 'a' = as
  have length : as.length = 1023 := by rw [← letters, List.length_replicate]
  have onlyA : ∀ char ∈ as, char = 'a' := by
    rw [← letters]
    exact fun char member => List.eq_of_mem_replicate member
  have single : ∀ char ∈ as ++ ['\r', 'b'], char.utf8Size = 1 := by
    intro char member
    rcases List.mem_append.mp member with letter | last
    · rw [onlyA char letter]
      rfl
    · simp only [List.mem_cons, List.not_mem_nil, or_false] at last
      rcases last with rfl | rfl <;> rfl
  obtain ⟨first, rest, rfl⟩ : ∃ first rest, as = first :: rest :=
    List.exists_cons_of_ne_nil (by rintro rfl; cases length)
  have firstA : first = 'a' := onlyA first List.mem_cons_self
  have text : dropLineEnd ("X: " ++ String.ofList (first :: rest) ++ "\rb").toList =
      ['X'] ++ ':' :: ' ' :: ((first :: rest) ++ ['\r', 'b']) := by
    have last : ∀ char ∈ (['X', ':', ' '] ++ (first :: rest) ++ ['\r', 'b']).getLast?,
        isLineEnd char = false := by
      rw [show ['X', ':', ' '] ++ (first :: rest) ++ ['\r', 'b'] =
        (['X', ':', ' '] ++ (first :: rest) ++ ['\r']) ++ ['b'] by simp, List.getLast?_concat]
      simp [isLineEnd]
    simp only [String.toList_append, String.toList_ofList]
    rw [show "X: ".toList = ['X', ':', ' '] by simp, show "\rb".toList = ['\r', 'b'] by simp,
      dropLineEnd_of_getLast? last]
    simp
  have cut : ((first :: rest) ++ ['\r', 'b']).take maxValueBytes = (first :: rest) ++ ['\r'] := by
    rw [List.take_append, List.take_of_length_le (by rw [length]; decide), length]
    rfl
  rw [parse?_of_split text (by decide), if_neg (by decide),
    Blank.dropLeading_cons_of_blank (by decide) (by simp [firstA, Blank.isBlank]),
    takeBytes_of_utf8Size_one single, cut]

/-- A value cut at 1024 bytes right after a CR loses that CR when its header is printed and read
again. -/
theorem parse?_line_loses_cut_return :
    parse? ("X: " ++ String.ofList (List.replicate 1023 'a') ++ "\rb") =
        some ⟨"X", String.ofList (List.replicate 1023 'a' ++ ['\r'])⟩ ∧
      parse? (Header.line ⟨"X", String.ofList (List.replicate 1023 'a' ++ ['\r'])⟩) ≠
        some ⟨"X", String.ofList (List.replicate 1023 'a' ++ ['\r'])⟩ := by
  refine ⟨parse?_value_cut_after_return, ?_⟩
  rw [Ne, parse?_line_eq_self_iff (readable_of_parse? parse?_value_cut_after_return),
    String.toList_ofList, List.getLast?_concat]
  simp [isLineEnd]

end Header

end Gatehouse.Http
