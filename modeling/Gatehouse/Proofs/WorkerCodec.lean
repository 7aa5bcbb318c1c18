import Mathlib
import Gatehouse.Worker.JsonRecord
import Gatehouse.Proofs.Utf8RoundTrip

/-!
# Worker requests cross a frame unchanged

A request for a worker travels as its record of twelve gateway variables, written by the codec
that serde_json derives for the record.  Whatever that codec is, if it behaves as the server
relies on (`RecordCodec.Derived`: the record is written as the object of its fields in order, and
an object holding each field once is read as the record of those texts), a request crosses a
frame unchanged (`ofFrame_encode`).  The reason is that the twelve field names are distinct, so
each field of a written record is the one member of its name (`soleText?_zip`).

The runnable codec behaves so (`jsonCodec_derived`).  Quotes, backslashes, control characters
and characters beyond ASCII are each written by `escapeChar` and read back by the string reader
as the character's own UTF-8 bytes (`readStringBody_escapeChar`), so a printed string reads back
as its text (`readString_escaped`).  Each field of the object is read into the slot its name
picks, which must still be empty (`readFields_field`); the printed object of a record fills the
slots in order (`readFields_printed`), and the slots give the record again
(`readVariables_encode`).

Main statement: `ofFrame_encode`.
-/

namespace Gatehouse.Json

open Gatehouse.Text

/-- Bytes that a string body keeps as they are: no quote, no backslash, no control byte. -/
def PlainByte (b : UInt8) : Prop :=
  32 ≤ b.toNat ∧ b.toNat ≠ 34 ∧ b.toNat ≠ 92

theorem readStringBody_plain (acc : List UInt8) {bytes : List UInt8}
    (plain : ∀ b ∈ bytes, PlainByte b) (rest : List UInt8) :
    readStringBody acc (bytes ++ rest) = readStringBody (bytes.reverse ++ acc) rest := by
  induction bytes generalizing acc with
  | nil => rfl
  | cons b bytes ih =>
    obtain ⟨notControl, notQuote, notBackslash⟩ := plain b List.mem_cons_self
    have quote : b ≠ 34 := fun e => notQuote (by simp [e])
    have backslash : b ≠ 92 := fun e => notBackslash (by simp [e])
    have control : ¬b < 32 := by rw [UInt8.lt_iff_toNat_lt]; simpa using notControl
    rw [List.cons_append, readStringBody.eq_2, if_neg quote, if_neg backslash, if_neg control,
      ih _ fun b' member => plain b' (List.mem_cons_of_mem b member)]
    simp

theorem plainByte_of_mem_utf8EncodeChar {c : Char} (printable : 32 ≤ c.toNat)
    (notQuote : c ≠ '"') (notBackslash : c ≠ '\\') {b : UInt8}
    (member : b ∈ String.utf8EncodeChar c) : PlainByte b := by
  have quote : c.toNat ≠ 34 := fun e => notQuote (Char.toNat_inj.mp e)
  have backslash : c.toNat ≠ 92 := fun e => notBackslash (Char.toNat_inj.mp e)
  have valid := c.valid
  simp only [UInt32.isValidChar, Nat.isValidChar] at valid
  have small : c.val.toNat = c.toNat := rfl
  unfold String.utf8EncodeChar at member
  dsimp only at member
  split_ifs at member with one two three
  · rw [List.mem_singleton] at member
    subst member
    unfold PlainByte
    rw [UInt8.toNat_ofNat', Nat.mod_eq_of_lt (by omega)]
    omega
  all_goals
    simp only [List.mem_cons, List.not_mem_nil, or_false] at member
    rcases member with rfl | rfl | rfl | rfl <;>
      · unfold PlainByte
        rw [UInt8.toNat_ofNat', Nat.mod_eq_of_lt (by omega)]
        omega

theorem utf8EncodeChar_hexDigit (d : Nat) (small : d < 16) :
    ∃ b, String.utf8EncodeChar (hexDigit d) = [b] ∧ hexValue? b = some d := by
  have read : ∀ d : Fin 16,
      (String.utf8EncodeChar (hexDigit d)).map hexValue? = [some d.val] := by
    decide
  obtain ⟨b, single, value⟩ := List.map_eq_singleton_iff.1 (read ⟨d, small⟩)
  exact ⟨b, single, value⟩

theorem readEscape_control {c : Char} (control : c.toNat < 32) (rest : List UInt8) :
    readEscape (Utf8.encodeChars ['u', '0', '0', hexDigit (c.toNat / 16), hexDigit (c.toNat % 16)]
      ++ rest) = .ok (String.utf8EncodeChar c, rest) := by
  obtain ⟨high, highByte, highValue⟩ := utf8EncodeChar_hexDigit (c.toNat / 16) (by omega)
  obtain ⟨low, lowByte, lowValue⟩ := utf8EncodeChar_hexDigit (c.toNat % 16) (by omega)
  have bytes : Utf8.encodeChars ['u', '0', '0', hexDigit (c.toNat / 16),
      hexDigit (c.toNat % 16)] ++ rest = 117 :: 48 :: 48 :: high :: low :: rest := by
    have letters : String.utf8EncodeChar 'u' = [117] ∧ String.utf8EncodeChar '0' = [48] := by
      decide
    simp [Utf8.encodeChars, letters, highByte, lowByte]
  have zero : hexValue? 48 = some 0 := by decide
  have number : c.toNat / 16 * 16 + c.toNat % 16 = c.toNat := Nat.div_add_mod' _ _
  have notSurrogate : ¬(0xDC00 ≤ c.toNat ∧ c.toNat ≤ 0xDFFF) := by omega
  have below : c.toNat < 0xD800 := by omega
  rw [bytes]
  simp [readEscape, shortEscape?, readUnicodeEscape, readHex4, zero, highValue, lowValue, number,
    notSurrogate, below, codePointBytes, Char.ofNat_toNat]

theorem readStringBody_escape (acc : List UInt8) {tl out rest : List UInt8}
    (escape : readEscape tl = .ok (out, rest)) :
    readStringBody acc (92 :: tl) = readStringBody (out.reverse ++ acc) rest := by
  rw [readStringBody.eq_2, if_neg (by decide), if_pos rfl]
  split
  · rename_i out' rest' read
    rw [escape] at read
    cases read
    rfl
  · rename_i e read
    rw [escape] at read
    cases read

theorem readStringBody_escapeChar (acc : List UInt8) (c : Char) (rest : List UInt8) :
    readStringBody acc (Utf8.encodeChars (escapeChar c) ++ rest) =
      readStringBody ((String.utf8EncodeChar c).reverse ++ acc) rest := by
  have short : ∀ letter escaped : UInt8, shortEscape? letter = some escaped →
      readStringBody acc (92 :: letter :: rest) = readStringBody ([escaped] ++ acc) rest :=
    fun letter escaped found =>
      @readStringBody_escape acc (letter :: rest) [escaped] rest (by simp [readEscape, found])
  unfold escapeChar
  split_ifs with quote backslash lineFeed carriage tab backspace formFeed control
  · subst quote
    exact short 34 34 (by decide)
  · subst backslash
    exact short 92 92 (by decide)
  · subst lineFeed
    exact short 110 10 (by decide)
  · subst carriage
    exact short 114 13 (by decide)
  · subst tab
    exact short 116 9 (by decide)
  · obtain rfl : c = '\x08' := Char.toNat_inj.mp backspace
    exact short 98 8 (by decide)
  · obtain rfl : c = '\x0c' := Char.toNat_inj.mp formFeed
    exact short 102 12 (by decide)
  · rw [Utf8.encodeChars_cons, List.append_assoc]
    exact readStringBody_escape acc (readEscape_control control rest)
  · rw [Utf8.encodeChars, List.flatMap_singleton]
    exact readStringBody_plain acc
      (fun b member => plainByte_of_mem_utf8EncodeChar (by omega) quote backslash member) rest

/-- The bytes of a text inside a printed string: each character as `escapeChar` writes it. -/
def escapedBytes (text : String) : List UInt8 :=
  Utf8.encodeChars (text.toList.flatMap escapeChar)

theorem encode_quote (text : String) :
    Utf8.encode (quote text) = 34 :: escapedBytes text ++ [34] := by
  rw [quote, Utf8.encode, String.toList_ofList, Utf8.encodeChars_append, Utf8.encodeChars_cons,
    escapedBytes]
  rfl

theorem readStringBody_escaped (acc : List UInt8) (chars : List Char) (rest : List UInt8) :
    readStringBody acc (Utf8.encodeChars (chars.flatMap escapeChar) ++ rest) =
      readStringBody ((Utf8.encodeChars chars).reverse ++ acc) rest := by
  induction chars generalizing acc with
  | nil => rfl
  | cons c chars ih =>
    rw [List.flatMap_cons, Utf8.encodeChars_append, List.append_assoc, readStringBody_escapeChar,
      ih, Utf8.encodeChars_cons, List.reverse_append, List.append_assoc]

/-- A text written as `quote` writes its inside is read back up to the closing quote. -/
theorem readString_escaped (text : String) (rest : List UInt8) :
    readString (escapedBytes text ++ 34 :: rest) = .ok (text, rest) := by
  rw [readString, escapedBytes, readStringBody_escaped, List.append_nil, readStringBody.eq_2,
    if_pos rfl, List.reverse_reverse, show Utf8.encodeChars text.toList = Utf8.encode text from rfl]
  simp only [Utf8.decode?_encode]

end Gatehouse.Json

namespace Gatehouse.Worker

open Gatehouse.Json
open Gatehouse.Gateway
open Gatehouse.Text

/-- A field as the record's object prints it: its quoted name, a colon and its quoted value. -/
def fieldText (field : String × String) : String :=
  quote field.1 ++ ":" ++ quote field.2

theorem textObject_eq (fields : List (String × String)) :
    textObject fields = "\x7b" ++ ",".intercalate (fields.map fieldText) ++ "\x7d" :=
  rfl

theorem encode_fieldText (name value : String) :
    Utf8.encode (fieldText (name, value)) =
      34 :: escapedBytes name ++ 34 :: 58 :: 34 :: escapedBytes value ++ [34] := by
  rw [fieldText, Utf8.encode_append, Utf8.encode_append, encode_quote, encode_quote]
  simp only [show Utf8.encode ":" = [58] from rfl, List.cons_append, List.append_assoc,
    List.nil_append]

theorem readFields_field (fuel : Nat) (first : Bool) (slots : List (Option String))
    {name : String} {i : Nat} (index : Variables.fieldNames.idxOf? name = some i)
    (empty : slots.getD i none = none) (value : String) (rest : List UInt8) :
    readFields (fuel + 1) first slots
        ((if first then [] else [44]) ++ Utf8.encode (fieldText (name, value)) ++ rest) =
      readFields fuel false (slots.set i (some value)) rest := by
  have nameField : readFieldName first
      ((if first then [] else [44]) ++ Utf8.encode (fieldText (name, value)) ++ rest) =
        .ok (some (name, 58 :: 34 :: (escapedBytes value ++ 34 :: rest))) := by
    have nameRead := readString_escaped name (58 :: 34 :: (escapedBytes value ++ 34 :: rest))
    cases first <;> simp [readFieldName, encode_fieldText, skipBlank, isBlank, nameRead]
  have colon : readColon (58 :: 34 :: (escapedBytes value ++ 34 :: rest)) =
      .ok (34 :: (escapedBytes value ++ 34 :: rest)) := by
    simp [readColon, skipBlank, isBlank]
  have text : readText (34 :: (escapedBytes value ++ 34 :: rest)) = .ok (value, rest) := by
    simp [readText, skipBlank, isBlank, readString_escaped]
  rw [readFields.eq_2, nameField]
  simp only [index, empty, Option.isSome_none, Bool.false_eq_true, if_false, colon, text]

theorem idxOf?_append_cons {before after : List String} {name : String}
    (fresh : name ∉ before) : (before ++ name :: after).idxOf? name = some before.length := by
  have absent : before.idxOf? name = none := List.idxOf?_eq_none_iff.2 fresh
  rw [List.idxOf?] at absent ⊢
  simp [List.findIdx?_append, absent, List.findIdx?_cons]

theorem fieldNames_nodup : Variables.fieldNames.Nodup := by
  decide

theorem idxOf?_fieldNames {pre post : List (String × String)} {name value : String}
    (names : (pre ++ (name, value) :: post).map Prod.fst = Variables.fieldNames) :
    Variables.fieldNames.idxOf? name = some pre.length := by
  have nodup : (pre.map Prod.fst ++ name :: post.map Prod.fst).Nodup := by
    have distinct := fieldNames_nodup
    rw [← names, List.map_append, List.map_cons] at distinct
    exact distinct
  have fresh : name ∉ pre.map Prod.fst := fun member =>
    (List.nodup_append.1 nodup).2.2 name member name List.mem_cons_self rfl
  rw [← names, List.map_append, List.map_cons, ← List.length_map Prod.fst]
  exact idxOf?_append_cons fresh

theorem set_first_empty_slot (pre post : List (String × String)) (name value : String) :
    ((pre.map fun (field : String × String) => some field.2) ++
        ((name, value) :: post).map fun _ => none).set pre.length (some value) =
      ((pre ++ [(name, value)]).map fun (field : String × String) => some field.2) ++
        post.map fun _ => none := by
  simp [List.set_append_right]

theorem readFields_later (post pre : List (String × String))
    (names : (pre ++ post).map Prod.fst = Variables.fieldNames) (fuel : Nat)
    (enough : post.length < fuel) (after : List UInt8) :
    readFields fuel false ((pre.map fun field => some field.2) ++ post.map fun _ => none)
        ((post.flatMap fun field => 44 :: Utf8.encode (fieldText field)) ++ 125 :: after) =
      .ok ((pre ++ post).map (fun field => some field.2), 125 :: after) := by
  obtain ⟨fuel, rfl⟩ : ∃ rounds, fuel = rounds + 1 := ⟨fuel - 1, by omega⟩
  induction post generalizing pre fuel with
  | nil =>
    simp [readFields.eq_2, readFieldName, skipBlank, isBlank]
  | cons field post ih =>
    obtain ⟨name, value⟩ := field
    obtain ⟨rounds, rfl⟩ : ∃ rounds, fuel = rounds + 1 :=
      ⟨fuel - 1, by simp at enough; omega⟩
    have step := readFields_field (rounds + 1) false
      ((pre.map fun field => some field.2) ++ ((name, value) :: post).map fun _ => none)
      (idxOf?_fieldNames names) (by simp [List.getD_eq_getElem?_getD]) value
      ((post.flatMap fun field => 44 :: Utf8.encode (fieldText field)) ++ 125 :: after)
    simp only [Bool.false_eq_true, ↓reduceIte, List.flatMap_cons, List.cons_append,
      List.nil_append, List.append_assoc] at step ⊢
    rw [step, set_first_empty_slot,
      ih (pre ++ [(name, value)]) (by simpa using names) rounds (by simp at enough; omega)]
    simp

theorem encode_intercalate (field : String × String) (fields : List (String × String)) :
    Utf8.encode (",".intercalate ((field :: fields).map fieldText)) =
      Utf8.encode (fieldText field) ++
        fields.flatMap fun field => 44 :: Utf8.encode (fieldText field) := by
  induction fields generalizing field with
  | nil => simp
  | cons next fields ih =>
    rw [List.map_cons, List.map_cons, String.intercalate_cons_cons, Utf8.encode_append,
      Utf8.encode_append, ← List.map_cons, ih, List.flatMap_cons]
    simp [show Utf8.encode "," = [44] from rfl]

/-- A printed object of the record's fields, in the record's order, is read into the slots
of its fields, the closing brace left. -/
theorem readFields_printed (fields : List (String × String))
    (names : fields.map Prod.fst = Variables.fieldNames) (fuel : Nat)
    (enough : fields.length < fuel)
    (after : List UInt8) :
    readFields fuel true (Variables.fieldNames.map fun _ => none)
        (Utf8.encode (",".intercalate (fields.map fieldText)) ++ 125 :: after) =
      .ok (fields.map (fun field => some field.2), 125 :: after) := by
  cases fields with
  | nil => simp [Variables.fieldNames] at names
  | cons field fields =>
    obtain ⟨name, value⟩ := field
    obtain ⟨rounds, rfl⟩ : ∃ rounds, fuel = rounds + 1 := ⟨fuel - 1, by omega⟩
    have step := readFields_field rounds true (Variables.fieldNames.map fun _ => none)
      (@idxOf?_fieldNames [] fields name value names)
      (by simp [Variables.fieldNames]) value
      ((fields.flatMap fun field => 44 :: Utf8.encode (fieldText field)) ++ 125 :: after)
    have slots : (Variables.fieldNames.map fun _ => none).set 0 (some value) =
        ([(name, value)].map fun (field : String × String) => some field.2) ++
          fields.map fun _ => none := by
      rw [← names]
      simp [Function.comp_def]
    simp only [↓reduceIte, List.nil_append, List.length_nil] at step
    rw [encode_intercalate, List.append_assoc, step, slots,
      readFields_later fields [(name, value)] (by simpa using names) rounds
        (by simp at enough; omega) after]
    rfl

theorem length_le_flatMap_comma (fields : List (String × String)) :
    fields.length ≤ (fields.flatMap fun field => 44 :: Utf8.encode (fieldText field)).length := by
  induction fields with
  | nil => simp
  | cons field fields ih =>
    rw [List.flatMap_cons, List.length_append, List.length_cons, List.length_cons]
    omega

theorem filledSlots_some (names values : List String) (sameLength : names.length = values.length) :
    filledSlots names (values.map some) = .ok values := by
  induction values generalizing names with
  | nil =>
    cases names with
    | nil => rfl
    | cons name names => simp at sameLength
  | cons value values ih =>
    cases names with
    | nil => simp at sameLength
    | cons name names => simp [filledSlots, ih names (by simpa using sameLength)]

theorem encode_encodeVariables (v : Variables) :
    Utf8.encode (encodeVariables v) = 123 ::
      (Utf8.encode (",".intercalate ((Variables.fieldNames.zip v.values).map fieldText)) ++
        [125]) := by
  rw [encodeVariables, textObject_eq, Utf8.encode_append, Utf8.encode_append,
    show Utf8.encode "\x7b" = [123] from rfl, show Utf8.encode "\x7d" = [125] from rfl,
    List.singleton_append, List.cons_append]

theorem length_lt_encode_fields (fields : List (String × String)) :
    fields.length < (Utf8.encode (",".intercalate (fields.map fieldText)) ++ [125]).length + 1 := by
  cases fields with
  | nil => simp
  | cons field fields =>
    have commas := length_le_flatMap_comma fields
    rw [encode_intercalate]
    simp only [List.length_append, List.length_cons]
    omega

/-- The record's printed object is read back as the record, with nothing left after it. -/
theorem readVariables_encode (v : Variables) :
    readVariables (Utf8.encode (encodeVariables v)) = .ok (v, []) := by
  have lengths : Variables.fieldNames.length = v.values.length := rfl
  have names : (Variables.fieldNames.zip v.values).map Prod.fst = Variables.fieldNames :=
    List.map_fst_zip (by omega)
  have values : (Variables.fieldNames.zip v.values).map Prod.snd = v.values :=
    List.map_snd_zip (by omega)
  have read := readFields_printed _ names _ (length_lt_encode_fields _) []
  have skip : ∀ rest, skipBlank (123 :: rest) = 123 :: rest := by
    intro rest
    simp [skipBlank, isBlank]
  have filled : filledSlots Variables.fieldNames
      ((Variables.fieldNames.zip v.values).map fun field => some field.2) = .ok v.values := by
    rw [show ((Variables.fieldNames.zip v.values).map fun field => some field.2) =
      v.values.map some by rw [← values, List.map_map]; rfl]
    exact filledSlots_some _ _ lengths
  have closed : passClosingBrace [125] = [] := by
    decide
  rw [encode_encodeVariables]
  simp only [readVariables, skip, ↓reduceIte, read, filled, Variables.ofValues?_values, closed]

theorem decodeVariables_encode (v : Variables) :
    decodeVariables (Utf8.encode (encodeVariables v)) = .ok v := by
  simp only [decodeVariables, readVariables_encode]
  rfl

/-! ## Any codec that behaves as derived -/

theorem soleText?_cons_of_ne {name other : String} (text : Option String) (members : List Member)
    (differ : name ≠ other) :
    soleText? ((name, text) :: members) other = soleText? members other := by
  simp [soleText?, differ]

/-- Among the members written for distinct names, each name has the one member written for it. -/
theorem soleText?_zip {names texts : List String} (distinct : names.Nodup)
    (sameLength : names.length = texts.length) :
    names.map (soleText? (names.zip (texts.map some))) = texts.map some := by
  induction names generalizing texts with
  | nil =>
    cases texts with
    | nil => rfl
    | cons _ _ => simp at sameLength
  | cons name names induction =>
    cases texts with
    | nil => simp at sameLength
    | cons text texts =>
      rw [List.nodup_cons] at distinct
      have later : (names.zip (texts.map some)).filter (·.1 == name) = [] := by
        rw [List.filter_eq_nil_iff]
        intro entry member same
        have named : entry.1 ∈ names := (List.of_mem_zip member).1
        exact distinct.1 (by simpa using (beq_iff_eq.mp same) ▸ named)
      have first : soleText? ((name, some text) :: names.zip (texts.map some)) name = some text := by
        simp [soleText?, later]
      have rest : names.map (soleText? ((name, some text) :: names.zip (texts.map some))) =
          names.map (soleText? (names.zip (texts.map some))) :=
        List.map_congr_left fun other member =>
          soleText?_cons_of_ne _ _ fun same => distinct.1 (same ▸ member)
      simp only [List.map_cons, List.zip_cons_cons]
      rw [first, rest, induction distinct.2 (by simpa using sameLength)]

/-- A codec that behaves as derived reads back every record it writes. -/
theorem RecordCodec.Derived.read_write {codec : RecordCodec} (derived : codec.Derived)
    (v : Variables) : codec.read (codec.write v) = .ok v :=
  derived.reads_fields _ _ v (derived.writes_fields v) (soleText?_zip fieldNames_nodup rfl)

/-- A request crosses a frame unchanged, with any codec that behaves as the derived one: the
frame carrying its encoding under its connection is read as the same connection and record.  So
a payload that is accepted, once its record is encoded again, is read back the same. -/
theorem ofFrame_encode (codec : RecordCodec) (derived : codec.Derived) (connection : UInt64)
    (record : Variables) :
    WorkerRequest.ofFrame codec ⟨connection, (WorkerRequest.mk connection record).encode codec⟩ =
        .ok ⟨connection, record⟩ ∧
      ∀ frame decoded, WorkerRequest.ofFrame codec frame = .ok decoded →
        decoded.connection = frame.id ∧
          WorkerRequest.ofFrame codec ⟨frame.id, decoded.encode codec⟩ = .ok decoded := by
  have roundTrip : ∀ connection record,
      WorkerRequest.ofFrame codec ⟨connection, (WorkerRequest.mk connection record).encode codec⟩ =
        .ok ⟨connection, record⟩ := by
    intro connection record
    simp only [WorkerRequest.ofFrame, WorkerRequest.encode, derived.read_write]
  refine ⟨roundTrip connection record, fun frame decoded accepted => ?_⟩
  unfold WorkerRequest.ofFrame at accepted
  split at accepted
  · rename_i record _
    cases accepted
    exact ⟨rfl, roundTrip frame.id record⟩
  · cases accepted

/-! ## The runnable codec -/

/-- The runnable codec behaves as the derived one. -/
theorem jsonCodec_derived : jsonCodec.Derived where
  writes_fields v := by
    simp only [jsonCodec, decodeVariables_encode]
  reads_fields bytes members v found fields := by
    simp only [jsonCodec] at found ⊢
    split at found
    · next read decoded =>
      cases found
      rw [@soleText?_zip _ read.values fieldNames_nodup rfl] at fields
      have same : read = v :=
        Variables.values_injective (List.map_injective_iff.mpr (Option.some_injective _) fields)
      rw [same]
    · cases found

/-- A record whose texts hold a quote, a backslash, a line feed, a control character and
characters beyond ASCII crosses a frame unchanged with the runnable codec. -/
theorem ofFrame_encode_awkward_texts :
    jsonCodec.Derived ∧
      WorkerRequest.ofFrame jsonCodec
          ⟨7, (WorkerRequest.mk 7 ⟨"spade/0.1", "ex\"ample", "CGI/1.1", "HTTP/1.0", "8080",
            "GET", "/a\\b", "www/a\\b", "/dirt", "q=1\n2", "h\u0001ost", "ñ€😀"⟩).encode
            jsonCodec⟩ =
        .ok ⟨7, ⟨"spade/0.1", "ex\"ample", "CGI/1.1", "HTTP/1.0", "8080", "GET", "/a\\b",
          "www/a\\b", "/dirt", "q=1\n2", "h\u0001ost", "ñ€😀"⟩⟩ :=
  ⟨jsonCodec_derived, (ofFrame_encode jsonCodec jsonCodec_derived 7
    ⟨"spade/0.1", "ex\"ample", "CGI/1.1", "HTTP/1.0", "8080", "GET", "/a\\b", "www/a\\b",
      "/dirt", "q=1\n2", "h\u0001ost", "ñ€😀"⟩).1⟩

end Gatehouse.Worker
