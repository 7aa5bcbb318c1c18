import Mathlib
import Gatehouse.Text.Utf8

/-!
# Reading UTF-8 back

Text printed as UTF-8 reads back as itself, by the lossy reading as much as by the strict one:
`decodeLossy_encode`.  The proof takes one character at a time (`scan_utf8EncodeChar_append`):
the bytes of a character are one well-formed sequence whose scalar value is the character.

The reading is also local at ASCII bytes (`scan_append_of_ascii`): an ASCII byte can neither
continue a sequence nor be its second byte, so the bytes before it are read as if the input ended
there.  In particular a line ended by LF reads as the line without it, followed by a line feed,
and a line feed in the text comes only from an LF byte.
-/

namespace Gatehouse.Text.Utf8

/-! ## Bytes as numbers -/

theorem sequenceWidth_of_toNat (byte : UInt8) :
    sequenceWidth byte =
      if byte.toNat < 0x80 then 1
      else if byte.toNat < 0xC2 then 0
      else if byte.toNat < 0xE0 then 2
      else if byte.toNat < 0xF0 then 3
      else if byte.toNat < 0xF5 then 4
      else 0 := by
  simp only [sequenceWidth, UInt8.lt_iff_toNat_lt]
  rfl

theorem isContinuation_iff (byte : UInt8) :
    isContinuation byte = true ↔ 0x80 ≤ byte.toNat ∧ byte.toNat ≤ 0xBF := by
  simp [isContinuation, UInt8.le_iff_toNat_le]

theorem secondByteFits_iff (lead second : UInt8) :
    secondByteFits lead second = true ↔
      if lead.toNat = 0xE0 then 0xA0 ≤ second.toNat ∧ second.toNat ≤ 0xBF
      else if lead.toNat = 0xED then 0x80 ≤ second.toNat ∧ second.toNat ≤ 0x9F
      else if lead.toNat = 0xF0 then 0x90 ≤ second.toNat ∧ second.toNat ≤ 0xBF
      else if lead.toNat = 0xF4 then 0x80 ≤ second.toNat ∧ second.toNat ≤ 0x8F
      else 0x80 ≤ second.toNat ∧ second.toNat ≤ 0xBF := by
  simp only [secondByteFits, ← UInt8.toNat_inj, isContinuation, UInt8.le_iff_toNat_le,
    UInt8.reduceToNat]
  split_ifs <;> simp

theorem not_isContinuation_of_ascii {byte : UInt8} (ascii : byte.toNat < 0x80) :
    isContinuation byte = false := by
  have notContinuation : ¬ isContinuation byte = true := by
    rw [isContinuation_iff]
    omega
  simpa using notContinuation

theorem not_secondByteFits_of_ascii (lead : UInt8) {byte : UInt8} (ascii : byte.toNat < 0x80) :
    secondByteFits lead byte = false := by
  have notFits : ¬ secondByteFits lead byte = true := by
    rw [secondByteFits_iff]
    split_ifs <;> omega
  simpa using notFits

theorem lead_of_sequenceWidth_eq_two {byte : UInt8} (width : sequenceWidth byte = 2) :
    0xC2 ≤ byte.toNat ∧ byte.toNat < 0xE0 := by
  rw [sequenceWidth_of_toNat] at width
  split_ifs at width <;> omega

theorem lead_of_sequenceWidth_eq_three {byte : UInt8} (width : sequenceWidth byte = 3) :
    0xE0 ≤ byte.toNat ∧ byte.toNat < 0xF0 := by
  rw [sequenceWidth_of_toNat] at width
  split_ifs at width <;> omega

theorem lead_of_sequenceWidth_eq_four {byte : UInt8} (width : sequenceWidth byte = 4) :
    0xF0 ≤ byte.toNat ∧ byte.toNat < 0xF5 := by
  rw [sequenceWidth_of_toNat] at width
  split_ifs at width <;> omega

theorem eq_toNat_of_charOfNat_eq {value : Nat} {char : Char} (read : Char.ofNat value = char)
    (nonzero : char.toNat ≠ 0) : value = char.toNat := by
  by_cases valid : value.isValidChar
  · rw [← read, Char.ofNat, dif_pos valid, Char.toNat_ofNatAux valid]
  · rw [Char.ofNat, dif_neg valid] at read
    subst read
    exact absurd rfl nonzero

/-! ## One step of the scan -/

theorem scan_of_ascii {byte : UInt8} (ascii : byte.toNat < 0x80) (rest : List UInt8) :
    scan (byte :: rest) = some (Char.ofNat byte.toNat) :: scan rest := by
  have width : sequenceWidth byte = 1 := by
    rw [sequenceWidth_of_toNat, if_pos ascii]
  rw [scan.eq_def]
  simp only [width]

theorem scan_of_two {b0 b1 : UInt8} (lead : 0xC2 ≤ b0.toNat ∧ b0.toNat < 0xE0)
    (continuation : isContinuation b1 = true) (rest : List UInt8) :
    scan (b0 :: b1 :: rest) = some (scalar2 b0 b1) :: scan rest := by
  have width : sequenceWidth b0 = 2 := by
    rw [sequenceWidth_of_toNat, if_neg (by omega), if_neg (by omega), if_pos (by omega)]
  rw [scan.eq_def]
  simp only [width, continuation, if_true]

theorem scan_of_three {b0 b1 b2 : UInt8} (lead : 0xE0 ≤ b0.toNat ∧ b0.toNat < 0xF0)
    (second : secondByteFits b0 b1 = true) (continuation : isContinuation b2 = true)
    (rest : List UInt8) :
    scan (b0 :: b1 :: b2 :: rest) = some (scalar3 b0 b1 b2) :: scan rest := by
  have width : sequenceWidth b0 = 3 := by
    rw [sequenceWidth_of_toNat, if_neg (by omega), if_neg (by omega), if_neg (by omega),
      if_pos (by omega)]
  rw [scan.eq_def]
  simp only [width, second, continuation, if_true]

theorem scan_of_four {b0 b1 b2 b3 : UInt8} (lead : 0xF0 ≤ b0.toNat ∧ b0.toNat < 0xF5)
    (second : secondByteFits b0 b1 = true) (third : isContinuation b2 = true)
    (fourth : isContinuation b3 = true) (rest : List UInt8) :
    scan (b0 :: b1 :: b2 :: b3 :: rest) = some (scalar4 b0 b1 b2 b3) :: scan rest := by
  have width : sequenceWidth b0 = 4 := by
    rw [sequenceWidth_of_toNat, if_neg (by omega), if_neg (by omega), if_neg (by omega),
      if_neg (by omega), if_pos (by omega)]
  rw [scan.eq_def]
  simp only [width, second, third, fourth, if_true]

/-! ## Encoded characters -/

theorem scan_utf8EncodeChar_append (char : Char) (rest : List UInt8) :
    scan (String.utf8EncodeChar char ++ rest) = some char :: scan rest := by
  have valid := char.valid
  simp only [UInt32.isValidChar, Nat.isValidChar] at valid
  have back : Char.ofNat char.val.toNat = char := Char.ofNat_toNat char
  unfold String.utf8EncodeChar
  dsimp only
  split_ifs with one two three
  · -- one byte: ASCII
    have byte := UInt8.toNat_ofNat_of_lt' (show char.val.toNat < 256 by omega)
    rw [List.singleton_append, scan_of_ascii (by omega), byte, back]
  · -- two bytes: a lead byte from 0xC2 to 0xDF
    have lead := UInt8.toNat_ofNat_of_lt'
      (show char.val.toNat / 64 % 32 + 192 < 256 by omega)
    have last := UInt8.toNat_ofNat_of_lt' (show char.val.toNat % 64 + 128 < 256 by omega)
    rw [List.cons_append, List.cons_append, List.nil_append,
      scan_of_two (by omega) ((isContinuation_iff _).mpr (by omega))]
    have value : (char.val.toNat / 64 % 32 + 192) % 32 * 64 + (char.val.toNat % 64 + 128) % 64 =
        char.val.toNat := by
      omega
    rw [scalar2, lead, last, value, back]
  · -- three bytes: the second byte keeps out overlong forms and surrogates
    have lead := UInt8.toNat_ofNat_of_lt'
      (show char.val.toNat / 4096 % 16 + 224 < 256 by omega)
    have middle := UInt8.toNat_ofNat_of_lt'
      (show char.val.toNat / 64 % 64 + 128 < 256 by omega)
    have last := UInt8.toNat_ofNat_of_lt' (show char.val.toNat % 64 + 128 < 256 by omega)
    have second : secondByteFits (UInt8.ofNat (char.val.toNat / 4096 % 16 + 224))
        (UInt8.ofNat (char.val.toNat / 64 % 64 + 128)) = true := by
      rw [secondByteFits_iff, lead, middle]
      split_ifs <;> omega
    rw [List.cons_append, List.cons_append, List.cons_append, List.nil_append,
      scan_of_three (by omega) second ((isContinuation_iff _).mpr (by omega))]
    have value : (char.val.toNat / 4096 % 16 + 224) % 16 * 4096 +
        (char.val.toNat / 64 % 64 + 128) % 64 * 64 + (char.val.toNat % 64 + 128) % 64 =
          char.val.toNat := by
      omega
    rw [scalar3, lead, middle, last, value, back]
  · -- four bytes: the second byte keeps out overlong forms and values past U+10FFFF
    have lead := UInt8.toNat_ofNat_of_lt'
      (show char.val.toNat / 262144 % 8 + 240 < 256 by omega)
    have second' := UInt8.toNat_ofNat_of_lt'
      (show char.val.toNat / 4096 % 64 + 128 < 256 by omega)
    have third := UInt8.toNat_ofNat_of_lt'
      (show char.val.toNat / 64 % 64 + 128 < 256 by omega)
    have last := UInt8.toNat_ofNat_of_lt' (show char.val.toNat % 64 + 128 < 256 by omega)
    have second : secondByteFits (UInt8.ofNat (char.val.toNat / 262144 % 8 + 240))
        (UInt8.ofNat (char.val.toNat / 4096 % 64 + 128)) = true := by
      rw [secondByteFits_iff, lead, second']
      split_ifs <;> omega
    rw [List.cons_append, List.cons_append, List.cons_append, List.cons_append, List.nil_append,
      scan_of_four (by omega) second ((isContinuation_iff _).mpr (by omega))
        ((isContinuation_iff _).mpr (by omega))]
    have value : (char.val.toNat / 262144 % 8 + 240) % 8 * 262144 +
        (char.val.toNat / 4096 % 64 + 128) % 64 * 4096 +
          (char.val.toNat / 64 % 64 + 128) % 64 * 64 + (char.val.toNat % 64 + 128) % 64 =
            char.val.toNat := by
      omega
    rw [scalar4, lead, second', third, last, value, back]

@[simp]
theorem encodeChars_cons (char : Char) (chars : List Char) :
    encodeChars (char :: chars) = String.utf8EncodeChar char ++ encodeChars chars := rfl

theorem encode_append (first second : String) :
    encode (first ++ second) = encode first ++ encode second := by
  rw [encode, String.toList_append, encodeChars_append, encode, encode]

theorem encode_join (texts : List String) :
    encode (String.join texts) = (texts.map encode).flatten := by
  induction texts with
  | nil => rfl
  | cons text texts induction =>
    rw [String.join_cons, encode_append, induction, List.map_cons, List.flatten_cons]

theorem scan_encodeChars_append (chars : List Char) (rest : List UInt8) :
    scan (encodeChars chars ++ rest) = chars.map some ++ scan rest := by
  induction chars with
  | nil => rfl
  | cons char chars induction =>
    rw [encodeChars_cons, List.append_assoc, scan_utf8EncodeChar_append, induction]
    rfl

theorem scan_encode (text : String) : scan (encode text) = text.toList.map some := by
  simpa [encode] using scan_encodeChars_append text.toList []

/-- Text printed as UTF-8 reads back as itself. -/
theorem decodeLossy_encode (text : String) : decodeLossy (encode text) = text := by
  simp only [decodeLossy, scan_encode, List.map_map, Function.comp_def, Option.getD_some,
    List.map_id', String.ofList_toList]

/-- Printed text is well-formed UTF-8 and reads back strictly as itself. -/
theorem decode?_encode (text : String) : decode? (encode text) = some text := by
  have whole : ∀ chars : List Char, chars.mapM some = some chars := by
    intro chars
    induction chars with
    | nil => rfl
    | cons c chars ih => simp [List.mapM_cons, ih]
  simp [decode?, scan_encode, whole]

theorem length_encodeChars (chars : List Char) :
    (encodeChars chars).length = (chars.map Char.utf8Size).sum := by
  induction chars with
  | nil => rfl
  | cons char chars induction =>
    rw [encodeChars_cons, List.length_append, String.length_utf8EncodeChar, induction,
      List.map_cons, List.sum_cons]

/-! ## Reading is local at ASCII bytes -/

/-- An ASCII byte ends every sequence before it: the bytes before it are read as if the input
ended there. -/
theorem scan_append_of_ascii (bytes : List UInt8) {byte : UInt8} (ascii : byte.toNat < 0x80)
    (rest : List UInt8) : scan (bytes ++ byte :: rest) = scan bytes ++ scan (byte :: rest) := by
  have continuation := not_isContinuation_of_ascii ascii
  have second : ∀ lead, secondByteFits lead byte = false := fun lead =>
    not_secondByteFits_of_ascii lead ascii
  fun_induction scan bytes with
  | case1 => rfl
  | case5 b0 width | case10 b0 width | case17 b0 width =>
    rw [scan.eq_def]
    simp only [List.cons_append, List.nil_append, width, continuation, second]
    rfl
  | case8 b0 width b1 fits | case15 b0 width b1 fits =>
    rw [scan.eq_def]
    simp only [List.cons_append, List.nil_append, width, fits, continuation, if_true]
    rfl
  | case13 b0 width b1 fits b2 third =>
    rw [scan.eq_def]
    simp only [List.cons_append, List.nil_append, width, fits, third, continuation, if_true]
    rfl
  | _ =>
    rw [scan.eq_def]
    simp_all

theorem decodeLossy_append_of_ascii (bytes : List UInt8) {byte : UInt8}
    (ascii : byte.toNat < 0x80) (rest : List UInt8) :
    decodeLossy (bytes ++ byte :: rest) = decodeLossy bytes ++ decodeLossy (byte :: rest) := by
  rw [decodeLossy, scan_append_of_ascii bytes ascii, List.map_append, String.ofList_append]
  rfl

theorem decodeLossy_append_lf (bytes : List UInt8) :
    decodeLossy (bytes ++ [10]) = decodeLossy bytes ++ "\n" := by
  have lineFeed : decodeLossy [10] = "\n" := by
    rw [decodeLossy, scan_of_ascii (by decide), scan_nil]
    rfl
  rw [decodeLossy_append_of_ascii bytes (by decide) [], lineFeed]

/-! ## Line feeds -/

theorem scalar2_ne_lineFeed {b0 : UInt8} (width : sequenceWidth b0 = 2) (b1 : UInt8) :
    scalar2 b0 b1 ≠ '\n' := by
  intro read
  have lead := lead_of_sequenceWidth_eq_two width
  have value := eq_toNat_of_charOfNat_eq read (by decide)
  simp only [Char.reduceToNat] at value
  omega

theorem scalar3_ne_lineFeed {b0 b1 : UInt8} (width : sequenceWidth b0 = 3)
    (fits : secondByteFits b0 b1 = true) (b2 : UInt8) : scalar3 b0 b1 b2 ≠ '\n' := by
  intro read
  have lead := lead_of_sequenceWidth_eq_three width
  have value := eq_toNat_of_charOfNat_eq read (by decide)
  simp only [Char.reduceToNat] at value
  rw [secondByteFits_iff] at fits
  split_ifs at fits <;> omega

theorem scalar4_ne_lineFeed {b0 b1 : UInt8} (width : sequenceWidth b0 = 4)
    (fits : secondByteFits b0 b1 = true) (b2 b3 : UInt8) : scalar4 b0 b1 b2 b3 ≠ '\n' := by
  intro read
  have lead := lead_of_sequenceWidth_eq_four width
  have value := eq_toNat_of_charOfNat_eq read (by decide)
  simp only [Char.reduceToNat] at value
  rw [secondByteFits_iff] at fits
  split_ifs at fits <;> omega

theorem lf_mem_of_lineFeed_mem_scan {bytes : List UInt8} (read : some '\n' ∈ scan bytes) :
    (10 : UInt8) ∈ bytes := by
  fun_induction scan bytes with
  | case1 => simp at read
  | case2 b0 rest width induction =>
    rcases List.mem_cons.mp read with same | later
    · have value := eq_toNat_of_charOfNat_eq (Option.some.inj same).symm (by decide)
      simp only [Char.reduceToNat] at value
      have byte : b0 = 10 := UInt8.toNat_inj.mp value
      exact byte ▸ List.mem_cons_self
    · exact List.mem_cons_of_mem _ (induction later)
  | case3 b0 width b1 rest1 continuation induction =>
    rcases List.mem_cons.mp read with same | later
    · exact absurd (Option.some.inj same).symm (scalar2_ne_lineFeed width b1)
    · simp [induction later]
  | case6 b0 width b1 fits b2 rest2 continuation induction =>
    rcases List.mem_cons.mp read with same | later
    · exact absurd (Option.some.inj same).symm (scalar3_ne_lineFeed width fits b2)
    · simp [induction later]
  | case11 b0 width b1 fits b2 second b3 rest3 continuation induction =>
    rcases List.mem_cons.mp read with same | later
    · exact absurd (Option.some.inj same).symm (scalar4_ne_lineFeed width fits b2 b3)
    · simp [induction later]
  | _ => simp_all

/-- The scan reads a line feed exactly when the bytes hold an LF. -/
theorem lineFeed_mem_scan_iff (bytes : List UInt8) :
    some '\n' ∈ scan bytes ↔ (10 : UInt8) ∈ bytes := by
  refine ⟨lf_mem_of_lineFeed_mem_scan, fun lf => ?_⟩
  obtain ⟨before, after, split⟩ := List.mem_iff_append.mp lf
  rw [split, scan_append_of_ascii before (by decide), scan_of_ascii (by decide)]
  simp

theorem lineFeed_mem_decodeLossy_iff (bytes : List UInt8) :
    '\n' ∈ (decodeLossy bytes).toList ↔ (10 : UInt8) ∈ bytes := by
  rw [← lineFeed_mem_scan_iff, decodeLossy, String.toList_ofList, List.mem_map]
  constructor
  · rintro ⟨piece, read, feed⟩
    cases piece with
    | none => exact absurd feed (by decide)
    | some char => exact feed ▸ read
  · intro read
    exact ⟨_, read, rfl⟩

theorem lf_mem_encodeChars_iff (chars : List Char) :
    (10 : UInt8) ∈ encodeChars chars ↔ '\n' ∈ chars := by
  rw [← lineFeed_mem_scan_iff, ← List.append_nil (encodeChars chars), scan_encodeChars_append,
    scan_nil, List.append_nil, List.mem_map]
  simp

end Gatehouse.Text.Utf8
