/-!
# Decimal numerals

Reading a decimal integer out of text, by the rule the server applies to ports, status codes
and the adder's operands: an optional sign (`+`, or `-` where the type is signed), then one or
more ASCII digits and nothing else.  Digits are read from the left; the first character that
is not a digit is an error, and so is the first digit that carries the value past the bound of
the type, whichever comes first.
-/

namespace Gatehouse.Text.Numeral

/-- Why a text is not a numeral of the wanted type. -/
inductive NumeralError where
  /-- The text is empty. -/
  | empty
  /-- A character is not a digit, or the sign stands alone. -/
  | invalidDigit
  /-- The value is above the largest value of the type. -/
  | tooLarge
  /-- The value is below the smallest value of the type. -/
  | tooSmall
  deriving DecidableEq, Repr

/-- The wording of each error. -/
def NumeralError.message : NumeralError → String
  | .empty => "cannot parse integer from empty string"
  | .invalidDigit => "invalid digit found in string"
  | .tooLarge => "number too large to fit in target type"
  | .tooSmall => "number too small to fit in target type"

/-- The value of an ASCII digit. -/
def digitValue (c : Char) : Nat :=
  c.toNat - '0'.toNat

/-- Reads digits onto `acc`; a value past `bound` is the error `overflow`. -/
def readDigits (bound : Nat) (overflow : NumeralError) : Nat → List Char → Except NumeralError Nat
  | acc, [] => .ok acc
  | acc, c :: cs =>
    if c.isDigit then
      let next := acc * 10 + digitValue c
      if next ≤ bound then readDigits bound overflow next cs else .error overflow
    else .error .invalidDigit

/-- Reads an unsigned numeral whose value is at most `max`; a leading `+` is allowed. -/
def readNat (max : Nat) (s : String) : Except NumeralError Nat :=
  match s.toList with
  | [] => .error .empty
  | ['+'] => .error .invalidDigit
  | ['-'] => .error .invalidDigit
  | '+' :: ds => readDigits max .tooLarge 0 ds
  | ds => readDigits max .tooLarge 0 ds

/-- Reads a signed numeral whose value lies in `[-lowMagnitude, max]`. -/
def readInt (lowMagnitude max : Nat) (s : String) : Except NumeralError Int :=
  match s.toList with
  | [] => .error .empty
  | ['+'] => .error .invalidDigit
  | ['-'] => .error .invalidDigit
  | '+' :: ds => (readDigits max .tooLarge 0 ds).map Int.ofNat
  | '-' :: ds => (readDigits lowMagnitude .tooSmall 0 ds).map fun n => -Int.ofNat n
  | ds => (readDigits max .tooLarge 0 ds).map Int.ofNat

/-- The largest value of a 16-bit unsigned word. -/
def maxU16 : Nat := 65535

/-- The largest value of a 64-bit signed word. -/
def maxI64 : Nat := 9223372036854775807

/-- Reads a 16-bit unsigned numeral. -/
def readU16 (s : String) : Except NumeralError Nat :=
  readNat maxU16 s

/-- Reads a 64-bit signed numeral. -/
def readI64 (s : String) : Except NumeralError Int :=
  readInt (maxI64 + 1) maxI64 s

/-- Whether an integer lies in the range of a 64-bit signed word. -/
def fitsI64 (n : Int) : Bool :=
  -(Int.ofNat (maxI64 + 1)) ≤ n && n ≤ Int.ofNat maxI64

/-- The decimal text of an integer, with a minus sign when negative. -/
def intText (n : Int) : String :=
  match n with
  | .ofNat k => toString k
  | .negSucc k => "-" ++ toString (k + 1)

/-- The decimal text of a natural number. -/
def natText (n : Nat) : String :=
  toString n

/-! ## Reading digits -/

theorem le_ofDigitChars (digits : List Char) (acc : Nat) :
    acc ≤ Nat.ofDigitChars 10 digits acc := by
  rw [Nat.ofDigitChars_eq_ofDigitChars_zero]
  have positive : 1 ≤ 10 ^ digits.length := Nat.one_le_pow _ _ (by decide)
  exact Nat.le_add_right_of_le (Nat.le_mul_of_pos_left acc positive)

theorem readDigits_of_isDigit {bound : Nat} {overflow : NumeralError} {digits : List Char}
    (isDigit : ∀ char ∈ digits, char.isDigit = true) {acc : Nat}
    (fits : Nat.ofDigitChars 10 digits acc ≤ bound) :
    readDigits bound overflow acc digits = .ok (Nat.ofDigitChars 10 digits acc) := by
  induction digits generalizing acc with
  | nil => rfl
  | cons char digits induction =>
    rw [Nat.ofDigitChars_cons] at fits ⊢
    have next : acc * 10 + digitValue char = 10 * acc + (char.toNat - '0'.toNat) := by
      rw [digitValue, Nat.mul_comm]
    have below := le_ofDigitChars digits (10 * acc + (char.toNat - '0'.toNat))
    simp only [readDigits, isDigit char List.mem_cons_self, if_true, next]
    rw [if_pos (by omega)]
    exact induction (fun other member => isDigit other (List.mem_cons_of_mem char member)) fits

theorem le_of_readDigits {bound : Nat} {overflow : NumeralError} {digits : List Char}
    {acc value : Nat} (start : acc ≤ bound)
    (read : readDigits bound overflow acc digits = .ok value) : value ≤ bound := by
  induction digits generalizing acc with
  | nil =>
    cases read
    exact start
  | cons char digits induction =>
    simp only [readDigits] at read
    split at read
    · split at read
      · next isDigit fits => exact induction fits read
      · cases read
    · cases read

theorem le_of_readU16 {text : String} {value : Nat} (read : readU16 text = .ok value) :
    value ≤ maxU16 := by
  unfold readU16 readNat at read
  split at read
  all_goals first
    | cases read
    | exact le_of_readDigits (Nat.zero_le _) read

theorem isDigit_of_mem_toString (value : Nat) :
    ∀ char ∈ (toString value).toList, char.isDigit = true := by
  rw [Nat.toString_eq_repr, Nat.toList_repr]
  exact fun char member => Nat.isDigit_of_mem_toDigits (by decide) (by decide) member

/-- The decimal text of a 16-bit value reads back as the value. -/
theorem readU16_toString {value : Nat} (fits : value ≤ maxU16) :
    readU16 (toString value) = .ok value := by
  have isDigit : ∀ char ∈ Nat.toDigits 10 value, char.isDigit = true :=
    fun char member => Nat.isDigit_of_mem_toDigits (by decide) (by decide) member
  obtain ⟨first, rest, digits⟩ := List.exists_cons_of_ne_nil (@Nat.toDigits_ne_nil value 10)
  have firstDigit := isDigit first (digits ▸ List.mem_cons_self)
  have read := @readDigits_of_isDigit maxU16 .tooLarge _ isDigit 0
    (by rw [Nat.ofDigitChars_ten_toDigits]; exact fits)
  rw [Nat.ofDigitChars_ten_toDigits, digits] at read
  unfold readU16 readNat
  rw [Nat.toString_eq_repr, Nat.toList_repr, digits]
  split
  · next empty => cases empty
  · next single => cases single; cases firstDigit
  · next single => cases single; cases firstDigit
  · next plus => cases plus; cases firstDigit
  · exact read

/-! ## Signed numerals -/

theorem exists_of_readDigits_map {bound : Nat} {overflow : NumeralError} {ds : List Char}
    {f : Nat → Int} {n : Int} (read : (readDigits bound overflow 0 ds).map f = .ok n) :
    ∃ m ≤ bound, f m = n := by
  cases digits : readDigits bound overflow 0 ds with
  | error e =>
    rw [digits] at read
    cases read
  | ok m =>
    rw [digits] at read
    simp only [Except.map, Except.ok.injEq] at read
    exact ⟨m, le_of_readDigits (Nat.zero_le bound) digits, read⟩

/-- A signed numeral reads as a value between `-lowMagnitude` and `max`. -/
theorem bounds_of_readInt {lowMagnitude max : Nat} {s : String} {n : Int}
    (read : readInt lowMagnitude max s = .ok n) : -(lowMagnitude : Int) ≤ n ∧ n ≤ max := by
  unfold readInt at read
  split at read
  · cases read
  · cases read
  · cases read
  · obtain ⟨m, le, rfl⟩ := exists_of_readDigits_map read
    simp only [Int.ofNat_eq_natCast]
    omega
  · obtain ⟨m, le, rfl⟩ := exists_of_readDigits_map read
    simp only [Int.ofNat_eq_natCast]
    omega
  · obtain ⟨m, le, rfl⟩ := exists_of_readDigits_map read
    simp only [Int.ofNat_eq_natCast]
    omega

theorem fitsI64_iff (n : Int) : fitsI64 n = true ↔ -((maxI64 : Int) + 1) ≤ n ∧ n ≤ maxI64 := by
  simp [fitsI64]

theorem fitsI64_of_readI64 {s : String} {n : Int} (read : readI64 s = .ok n) :
    fitsI64 n = true := by
  have := bounds_of_readInt read
  rw [fitsI64_iff]
  push_cast at this
  omega

end Gatehouse.Text.Numeral
