import Mathlib
import Gatehouse.Gateway.Modules
import Gatehouse.Proofs.SeparatorSplitting

/-!
# The adder's sum

The adder takes the first two fields of the query that begin with `value=`, reads the rest of
each, trimmed, as a 64-bit numeral (0 when it is none), and adds them from 0, faulting when an
addition leaves 64 bits.

Three facts make the sum exact.  The query's fields are its characters cut at `&`
(`splitOn_singleton`, for any one-character separator).  A 64-bit numeral reads as a value of
the 64-bit range (`Numeral.fitsI64_of_readI64`), so each operand is one.  With at most two
operands, each in range, only the last addition can leave the range, so the checked chain is a
single check on the exact sum (`addValues_eq`).

Main statement: `adder_sums_within_range`: the adder answers with the exact sum, in decimal
after its headers, exactly when that sum fits 64 bits, and faults otherwise
(`addValues_below_range`).
-/

namespace Gatehouse.Gateway

open Gatehouse.Text

theorem adderOperands_eq (query : String) :
    adderOperands query =
      (((query.toList.splitOn '&').map String.ofList).filterMap fun field =>
        if field.startsWith "value=" then some (String.ofList (field.toList.drop 6)) else none).take 2 := by
  rw [adderOperands, show "&" = String.singleton '&' from rfl, splitOn_singleton]

theorem length_adderOperands_le (query : String) : (adderOperands query).length ≤ 2 :=
  List.length_take_le _ _

theorem fitsI64_operandValue (text : String) : Numeral.fitsI64 (operandValue text) = true := by
  unfold operandValue
  split
  · next n read => exact Numeral.fitsI64_of_readI64 read
  · rfl

/-- Adding at most two operands, each within 64 bits, from 0: only the last addition can leave
the range, so the adder's sum is the exact sum when that fits and a fault when it does not. -/
theorem addValues_eq (query : String) :
    addValues query =
      if Numeral.fitsI64 ((adderOperands query).map operandValue).sum then
        some ((adderOperands query).map operandValue).sum
      else none := by
  unfold addValues
  rcases operands : adderOperands query with _ | ⟨first, _ | ⟨second, _ | ⟨third, rest⟩⟩⟩
  · rfl
  · simp [fitsI64_operandValue]
  · simp [fitsI64_operandValue]
  · have short := length_adderOperands_le query
    simp [operands] at short

theorem adderReply_eq (query : String) :
    adderReply query = (addValues query).map fun sum =>
      Utf8.encode ("Content-Type: text/html\r\nContent-Length: "
        ++ toString (Utf8.encode (Numeral.intText sum ++ "\r\n")).length ++ "\r\n\r\n"
        ++ Numeral.intText sum ++ "\r\n") := by
  have head : "Content-Type: " ++ "text/html" ++ "\r\nContent-Length: " =
      "Content-Type: text/html\r\nContent-Length: " := by
    decide
  simp only [adderReply, replyWithBody, head]
  simp only [String.append_assoc]

/-- The adder adds the values of at most two operands, each within 64 bits.  When their sum fits
64 bits it is the adder's sum, exact, and the reply is the headers and that sum in decimal, with
`Content-Length` counting the bytes after the empty line; when it does not, the adder faults. -/
theorem adder_sums_within_range (query : String) :
    let sum := ((adderOperands query).map operandValue).sum
    (adderOperands query).length ≤ 2 ∧
      (∀ text ∈ adderOperands query, Numeral.fitsI64 (operandValue text) = true) ∧
      (Numeral.fitsI64 sum = true →
        addValues query = some sum ∧
          adderReply query = some (Utf8.encode ("Content-Type: text/html\r\nContent-Length: "
            ++ toString (Utf8.encode (Numeral.intText sum ++ "\r\n")).length ++ "\r\n\r\n"
            ++ Numeral.intText sum ++ "\r\n"))) ∧
      (Numeral.fitsI64 sum = false → addValues query = none ∧ adderReply query = none) := by
  intro sum
  refine ⟨length_adderOperands_le query, fun text _ => fitsI64_operandValue text,
    fun fits => ?_, fun overflows => ?_⟩
  · have exact : addValues query = some sum := by
      rw [addValues_eq, if_pos fits]
    exact ⟨exact, by rw [adderReply_eq, exact, Option.map_some]⟩
  · have fault : addValues query = none := by
      rw [addValues_eq]
      simp only [sum] at overflows
      simp [overflows]
    exact ⟨fault, by rw [adderReply_eq, fault, Option.map_none]⟩

/-- Adding `-4` and `10`. -/
theorem adder_sums_negative_and_positive :
    ((adderOperands "value=-4&value=10").map operandValue).sum = 6 ∧
      addValues "value=-4&value=10" = some 6 ∧
      adderReply "value=-4&value=10" =
        some (Utf8.encode "Content-Type: text/html\r\nContent-Length: 3\r\n\r\n6\r\n") := by
  have sum : ((adderOperands "value=-4&value=10").map operandValue).sum = 6 := by
    rw [adderOperands_eq]
    decide +kernel
  have fits : Numeral.fitsI64 ((adderOperands "value=-4&value=10").map operandValue).sum = true := by
    rw [sum]
    decide
  obtain ⟨exact, reply⟩ := (adder_sums_within_range "value=-4&value=10").2.2.1 fits
  rw [sum] at exact reply
  exact ⟨sum, exact, by rw [reply]; decide +kernel⟩

/-- Adding `-2^63` and `-1` leaves 64 bits: the adder faults where the sum is
`-9223372036854775809`. -/
theorem addValues_below_range :
    ((adderOperands "value=-9223372036854775808&value=-1").map operandValue).sum =
        -9223372036854775809 ∧
      addValues "value=-9223372036854775808&value=-1" = none := by
  have sum : ((adderOperands "value=-9223372036854775808&value=-1").map operandValue).sum =
      -9223372036854775809 := by
    rw [adderOperands_eq]
    decide +kernel
  refine ⟨sum, ?_⟩
  rw [addValues_eq, sum]
  decide

end Gatehouse.Gateway
