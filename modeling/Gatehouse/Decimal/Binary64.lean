/-!
# Binary64 values

A double is read off its bits: a sign, and either a finite magnitude `m · 2^q` with `m < 2^53`,
an infinity, or a NaN.  The other way, `nearestBits num den` is the double nearest to the
positive rational `num / den`, a tie going to the even mantissa and a value at or beyond
`2^1024` (after rounding) to infinity.  All arithmetic here is exact, on `Nat` and `Int`.
-/

namespace Gatehouse.Decimal

/-- The size of a double, apart from its sign. -/
inductive Magnitude where
  /-- The value `mantissa · 2^exponent`. -/
  | finite (mantissa : Nat) (exponent : Int)
  | infinite
  | nan
  deriving DecidableEq, Repr

/-- A double as a sign and a magnitude. -/
structure Binary64 where
  negative : Bool
  magnitude : Magnitude
  deriving DecidableEq, Repr

/-- The bit pattern of positive infinity. -/
def infinityBits : Nat := 2047 * Nat.pow 2 52

namespace Binary64

/-- The parts of a bit pattern: the top bit is the sign, the next eleven the biased exponent,
the last fifty-two the fraction.  A zero exponent marks zero and the subnormals. -/
def ofBits (bits : UInt64) : Binary64 :=
  let b := bits.toNat
  let biased : Nat := b / Nat.pow 2 52 % 2048
  let fraction : Nat := b % Nat.pow 2 52
  let magnitude :=
    if biased = 2047 then (if fraction = 0 then Magnitude.infinite else Magnitude.nan)
    else if biased = 0 then Magnitude.finite fraction (-1074)
    else Magnitude.finite (fraction + Nat.pow 2 52) ((biased : Int) - 1075)
  ⟨b ≥ Nat.pow 2 63, magnitude⟩

/-- The parts of a double. -/
def ofFloat (f : Float) : Binary64 :=
  ofBits f.toBits

end Binary64

/-- The nearest whole number to `a / d`, a half going to the even neighbour. -/
def roundHalfEven (a d : Nat) : Nat :=
  let q := a / d
  let r := a % d
  if 2 * r > d ∨ (2 * r = d ∧ q % 2 = 1) then q + 1 else q

/-- The fraction `a / (d · 2^e)` as a numerator and a denominator. -/
def scaleByTwoPower (a d : Nat) (e : Int) : Nat × Nat :=
  if 0 ≤ e then (a, d * Nat.pow 2 e.toNat) else (a * Nat.pow 2 (-e).toNat, d)

/-- The bits of the double nearest to `num / den`, for positive `num` and `den`.  The exponent
`e` is chosen so that `num / (den · 2^e)` lies in `[2^52, 2^53)`, or is the least exponent
`-1074` for values below the normal range; the mantissa is that quotient rounded. -/
def nearestBits (num den : Nat) : Nat :=
  if num = 0 ∨ den = 0 then 0
  else
    let estimate : Int := (Nat.log2 num : Int) - Nat.log2 den - 53
    let (a0, d0) := scaleByTwoPower num den estimate
    let e1 := if a0 ≥ Nat.pow 2 53 * d0 then estimate + 1 else estimate
    let e := max e1 (-1074)
    let (a, d) := scaleByTwoPower num den e
    let m0 := roundHalfEven a d
    let (m, exponent) := if m0 = Nat.pow 2 53 then (Nat.pow 2 52, e + 1) else (m0, e)
    if exponent > 971 then infinityBits
    else if m < Nat.pow 2 52 then m
    else (exponent + 1075).toNat * Nat.pow 2 52 + (m - Nat.pow 2 52)

/-- The double nearest to `num / den`, negated when asked. -/
def nearest (negative : Bool) (num den : Nat) : Float :=
  let bits := nearestBits num den
  Float.ofBits (UInt64.ofNat (if negative then bits + Nat.pow 2 63 else bits))

/-- The double nearest to `digits · 10^exponent`. -/
def ofDecimal (negative : Bool) (digits : Nat) (exponent : Int) : Float :=
  if 0 ≤ exponent then nearest negative (digits * Nat.pow 10 exponent.toNat) 1
  else nearest negative digits (Nat.pow 10 (-exponent).toNat)

end Gatehouse.Decimal
