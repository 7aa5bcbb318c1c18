import Gatehouse.Decimal.Binary64

/-!
# Shortest decimal digits of a double

A finite positive double `m · 2^q` stands for every real that rounds to it: the interval from
halfway to the double below to halfway to the double above, its ends included exactly when `m`
is even.  Its shortest decimal is the decimal `c · 10^k` with the fewest significant digits in
that interval, and of two such the one nearer the double.  A tie between two equally near goes
to the even `c` or to the greater one, as the layout says.

For `n` digits the grid is `10^k` with `k = E - n + 1`, where `10^E` is the largest power of
ten not above the double.  If a point of the grid lies in the interval, so does one of the
double's two neighbours on the grid, so `n = 1, 2, …, 17` is tried by testing these two; the
seventeenth grid always has one.

Two layouts write the digits: the scientific one, which writes the exponent once the number
leaves sixteen places, and the positional one, which never does.
-/

namespace Gatehouse.Decimal

/-- A decimal `digits · 10^exponent`. -/
structure DecimalDigits where
  digits : Nat
  exponent : Int
  deriving DecidableEq, Repr

/-- The number of decimal digits of a positive number (1 for 0). -/
def digitCount (n : Nat) : Nat :=
  (Nat.toDigits 10 n).length

/-- The exponent of the largest power of ten not above the positive fraction `a / d`. -/
def floorLog10 (a d : Nat) : Int :=
  if a ≥ d then (digitCount (a / d) : Int) - 1
  else -((digitCount ((d + a - 1) / a - 1)) : Int)

/-- The fraction `c · 10^k` as a numerator and a denominator. -/
def gridPoint (c : Nat) (k : Int) : Nat × Nat :=
  if 0 ≤ k then (c * Nat.pow 10 k.toNat, 1) else (c, Nat.pow 10 (-k).toNat)

/-- The interval of reals that round to a double, scaled: the double is `4m · u / 2^s`, the ends
are `(4m - 2) · u` (or `(4m - 1) · u` when the double below is nearer) and `(4m + 2) · u`, all
over the same denominator `2^s`. -/
structure Rounding where
  value : Nat
  low : Nat
  high : Nat
  scale : Nat
  inclusive : Bool

/-- The interval of the positive double `m · 2^q`; `closerBelow` when the double below it is
half as far as the one above (a power of two above the least normal exponent). -/
def Rounding.ofParts (m : Nat) (q : Int) (closerBelow : Bool) : Rounding :=
  let s : Nat := (-q).toNat + 2
  let u : Nat := Nat.pow 2 (q + s - 2).toNat
  { value := 4 * m * u
    low := (if closerBelow then 4 * m - 1 else 4 * m - 2) * u
    high := (4 * m + 2) * u
    scale := Nat.pow 2 s
    inclusive := m % 2 == 0 }

/-- Whether the fraction `n / d` rounds to the double. -/
def Rounding.contains (r : Rounding) (n d : Nat) : Bool :=
  if r.inclusive then r.low * d ≤ n * r.scale && n * r.scale ≤ r.high * d
  else r.low * d < n * r.scale && n * r.scale < r.high * d

/-- How far `n / d` is from the double, times `d · scale`. -/
def Rounding.distance (r : Rounding) (n d : Nat) : Nat :=
  let x := n * r.scale
  let y := r.value * d
  if x ≥ y then x - y else y - x

/-- Drops the trailing zeros of the digits into the exponent. -/
def DecimalDigits.normalize (x : DecimalDigits) (fuel : Nat := 400) : DecimalDigits :=
  match fuel with
  | 0 => x
  | fuel + 1 =>
    if x.digits ≠ 0 ∧ x.digits % 10 = 0 then
      DecimalDigits.normalize ⟨x.digits / 10, x.exponent + 1⟩ fuel
    else x

/-- How a tie between two equally near decimals is broken. -/
inductive TieBreak where
  /-- The one with the even last digit. -/
  | even
  /-- The greater one. -/
  | up
  deriving DecidableEq, Repr

/-- The better of the double's two neighbours on the grid `10^k`, if either rounds to it. -/
def Rounding.onGrid (r : Rounding) (tie : TieBreak) (k : Int) : Option DecimalDigits :=
  let (n, d) := gridPoint 1 k
  let below := r.value * d / (r.scale * n)
  let candidates := [below, below + 1].filter fun c =>
    let (cn, cd) := gridPoint c k
    r.contains cn cd
  match candidates with
  | [c] => some ⟨c, k⟩
  | [c1, c2] =>
    let (n1, d1) := gridPoint c1 k
    let (n2, d2) := gridPoint c2 k
    let e1 := r.distance n1 d1
    let e2 := r.distance n2 d2
    if e1 < e2 then some ⟨c1, k⟩
    else if e2 < e1 then some ⟨c2, k⟩
    else if tie = .even ∧ c1 % 2 = 0 then some ⟨c1, k⟩ else some ⟨c2, k⟩
  | _ => none

/-- The shortest decimal in the interval, trying 1 to 17 digits. -/
def Rounding.shortest (r : Rounding) (tie : TieBreak) : DecimalDigits :=
  let top := floorLog10 r.value r.scale
  let found := (List.range 17).findSome? fun (i : Nat) => r.onGrid tie (top - (i : Int))
  (found.getD ⟨0, 0⟩).normalize

/-- The shortest decimal of a finite double's magnitude; zero for zero. -/
def shortestOf (tie : TieBreak) (m : Nat) (q : Int) : DecimalDigits :=
  if m = 0 then ⟨0, 0⟩
  else (Rounding.ofParts m q (m = Nat.pow 2 52 ∧ q > -1074)).shortest tie

/-- How a layout writes numbers: the last power of ten still written in full on the left, the
first one still written in full on the right, the texts of the non-finite values, and the
choice between two shortest decimals. -/
structure Layout where
  /-- Positional notation is kept while the decimal point is at most this many places right
  of the first digit. -/
  maxIntegerPlaces : Option Nat
  /-- Positional notation is kept while fewer than this many zeros follow the point. -/
  maxLeadingZeros : Option Nat
  /-- Whether a whole number gets `.0`. -/
  wholeMark : Bool
  infinity : String
  nan : String
  /-- How a tie between two shortest decimals equally near the double is broken. -/
  ties : TieBreak

/-- The scientific layout: positional up to sixteen integer places and four zeros after the
point, `1e+30` and `1.5e-7` beyond; a whole number ends in `.0`; ties go to the even digit. -/
def scientific : Layout := ⟨some 16, some 5, true, "inf", "NaN", .even⟩

/-- The positional layout: never an exponent, no mark on whole numbers; ties go up. -/
def positional : Layout := ⟨none, none, false, "inf", "NaN", .up⟩

/-- `n` zeros. -/
def zeros (n : Nat) : String :=
  String.ofList (List.replicate n '0')

/-- An exponent as written after the digits: `e`, its sign, then its digits. -/
def exponentText (e : Int) : String :=
  "e" ++ (if 0 ≤ e then "+" else "-") ++ toString e.natAbs

/-- The text of the decimal `x` (digits without trailing zeros, or zero) in a layout. -/
def Layout.decimalText (l : Layout) (x : DecimalDigits) : String :=
  if x.digits = 0 then (if l.wholeMark then "0.0" else "0")
  else
    let s := toString x.digits
    let n := s.length
    let k := x.exponent
    let kk : Int := n + k
    let withinLeft : Bool := match l.maxIntegerPlaces with
      | some p => decide (kk ≤ p)
      | none => true
    let withinRight : Bool := match l.maxLeadingZeros with
      | some z => decide (-(z : Int) < kk)
      | none => true
    let chars := s.toList
    if 0 ≤ k ∧ withinLeft = true then
      s ++ zeros k.toNat ++ (if l.wholeMark then ".0" else "")
    else if 0 < kk ∧ withinLeft = true then
      String.ofList (chars.take kk.toNat) ++ "." ++ String.ofList (chars.drop kk.toNat)
    else if kk ≤ 0 ∧ withinRight = true then
      "0." ++ zeros (-kk).toNat ++ s
    else if n = 1 then
      s ++ exponentText (kk - 1)
    else
      String.ofList (chars.take 1) ++ "." ++ String.ofList (chars.drop 1) ++ exponentText (kk - 1)

/-- The text of a double in a layout: a minus sign on negative values (zero included) and the
shortest digits. -/
def Layout.text (l : Layout) (f : Float) : String :=
  let b := Binary64.ofFloat f
  match b.magnitude with
  | .nan => l.nan
  | .infinite => (if b.negative then "-" else "") ++ l.infinity
  | .finite m q => (if b.negative then "-" else "") ++ l.decimalText (shortestOf l.ties m q)

end Gatehouse.Decimal
