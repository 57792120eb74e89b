import AirLoop.Numeric.Binary32

/-!
# Shortest decimal text of a binary32 number

The decimal number with the fewest digits that still reads back as the given number: every real in
the rounding interval of the number reads back as it, so the digits are those of the coarsest
decimal grid with a point in that interval, and of two such points the nearer one.
-/

namespace AirLoop

/-- The number `digits * 10 ^ exponent`. -/
structure Decimal where
  digits : Nat
  exponent : Int
  deriving DecidableEq

namespace Decimal

/-- The same number without zeros at the end of its digits; `fuel` bounds their count. -/
def trim : Nat → Decimal → Decimal
  | 0, d => d
  | fuel + 1, d =>
    if d.digits ≠ 0 ∧ d.digits % 10 = 0 then trim fuel ⟨d.digits / 10, d.exponent + 1⟩ else d

end Decimal

/-- The reals that read back as one number: its value and the bounds on both sides, all counted in
quarters of `2 ^ -149`. The bounds themselves belong to it when `closed`. -/
structure RoundingInterval where
  low : Nat
  value : Nat
  high : Nat
  closed : Bool

namespace RoundingInterval

/-- The interval of a positive finite number. The step below is half as wide where the number is a
power of two above the smallest normal one; a bound reads back only to an even fraction. -/
def of (x : Binary32) : RoundingInterval :=
  let exponent := x.magnitudeBits / 2 ^ 23
  let fraction := x.magnitudeBits % 2 ^ 23
  let step := 2 ^ (exponent - 1)
  let below := if fraction = 0 ∧ 1 < exponent then step else 2 * step
  ⟨4 * x.units - below, 4 * x.units, 4 * x.units + 2 * step, fraction % 2 = 0⟩

/-- Whether `a / b` lies in the interval, for `b > 0`. -/
def contains (i : RoundingInterval) (a b : Nat) : Bool :=
  if i.closed then decide (i.low * b ≤ a ∧ a ≤ i.high * b)
  else decide (i.low * b < a ∧ a < i.high * b)

/-- The point of the grid of multiples of `10 ^ e` that lies in the interval and is nearest to its
value; of two at the same distance the even one. -/
def gridPoint? (i : RoundingInterval) (e : Int) : Option Decimal :=
  -- one step of the grid is `a / b` quarters of `2 ^ -149`
  let a := 2 ^ 151 * 10 ^ e.toNat
  let b := 10 ^ (-e).toNat
  let k := i.value * b / a
  let rest := i.value * b - k * a
  let lower := i.contains (k * a) b
  let upper := i.contains ((k + 1) * a) b
  let preferUpper := decide (a < 2 * rest) || (decide (a = 2 * rest) && decide (k % 2 = 1))
  if lower && upper then some ⟨if preferUpper then k + 1 else k, e⟩
  else if lower then some ⟨k, e⟩
  else if upper then some ⟨k + 1, e⟩
  else none

end RoundingInterval

/-- Decimal exponents of the grids that are tried, the coarsest first: from just above the largest
binary32 number down to the ninth digit of the smallest. -/
def gridExponents : List Int :=
  (List.range 94).map fun i : Nat => (39 : Int) - i

/-- The shortest decimal that reads back as the positive finite number `x`. -/
def Binary32.shortest (x : Binary32) : Decimal :=
  let interval := RoundingInterval.of x
  ((gridExponents.findSome? interval.gridPoint?).getD ⟨0, 0⟩).trim 9

/-! ## Text -/

/-- How a decimal number is laid out as text. -/
structure DecimalLayout where
  /-- least exponent of the leading digit that is written positionally -/
  lowest : Int
  /-- greatest exponent of the leading digit that is written positionally -/
  highest : Int
  /-- written after a whole number in positional notation -/
  wholeMark : String
  /-- sign of a non-negative exponent -/
  plus : String

/-- The digits of `n` in base ten. -/
def decimalDigits (n : Nat) : List Char := Nat.toDigits 10 n

namespace Decimal

/-- Exponent of the leading digit. -/
def leading (d : Decimal) : Int := d.exponent + (decimalDigits d.digits).length - 1

/-- Positional notation, a zero before the point if nothing else stands there. -/
def positional (wholeMark : String) (d : Decimal) : String :=
  let ds := decimalDigits d.digits
  if 0 ≤ d.exponent then
    String.ofList (ds ++ List.replicate d.exponent.toNat '0') ++ wholeMark
  else
    let places := (-d.exponent).toNat
    let padded := List.replicate (places + 1 - ds.length) '0' ++ ds
    String.ofList (padded.take (padded.length - places)) ++ "." ++
      String.ofList (padded.drop (padded.length - places))

/-- Scientific notation: one digit, the point and the others if there are any, the exponent. -/
def scientific (plus : String) (d : Decimal) : String :=
  let ds := decimalDigits d.digits
  let point := if ds.length ≤ 1 then "" else "."
  let sign := if d.leading < 0 then "-" else plus
  String.ofList (ds.take 1) ++ point ++ String.ofList (ds.drop 1) ++ "e" ++ sign ++
    toString d.leading.natAbs

/-- The text of a number in the given layout. -/
def render (layout : DecimalLayout) (d : Decimal) : String :=
  if layout.lowest ≤ d.leading ∧ d.leading ≤ layout.highest then d.positional layout.wholeMark
  else d.scientific layout.plus

end Decimal

/-- The text of a finite number: sign, then the shortest decimal of the magnitude. -/
def Binary32.render (layout : DecimalLayout) (x : Binary32) : String :=
  let sign := if x.isNegative then "-" else ""
  let magnitude := x.abs
  sign ++ (if magnitude = .zero then Decimal.positional layout.wholeMark ⟨0, 0⟩
    else magnitude.shortest.render layout)

end AirLoop
