import AirLoop.Numeric.Binary64
import AirLoop.Numeric.Shortest

/-!
# Decimal text to a fixed number of places

The exact value of a floating-point number, to the nearest decimal number with so many places, a half
going to the even neighbour. The sign is kept in front of a zero.
-/

namespace AirLoop

/-- The decimal number with so many places that is nearest to `n / 2 ^ scale`. -/
def Decimal.nearest (places n scale : Nat) : Decimal :=
  ⟨shiftRightEven (n * 10 ^ places) scale, -(places : Int)⟩

/-- Sign and digits of `n / 2 ^ scale`, to so many places. -/
def Decimal.fixed (places : Nat) (negative : Bool) (n scale : Nat) : String :=
  (if negative then "-" else "") ++ (Decimal.nearest places n scale).positional ""

/-- Text of a binary32 number to so many places. -/
def Binary32.fixed (places : Nat) (x : Binary32) : String :=
  if x.isNaN then "NaN"
  else if x.isInfinite then if x.isNegative then "-inf" else "inf"
  else Decimal.fixed places x.isNegative x.units 149

/-- Text of a finite binary64 number to so many places. -/
def Binary64.fixed (places : Nat) (bits : UInt64) : String :=
  let magnitude := bits.toNat % 2 ^ 63
  let exponent := magnitude / 2 ^ 52
  let fraction := magnitude % 2 ^ 52
  let units := if exponent = 0 then fraction else (2 ^ 52 + fraction) * 2 ^ (exponent - 1)
  Decimal.fixed places (2 ^ 63 ≤ bits.toNat) units 1074

-- a quarter goes down to the even digit, three quarters go up to it
example : Binary32.fixed 1 ⟨0x3e800000⟩ = "0.2" := by decide +kernel

example : Binary64.fixed 1 0xbfe8000000000000 = "-0.8" := by decide +kernel

end AirLoop
