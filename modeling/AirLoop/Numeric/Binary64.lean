import AirLoop.Numeric.Rounding

/-!
# Quotients in double precision

The binary64 pattern of a whole number divided by a positive one, each operand first rounded to
double precision, as a floating-point division does.
-/

namespace AirLoop.Binary64

/-- The pattern of the positive number `m * 2 ^ e` to the nearest double, a half to even; `e` and
the size of the number are such that it is neither subnormal nor too large. -/
def ofScaled (m : Nat) (e : Int) : Nat :=
  let s := bitLength m - 53
  let significand := shiftRightEven m s
  -- a significand short of 53 digits is brought up to them
  let lift := 53 - bitLength significand
  let exponent := e + s - lift + 52 + 1023
  exponent.toNat * 2 ^ 52 + (significand * 2 ^ lift - 2 ^ 52)

/-- The pattern of `n / d`, for `d` at most `2 ^ 53`. The quotient is taken to 64 places, and a
remainder leaves a mark below them, so that one rounding decides. -/
def quotient (n : Int) (d : Nat) : UInt64 :=
  let magnitude := roundDigits 53 n.natAbs
  if magnitude = 0 then 0
  else
    let scaled := magnitude * 2 ^ 64
    let mark := if scaled % d = 0 then 0 else 1
    let pattern := ofScaled (2 * (scaled / d) + mark) (-65)
    UInt64.ofNat (if n < 0 then 2 ^ 63 + pattern else pattern)

end AirLoop.Binary64
