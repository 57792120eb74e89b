import AirLoop.Numeric.Rounding

/-!
# Single-precision floating-point numbers

A number of the IEEE 754 binary32 format, kept as its bit pattern. Finite magnitudes are counted in
units of the smallest positive number, `2 ^ -149`, so that every operation is exact arithmetic in
`Nat` followed by one rounding.
-/

namespace AirLoop

/-- A binary32 number: sign, eight exponent bits, twenty-three fraction bits. -/
structure Binary32 where
  bits : UInt32
  deriving DecidableEq, Inhabited

namespace Binary32

/-- Positive zero. -/
def zero : Binary32 := ⟨0⟩

/-- The number one. -/
def one : Binary32 := ⟨0x3f800000⟩

/-- The pattern of positive infinity, as a number. -/
def infinityBits : Nat := 0x7f800000

/-- The pattern without its sign bit, as a number. -/
def magnitudeBits (x : Binary32) : Nat := x.bits.toNat % 2 ^ 31

/-- The sign bit is set, also for a negative zero. -/
def isNegative (x : Binary32) : Bool := 2 ^ 31 ≤ x.bits.toNat

/-- Not a number: all exponent bits set and a fraction. -/
def isNaN (x : Binary32) : Bool := infinityBits < x.magnitudeBits

/-- Either infinity. -/
def isInfinite (x : Binary32) : Bool := x.magnitudeBits = infinityBits

/-- The number without its sign. -/
def abs (x : Binary32) : Binary32 := ⟨UInt32.ofNat x.magnitudeBits⟩

/-- Position on the number line: the magnitude's pattern, negated under a sign. Both zeros share
one position, and a greater magnitude has a greater pattern. -/
def rank (x : Binary32) : Int :=
  if x.isNegative then -(x.magnitudeBits : Int) else x.magnitudeBits

/-- `x < y`, false when either is not a number. -/
def lt (x y : Binary32) : Bool := !x.isNaN && !y.isNaN && decide (x.rank < y.rank)

/-- `x ≤ y`, false when either is not a number. -/
def le (x y : Binary32) : Bool := !x.isNaN && !y.isNaN && decide (x.rank ≤ y.rank)

/-- Numerical equality: the zeros are equal, and nothing equals what is not a number. -/
def equals (x y : Binary32) : Bool := !x.isNaN && !y.isNaN && decide (x.rank = y.rank)

/-! ## Units of the smallest positive number -/

/-- Magnitude of a finite number, in units of `2 ^ -149`. -/
def units (x : Binary32) : Nat :=
  let exponent := x.magnitudeBits / 2 ^ 23
  let fraction := x.magnitudeBits % 2 ^ 23
  if exponent = 0 then fraction else (2 ^ 23 + fraction) * 2 ^ (exponent - 1)

/-- The number nearest to `n` units, infinite when that is beyond the largest finite number. With
`s` digits rounded away the exponent field is `s + 1` and the leading digit adds one to it, so the
pattern is the sum `s * 2 ^ 23 + m`, for subnormal numbers too. -/
def ofUnits (n : Nat) : Binary32 :=
  let s := bitLength n - 24
  ⟨UInt32.ofNat (min (s * 2 ^ 23 + shiftRightEven n s) infinityBits)⟩

/-- The same magnitude under a sign. -/
def withSign (negative : Bool) (x : Binary32) : Binary32 :=
  if negative then ⟨UInt32.ofNat (2 ^ 31 + x.magnitudeBits)⟩ else x

/-! ## Products and whole numbers -/

/-- A pattern that is not a number. -/
def nan : Binary32 := ⟨0x7fc00000⟩

/-- The product of `x` and the whole number `n`, `n` first made a binary32 number itself. -/
def timesNat (x : Binary32) (n : Nat) : Binary32 :=
  let factor := roundDigits 24 n
  if x.isNaN then nan
  else if x.isInfinite then if factor = 0 then nan else x
  else withSign x.isNegative (ofUnits (x.units * factor))

/-- Largest value of a 64-bit counter. -/
def maxCount : Nat := 2 ^ 64 - 1

/-- The nearest whole number, a half going away from zero; nothing below zero, nothing for what is
not a number, and no more than a 64-bit counter holds. -/
def toCount (x : Binary32) : Nat :=
  if x.isNaN || x.isNegative then 0
  else if x.isInfinite then maxCount
  else min (shiftRightUp x.units 149) maxCount

/-! ## Reading from bytes -/

/-- The number in four bytes, least significant first. -/
def ofBytes (b₀ b₁ b₂ b₃ : UInt8) : Binary32 :=
  ⟨UInt32.ofNat (b₀.toNat + 2 ^ 8 * b₁.toNat + 2 ^ 16 * b₂.toNat + 2 ^ 24 * b₃.toNat)⟩

end Binary32

end AirLoop
