/-!
# Rounding natural numbers to binary digits

Exact rounding, in `Nat`, to a whole number of units or to a number of significant binary digits.
Floating-point operations are these functions applied to the exact result.
-/

namespace AirLoop

-- powers are the core library's, whatever else is imported
attribute [instance (high)] instPowNat
attribute [default_instance (high)] instPowNat

/-- Number of binary digits of `n`; zero has none. -/
def bitLength (n : Nat) : Nat :=
  if n = 0 then 0 else n.log2 + 1

/-- `n / 2 ^ s` to the nearest integer, a half going to the even neighbour. -/
def shiftRightEven (n s : Nat) : Nat :=
  let q := n / 2 ^ s
  let r := n % 2 ^ s
  if 2 ^ s < 2 * r ∨ (2 * r = 2 ^ s ∧ q % 2 = 1) then q + 1 else q

/-- `n / 2 ^ s` to the nearest integer, a half going up. -/
def shiftRightUp (n s : Nat) : Nat :=
  (2 * n + 2 ^ s) / 2 ^ (s + 1)

/-- `n` to at most `p` significant binary digits, a half going to the even neighbour. -/
def roundDigits (p n : Nat) : Nat :=
  let s := bitLength n - p
  shiftRightEven n s * 2 ^ s

end AirLoop
