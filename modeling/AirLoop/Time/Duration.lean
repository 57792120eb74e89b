import AirLoop.Numeric.Shortest

/-!
# Durations

A length of time in whole nanoseconds.
-/

namespace AirLoop

/-- A length of time. -/
structure Duration where
  nanos : Nat
  deriving DecidableEq, Inhabited

namespace Duration

/-- Nanoseconds in a second. -/
def perSecond : Nat := 1000000000

/-- That many seconds. -/
def ofSeconds (n : Nat) : Duration := ⟨n * perSecond⟩

/-- That many milliseconds. -/
def ofMillis (n : Nat) : Duration := ⟨n * 1000000⟩

/-- Whole seconds. -/
def wholeSeconds (d : Duration) : Nat := d.nanos / perSecond

/-- Nanoseconds beyond the whole seconds. -/
def subsecNanos (d : Duration) : Nat := d.nanos % perSecond

/-- No time at all. -/
def isZero (d : Duration) : Bool := d.nanos = 0

/-- `n` nanoseconds in a unit of `10 ^ places` nanoseconds, without zeros at the end. -/
def inUnit (n places : Nat) : String :=
  let d : Decimal := .trim places ⟨n, -(places : Int)⟩
  d.positional ""

/-- Text of a duration, in the largest unit of which there is at least one. -/
def describe (d : Duration) : String :=
  if perSecond ≤ d.nanos then inUnit d.nanos 9 ++ "s"
  else if 1000000 ≤ d.nanos then inUnit d.nanos 6 ++ "ms"
  else if 1000 ≤ d.nanos then inUnit d.nanos 3 ++ "µs"
  else inUnit d.nanos 0 ++ "ns"

end Duration

end AirLoop
