import AirLoop.Numeric.Binary32
import AirLoop.Audio.Buffer

/-!
# Peak levels (`raop_sender_core::processing::level_meter`)

The level of a buffer is the greatest magnitude among its samples, brought into `[0, 1]`.
-/

namespace AirLoop

/-- Peak level of one buffer (`LevelReading`). -/
structure LevelReading where
  peak : Binary32
  deriving DecidableEq, Inhabited

namespace LevelReading

/-- No signal at all (`LevelReading::SILENT`). -/
def silent : LevelReading := ⟨.zero⟩

/-- A reading within `[0, 1]`: what is not a number, and all at or below zero, is silence, and all
above one is one (`LevelReading::clamped`). -/
def clamped (peak : Binary32) : LevelReading :=
  if peak.isNaN || peak.le .zero then silent
  else if Binary32.one.lt peak then ⟨.one⟩
  else ⟨peak⟩

/-- Numerical equality of two readings. -/
def equals (a b : LevelReading) : Bool := a.peak.equals b.peak

end LevelReading

/-! ## Measuring a buffer -/

/-- Width in bytes of one sample (`SAMPLE_WIDTH`). -/
def sampleWidth : Nat := 4

/-- The complete samples at the start of `bytes`; a partial one at the end is left out. -/
def samples : List UInt8 → List Binary32
  | b₀ :: b₁ :: b₂ :: b₃ :: rest => Binary32.ofBytes b₀ b₁ b₂ b₃ :: samples rest
  | _ => []

/-- The greater of the peak so far and a sample's magnitude; a sample that is not a number never
wins. -/
def louder (peak sample : Binary32) : Binary32 :=
  if peak.lt sample.abs then sample.abs else peak

/-- Peak level of the samples in the valid bytes of a buffer (`measure`). -/
def measure (b : AudioBuffer) : LevelReading :=
  .clamped ((samples b.bytes).foldl louder .zero)

end AirLoop
