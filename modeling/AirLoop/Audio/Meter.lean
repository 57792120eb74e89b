import AirLoop.Audio.Level

/-!
# The level meter (`raop_sender_core::processing::level_meter`)

A bar of fixed width for one reading, and the monitor that remembers the latest and the loudest
reading of a stream.
-/

namespace AirLoop

/-- Bars to draw for a reading on a meter of `width` bars: the product in single precision, to the
nearest whole number, at most all of them (`bar_count`). -/
def barCount (reading : LevelReading) (width : Nat) : Nat :=
  min (reading.peak.timesNat width).toCount width

theorem barCount_le (reading : LevelReading) (width : Nat) : barCount reading width ≤ width :=
  Nat.min_le_right _ _

/-- Start of a meter line: the cursor goes back to the first column (`MeterLine::PREFIX`). -/
def meterHead : String := "\rRecording: ["

/-- End of a meter line (`MeterLine::SUFFIX`). -/
def meterTail : String := "] "

/-- A meter line: the bars, then blanks up to the width (`MeterLine::render`). -/
def meterLine (width : Nat) (reading : LevelReading) : String :=
  let bars := barCount reading width
  meterHead ++ String.ofList (List.replicate bars '|' ++ List.replicate (width - bars) ' ') ++
    meterTail

/-! ## The monitor -/

/-- Latest and loudest reading of a stream, silence before the first (`LevelMonitor`). -/
structure LevelMonitor where
  latest : LevelReading := .silent
  loudest : LevelReading := .silent
  deriving DecidableEq, Inhabited

namespace LevelMonitor

/-- Of two readings the one with the greater bit pattern. Readings in `[0, 1]` are ordered as their
patterns are. -/
def higher (a b : LevelReading) : LevelReading :=
  if a.peak.bits < b.peak.bits then b else a

/-- The monitor after one more reading (`LevelMonitor::record`). -/
def record (m : LevelMonitor) (reading : LevelReading) : LevelMonitor :=
  { latest := reading, loudest := higher m.loudest reading }

@[simp] theorem latest_record (m : LevelMonitor) (r : LevelReading) :
    (m.record r).latest = r := rfl

@[simp] theorem loudest_record (m : LevelMonitor) (r : LevelReading) :
    (m.record r).loudest = higher m.loudest r := rfl

end LevelMonitor

end AirLoop
