import AirLoop.Program
import AirLoop.Capture.Unsupported
import AirLoop.Operator.Lines
import Std.Time.DateTime.Timestamp

/-!
# The executable

Where the program meets its host: arguments, clock, randomness and the standard streams. This host
gives it neither multicast nor a device to capture from, so that a session ends with its search for
receivers, before anybody is asked anything.
-/

namespace AirLoop

/-- The network of a host on which no daemon can be started. -/
def isolatedNetwork : Network := { daemonFailure := some "multicast is not available" }

/-- Now, as a point in time. -/
def readClock : IO Timestamp := do
  let now ← Std.Time.Timestamp.now
  let nanos := now.toNanosecondsSinceUnixEpoch.val
  return ⟨nanos.fdiv Timestamp.nanosPerSecond, (nanos.fmod Timestamp.nanosPerSecond).toNat⟩

/-- A random identifier. -/
def drawId : IO Nat := do
  let bytes ← IO.getRandomBytes 16
  return SessionStamp.randomId (bytes.toList.foldl (fun n b => n * 256 + b.toNat) 0)

end AirLoop

open AirLoop in
/-- Run one session and exit with its code. -/
def main (args : List String) : IO UInt32 := do
  let now ← readClock
  let stamp : SessionStamp := ⟨← drawId, now, now⟩
  let source : UnsupportedSource := ⟨"linux"⟩
  let operator := LineOperator.ofBytes []
  match Program.run args isolatedNetwork source operator operator.patience stamp with
  | none => return Program.failureCode.toUInt32
  | some c =>
    IO.print c.output
    IO.eprint c.errors
    return c.exitCode.toUInt32
