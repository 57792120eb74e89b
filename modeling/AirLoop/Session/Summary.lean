import AirLoop.Receiver
import AirLoop.Text.Quoted
import AirLoop.Time.Timestamp

/-!
# Session summaries (`raop_sender_core::models::summary`)

The report on a finished session, and its JSON form.
-/

namespace AirLoop

/-- Counters of a capture, each of 64 bits (`PipelineDiagnostics`). -/
structure Diagnostics where
  buffersDelivered : UInt64 := 0
  emptyBuffers : UInt64 := 0
  buffersDroppedAfterStop : UInt64 := 0
  bytesDelivered : UInt64 := 0
  deriving DecidableEq, Inhabited

namespace Diagnostics

/-- The counters in a log line. -/
def describe (d : Diagnostics) : String :=
  "PipelineDiagnostics \x7b buffers_delivered: " ++ toString d.buffersDelivered.toNat ++
    ", empty_buffers: " ++ toString d.emptyBuffers.toNat ++
    ", buffers_dropped_after_stop: " ++ toString d.buffersDroppedAfterStop.toNat ++
    ", bytes_delivered: " ++ toString d.bytesDelivered.toNat ++ " \x7d"

/-- The JSON form of the counters. -/
def toJson (d : Diagnostics) : JsonValue :=
  .object
    [("buffers_delivered", .natural d.buffersDelivered.toNat),
      ("empty_buffers", .natural d.emptyBuffers.toNat),
      ("buffers_dropped_after_stop", .natural d.buffersDroppedAfterStop.toNat),
      ("bytes_delivered", .natural d.bytesDelivered.toNat)]

end Diagnostics

/-! ## How a session ended -/

/-- How a session ended (`SessionOutcome`). -/
inductive Outcome where
  /-- the operator asked to quit while capturing -/
  | quit
  /-- the operator declined to go on without receivers -/
  | aborted
  /-- a fault ended it -/
  | failed (detail : String)
  deriving DecidableEq

namespace Outcome

/-- The outcome in a log line. -/
def describe : Outcome → String
  | quit => "Quit"
  | aborted => "Aborted"
  | failed d => "Failed(" ++ Text.quoted d ++ ")"

/-- The JSON form of an outcome. -/
def toJson : Outcome → JsonValue
  | quit => .object [("kind", .text "quit")]
  | aborted => .object [("kind", .text "aborted")]
  | failed d => .object [("kind", .text "failed"), ("detail", .text d)]

end Outcome

/-! ## Summaries -/

/-- What a session is stamped with from outside: an identifier and when it began and ended. -/
structure SessionStamp where
  id : Nat
  startedAt : Timestamp
  stoppedAt : Timestamp
  deriving DecidableEq, Inhabited

/-- The number with the 4 bits from bit `place` on replaced. -/
def setDigit (place digit n : Nat) : Nat :=
  n - n / 2 ^ place % 16 * 2 ^ place + digit * 2 ^ place

/-- The identifier made of a random number: the thirteenth of its 32 hexadecimal digits tells that
it is random, and the upper half of the seventeenth which layout it has. -/
def SessionStamp.randomId (n : Nat) : Nat :=
  setDigit 60 (8 + n / 2 ^ 60 % 4) (setDigit 76 4 (n % 2 ^ 128))

/-- Report on a session (`SessionSummary`). -/
structure Summary where
  stamp : SessionStamp
  serviceType : String
  /-- display names of the receivers found -/
  devices : List String := []
  format : Option AudioFormat := none
  sourceDevice : Option String := none
  diagnostics : Diagnostics := {}
  /-- loudest reading -/
  maxPeak : Binary32 := .zero
  outcome : Outcome := .quit
  deriving DecidableEq

namespace Summary

/-- The report that a session begins with (`SessionSummary::new`). -/
def fresh (stamp : SessionStamp) (serviceType : String) : Summary := { stamp, serviceType }

/-- Length of the session in seconds, as a binary64 pattern (`SessionSummary::duration_secs`). -/
def durationSeconds (s : Summary) : UInt64 := s.stamp.stoppedAt.secondsSince s.stamp.startedAt

/-- The 32 hexadecimal digits of an identifier, in groups of 8, 4, 4, 4 and 12. -/
def idText (id : Nat) : String :=
  let ds := Nat.toDigits 16 (id % 2 ^ 128)
  let all := List.replicate (32 - ds.length) '0' ++ ds
  String.ofList (all.take 8 ++ '-' :: (all.drop 8).take 4 ++ '-' :: (all.drop 12).take 4 ++
    '-' :: (all.drop 16).take 4 ++ '-' :: all.drop 20)

/-- The JSON form of a summary. -/
def toJson (s : Summary) : JsonValue :=
  .object
    [("id", .text (idText s.stamp.id)), ("started_at", .text s.stamp.startedAt.render),
      ("stopped_at", .text s.stamp.stoppedAt.render), ("service_type", .text s.serviceType),
      ("devices", .array (s.devices.map .text)), ("format", .optional AudioFormat.toJson s.format),
      ("source_device", .optional .text s.sourceDevice), ("diagnostics", s.diagnostics.toJson),
      ("max_peak", Json.ofBinary32 s.maxPeak), ("outcome", s.outcome.toJson)]

/-- The JSON text of a summary, over lines (`SessionSummary::to_json`). -/
def render (s : Summary) : String := Json.renderLines s.toJson

end Summary

end AirLoop
