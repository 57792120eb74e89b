import AirLoop.Audio.Buffer
import AirLoop.Audio.Format
import AirLoop.Fault
import AirLoop.Log

/-!
# Capture sources (`raop_sender_core::traits::capture_provider`)

A backend that captures what the host is playing. Each start hands it a delivery, known by its
number, through which it reports buffers and faults: from inside any call, while nobody calls it,
and also through deliveries of earlier starts.
-/

namespace AirLoop

/-- What a source reports (`AudioBufferCallback`, `CaptureFaultCallback`). -/
inductive Signal where
  /-- a buffer through a delivery -/
  | buffer (delivery : Nat) (b : AudioBuffer)
  /-- a failure of the audio subsystem through a delivery -/
  | fault (delivery : Nat) (f : Fault)
  /-- a line for the log -/
  | log (line : LogLine)
  deriving DecidableEq

/-- How a source answers a call: the result, what it reported meanwhile, and its next state. -/
structure Reply (σ α : Type) where
  result : Except Fault α
  signals : List Signal := []
  source : σ

/-- A capture source with states `σ` (`CaptureProvider`). What it answers and reports may depend on
all that it was called for, and nothing else is asked of it here. -/
class CaptureSource (σ : Type) where
  /-- bind to the default output device and report its format -/
  openDevice : σ → Reply σ AudioFormat
  /-- begin to deliver through the delivery of this number -/
  start : Nat → σ → Reply σ Unit
  /-- halt delivery -/
  stop : σ → Reply σ Unit
  /-- release the device -/
  closeDevice : σ → Reply σ Unit
  /-- name of the device, if known -/
  deviceName : σ → Option String
  /-- what it reports while nobody calls it -/
  idle : σ → List Signal × σ
  /-- what it does when it is given up -/
  discard : σ → List Signal × σ

end AirLoop
