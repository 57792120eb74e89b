/-!
# Faults (`raop_sender_core::models::error`)

What can go wrong in discovery, capture and session control, and the text an operator sees.
-/

namespace AirLoop

/-- A failure, by its cause, with a detail text (`SenderError`). -/
inductive Fault where
  /-- the network cannot be asked for receivers -/
  | discoveryFailure (detail : String)
  /-- there is no output device to capture from, or access to it is denied -/
  | deviceUnavailable (detail : String)
  /-- the audio subsystem failed -/
  | captureFault (detail : String)
  /-- a setting or a call that makes no sense -/
  | invalidConfiguration (detail : String)
  deriving DecidableEq, Inhabited

namespace Fault

/-- The text shown for a fault. -/
def message : Fault → String
  | discoveryFailure d => "discovery failed: " ++ d
  | deviceUnavailable d => "audio device unavailable: " ++ d
  | captureFault d => "capture fault: " ++ d
  | invalidConfiguration d => "invalid configuration: " ++ d

/-- Whether the fault ends a session before capture can start (`SenderError::is_pre_capture`). -/
def isPreCapture : Fault → Bool
  | discoveryFailure _ | deviceUnavailable _ => true
  | captureFault _ | invalidConfiguration _ => false

end Fault

end AirLoop
