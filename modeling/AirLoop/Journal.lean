import AirLoop.Receiver
import AirLoop.Capture.Source
import AirLoop.Session.State
import AirLoop.Time.Duration

/-!
# The journal (`raop_sender_core::traits::status_reporter`)

Everything that can be seen of a pipeline or a session from outside, in the order in which it
happened.
-/

namespace AirLoop

/-- What the operator is told (`StatusReporter`). -/
inductive Report where
  | state (s : SessionState)
  | discoveryStarted (serviceType : String)
  | devicesFound (devices : List Receiver)
  | acknowledgementRequired
  | captureStarted (format : AudioFormat) (device : Option String)
  | level (reading : LevelReading)
  | error (f : Fault)
  deriving DecidableEq

/-- The calls that a pipeline makes on its capture source (`CaptureProvider`). -/
inductive SourceCall where
  | openDevice | start | stop | closeDevice
  deriving DecidableEq

/-- One thing that happened. -/
inductive Occurrence where
  /-- the source was called, and failed or not -/
  | called (call : SourceCall) (failure : Option Fault)
  /-- the source reported something -/
  | signalled (s : Signal)
  /-- a buffer reached the stage at a place of the chain, which failed or not -/
  | processed (place : Nat) (buffer : AudioBuffer) (format : AudioFormat) (failure : Option Fault)
  /-- a delivery's first fault went to whoever started it -/
  | faulted (delivery : Nat) (f : Fault)
  /-- the operator was told something -/
  | reported (r : Report)
  /-- receivers of a service type were looked for -/
  | queried (serviceType : String) (timeout : Duration)
  /-- the operator was asked whether to go on -/
  | acknowledged
  /-- the operator was asked whether to quit -/
  | polled (wait : Duration)
  /-- a line was logged -/
  | logged (line : LogLine)
  deriving DecidableEq

/-- What happened, the earliest first. -/
abbrev Journal := List Occurrence

namespace Journal

/-- The calls on the source, and how they failed. -/
def calls (j : Journal) : List (SourceCall × Option Fault) :=
  j.filterMap fun
    | .called c f => some (c, f)
    | _ => none

/-- What the source reported. -/
def signals (j : Journal) : List Signal :=
  j.filterMap fun
    | .signalled s => some s
    | _ => none

/-- The buffers that reached a stage: its place, the buffer, its format and how the stage failed. -/
def processed (j : Journal) : List (Nat × AudioBuffer × AudioFormat × Option Fault) :=
  j.filterMap fun
    | .processed place b format f => some (place, b, format, f)
    | _ => none

/-- What the operator was told. -/
def reports (j : Journal) : List Report :=
  j.filterMap fun
    | .reported r => some r
    | _ => none

/-- How long the operator was given each time that he was asked whether to quit. -/
def polls (j : Journal) : List Duration :=
  j.filterMap fun
    | .polled wait => some wait
    | _ => none

/-- The log, with the lines that a reporter adds for what it is told. -/
def log (reporterLog : Report → List LogLine) (j : Journal) : List LogLine :=
  j.flatMap fun
    | .logged l => [l]
    | .reported r => reporterLog r
    | _ => []

/-! ## Longer journals -/

@[simp] theorem calls_append (a b : Journal) : calls (a ++ b) = calls a ++ calls b :=
  List.filterMap_append

@[simp] theorem signals_append (a b : Journal) : signals (a ++ b) = signals a ++ signals b :=
  List.filterMap_append

@[simp] theorem processed_append (a b : Journal) :
    processed (a ++ b) = processed a ++ processed b :=
  List.filterMap_append

@[simp] theorem reports_append (a b : Journal) : reports (a ++ b) = reports a ++ reports b :=
  List.filterMap_append

@[simp] theorem polls_append (a b : Journal) : polls (a ++ b) = polls a ++ polls b :=
  List.filterMap_append

end Journal

end AirLoop
