import AirLoop.Capture.Source

/-!
# Rehearsed sources

A source that plays a script: what each call answers, and the buffers and faults that it reports
from inside its calls and between them.
-/

namespace AirLoop

/-- A scripted source. -/
structure Rehearsal where
  format : AudioFormat := ⟨48000, 32, 2⟩
  deviceName : Option String := none
  openFault : Option Fault := none
  /-- fault of every start -/
  startFault : Option Fault := none
  /-- fault of the first start only -/
  firstStartFault : Option Fault := none
  stopFault : Option Fault := none
  closeFault : Option Fault := none
  startBuffers : List AudioBuffer := []
  startFaults : List Fault := []
  stopBuffers : List AudioBuffer := []
  closeBuffers : List AudioBuffer := []
  /-- buffers and faults of the times between calls -/
  traffic : List (List AudioBuffer × List Fault) := []
  /-- deliveries that were handed to it -/
  deliveries : List Nat := []
  deriving DecidableEq

namespace Rehearsal

/-- The delivery handed to it last. -/
def latest (r : Rehearsal) : Option Nat := r.deliveries.getLast?

/-- Buffers and then faults through the latest delivery, if there is any. -/
def signals (r : Rehearsal) (buffers : List AudioBuffer) (faults : List Fault) : List Signal :=
  match r.latest with
  | none => []
  | some k => buffers.map (.buffer k) ++ faults.map (.fault k)

/-- The result of a call that fails with this fault if there is one. -/
def outcome {α : Type} (f : Option Fault) (a : α) : Except Fault α :=
  match f with
  | some f => .error f
  | none => .ok a

end Rehearsal

instance : CaptureSource Rehearsal where
  openDevice r := { result := Rehearsal.outcome r.openFault r.format, source := r }
  start k r :=
    let first := if r.deliveries = [] then r.firstStartFault else none
    let r := { r with deliveries := r.deliveries ++ [k] }
    { result := Rehearsal.outcome (first <|> r.startFault) ()
      signals := r.signals r.startBuffers r.startFaults
      source := r }
  stop r :=
    { result := Rehearsal.outcome r.stopFault (), signals := r.signals r.stopBuffers [], source := r }
  closeDevice r :=
    { result := Rehearsal.outcome r.closeFault (), signals := r.signals r.closeBuffers [],
      source := r }
  deviceName r := r.deviceName
  idle r :=
    match r.traffic with
    | [] => ([], r)
    | (buffers, faults) :: later => (r.signals buffers faults, { r with traffic := later })
  discard r := ([], r)

end AirLoop
