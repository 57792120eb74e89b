import AirLoop.Audio.Meter
import AirLoop.Journal

/-!
# Processing stages (`raop_sender_core::traits::buffer_stage`)

The steps that every delivered buffer passes in order. Each looks at the buffer and its format and
may fail; a buffer goes no further than the first stage that fails.
-/

namespace AirLoop

/-- A buffer on its way through the chain. -/
structure Passage where
  buffer : AudioBuffer
  format : AudioFormat
  deriving DecidableEq

/-- A stage's answers: the fault, if any, on the last of the passages that it was given so far. -/
abbrev Verdict := List Passage → Option Fault

/-- What a stage does with a buffer. -/
inductive Work where
  /-- measure it and show its level; `watched` tells whether the reading also goes to the monitor
  of the pipeline, or to one of its own that nobody looks at -/
  | meter (watched : Bool)
  /-- anything else -/
  | handle (verdict : Verdict)
  /-- send it to a receiver -/
  | transmit (destination : Receiver) (verdict : Verdict)

/-- A step of the processing chain (`BufferStage`). -/
structure Stage where
  name : String
  work : Work

namespace Stage

/-- The stage that meters every buffer (`LevelMeterStage`). -/
def meter (watched : Bool) : Stage := ⟨"level-meter", .meter watched⟩

/-- The stage that sends every buffer to one receiver (`TransmitStage`). -/
def transmit (destination : Receiver) (verdict : Verdict) : Stage :=
  ⟨"transmit", .transmit destination verdict⟩

end Stage

/-- Answers that refuse the calls with the given numbers, counted from one. -/
def Verdict.failingOn (calls : List Nat) (f : Fault) : Verdict := fun given =>
  if given.length ∈ calls then some f else none

/-! ## The chain -/

/-- A stage in its place, with the passages that it was given. -/
structure Station where
  stage : Stage
  given : List Passage := []

/-- What one stage leaves of a passage. -/
structure Handling where
  station : Station
  monitor : LevelMonitor
  reports : Journal
  failure : Option Fault

/-- A stage takes a passage. -/
def Station.take (s : Station) (monitor : LevelMonitor) (passage : Passage) : Handling :=
  let station := { s with given := s.given ++ [passage] }
  match s.stage.work with
  | .meter watched =>
    let reading := measure passage.buffer
    { station
      monitor := if watched then monitor.record reading else monitor
      reports := [.reported (.level reading)]
      failure := none }
  | .handle verdict | .transmit _ verdict =>
    { station, monitor, reports := [], failure := verdict station.given }

/-- What a chain leaves of a passage: its stages, the monitor, what was seen of it, and the name
and fault of the stage that failed. -/
structure Transit where
  stations : List Station
  monitor : LevelMonitor
  journal : Journal
  failure : Option (String × Fault)

/-- A passage through the stages from the place `place` on, up to the first that fails. -/
def transit (passage : Passage) : Nat → LevelMonitor → List Station → Transit
  | _, monitor, [] => ⟨[], monitor, [], none⟩
  | place, monitor, s :: rest =>
    let h := s.take monitor passage
    let seen := .processed place passage.buffer passage.format h.failure :: h.reports
    match h.failure with
    | some f => ⟨h.station :: rest, h.monitor, seen, some (s.stage.name, f)⟩
    | none =>
      let t := transit passage (place + 1) h.monitor rest
      { t with stations := h.station :: t.stations, journal := seen ++ t.journal }

/-- A passage neither adds nor takes away stages. -/
theorem length_transit (passage : Passage) (place : Nat) (monitor : LevelMonitor)
    (ss : List Station) : (transit passage place monitor ss).stations.length = ss.length := by
  induction ss generalizing place monitor with
  | nil => rfl
  | cons s rest ih =>
    simp only [transit]
    split
    · rfl
    · simp [ih]

end AirLoop
