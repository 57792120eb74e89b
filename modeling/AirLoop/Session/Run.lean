import AirLoop.Capture.Pipeline
import AirLoop.Configuration
import AirLoop.Discovery.Directory
import AirLoop.Operator.Basic

/-!
# Sessions (`raop_sender_core::session::controller`)

One session from discovery to teardown: look for receivers, ask the operator whether to go on if
there are none, capture until the operator quits or a fault comes, and release the device again,
whatever happened.
-/

namespace AirLoop

/-- A session over a source with states `σ`, for an operator with states `ι` (`SessionController`).
Its journal is that of its pipeline. -/
structure Session (σ ι : Type) where
  config : Configuration
  directory : Directory
  pipeline : Pipeline σ
  operator : ι
  state : SessionState := .idle
  summary : Option Summary := none

/-- What a session found out about its receivers and its source. -/
structure Findings where
  devices : List String := []
  format : Option AudioFormat := none
  sourceDevice : Option String := none
  deriving DecidableEq

namespace Session

variable {σ ι : Type}

/-- A new session, its meter the first stage (`SessionController::new`). A configuration with a
problem is refused. -/
def new (config : Configuration) (directory : Directory) (source : σ) (operator : ι) :
    Except Fault (Session σ ι) :=
  match config.problem? with
  | some p => .error (.invalidConfiguration p.message)
  | none =>
    let (_, pipeline) := ({ source } : Pipeline σ).addStage (.meter true)
    .ok { config, directory, pipeline, operator }

/-- Append a stage after the meter (`SessionController::add_stage`). -/
def addStage (s : Session σ ι) (stage : Stage) : Except Fault Unit × Session σ ι :=
  let (r, pipeline) := s.pipeline.addStage stage
  (r, { s with pipeline })

/-- The session's journal. -/
def journal (s : Session σ ι) : Journal := s.pipeline.journal

/-- The session after one more thing happened. -/
def note (s : Session σ ι) (o : Occurrence) : Session σ ι :=
  { s with pipeline := s.pipeline.note o }

/-- The session after a line was logged. -/
def log (s : Session σ ι) (level : LogLevel) (text : String) : Session σ ι :=
  s.note (.logged ⟨level, text⟩)

/-- The session after some lines were logged. -/
def logAll (s : Session σ ι) (lines : List LogLine) : Session σ ι :=
  lines.foldl (fun s l => s.note (.logged l)) s

/-- The session after the operator was told something. -/
def report (s : Session σ ι) (r : Report) : Session σ ι := s.note (.reported r)

/-- The session goes over to a state (`SessionController::transition`). -/
def enter (s : Session σ ι) (next : SessionState) : Session σ ι :=
  { s.log .info s!"Session state: {s.state.name} -> {next.name}" with state := next }.report
    (.state next)

/-! ## Discovery -/

/-- The start of a run, up to the moment when the directory is asked. -/
def announce (s : Session σ ι) : Session σ ι :=
  (s.enter .discovering).report (.discoveryStarted s.config.serviceType)

/-- Ask the directory (the discovery of `SessionController::drive`). -/
def lookUp (s : Session σ ι) : Except Fault (List Receiver) × Session σ ι :=
  let found := s.directory s.config.serviceType s.config.discoveryTimeout
  let s :=
    (s.note (.queried s.config.serviceType s.config.discoveryTimeout)).logAll found.log
  match found.answer with
  | .error f => (.error f, s)
  | .ok devices =>
    (.ok devices, (s.log .info s!"Discovery found {devices.length} receiver(s)").report
      (.devicesFound devices))

variable [CaptureSource σ] [Operator ι]

/-- Without receivers the operator decides whether to go on (the acknowledgement of
`SessionController::drive`). -/
def passGate (s : Session σ ι) (devices : List Receiver) : Bool × Session σ ι :=
  let s := s.enter .awaitingOperator
  if devices = [] then
    let c := Operator.acknowledge s.operator
    let s := { (s.report .acknowledgementRequired).note .acknowledged with operator := c.operator }
    (decide (c.answer = .proceed), s.logAll c.log)
  else (true, s)

/-! ## Capture -/

/-- Open the pipeline. -/
def openCapture (s : Session σ ι) : Except Fault AudioFormat × Session σ ι :=
  let (r, pipeline) := s.pipeline.openDevice
  (r, { s with pipeline })

/-- Start the pipeline. -/
def startCapture (s : Session σ ι) : Except Fault Unit × Session σ ι :=
  let (r, pipeline) := s.pipeline.start
  (r, { s with pipeline })

/-- The fault that the running delivery has had, if any. -/
def pendingFault (s : Session σ ι) : Option Fault :=
  s.pipeline.deliveries.getLast?.bind (·.fault)

/-- Ask the operator once whether to quit; the source goes on meanwhile. -/
def poll (s : Session σ ι) : Bool × Session σ ι :=
  let pipeline := (s.pipeline.note (.polled s.config.pollInterval)).wait
  let c := Operator.quitRequested s.config.pollInterval s.operator
  (c.answer, { s with pipeline, operator := c.operator }.logAll c.log)

/-- Poll until a fault has come or the operator quits; nothing if neither is so after that many
polls (the loop of `SessionController::drive`). A fault is looked for before each poll. -/
def watch : Nat → Session σ ι → Option (Except Fault Outcome × Session σ ι)
  | polls, s =>
    match s.pendingFault with
    | some f => some (.error f, s)
    | none =>
      match polls with
      | 0 => none
      | polls + 1 =>
        let (quit, s) := s.poll
        if quit then some (.ok .quit, s) else watch polls s

/-! ## A run -/

/-- The work of a session after the receivers are known. -/
def capture (polls : Nat) (s : Session σ ι) (devices : List Receiver) :
    Option (Except Fault Outcome × Findings × Session σ ι) :=
  let findings : Findings := { devices := devices.map (·.displayName) }
  let (go, s) := s.passGate devices
  if !go then some (.ok .aborted, findings, s)
  else
    let (opened, s) := s.openCapture
    match opened with
    | .error f => some (.error f, findings, s)
    | .ok format =>
      let name := s.pipeline.deviceName
      let findings := { findings with format := some format, sourceDevice := name }
      let (started, s) := s.startCapture
      match started with
      | .error f => some (.error f, findings, s)
      | .ok () =>
        let s := (s.enter .capturing).report (.captureStarted format name)
        (s.watch polls).map fun (r, s) => (r, findings, s)

/-- The work of a session, until it ends one way or another (`SessionController::drive`). -/
def drive (polls : Nat) (s : Session σ ι) :
    Option (Except Fault Outcome × Findings × Session σ ι) :=
  let (found, s) := s.announce.lookUp
  match found with
  | .error f => some (.error f, {}, s)
  | .ok devices => s.capture polls devices

/-- The session after a clean-up call, whose failure is only logged (each half of
`SessionController::teardown`). -/
def cleanUp (s : Session σ ι) (what : String)
    (call : Pipeline σ → Except Fault Unit × Pipeline σ) : Session σ ι :=
  let (r, pipeline) := call s.pipeline
  let s := { s with pipeline }
  match r with
  | .ok () => s
  | .error f => s.log .warn (what ++ ": " ++ f.message)

/-- Stop and release whatever was opened (`SessionController::teardown`). -/
def teardown (s : Session σ ι) : Session σ ι :=
  let s := s.enter .stopping
  let s := s.cleanUp "Failed to stop capture" Pipeline.stop
  let s := s.cleanUp "Failed to close capture device" Pipeline.close
  s.enter .stopped

/-- The report on a session that is over (the summary of `SessionController::run`). -/
def summarize (s : Session σ ι) (stamp : SessionStamp) (findings : Findings) (outcome : Outcome) :
    Summary :=
  { stamp
    serviceType := s.config.serviceType
    devices := findings.devices
    format := findings.format
    sourceDevice := findings.sourceDevice
    diagnostics := s.pipeline.diagnostics
    maxPeak := s.pipeline.monitor.loudest.peak
    outcome }

/-- The end of a run: what it comes to is logged and kept, and a fault is shown. -/
def conclude (s : Session σ ι) (stamp : SessionStamp) (findings : Findings)
    (r : Except Fault Outcome) : Except Fault Summary × Session σ ι :=
  match r with
  | .ok outcome =>
    let summary := s.summarize stamp findings outcome
    let s := s.log .info s!"Session {Summary.idText stamp.id} ended: {outcome.describe}"
    (.ok summary, { s with summary := some summary })
  | .error f =>
    let summary := s.summarize stamp findings (.failed f.message)
    let s := s.log .error s!"Session {Summary.idText stamp.id} failed: {f.message}"
    (.error f, { s.report (.error f) with summary := some summary })

/-- Run a session to its end, with at most that many polls; nothing if it is not over by then
(`SessionController::run`). It runs once. -/
def run (polls : Nat) (stamp : SessionStamp) (s : Session σ ι) :
    Option (Except Fault Summary × Session σ ι) :=
  if s.state ≠ .idle then
    some (.error (.invalidConfiguration "a controller runs exactly one session"), s)
  else
    (s.drive polls).map fun (r, findings, s) => s.teardown.conclude stamp findings r

/-- Give the session up. -/
def drop (s : Session σ ι) : Session σ ι := { s with pipeline := s.pipeline.drop }

end Session

end AirLoop
