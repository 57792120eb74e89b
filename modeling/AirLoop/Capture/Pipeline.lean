import AirLoop.Capture.Source
import AirLoop.Capture.Stage
import AirLoop.Session.Summary
import AirLoop.Text.Quoted

/-!
# The capture pipeline (`raop_sender_core::pipeline::capture_pipeline`)

A capture source whose buffers go through a gate and then through the chain of stages. The pipeline
holds the source to its contract: the gate is open from the start that succeeds to the stop, and a
buffer that comes at any other time is dropped and counted. Each start makes a delivery: the stages
that were there, the format, and the first fault, which alone is passed on.
-/

namespace AirLoop

/-- Where a pipeline stands (`Phase`). It never goes back. -/
inductive Phase where
  | idle | opened | delivering | stopped | closed
  deriving DecidableEq

/-- What a start handed to the source. -/
structure Delivery where
  /-- how many stages there were -/
  stages : Nat
  format : AudioFormat
  /-- the first fault, once there was one -/
  fault : Option Fault := none
  deriving DecidableEq

/-- A capture pipeline over a source with states `σ` (`CapturePipeline`). -/
structure Pipeline (σ : Type) where
  source : σ
  phase : Phase := .idle
  /-- what the source reported when it was opened -/
  format : Option AudioFormat := none
  stations : List Station := []
  gateOpen : Bool := false
  diagnostics : Diagnostics := {}
  /-- by number, in the order of the starts that reached the source -/
  deliveries : List Delivery := []
  /-- readings of the watched meters -/
  monitor : LevelMonitor := {}
  journal : Journal := []

namespace Pipeline

variable {σ : Type}

/-- The pipeline after one more thing happened. -/
def note (p : Pipeline σ) (o : Occurrence) : Pipeline σ := { p with journal := p.journal ++ [o] }

/-- The pipeline after a line was logged. -/
def log (p : Pipeline σ) (level : LogLevel) (text : String) : Pipeline σ :=
  p.note (.logged ⟨level, text⟩)

/-- Names of the stages, in their order (`CapturePipeline::stage_names`). -/
def stageNames (p : Pipeline σ) : List String := p.stations.map (·.stage.name)

/-- Buffers are being delivered (`CapturePipeline::is_delivering`). -/
def isDelivering (p : Pipeline σ) : Bool := p.phase = .delivering

/-! ## Signals of the source -/

/-- A fault through a delivery is passed on if it is the delivery's first (the fault notice of
`CapturePipeline::start`). -/
def raise (p : Pipeline σ) (delivery : Nat) (f : Fault) : Pipeline σ :=
  match p.deliveries[delivery]? with
  | none => p
  | some d =>
    match d.fault with
    | some _ => p
    | none =>
      { p with deliveries := p.deliveries.set delivery { d with fault := some f } }.note
        (.faulted delivery f)

/-- The counters after a buffer that came through the closed gate (`DeliveryCounters`). -/
def countDropped (d : Diagnostics) : Diagnostics :=
  { d with buffersDroppedAfterStop := d.buffersDroppedAfterStop + 1 }

/-- The counters after a buffer without audio (`DeliveryCounters`). -/
def countEmpty (d : Diagnostics) : Diagnostics := { d with emptyBuffers := d.emptyBuffers + 1 }

/-- The counters after a buffer for the stages (`DeliveryCounters`). -/
def countDelivered (d : Diagnostics) (b : AudioBuffer) : Diagnostics :=
  { d with
    buffersDelivered := d.buffersDelivered + 1
    bytesDelivered := d.bytesDelivered + UInt64.ofNat b.valid }

/-- A buffer through a delivery passes the stages that were there when it was started. -/
def forward (p : Pipeline σ) (delivery : Nat) (d : Delivery) (b : AudioBuffer) : Pipeline σ :=
  let t := transit ⟨b, d.format⟩ 0 p.monitor (p.stations.take d.stages)
  let p' :=
    { p with
      diagnostics := countDelivered p.diagnostics b
      stations := t.stations ++ p.stations.drop d.stages
      monitor := t.monitor
      journal := p.journal ++ t.journal }
  match t.failure with
  | none => p'
  | some (name, f) =>
    (p'.log .error s!"Stage '{name}' failed: {f.message}").raise delivery
      (.captureFault (name ++ ": " ++ f.message))

/-- A buffer through a delivery: dropped at a closed gate, passed over without audio, and else
forwarded (the buffer callback of `CapturePipeline::start`). -/
def receiveBuffer (p : Pipeline σ) (delivery : Nat) (b : AudioBuffer) : Pipeline σ :=
  match p.deliveries[delivery]? with
  | none => p
  | some d =>
    if !p.gateOpen then { p with diagnostics := countDropped p.diagnostics }
    else if b.isEmpty then { p with diagnostics := countEmpty p.diagnostics }
    else p.forward delivery d b

/-- A signal of the source (the callbacks of `CapturePipeline::start`). Nothing comes of one through
a delivery that was never handed out. -/
def receive (p : Pipeline σ) (s : Signal) : Pipeline σ :=
  let p := p.note (.signalled s)
  match s with
  | .buffer delivery b => p.receiveBuffer delivery b
  | .fault delivery f => p.raise delivery f
  | .log line => p.note (.logged line)

/-- Signals of the source, in order. -/
def receiveAll (p : Pipeline σ) (signals : List Signal) : Pipeline σ := signals.foldl receive p

/-- Something happens to the source without a call of the pipeline. -/
def attend (p : Pipeline σ) (happening : σ → List Signal × σ) : Pipeline σ :=
  let (signals, source) := happening p.source
  { p with source }.receiveAll signals

/-- The source's answer to a call: the call is noted, then come the signals from inside it. -/
def accept {α : Type} (p : Pipeline σ) (call : SourceCall) (reply : Reply σ α) : Pipeline σ :=
  let failure : Option Fault :=
    match reply.result with
    | .ok _ => none
    | .error f => some f
  { p with source := reply.source }.note (.called call failure) |>.receiveAll reply.signals

/-! ## Operations -/

/-- The pipeline in a later phase. -/
def enter (p : Pipeline σ) (phase : Phase) : Pipeline σ := { p with phase }

/-- The gate opens for a new delivery, to the stages of now. -/
def openGate (p : Pipeline σ) (format : AudioFormat) : Pipeline σ :=
  { p with
    gateOpen := true
    deliveries := p.deliveries ++ [{ stages := p.stations.length, format }] }

/-- The gate closes. -/
def closeGate (p : Pipeline σ) : Pipeline σ := { p with gateOpen := false }

/-- Append a stage; not while delivering (`CapturePipeline::add_stage`). -/
def addStage (p : Pipeline σ) (s : Stage) : Except Fault Unit × Pipeline σ :=
  if p.phase = .delivering then
    (.error (.invalidConfiguration "cannot add a stage while delivering"), p)
  else (.ok (), { p with stations := p.stations ++ [{ stage := s }] })

variable [CaptureSource σ]

/-- Bind to the device, once (`CapturePipeline::open`). The phase changes first, so that a failed
call is closed as well. -/
def openDevice (p : Pipeline σ) : Except Fault AudioFormat × Pipeline σ :=
  if p.phase ≠ .idle then
    (.error (.invalidConfiguration "capture pipeline can only be opened once"), p)
  else
    let reply := CaptureSource.openDevice p.source
    let p := (p.enter .opened).accept .openDevice reply
    match reply.result with
    | .error f => (.error f, p)
    | .ok format =>
      let p := p.log .info ("Loopback capture opened: " ++ format.describe)
      (.ok format, { p with format := some format })

/-- Begin to deliver (`CapturePipeline::start`). The gate is open while the source starts, and
closes again if it fails. -/
def start (p : Pipeline σ) : Except Fault Unit × Pipeline σ :=
  if p.phase ≠ .opened then
    (.error (.invalidConfiguration "can only start an open, idle pipeline"), p)
  else
    match p.format with
    | none => (.error (.invalidConfiguration "capture format not known"), p)
    | some format =>
      let reply := CaptureSource.start p.deliveries.length p.source
      let p := (p.openGate format).accept .start reply
      match reply.result with
      | .error f => (.error f, p.closeGate)
      | .ok () =>
        (.ok (), (p.enter .delivering).log .info
          ("Capture delivering through stages: " ++ Text.quotedList p.stageNames))

/-- Halt delivery (`CapturePipeline::stop`). The gate closes first, and only a delivering source is
called. -/
def stop (p : Pipeline σ) : Except Fault Unit × Pipeline σ :=
  let p := p.closeGate
  if p.phase ≠ .delivering then (.ok (), p)
  else
    let reply := CaptureSource.stop p.source
    let p := (p.enter .stopped).accept .stop reply
    match reply.result with
    | .error f => (.error f, p)
    | .ok () => (.ok (), p.log .info ("Capture stopped: " ++ p.diagnostics.describe))

/-- Stop if need be and release the device (`CapturePipeline::close`). A source that was never asked
to bind is not called; a failure to release goes before a failure to stop. -/
def close (p : Pipeline σ) : Except Fault Unit × Pipeline σ :=
  if p.phase = .closed then (.ok (), p)
  else
    let (stopped, p) := p.stop
    if p.phase = .idle then (stopped, p.enter .closed)
    else
      let reply := CaptureSource.closeDevice p.source
      let p := (p.enter .closed).accept .closeDevice reply
      match reply.result with
      | .error f => (.error f, p)
      | .ok () => (stopped, p.log .debug "Capture device released")

/-- Give the pipeline up: it is closed, and its source given up with it
(`CapturePipeline::drop`). -/
def drop (p : Pipeline σ) : Pipeline σ :=
  let (closed, p) := p.close
  let p :=
    match closed with
    | .ok () => p
    | .error f => p.log .warn ("Failed to close capture pipeline: " ++ f.message)
  p.attend CaptureSource.discard

/-- Time passes without a call. -/
def wait (p : Pipeline σ) : Pipeline σ := p.attend CaptureSource.idle

/-- Name of the device, if known (`CapturePipeline::device_name`). -/
def deviceName (p : Pipeline σ) : Option String := CaptureSource.deviceName p.source

end Pipeline

end AirLoop
