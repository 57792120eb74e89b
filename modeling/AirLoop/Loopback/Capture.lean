import AirLoop.Capture.Source
import AirLoop.Loopback.Stream
import AirLoop.Text.Quoted

/-!
# Loopback capture (`raop_sender_windows::wasapi_loopback`)

The capture source over an audio device. A thread of its own binds the device, delivers its packets
between start and stop, and lets go of it; the caller's side holds a sender of commands to the
thread and a handle to wait for its end.
-/

namespace AirLoop

/-- What the caller's side tells the thread to do (`Command`). -/
inductive Command where
  /-- deliver through this delivery -/
  | start (delivery : Nat)
  | stop
  | close
  deriving DecidableEq

/-- The thread that serves a stream, with the delivery that is running, if any
(`capture_thread`). -/
structure CaptureThread where
  stream : LoopbackStream
  delivery : Option Nat := none
  deriving DecidableEq

/-- A loopback capture: the device, the caller's side, and the thread (`WasapiLoopbackCapture`). -/
structure LoopbackCapture where
  device : AudioDevice
  /-- name of the device that was bound last -/
  deviceName : Option String := none
  /-- the caller can send commands -/
  holdsSender : Bool := false
  /-- the caller has a thread to wait for -/
  holdsThread : Bool := false
  /-- the caller has started and not stopped -/
  delivering : Bool := false
  /-- the thread, while it serves -/
  thread : Option CaptureThread := none
  /-- the listener is going to crash on the next buffer -/
  listenerCrashes : Bool := false

namespace LoopbackCapture

/-- A failed call. -/
def refuse {α : Type} (c : LoopbackCapture) (f : Fault) : Reply LoopbackCapture α :=
  { result := .error f, source := c }

/-- Fault of opening a capture that is open. -/
def alreadyOpen : Fault := .invalidConfiguration "loopback capture already open"

/-- Fault of starting a capture that was started and not stopped. -/
def alreadyRunning : Fault := .invalidConfiguration "loopback capture already running"

/-- Fault of a command to a capture that is not open. -/
def notOpen : Fault := .invalidConfiguration "loopback capture not open"

/-- Fault of a command to a thread that is gone. -/
def threadGone : Fault := .captureFault "loopback capture thread exited"

/-- The thread of a capture that a command can be sent to (`WasapiLoopbackCapture::send`). -/
def recipient (c : LoopbackCapture) : Except Fault CaptureThread :=
  if !c.holdsSender then .error notOpen
  else
    match c.thread with
    | none => .error threadGone
    | some t => .ok t

/-! ## The thread -/

/-- The thread delivers what the device has queued, if a delivery is running (the polls of
`LoopbackSession::serve`). A failed call ends that delivery; a listener that crashes takes the
thread with it. -/
def pump (c : LoopbackCapture) : List Signal × LoopbackCapture :=
  match c.thread with
  | none => ([], c)
  | some t =>
    match t.delivery with
    | none => ([], c)
    | some k =>
      let r := drain t.stream.blockAlign c.listenerCrashes c.device.queue
      let device := { c.device with queue := r.queue, calls := c.device.calls ++ r.calls }
      let buffers := r.buffers.map (Signal.buffer k)
      match r.ending with
      | .emptied => (buffers, { c with device })
      | .failed detail =>
        let f := Fault.captureFault detail
        (buffers ++ [.log ⟨.error, "Loopback capture error: " ++ f.message⟩, .fault k f],
          { c with device := device.note .stopStream, thread := some { t with delivery := none } })
      | .crashed =>
        (buffers, { c with device := device.release, thread := none, listenerCrashes := false })

/-- The thread asks the device to start the stream; if it does, the delivery is running
(`LoopbackSession::begin`). -/
def beginDelivery (c : LoopbackCapture) (t : CaptureThread) (k : Nat) :
    Option String × LoopbackCapture :=
  match (c.device.note .raisePriority).ask .startStream with
  | (some e, device) => (some e, { c with device })
  | (none, device) => (none, { c with device, thread := some { t with delivery := some k } })

/-- The thread does what it is told (the commands of `LoopbackSession::serve`). A stream that does
not start is a fault of its delivery; the stream is stopped if a delivery is running; and at the end
the thread lets go of the device. -/
def obey (c : LoopbackCapture) (t : CaptureThread) : Command → List Signal × LoopbackCapture
  | .start k =>
    let (refusal, c) := c.beginDelivery t k
    let (signals, c) := c.pump
    match refusal with
    | some e => (.fault k (.captureFault ("IAudioClient::Start failed: " ++ e)) :: signals, c)
    | none => (signals, c)
  | .stop =>
    let device := if t.delivery.isSome then c.device.note .stopStream else c.device
    ([], { c with device, thread := some { t with delivery := none } })
  | .close =>
    ([.log ⟨.debug, "Loopback capture thread exiting"⟩],
      { c with device := c.device.release, thread := none })

/-- The device queues packets. -/
def enqueue (c : LoopbackCapture) (packets : List Packet) : List Signal × LoopbackCapture :=
  { c with device := { c.device with queue := c.device.queue ++ packets } }.pump

/-- Time passes: packets arrive. -/
def idle (c : LoopbackCapture) : List Signal × LoopbackCapture :=
  match c.device.arrivals with
  | [] => c.pump
  | packets :: later => { c with device := { c.device with arrivals := later } }.enqueue packets

/-! ## Calls -/

/-- Start a thread that binds the device (`WasapiLoopbackCapture::open`). -/
def openDevice (c : LoopbackCapture) : Reply LoopbackCapture AudioFormat :=
  if c.holdsSender then c.refuse alreadyOpen
  else
    match c.device.ask .joinApartment with
    | (some e, device) =>
      { c with device }.refuse (.deviceUnavailable ("CoInitializeEx failed: " ++ e))
    | (none, device) =>
      match device.bindLoopback with
      | (.refused f, device) => { c with device := device.note .leaveApartment }.refuse f
      | (.crashed, device) =>
        { c with device := device.note .leaveApartment }.refuse
          (.deviceUnavailable "loopback capture thread exited during open")
      | (.bound s, device) =>
        { result := .ok s.format
          signals := [.log ⟨.debug, "Loopback bound to " ++ Text.quotedOption s.deviceName ++ " (" ++
            s.format.describe ++ ")"⟩]
          source :=
            { c with device, deviceName := s.deviceName, holdsSender := true, holdsThread := true,
                     thread := some { stream := s } } }

/-- The thread is told to start (`WasapiLoopbackCapture::start`). A stream that does not start is no
failure of the call. -/
def start (k : Nat) (c : LoopbackCapture) : Reply LoopbackCapture Unit :=
  if c.delivering then c.refuse alreadyRunning
  else
    match c.recipient with
    | .error f => c.refuse f
    | .ok t =>
      let (signals, c) := { c with delivering := true }.obey t (.start k)
      { result := .ok (), signals, source := c }

/-- The thread is told to stop, if it was told to start (`WasapiLoopbackCapture::stop`). -/
def stop (c : LoopbackCapture) : Reply LoopbackCapture Unit :=
  if !c.delivering then { result := .ok (), source := c }
  else
    let c := { c with delivering := false }
    match c.recipient with
    | .error f => c.refuse f
    | .ok t =>
      let (signals, c) := c.obey t .stop
      { result := .ok (), signals, source := c }

/-- Stop, then tell the thread to end, and wait for that (`WasapiLoopbackCapture::close`). A handle
without a thread is that of one that crashed. -/
def closeDevice (c : LoopbackCapture) : Reply LoopbackCapture Unit :=
  let stopped := c.stop
  match stopped.result with
  | .error f => { stopped with result := .error f }
  | .ok () =>
    let c := stopped.source
    let (signals, c) : List Signal × LoopbackCapture :=
      match c.thread with
      | some t => c.obey t .close
      | none =>
        (if c.holdsThread then [.log ⟨.error, "Loopback capture thread panicked"⟩] else [], c)
    { result := .ok ()
      signals := stopped.signals ++ signals
      source := { c with holdsSender := false, holdsThread := false } }

/-- A capture that is given up is closed (`WasapiLoopbackCapture::drop`). -/
def discard (c : LoopbackCapture) : List Signal × LoopbackCapture :=
  let r := c.closeDevice
  (r.signals, r.source)

end LoopbackCapture

instance : CaptureSource LoopbackCapture where
  openDevice := LoopbackCapture.openDevice
  start := LoopbackCapture.start
  stop := LoopbackCapture.stop
  closeDevice := LoopbackCapture.closeDevice
  deviceName c := c.deviceName
  idle := LoopbackCapture.idle
  discard := LoopbackCapture.discard

end AirLoop
