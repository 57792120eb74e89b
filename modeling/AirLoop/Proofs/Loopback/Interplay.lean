import AirLoop.Loopback.Capture
import AirLoop.Loopback.Simulation
import AirLoop.Proofs.Capture.Standing
import Mathlib.Logic.Relation

/-!
# The caller and the thread of a loopback capture, side by side

A call on a loopback capture does not do its work: it sends commands to the thread, and only a halt
waits for an answer. Meanwhile the thread goes its rounds, each made of a command or of nothing, and
of the fetching of packets if a delivery is running. Here the two sides take their steps in any
order, with the commands in flight between them, and the device may have any packets at any time.

A round is what the thread does when it is told (`LoopbackCapture.obey`) or left alone
(`LoopbackCapture.pump`). What it is going to report of it waits in `Interplay.pending` and is
reported one by one, so that the caller can go on in the middle of a round.
-/

namespace AirLoop

/-! ## Histories -/

/-- A call on a loopback capture. A start has the number of its delivery. -/
inductive LoopbackCall where
  | openDevice
  | start (delivery : Nat)
  | stop | closeDevice | discard
  deriving DecidableEq

namespace LoopbackCall

/-- The call waits until nothing is delivered any more. -/
def halts : LoopbackCall → Bool
  | stop | closeDevice | discard => true
  | openDevice | start _ => false

/-- The call also ends the thread. -/
def ends : LoopbackCall → Bool
  | closeDevice | discard => true
  | openDevice | start _ | stop => false

end LoopbackCall

/-- What happens between the caller and the thread. -/
inductive LoopbackEvent where
  /-- the caller sent a command -/
  | sent (command : Command)
  /-- the device was asked to start the stream for a delivery, and refused or not -/
  | asked (delivery : Nat) (refusal : Option String)
  /-- packets were fetched for a delivery, to this end -/
  | fetched (delivery : Nat) (ending : DrainEnd)
  /-- the thread called back, or wrote to the log -/
  | signalled (s : Signal)
  /-- a call returned, and failed or not -/
  | returned (call : LoopbackCall) (failure : Option Fault)
  deriving DecidableEq

/-- What happened, the earliest first. -/
abbrev LoopbackHistory := List LoopbackEvent

/-- The delivery whose callback is invoked, if one is. -/
def LoopbackEvent.callback? : LoopbackEvent → Option Nat
  | signalled (.buffer k _) | signalled (.fault k _) => some k
  | _ => none

/-- The event is one of the thread's. -/
def LoopbackEvent.ofThread : LoopbackEvent → Bool
  | asked .. | fetched .. | signalled _ => true
  | sent _ | returned .. => false

/-! ## Rounds of the thread -/

namespace LoopbackCapture

/-- To what end packets are going to be fetched, if a delivery is running. -/
def fetching (c : LoopbackCapture) : LoopbackHistory :=
  match c.thread with
  | some ⟨stream, some k⟩ =>
    [.fetched k (drain stream.blockAlign c.listenerCrashes c.device.queue).ending]
  | _ => []

/-- A round without a command. -/
def idleRound (c : LoopbackCapture) : LoopbackHistory × LoopbackCapture :=
  (c.fetching ++ c.pump.1.map .signalled, c.pump.2)

/-- A round on a command. -/
def round (c : LoopbackCapture) (t : CaptureThread) (command : Command) :
    LoopbackHistory × LoopbackCapture :=
  let work : LoopbackHistory :=
    match command with
    | .start k =>
      let (refusal, c) := c.beginDelivery t k
      .asked k refusal :: c.fetching
    | .stop | .close => []
  (work ++ (c.obey t command).1.map .signalled, (c.obey t command).2)

/-- Why a start is refused, if it is. -/
def startRefusal (c : LoopbackCapture) : Option Fault :=
  if c.delivering then some alreadyRunning
  else
    match c.recipient with
    | .error f => some f
    | .ok _ => none

/-- The close command goes to a thread that is there. -/
def farewell (c : LoopbackCapture) : List Command :=
  if c.holdsSender ∧ c.thread.isSome then [.close] else []

end LoopbackCapture

/-! ## Both sides -/

/-- What the caller is in the middle of. -/
inductive Errand where
  | free
  /-- a start, which was sent -/
  | starting (delivery : Nat)
  /-- a call that waits for the thread to stop -/
  | halting (call : LoopbackCall)
  /-- a call that waits for the thread to end -/
  | joining (call : LoopbackCall)
  deriving DecidableEq

/-- A capture whose caller and thread go on side by side. -/
structure Interplay where
  capture : LoopbackCapture
  /-- commands that were sent and not yet received -/
  commands : List Command := []
  /-- the thread has acknowledged a stop for which the caller still waits -/
  acknowledged : Bool := false
  /-- what is still to be reported of the thread's round -/
  pending : LoopbackHistory := []
  errand : Errand := .free
  /-- start calls so far -/
  starts : Nat := 0
  /-- the capture was given up, and there are no more calls -/
  discarded : Bool := false
  history : LoopbackHistory := []

namespace Interplay

variable (x : Interplay)

/-- A new capture of a device. -/
def initial (device : AudioDevice) : Interplay :=
  { capture := { device := { device with calls := [] } } }

/-- More has happened. -/
def record (events : LoopbackHistory) : Interplay := { x with history := x.history ++ events }

/-- The caller can make a call. -/
def idle : Prop := x.errand = .free ∧ x.discarded = false

/-! ### The caller -/

/-- A call to open (`WasapiLoopbackCapture::open`). The caller waits while the thread binds the
device, so that nothing comes between. -/
def openDevice : Interplay :=
  let reply := x.capture.openDevice
  { x.record (reply.signals.map .signalled ++ [.returned .openDevice reply.failure]) with
    capture := reply.source }

/-- A start that is refused. -/
def refuseStart (f : Fault) : Interplay :=
  { x.record [.returned (.start x.starts) (some f)] with starts := x.starts + 1 }

/-- A start that is sent (`WasapiLoopbackCapture::start`). -/
def sendStart : Interplay :=
  { x.record [.sent (.start x.starts)] with
    capture := { x.capture with delivering := true }
    commands := x.commands ++ [.start x.starts]
    errand := .starting x.starts
    starts := x.starts + 1 }

/-- A start returns. -/
def finishStart (k : Nat) : Interplay :=
  { x.record [.returned (.start k) none] with errand := .free }

/-- A call that halts begins. -/
def enter (call : LoopbackCall) : Interplay :=
  { x with discarded := decide (call = .discard) }

/-- The caller, in a call that halts, sends a stop (`WasapiLoopbackCapture::stop`). -/
def sendStop (call : LoopbackCall) : Interplay :=
  { x.record [.sent .stop] with
    capture := { x.capture with delivering := false }
    commands := x.commands ++ [.stop]
    errand := .halting call }

/-- The caller, in a call that halts, finds nobody to send a stop to. -/
def failStop (call : LoopbackCall) (f : Fault) : Interplay :=
  { x.record [.returned call (some f)] with capture := { x.capture with delivering := false } }

/-- Nothing is delivered any more: a stop returns, and other calls go on to end the thread. -/
def halted (call : LoopbackCall) : Interplay :=
  if call.ends then
    { x.record (x.capture.farewell.map .sent) with
      capture := { x.capture with holdsSender := false }
      commands := x.commands ++ x.capture.farewell
      errand := .joining call }
  else { x.record [.returned call none] with errand := .free }

/-- The thread has ended (the join of `WasapiLoopbackCapture::close`). -/
def joined (call : LoopbackCall) : Interplay :=
  { x.record [.returned call none] with
    capture := { x.capture with holdsThread := false }
    errand := .free }

/-- A step of the caller. -/
inductive CallerStep : Interplay → Prop where
  | openDevice : x.idle → CallerStep x.openDevice
  | refuseStart {f : Fault} : x.idle → x.capture.startRefusal = some f → CallerStep (x.refuseStart f)
  | sendStart : x.idle → x.capture.startRefusal = none → CallerStep x.sendStart
  | finishStart {k : Nat} : x.errand = .starting k → CallerStep (x.finishStart k)
  | skipStop {call : LoopbackCall} : x.idle → call.halts = true → x.capture.delivering = false →
      CallerStep ((x.enter call).halted call)
  | sendStop {call : LoopbackCall} {t : CaptureThread} : x.idle → call.halts = true →
      x.capture.delivering = true → x.capture.recipient = .ok t →
      CallerStep ((x.enter call).sendStop call)
  | failStop {call : LoopbackCall} {f : Fault} : x.idle → call.halts = true →
      x.capture.delivering = true → x.capture.recipient = .error f →
      CallerStep ((x.enter call).failStop call f)
  /-- a thread that is gone does not acknowledge, but the wait for it is over as well -/
  | halted {call : LoopbackCall} : x.errand = .halting call →
      x.acknowledged = true ∨ x.capture.thread = none →
      CallerStep ({ x with acknowledged := false }.halted call)
  | joined {call : LoopbackCall} : x.errand = .joining call → x.capture.thread = none →
      x.pending = [] → CallerStep (x.joined call)

/-! ### The thread -/

/-- The next thing that is to be reported is reported. -/
def report (e : LoopbackEvent) (rest : LoopbackHistory) : Interplay :=
  { x.record [e] with pending := rest }

/-- The thread goes a round on a command. -/
def receive (t : CaptureThread) (command : Command) (rest : List Command) : Interplay :=
  { x with
    capture := (x.capture.round t command).2
    pending := (x.capture.round t command).1
    commands := rest
    acknowledged := decide (command = .stop) }

/-- The thread goes a round without a command. -/
def tick : Interplay :=
  { x with capture := x.capture.idleRound.2, pending := x.capture.idleRound.1 }

/-- A step of the thread (`LoopbackSession::serve`). It begins a round when it has reported all of
the one before; it waits for a command with a limit only while a delivery is running; and without a
sender it closes. -/
inductive ThreadStep : Interplay → Prop where
  | report {e : LoopbackEvent} {rest : LoopbackHistory} : x.pending = e :: rest →
      ThreadStep (x.report e rest)
  | receive {t : CaptureThread} {command : Command} {rest : List Command} : x.pending = [] →
      x.capture.thread = some t → x.commands = command :: rest →
      ThreadStep (x.receive t command rest)
  | tick {t : CaptureThread} : x.pending = [] → x.capture.thread = some t →
      t.delivery.isSome = true → x.commands = [] → ThreadStep x.tick
  | disconnected {t : CaptureThread} : x.pending = [] → x.capture.thread = some t →
      x.commands = [] → x.capture.holdsSender = false → ThreadStep (x.receive t .close [])

/-! ### All together -/

/-- The device has these packets waiting, and those are to come later. -/
def supply (queue : List Packet) (arrivals : List (List Packet)) : Interplay :=
  { x with capture := { x.capture with device := { x.capture.device with queue, arrivals } } }

/-- A step of the caller, of the thread or of the device. -/
inductive Step : Interplay → Prop where
  | caller {y : Interplay} : x.CallerStep y → Step y
  | thread {y : Interplay} : x.ThreadStep y → Step y
  | supply (queue : List Packet) (arrivals : List (List Packet)) : Step (x.supply queue arrivals)

/-- Some steps, one after another. -/
abbrev Steps : Interplay → Interplay → Prop := Relation.ReflTransGen Step

/-- What can become of a new capture of a device. -/
def Possible (device : AudioDevice) (x : Interplay) : Prop := Steps (initial device) x

/-! ### Reporting -/

/-- All is reported. -/
def reportAll : Interplay := { x with history := x.history ++ x.pending, pending := [] }

theorem steps_reportAll (x : Interplay) : Steps x x.reportAll := by
  obtain ⟨pending, hp⟩ : ∃ pending, x.pending = pending := ⟨_, rfl⟩
  induction pending generalizing x with
  | nil =>
    have hx : x.reportAll = x := by
      rw [reportAll, hp, List.append_nil, ← hp]
    rw [hx]
  | cons e rest ih =>
    have hx : x.reportAll = (x.report e rest).reportAll := by
      simp [reportAll, report, record, hp]
    rw [hx]
    exact .head (.thread (.report hp)) (ih (x.report e rest) rfl)

/-! ### A rehearsal -/

/-- A device whose first packet cannot be fetched. -/
def falteringDevice : AudioDevice :=
  { AudioDevice.simulated {} ⟨⟨48000, 16, 2⟩, 4⟩ .missing false with
    queue := [{ announced := 1, frames := 1, content := none, bufferFailure := some "gone" }] }

/-- The stream of that device. -/
def falteringStream : LoopbackStream := ⟨⟨48000, 16, 2⟩, 4, none⟩

/-- Opened and started, and the start returned before its fault was reported. -/
def faltering : Interplay :=
  ((initial falteringDevice).openDevice.sendStart.receive ⟨falteringStream, none⟩ (.start 0) []
    |>.finishStart 0).reportAll

theorem possible_faltering : Possible falteringDevice faltering := by
  have hopened : Possible falteringDevice (initial falteringDevice).openDevice :=
    .single (.caller (.openDevice ⟨rfl, rfl⟩))
  have hsent := hopened.tail (.caller (.sendStart ⟨rfl, rfl⟩ rfl))
  have hreceived := hsent.tail (.thread (.receive rfl rfl rfl))
  exact (hreceived.tail (.caller (.finishStart rfl))).trans (steps_reportAll _)

/-- After that, discarded. -/
def discardedFaltering : Interplay :=
  let stopped :=
    ((faltering.enter .discard).sendStop .discard).receive ⟨falteringStream, none⟩ .stop []
  let told := { stopped with acknowledged := false }.halted .discard
  (told.receive ⟨falteringStream, none⟩ .close []).reportAll.joined .discard

theorem possible_discardedFaltering : Possible falteringDevice discardedFaltering := by
  have hsent : Possible falteringDevice ((faltering.enter .discard).sendStop .discard) :=
    possible_faltering.tail
      (.caller (.sendStop (t := ⟨falteringStream, none⟩) ⟨rfl, rfl⟩ rfl rfl rfl))
  have hstopped := hsent.tail (.thread (.receive (t := ⟨falteringStream, none⟩) rfl rfl rfl))
  have htold := hstopped.tail (.caller (.halted rfl (.inl rfl)))
  have hclosed := htold.tail (.thread (.receive (t := ⟨falteringStream, none⟩) rfl rfl rfl))
  exact (hclosed.trans (steps_reportAll _)).tail (.caller (.joined rfl rfl rfl))

end Interplay

end AirLoop
