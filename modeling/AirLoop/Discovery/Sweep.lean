import AirLoop.Discovery.InstanceName
import AirLoop.Receiver
import AirLoop.Fault
import AirLoop.Log
import AirLoop.Text.Quoted
import AirLoop.Time.Duration

/-!
# Discovery sweeps (`raop_sender_core::discovery::mdns`)

One look around the local network by multicast DNS: browse for a service type until a deadline, keep
every instance that resolves, and shut the daemon down again.
-/

namespace AirLoop

/-! ## What a sweep keeps -/

/-- An instance that was resolved (`ResolvedService`). -/
structure Resolution where
  fullname : String
  hostName : String
  port : UInt16
  /-- in no order that means anything -/
  addresses : List String
  deriving DecidableEq

/-- The lowest IPv4 address if there is one, else the lowest address (`preferred_address`). -/
def preferredAddress? (addresses : List IpAddress) : Option IpAddress :=
  match addresses.filter IpAddress.isV4 with
  | [] => IpAddress.lowest? addresses
  | a :: rest => IpAddress.lowest? (a :: rest)

/-- The receivers of a sweep so far, in the order in which they came, with the full names that they
were taken from, and the log (`Sweep`). -/
structure Sweep where
  serviceType : String
  seen : List String := []
  devices : List Receiver := []
  log : List LogLine := []

namespace Sweep

/-- The sweep after a debug line. -/
def debug (s : Sweep) (text : String) : Sweep := { s with log := s.log ++ [⟨.debug, text⟩] }

/-- A resolved instance is kept once, the first time that it has a usable address
(`Sweep::accept`). -/
def accept (s : Sweep) (r : Resolution) : Sweep :=
  if r.fullname ∈ s.seen then s
  else
    match preferredAddress? (r.addresses.filterMap IpAddress.parse?) with
    | none => s.debug s!"Skipping {r.fullname}: no usable address"
    | some address =>
      let device : Receiver := ⟨displayName r.fullname s.serviceType, address, r.port, r.hostName⟩
      { s.debug
          s!"Found receiver {device.displayName} at {address.render}:{device.port.toNat}" with
        seen := s.seen ++ [r.fullname]
        devices := s.devices ++ [device] }

end Sweep

/-! ## The network -/

/-- What a browsing daemon tells. -/
inductive BrowseEvent where
  | resolved (r : Resolution)
  | found (serviceType fullname : String)
  | removed (serviceType fullname : String)
  | searchStarted (serviceType : String)
  | searchStopped (serviceType : String)
  deriving DecidableEq

/-- An event in a log line. -/
def BrowseEvent.describe : BrowseEvent → String
  | resolved r => "ServiceResolved(" ++ Text.quoted r.fullname ++ ")"
  | found t n => "ServiceFound(" ++ Text.quoted t ++ ", " ++ Text.quoted n ++ ")"
  | removed t n => "ServiceRemoved(" ++ Text.quoted t ++ ", " ++ Text.quoted n ++ ")"
  | searchStarted t => "SearchStarted(" ++ Text.quoted t ++ ")"
  | searchStopped t => "SearchStopped(" ++ Text.quoted t ++ ")"

/-- The sweep after an event: an instance that resolves may be kept, and all else is only logged. -/
def Sweep.hear (s : Sweep) : BrowseEvent → Sweep
  | .resolved r => s.accept r
  | other => s.debug ("mDNS event: " ++ other.describe)

/-- One wait for an event: how long it takes, and the event unless the wait fails. -/
structure Reception where
  takes : Duration := ⟨0⟩
  event : Option BrowseEvent
  deriving DecidableEq

/-- The network as a sweep meets it: which calls on the daemon fail, what comes in, and the reading
of the clock that the deadline is set by. -/
structure Network where
  daemonFailure : Option String := none
  browseFailure : Option String := none
  stopFailure : Option String := none
  shutdownFailure : Option String := none
  receptions : List Reception := []
  clock : Duration := ⟨0⟩
  deriving DecidableEq

/-- A call on the daemon. -/
inductive DaemonCall where
  | create
  | browse (serviceType : String)
  | stopBrowse (serviceType : String)
  | shutdown
  deriving DecidableEq

/-- A step of a look around. -/
inductive DaemonStep where
  /-- the daemon was called, and failed or not -/
  | called (call : DaemonCall) (failure : Option String)
  /-- an event was waited for, at most so long, and came or not -/
  | awaited (limit : Duration) (event : Option BrowseEvent)
  deriving DecidableEq

namespace DaemonStep

/-- The call on the daemon, if the step is one. -/
def call? : DaemonStep → Option DaemonCall
  | called call _ => some call
  | awaited .. => none

/-- The calls on the daemon among some steps. -/
def calls (steps : List DaemonStep) : List DaemonCall := steps.filterMap call?

@[simp] theorem calls_nil : calls [] = [] := rfl

@[simp] theorem calls_called (call : DaemonCall) (failure : Option String)
    (steps : List DaemonStep) : calls (called call failure :: steps) = call :: calls steps := rfl

@[simp] theorem calls_awaited (limit : Duration) (event : Option BrowseEvent)
    (steps : List DaemonStep) : calls (awaited limit event :: steps) = calls steps := rfl

@[simp] theorem calls_append (xs ys : List DaemonStep) : calls (xs ++ ys) = calls xs ++ calls ys :=
  List.filterMap_append

end DaemonStep

/-- How a look around ends. -/
inductive DiscoveryEnd where
  | found (devices : List Receiver)
  | failed (f : Fault)
  /-- there is no such deadline -/
  | deadlineOverflow
  deriving DecidableEq

/-- A look around: how it ended, its steps, and the log. -/
structure Discovery where
  ending : DiscoveryEnd
  steps : List DaemonStep
  log : List LogLine
  deriving DecidableEq

/-- The calls on the daemon. -/
def Discovery.calls (d : Discovery) : List DaemonCall := DaemonStep.calls d.steps

/-- Seconds at which the clock ends. -/
def clockLimit : Nat := 2 ^ 63

namespace Network

/-- Wait for events and take them in until the deadline, or until a wait fails, as it does when
nothing more comes in (the loop of `MdnsDirectory::discover`). An event that comes after the
deadline, in a wait begun before it, still counts. -/
def collect (timeout elapsed : Nat) (s : Sweep) : List Reception → Sweep × List DaemonStep
  | [] => (s, if timeout ≤ elapsed then [] else [.awaited ⟨timeout - elapsed⟩ none])
  | r :: rest =>
    if timeout ≤ elapsed then (s, [])
    else
      let wait := DaemonStep.awaited ⟨timeout - elapsed⟩ r.event
      match r.event with
      | none => (s, [wait])
      | some e =>
        let (s, steps) := collect timeout (elapsed + r.takes.nanos) (s.hear e) rest
        (s, wait :: steps)

section
variable {timeout elapsed : Nat} {r : Reception}

/-- Nothing is waited for after the deadline. -/
theorem collect_over (h : timeout ≤ elapsed) (s : Sweep) (rs : List Reception) :
    collect timeout elapsed s rs = (s, []) := by
  cases rs <;> simp [collect, h]

theorem collect_nil (h : elapsed < timeout) (s : Sweep) :
    collect timeout elapsed s [] = (s, [.awaited ⟨timeout - elapsed⟩ none]) := by
  simp [collect, Nat.not_le.2 h]

theorem collect_failed (h : elapsed < timeout) (hr : r.event = none) (s : Sweep)
    (rest : List Reception) :
    collect timeout elapsed s (r :: rest) = (s, [.awaited ⟨timeout - elapsed⟩ none]) := by
  simp [collect, Nat.not_le.2 h, hr]

theorem collect_come (h : elapsed < timeout) {e : BrowseEvent} (hr : r.event = some e) (s : Sweep)
    (rest : List Reception) :
    let later := collect timeout (elapsed + r.takes.nanos) (s.hear e) rest
    collect timeout elapsed s (r :: rest) =
      (later.1, .awaited ⟨timeout - elapsed⟩ (some e) :: later.2) := by
  simp [collect, Nat.not_le.2 h, hr]

end

/-- To wait for events is not to call the daemon. -/
@[simp] theorem calls_collect (timeout elapsed : Nat) (s : Sweep) (rs : List Reception) :
    DaemonStep.calls (collect timeout elapsed s rs).2 = [] := by
  fun_induction collect timeout elapsed s rs with
  | case1 => dsimp only; split <;> rfl
  | case2 | case3 => rfl
  | case4 elapsed s r rest h wait e hr kept steps hc ih =>
    rw [hc] at ih
    exact ih

/-- The log line of a clean-up call that fails. -/
def complaint (what : String) : Option String → List LogLine
  | none => []
  | some e => [⟨.debug, what ++ ": " ++ e⟩]

/-- Look around for receivers of a service type (`MdnsDirectory::discover`). Whatever happens after
browsing has begun, the browse is stopped and the daemon shut down, and failures of those two are
only logged. -/
def discover (n : Network) (serviceType : String) (timeout : Duration) : Discovery :=
  let created : DaemonStep := .called .create n.daemonFailure
  let browsed : DaemonStep := .called (.browse serviceType) n.browseFailure
  let shutDown : DaemonStep := .called .shutdown n.shutdownFailure
  let shutdownLog := complaint "mDNS daemon shutdown failed" n.shutdownFailure
  match n.daemonFailure with
  | some e => ⟨.failed (.discoveryFailure ("mDNS daemon failed to start: " ++ e)), [created], []⟩
  | none =>
    match n.browseFailure with
    | some e =>
      ⟨.failed (.discoveryFailure s!"browse for {serviceType} failed: {e}"),
        [created, browsed, shutDown], shutdownLog⟩
    | none =>
      let begin : LogLine := ⟨.debug, s!"Browsing for {serviceType} ({timeout.describe})"⟩
      if clockLimit ≤ (⟨n.clock.nanos + timeout.nanos⟩ : Duration).wholeSeconds then
        ⟨.deadlineOverflow, [created, browsed], [begin]⟩
      else
        let (s, waits) := collect timeout.nanos 0 { serviceType } n.receptions
        ⟨.found s.devices,
          created :: browsed :: waits ++
            [.called (.stopBrowse serviceType) n.stopFailure, shutDown],
          begin :: s.log ++ complaint "stop_browse failed" n.stopFailure ++ shutdownLog⟩

end Network

/-- Text of a crash for want of a deadline. -/
def deadlineOverflowText : String := "overflow when adding duration to instant"

end AirLoop
