import AirLoop.Loopback.Device

/-!
# Loopback streams (`raop_sender_windows::wasapi_loopback`)

Binding to what the default output device is playing, fetching its packets, and letting go of it.
-/

namespace AirLoop

/-- A stream that a capture thread is bound to (`LoopbackSession`). -/
structure LoopbackStream where
  format : AudioFormat
  /-- bytes in a frame -/
  blockAlign : UInt16
  deviceName : Option String
  deriving DecidableEq

/-! ## Binding -/

/-- How binding to a device ends. -/
inductive Binding where
  | bound (s : LoopbackStream)
  | refused (f : Fault)
  /-- the thread is gone -/
  | crashed
  deriving DecidableEq

namespace AudioDevice

/-- The device's name, if it can be read (`friendly_name`). A property that was read is cleared,
whatever it holds. -/
def friendlyName (d : AudioDevice) : Option String × AudioDevice :=
  match d.ask .openProperties with
  | (some _, d) => (none, d)
  | (none, d) =>
    match d.ask .readName with
    | (some _, d) => (none, d)
    | (none, d) => ((d.nameProperty d.calls).name?, d.note .clearName)

/-- Set up the stream of an activated device (the second half of `LoopbackSession::bind`). The mix
format is freed if that fails. -/
def configureStream (d : AudioDevice) (name : Option String) : Binding × AudioDevice :=
  match d.ask .mixFormat with
  | (some e, d) => (.refused (.deviceUnavailable ("GetMixFormat failed: " ++ e)), d)
  | (none, d) =>
    let mix := d.mixFormat d.calls
    match d.ask (.configure mix.format mix.blockAlign) with
    | (some e, d) =>
      (.refused (.deviceUnavailable ("IAudioClient::Initialize (loopback) failed: " ++ e)),
        d.note .freeMixFormat)
    | (none, d) =>
      match d.ask .captureService with
      | (some e, d) =>
        (.refused (.deviceUnavailable ("GetService failed: " ++ e)), d.note .freeMixFormat)
      | (none, d) => (.bound ⟨mix.format, mix.blockAlign, name⟩, d)

/-- Bind to what the default output device is playing (`LoopbackSession::bind`). -/
def bindLoopback (d : AudioDevice) : Binding × AudioDevice :=
  match d.ask .createEnumerator with
  | (some e, d) => (.refused (.deviceUnavailable ("failed to create enumerator: " ++ e)), d)
  | (none, d) =>
    match d.ask .defaultEndpoint with
    | (some _, d) => (.refused (.deviceUnavailable "no default output device"), d)
    | (none, d) =>
      let (name, d) := d.friendlyName
      if d.crashesOnActivation d.calls then (.crashed, d)
      else
        match d.ask .activate with
        | (some e, d) => (.refused (.deviceUnavailable ("access to output device denied: " ++ e)), d)
        | (none, d) => d.configureStream name

/-- Let go of a bound stream and leave the audio interface (`LoopbackSession::drop`). -/
def release (d : AudioDevice) : AudioDevice :=
  d.note .stopStream |>.note .freeMixFormat |>.note .leaveApartment

end AudioDevice

/-! ## Fetching packets -/

/-- How fetching the queued packets ends. -/
inductive DrainEnd where
  | emptied
  /-- a call failed -/
  | failed (detail : String)
  /-- the listener took the thread down -/
  | crashed
  deriving DecidableEq

/-- What fetching the queued packets leaves. -/
structure Drained where
  buffers : List AudioBuffer := []
  calls : List AudioCall := []
  queue : List Packet := []
  ending : DrainEnd := .emptied
  deriving DecidableEq

namespace Drained

/-- The same after earlier calls and buffers. -/
def after (calls : List AudioCall) (buffers : List AudioBuffer) (r : Drained) : Drained :=
  { r with calls := calls ++ r.calls, buffers := buffers ++ r.buffers }

end Drained

/-- Exactly `n` bytes: cut off, or filled up with zeros. -/
def fitBytes (n : Nat) (bs : List UInt8) : List UInt8 :=
  bs.take n ++ List.replicate (n - bs.length) 0

/-- The buffer that a packet is delivered as: all its frames, or that many zeros if it is flagged as
silence; a packet without frames or without a pointer is not delivered. -/
def Packet.buffer? (p : Packet) (blockAlign : UInt16) : Option AudioBuffer :=
  match p.content with
  | none => none
  | some bs =>
    if p.frames = 0 then none
    else
      let n := p.frames.toNat * blockAlign.toNat
      some (.full (if p.silent then List.replicate n 0 else fitBytes n bs))

/-- Fetch and deliver the queued packets until there is none, one is announced without frames, or a
call fails (`LoopbackSession::drain`). A packet is gone from the queue once it was fetched, or
failed to be. A listener that crashes does so on the first buffer, before its packet is given
back. -/
def drain (blockAlign : UInt16) (listenerCrashes : Bool) : List Packet → Drained
  | [] => { calls := [.nextPacketSize] }
  | p :: rest =>
    match p.sizeFailure with
    | some e =>
      { calls := [.nextPacketSize], queue := rest, ending := .failed ("GetNextPacketSize failed: " ++ e) }
    | none =>
      if p.announced = 0 then { calls := [.nextPacketSize], queue := p :: rest }
      else
        match p.bufferFailure with
        | some e =>
          { calls := [.nextPacketSize, .getBuffer], queue := rest,
            ending := .failed ("GetBuffer failed: " ++ e) }
        | none =>
          let buffers := (p.buffer? blockAlign).toList
          if listenerCrashes ∧ buffers ≠ [] then
            { calls := [.nextPacketSize, .getBuffer], buffers, queue := rest, ending := .crashed }
          else
            let calls := [.nextPacketSize, .getBuffer, .releaseBuffer p.frames]
            match p.releaseFailure with
            | some e =>
              { calls, buffers, queue := rest, ending := .failed ("ReleaseBuffer failed: " ++ e) }
            | none => (drain blockAlign listenerCrashes rest).after calls buffers

end AirLoop
