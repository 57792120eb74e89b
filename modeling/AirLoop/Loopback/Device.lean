import AirLoop.Audio.Buffer
import AirLoop.Audio.Format
import AirLoop.Fault
import AirLoop.Text.Utf16

/-!
# The audio device behind a loopback capture (`raop_sender_windows::device_enumerator`)

The calls of the host's audio interface, and a device as those calls find it: each may be refused,
depending on all the calls before it, and the device queues packets of audio.
-/

namespace AirLoop

/-! ## Calls -/

/-- A call of the audio interface. -/
inductive AudioCall where
  | joinApartment
  | createEnumerator
  | defaultEndpoint
  | openProperties
  | readName
  | clearName
  | activate
  | mixFormat
  | configure (format : AudioFormat) (blockAlign : UInt16)
  | captureService
  | raisePriority
  | startStream
  | nextPacketSize
  | getBuffer
  | releaseBuffer (frames : UInt32)
  | stopStream
  | freeMixFormat
  | leaveApartment
  deriving DecidableEq

/-- Share mode, loopback and no-persistence flags, buffer length in units of 100 nanoseconds, and
period of a stream. -/
def streamParameters : String := "0 655360 1000000 0"

/-- A call with its arguments, under its name in the interface. -/
def AudioCall.describe : AudioCall → String
  | joinApartment => "CoInitializeEx 0"
  | createEnumerator => "CoCreateInstance 23"
  | defaultEndpoint => "GetDefaultAudioEndpoint 0 0"
  | openProperties => "OpenPropertyStore"
  | readName => "GetValue"
  | clearName => "PropVariantClear"
  | activate => "Activate"
  | mixFormat => "GetMixFormat"
  | configure f align =>
    s!"Initialize {streamParameters} {f.sampleRateHz.toNat}/{f.bitsPerSample.toNat}/{f.channelCount.toNat}/{align.toNat}"
  | captureService => "GetService"
  | raisePriority => "AvSetMmThreadCharacteristics Pro Audio 0"
  | startStream => "Start"
  | nextPacketSize => "GetNextPacketSize"
  | getBuffer => "GetBuffer"
  | releaseBuffer frames => s!"ReleaseBuffer {frames.toNat}"
  | stopStream => "Stop"
  | freeMixFormat => "CoTaskMemFree"
  | leaveApartment => "CoUninitialize"

/-! ## Answers -/

/-- The format in which the device mixes, and the bytes in one frame of it. -/
structure MixFormat where
  format : AudioFormat
  blockAlign : UInt16
  deriving DecidableEq

/-- The property that holds a device's name. -/
inductive NameProperty where
  /-- a text, as the units that its pointer leads to -/
  | text (units : List UInt16)
  /-- a text without a pointer -/
  | missing
  /-- no text -/
  | otherKind
  deriving DecidableEq

/-- The name in a property: the units before the first zero. -/
def NameProperty.name? : NameProperty → Option String
  | text units => some (String.ofList (Utf16.decode (units.takeWhile (· ≠ 0))))
  | missing => none
  | otherKind => none

/-- A packet of audio and how the calls for it go: its announcement, fetching it, giving it back. -/
structure Packet where
  /-- frames announced beforehand -/
  announced : UInt32
  frames : UInt32
  /-- flagged as silence, whatever its bytes are -/
  silent : Bool := false
  /-- its bytes, if there is a pointer to them -/
  content : Option (List UInt8)
  sizeFailure : Option String := none
  bufferFailure : Option String := none
  releaseFailure : Option String := none
  deriving DecidableEq

/-- An audio device. What it answers may depend on the calls made so far. -/
structure AudioDevice where
  /-- the failure, if any, of a call -/
  refusal : List AudioCall → AudioCall → Option String
  mixFormat : List AudioCall → MixFormat
  nameProperty : List AudioCall → NameProperty
  /-- activation takes down the thread that asks for it -/
  crashesOnActivation : List AudioCall → Bool
  /-- packets waiting to be fetched -/
  queue : List Packet := []
  /-- packets of the times between calls -/
  arrivals : List (List Packet) := []
  /-- calls made so far -/
  calls : List AudioCall := []

namespace AudioDevice

/-- The device after a call whose result nobody looks at. -/
def note (d : AudioDevice) (c : AudioCall) : AudioDevice := { d with calls := d.calls ++ [c] }

/-- A call and its failure, if it has one. -/
def ask (d : AudioDevice) (c : AudioCall) : Option String × AudioDevice :=
  (d.refusal d.calls c, d.note c)

end AudioDevice

end AirLoop
