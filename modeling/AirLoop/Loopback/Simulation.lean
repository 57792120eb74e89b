import AirLoop.Loopback.Device

/-!
# Simulated audio devices

A device described by which of its calls fail.
-/

namespace AirLoop

/-- Failures of a device's calls: each text makes every call of its kind fail. -/
structure DeviceFailures where
  joinApartment : Option String := none
  createEnumerator : Option String := none
  defaultEndpoint : Option String := none
  openProperties : Option String := none
  readName : Option String := none
  activate : Option String := none
  mixFormat : Option String := none
  configure : Option String := none
  captureService : Option String := none
  startStream : Option String := none
  /-- only the first start of a stream -/
  firstStartStream : Option String := none
  deriving DecidableEq

/-- The failure of a call after the calls made so far. -/
def DeviceFailures.refusal (f : DeviceFailures) (before : List AudioCall) : AudioCall → Option String
  | .joinApartment => f.joinApartment
  | .createEnumerator => f.createEnumerator
  | .defaultEndpoint => f.defaultEndpoint
  | .openProperties => f.openProperties
  | .readName => f.readName
  | .activate => f.activate
  | .mixFormat => f.mixFormat
  | .configure _ _ => f.configure
  | .captureService => f.captureService
  | .startStream =>
    if AudioCall.startStream ∈ before then f.startStream else f.firstStartStream <|> f.startStream
  | _ => none

/-- A device with one mix format and one name. -/
def AudioDevice.simulated (failures : DeviceFailures) (mix : MixFormat) (name : NameProperty)
    (crashes : Bool) : AudioDevice :=
  { refusal := failures.refusal
    mixFormat := fun _ => mix
    nameProperty := fun _ => name
    crashesOnActivation := fun _ => crashes }

end AirLoop
