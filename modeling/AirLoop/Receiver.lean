import AirLoop.Json.Value
import AirLoop.Json.Record
import AirLoop.Net.AddressReader
import AirLoop.Audio.Format
import AirLoop.Audio.Level

/-!
# Records and their JSON form (`raop_sender_core::models::device`)

A receiver found on the network, and the compact JSON text of receivers, audio formats and readings
with the readers that take receivers and formats back.
-/

namespace AirLoop

/-- A receiver found by one discovery sweep (`DeviceRecord`). -/
structure Receiver where
  displayName : String
  address : IpAddress
  port : UInt16 := 0
  hostName : String := ""
  deriving DecidableEq

/-! ## Receivers -/

namespace Receiver

/-- A receiver on a status line (`DeviceRecord::fmt`). -/
def describe (r : Receiver) : String := s!"{r.displayName} ({r.address.render})"

/-- The JSON form of a receiver. -/
def toJson (r : Receiver) : JsonValue :=
  .object
    [("display_name", .text r.displayName), ("address", .text r.address.render),
      ("port", .natural r.port.toNat), ("host_name", .text r.hostName)]

/-- The fields of a receiver. -/
def fields : List (String × FieldKind) :=
  [("display_name", .text fun _ => true), ("address", .text fun s => (IpAddress.parse? s).isSome),
    ("port", .natural 16), ("host_name", .text fun _ => true)]

/-- The receiver with these values of its fields. -/
def ofValues : List FieldValue → Except ReadError Receiver
  | [.text name, .text address, .natural port, .text host] =>
    match IpAddress.parse? address with
    | some a => .ok ⟨name, a, UInt16.ofNat port, host⟩
    | none => .error .mismatched
  | _ => .error .mismatched

/-- The receiver written in a JSON text. -/
def ofJson (text : String) : Except ReadError Receiver :=
  Json.readRecord fields text.toList >>= ofValues

end Receiver

/-! ## Audio formats -/

namespace AudioFormat

/-- The JSON form of a format. -/
def toJson (f : AudioFormat) : JsonValue :=
  .object
    [("sample_rate_hz", .natural f.sampleRateHz.toNat),
      ("bits_per_sample", .natural f.bitsPerSample.toNat),
      ("channel_count", .natural f.channelCount.toNat)]

/-- The fields of a format. -/
def fields : List (String × FieldKind) :=
  [("sample_rate_hz", .natural 32), ("bits_per_sample", .natural 16), ("channel_count", .natural 16)]

/-- The format with these values of its fields. -/
def ofValues : List FieldValue → Except ReadError AudioFormat
  | [.natural rate, .natural bits, .natural channels] =>
    .ok ⟨UInt32.ofNat rate, UInt16.ofNat bits, UInt16.ofNat channels⟩
  | _ => .error .mismatched

/-- The format written in a JSON text. -/
def ofJson (text : String) : Except ReadError AudioFormat :=
  Json.readRecord fields text.toList >>= ofValues

end AudioFormat

/-! ## Readings -/

/-- The JSON form of a reading. -/
def LevelReading.toJson (r : LevelReading) : JsonValue :=
  .object [("peak_magnitude", Json.ofBinary32 r.peak)]

end AirLoop
