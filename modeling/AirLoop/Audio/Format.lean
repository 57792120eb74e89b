/-!
# Audio formats (`raop_sender_core::models::audio_models`)

The layout of an interleaved sample stream, as the output device reports it.
-/

namespace AirLoop

/-- Sample rate, width of one sample and number of channels (`AudioFormat`). -/
structure AudioFormat where
  sampleRateHz : UInt32
  bitsPerSample : UInt16
  channelCount : UInt16
  deriving DecidableEq, Inhabited

namespace AudioFormat

/-- Bytes in one frame, a sample for every channel; bits beyond a whole byte are not counted
(`AudioFormat::bytes_per_frame`). -/
def bytesPerFrame (f : AudioFormat) : Nat :=
  f.bitsPerSample.toNat / 8 * f.channelCount.toNat

/-- Text of a format on the status line (`AudioFormat::fmt`). -/
def describe (f : AudioFormat) : String :=
  s!"{f.sampleRateHz.toNat}Hz, {f.bitsPerSample.toNat}bit, {f.channelCount.toNat}ch"

end AudioFormat

end AirLoop
