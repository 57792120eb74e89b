/-!
# Audio buffers (`raop_sender_core::models::audio_models`)

One delivery of the capture subsystem: a block of bytes, of which only a first part holds audio.
-/

namespace AirLoop

/-- A block of bytes whose first `valid` bytes hold audio (`AudioBuffer`). -/
structure AudioBuffer where
  data : List UInt8
  valid : Nat
  valid_le : valid ≤ data.length
  deriving DecidableEq

namespace AudioBuffer

/-- A buffer over `data`; a claim of more valid bytes than there are is cut to all of them
(`AudioBuffer::new`). -/
def ofData (data : List UInt8) (valid : Nat) : AudioBuffer :=
  ⟨data, min valid data.length, Nat.min_le_right _ _⟩

/-- A buffer all of whose bytes hold audio (`AudioBuffer::full`). -/
def full (data : List UInt8) : AudioBuffer :=
  ⟨data, data.length, Nat.le_refl _⟩

/-- Length of the whole block (`AudioBuffer::capacity`). -/
def capacity (b : AudioBuffer) : Nat := b.data.length

/-- No byte holds audio (`AudioBuffer::is_empty`). -/
def isEmpty (b : AudioBuffer) : Bool := b.valid = 0

/-- The bytes that hold audio (`AudioBuffer::bytes`). -/
def bytes (b : AudioBuffer) : List UInt8 := b.data.take b.valid

@[simp] theorem length_bytes (b : AudioBuffer) : b.bytes.length = b.valid := by
  simp [bytes, List.length_take, Nat.min_eq_left b.valid_le]

theorem full_eq_ofData (data : List UInt8) : full data = ofData data data.length := by
  simp [full, ofData]

theorem bytes_ofData (data : List UInt8) (valid : Nat) :
    (ofData data valid).bytes = data.take valid := by
  simp only [bytes, ofData]
  rw [List.take_eq_take_iff]
  omega

end AudioBuffer

end AirLoop
