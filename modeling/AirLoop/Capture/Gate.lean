import AirLoop.Capture.Pipeline

/-!
# The gate and the signals of a source

Only the operations of a pipeline move its gate. Nothing that a source reports does, so that every
buffer of one batch of signals meets the same gate (`gateOpen_receiveAll`).
-/

namespace AirLoop.Pipeline

variable {σ : Type}

theorem closeGate_of_shut {p : Pipeline σ} (h : p.gateOpen = false) : p.closeGate = p := by
  cases p
  simp_all [closeGate]

/-! ## Faults -/

@[simp] theorem gateOpen_raise (p : Pipeline σ) (k : Nat) (f : Fault) :
    (p.raise k f).gateOpen = p.gateOpen := by
  unfold raise note; grind

@[simp] theorem diagnostics_raise (p : Pipeline σ) (k : Nat) (f : Fault) :
    (p.raise k f).diagnostics = p.diagnostics := by
  unfold raise note; grind

/-! ## Forwarded buffers -/

@[simp] theorem gateOpen_forward (p : Pipeline σ) (k : Nat) (d : Delivery) (b : AudioBuffer) :
    (p.forward k d b).gateOpen = p.gateOpen := by
  unfold forward; dsimp only; split <;> simp [log, note]

@[simp] theorem diagnostics_forward (p : Pipeline σ) (k : Nat) (d : Delivery) (b : AudioBuffer) :
    (p.forward k d b).diagnostics = countDelivered p.diagnostics b := by
  unfold forward; dsimp only; split <;> simp [log, note]

/-! ## Signals -/

@[simp] theorem gateOpen_receive (p : Pipeline σ) (s : Signal) :
    (p.receive s).gateOpen = p.gateOpen := by
  cases s with
  | buffer k b => simp only [receive, receiveBuffer]; grind [note, gateOpen_forward]
  | fault k f => simp [receive, note]
  | log l => simp [receive, note]

@[simp] theorem receiveAll_cons (p : Pipeline σ) (s : Signal) (xs : List Signal) :
    p.receiveAll (s :: xs) = (p.receive s).receiveAll xs := rfl

@[simp] theorem gateOpen_receiveAll (p : Pipeline σ) (xs : List Signal) :
    (p.receiveAll xs).gateOpen = p.gateOpen := by
  induction xs generalizing p with
  | nil => rfl
  | cons s xs ih => rw [receiveAll_cons, ih, gateOpen_receive]

end AirLoop.Pipeline
