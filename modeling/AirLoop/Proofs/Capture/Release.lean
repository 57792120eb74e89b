import AirLoop.Capture.Rehearsal
import AirLoop.Proofs.Capture.Silence

/-!
# Stops and releases

To stop a pipeline again, or to release it again, is always well and does nothing, whatever the
first attempt came to (`stop_stop`, `close_close`). A release halts the delivery itself, so that a
stop just before it makes no difference (`close_stop`). It makes the calls that are left to make
(`releaseCalls`), the last of them also when the source failed to stop, and ends with the fault of
the last, or else with that of the stop (`stop_and_close_idempotent`).
-/

namespace AirLoop

/-- The calls that a pipeline in this phase makes when it is stopped and released. -/
def Phase.release : Phase → List SourceCall
  | .idle | .closed => []
  | .opened | .stopped => [.closeDevice]
  | .delivering => [.stop, .closeDevice]

/-- The fault that a release with these calls ends with: that of the release itself, and else that
of the stop. -/
def Calls.releaseFault? (made : Calls) : Option Fault :=
  (made.lookup .closeDevice).join.or (made.lookup .stop).join

namespace Pipeline

variable {σ : Type}

/-- What a pipeline has called its source for. -/
def called (p : Pipeline σ) : List SourceCall := p.standing.calls.map Prod.fst

theorem called_of_standing {p q : Pipeline σ} (h : p.standing = q.standing) :
    p.called = q.called := by
  unfold called; rw [h]

variable [CaptureSource σ] (p : Pipeline σ)

/-! ## The calls of a release -/

/-- The calls that a release makes, and how the source answers them. -/
def releaseCalls : Calls :=
  match p.phase with
  | .idle | .closed => []
  | .opened | .stopped => [(.closeDevice, (CaptureSource.closeDevice p.source).failure)]
  | .delivering =>
    let halt := CaptureSource.stop p.source
    [(.stop, halt.failure), (.closeDevice, (CaptureSource.closeDevice halt.source).failure)]

/-- They are those of its phase, whatever the source answers. -/
theorem map_fst_releaseCalls : p.releaseCalls.map Prod.fst = p.phase.release := by
  unfold releaseCalls
  cases p.phase <;> rfl

variable {p}

theorem releaseCalls_of_halted (h : p.phase = .opened ∨ p.phase = .stopped) :
    p.releaseCalls = [(.closeDevice, (CaptureSource.closeDevice p.stop.2.source).failure)] := by
  have hs : p.stop.2 = p.closeGate := by
    rcases h with h | h <;> rw [stop_halted (by rw [h]; decide)]
  unfold releaseCalls
  rw [hs]
  rcases h with h | h <;> rw [h] <;> rfl

theorem releaseCalls_of_delivering (h : p.phase = .delivering) :
    p.releaseCalls = [(.stop, (CaptureSource.stop p.source).failure),
      (.closeDevice, (CaptureSource.closeDevice p.stop.2.source).failure)] := by
  have hs : p.stop.2.source = (CaptureSource.stop p.source).source :=
    congrArg Standing.source (stop_delivering h).2
  unfold releaseCalls
  rw [h, hs]

variable (p)

theorem calls_close : p.close.2.standing.calls = p.standing.calls ++ p.releaseCalls := by
  cases h : p.phase with
  | idle =>
    rw [close_idle h, releaseCalls, h]
    exact (List.append_nil _).symm
  | closed =>
    rw [close_closed h, releaseCalls, h]
    exact (List.append_nil _).symm
  | opened | stopped =>
    rw [standing_close (by rw [h]; decide) (by rw [h]; decide),
      releaseCalls_of_halted (by simp [h]), stop_halted (by rw [h]; decide)]
    rfl
  | delivering =>
    rw [standing_close (by rw [h]; decide) (by rw [h]; decide), releaseCalls_of_delivering h,
      (stop_delivering h).2, List.append_assoc]
    rfl

theorem called_stop :
    p.stop.2.called = p.called ++ if p.phase = .delivering then [.stop] else [] := by
  unfold called
  by_cases h : p.phase = .delivering
  · rw [(stop_delivering h).2, if_pos h, List.map_append]
    rfl
  · rw [stop_halted h, if_neg h, List.append_nil]
    rfl

theorem called_close : p.close.2.called = p.called ++ p.phase.release := by
  rw [called, calls_close, List.map_append, map_fst_releaseCalls, called]

/-- A pipeline that is closed calls nothing when it is dropped. -/
theorem calls_drop_of_closed (h : p.phase = .closed) : p.drop.journal.calls = p.journal.calls := by
  obtain ⟨source, hd⟩ := standing_drop p
  rw [close_closed h] at hd
  exact congrArg Standing.calls hd

/-! ## What a release comes to -/

variable {p}

/-- A source that was asked to bind is released after the stop, and its fault goes first. -/
theorem close_of_bound (h : p.phase ≠ .closed) (hi : p.phase ≠ .idle) :
    let q := (p.stop.2.enter .closed).accept .closeDevice
      (CaptureSource.closeDevice p.stop.2.source)
    p.close =
      match (CaptureSource.closeDevice p.stop.2.source).failure with
      | none => (p.stop.1, q.log .debug "Capture device released")
      | some f => (.error f, q) := by
  intro q
  cases hr : (CaptureSource.closeDevice p.stop.2.source).result with
  | ok u => rw [close_eq_ok h hi hr, Reply.failure_ok hr]
  | error f => rw [close_eq_error h hi hr, Reply.failure_error hr]

theorem result_stop (p : Pipeline σ) :
    p.stop.1 = if p.phase = .delivering then (CaptureSource.stop p.source).result else .ok () := by
  by_cases h : p.phase = .delivering
  · rw [if_pos h, (stop_delivering h).1]
  · rw [if_neg h, stop_halted h]

/-- **What a release comes to** is decided by the answers to its calls. -/
theorem result_close (p : Pipeline σ) :
    p.close.1 = p.releaseCalls.releaseFault?.elim (.ok ()) .error := by
  cases h : p.phase with
  | idle => rw [close_idle h, releaseCalls, h]; rfl
  | closed => rw [close_closed h, releaseCalls, h]; rfl
  | opened | stopped =>
    rw [close_of_bound (by rw [h]; decide) (by rw [h]; decide), result_stop,
      releaseCalls_of_halted (by simp [h]), if_neg (by rw [h]; decide)]
    cases (CaptureSource.closeDevice p.stop.2.source).failure <;> rfl
  | delivering =>
    rw [close_of_bound (by rw [h]; decide) (by rw [h]; decide), result_stop,
      releaseCalls_of_delivering h, if_pos h]
    cases (CaptureSource.closeDevice p.stop.2.source).failure with
    | some f => rfl
    | none =>
      unfold Reply.failure
      cases (CaptureSource.stop p.source).result <;> rfl

/-! ## Once more -/

theorem phase_stop_ne_delivering (p : Pipeline σ) : p.stop.2.phase ≠ .delivering := by
  rw [phase_stop]
  split
  · decide
  · assumption

/-- **To stop again** is well and changes nothing. -/
theorem stop_stop (p : Pipeline σ) : p.stop.2.stop = (.ok (), p.stop.2) := by
  rw [stop_halted (phase_stop_ne_delivering p), closeGate_of_shut (gateOpen_stop p)]

/-- **To release again** is well and changes nothing. -/
theorem close_close (p : Pipeline σ) : p.close.2.close = (.ok (), p.close.2) :=
  close_closed (phase_close p)

/-- **A stop just before a release** makes no difference to what the release leaves. -/
theorem close_stop (hg : GateFits p.standing) : p.stop.2.close.2 = p.close.2 := by
  by_cases hc : p.phase = .closed
  · have hshut : p.gateOpen = false :=
      hg.shut (by rw [show p.standing.phase = .closed from hc]; decide)
    rw [stop_halted (by rw [hc]; decide), closeGate_of_shut hshut]
  by_cases hi : p.phase = .idle
  · rw [stop_halted (by rw [hi]; decide), close_idle hi, close_idle (p := p.closeGate) hi]
    rfl
  -- the stop of the release finds nothing left to do
  have hc' : p.stop.2.phase ≠ .closed := by
    rw [phase_stop]
    split
    · decide
    · exact hc
  rw [close_of_bound hc' (phase_stop_ne_idle hi), close_of_bound hc hi, stop_stop]
  cases (CaptureSource.closeDevice p.stop.2.source).failure <;> rfl

/-! ## Lives -/

/-- **Stops and releases at any time**, over whatever source and in whatever order a pipeline is
used before. A second stop and a second release are well and change nothing at all, and what a stop
and then a release leave is what the release alone leaves, whatever the source answers and sends
meanwhile. The release makes the calls that are left in its phase, and ends with the fault that the
release of the source answers, or else with that of the stop. -/
theorem stop_and_close_idempotent (source : σ) (ops : List Operation) :
    let p := lived source ops
    p.stop.2.stop = (.ok (), p.stop.2) ∧
      p.close.2.close = (.ok (), p.close.2) ∧
      p.stop.2.close.2 = p.close.2 ∧
      p.close.2.journal.calls = p.journal.calls ++ p.releaseCalls ∧
      p.releaseCalls.map Prod.fst = p.phase.release ∧
      p.close.1 = p.releaseCalls.releaseFault?.elim (.ok ()) .error := by
  intro p
  have hg : GateFits p.standing := gateFits_lived source ops
  exact ⟨stop_stop p, close_close p, close_stop hg, calls_close p, map_fst_releaseCalls p,
    result_close p⟩

/-- A source that fails to stop is released all the same. -/
example :
    let lost := Fault.captureFault "device lost"
    let source : Rehearsal := { stopFault := some lost, stopBuffers := [.full [0, 0, 0, 0]] }
    let p := lived source [.openDevice, .start]
    p.close.1 = .error lost ∧ p.releaseCalls = [(.stop, some lost), (.closeDevice, none)] :=
  ⟨rfl, rfl⟩

end Pipeline
end AirLoop
