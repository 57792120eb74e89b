import AirLoop.Proofs.Capture.Standing
import Mathlib.Logic.Relation

/-!
# Lives of pipelines

Whatever the owner of a pipeline does with it, in any order and as often as he likes. Each operation
takes the standing of the pipeline through a few moves (`perform_moves`), and a move says what was
called, when it may be and what follows from the answer. What every move preserves holds at the end
of every life (`lived_induct`).
-/

/-- What each step preserves is preserved by a chain of steps. -/
theorem Relation.ReflTransGen.preserves {α : Type} {r : α → α → Prop} {P : α → Prop}
    (hP : ∀ a b, r a b → P a → P b) {a b : α} (h : ReflTransGen r a b) (h₀ : P a) : P b := by
  induction h with
  | refl => exact h₀
  | tail _ hs ih => exact hP _ _ hs ih

namespace AirLoop

/-- What the owner of a pipeline can do with it. -/
inductive Operation where
  | addStage (stage : Stage)
  | openDevice | start | stop | close | drop
  /-- leave it alone for a while -/
  | wait

/-- Place of a phase on the way of a pipeline. -/
def Phase.place : Phase → Nat
  | idle => 0
  | opened => 1
  | delivering => 2
  | stopped => 3
  | closed => 4

instance : LE Phase := ⟨fun a b => a.place ≤ b.place⟩

instance (a b : Phase) : Decidable (a ≤ b) := inferInstanceAs (Decidable (a.place ≤ b.place))

theorem Phase.le_iff {a b : Phase} : a ≤ b ↔ a.place ≤ b.place := Iff.rfl

theorem Phase.le_refl (a : Phase) : a ≤ a := Nat.le_refl a.place

theorem Phase.le_trans {a b c : Phase} (h : a ≤ b) (h' : b ≤ c) : a ≤ c := Nat.le_trans h h'

namespace Pipeline

variable {σ : Type} [CaptureSource σ]

/-- The pipeline after an operation, whatever came of it. -/
def perform (p : Pipeline σ) : Operation → Pipeline σ
  | .addStage stage => (p.addStage stage).2
  | .openDevice => p.openDevice.2
  | .start => p.start.2
  | .stop => p.stop.2
  | .close => p.close.2
  | .drop => p.drop
  | .wait => p.wait

/-- The pipeline after some operations, one after another. -/
def performAll (p : Pipeline σ) (ops : List Operation) : Pipeline σ := ops.foldl perform p

/-- A new pipeline over a source, after some operations. -/
def lived (source : σ) (ops : List Operation) : Pipeline σ := ({ source } : Pipeline σ).performAll ops

theorem performAll_cons (p : Pipeline σ) (op : Operation) (ops : List Operation) :
    p.performAll (op :: ops) = (p.perform op).performAll ops := rfl

theorem performAll_append (p : Pipeline σ) (ops more : List Operation) :
    p.performAll (ops ++ more) = (p.performAll ops).performAll more :=
  List.foldl_append ..

theorem lived_append (source : σ) (ops more : List Operation) :
    lived source (ops ++ more) = (lived source ops).performAll more :=
  performAll_append ..

end Pipeline

/-! ## Moves -/

/-- How an operation changes a standing, one call at a time; a call may answer anything. -/
inductive Move {σ : Type} (st : Standing σ) : Standing σ → Prop where
  /-- the source goes on by itself -/
  | pass (source : σ) : Move st { st with source }
  | addStage (stage : Stage) : st.phase ≠ .delivering →
      Move st { st with stages := st.stages ++ [stage] }
  /-- the gate of a pipeline that does not deliver -/
  | shut : st.phase ≠ .delivering → Move st { st with gateOpen := false }
  | bind (source : σ) (format : AudioFormat) : st.phase = .idle →
      Move st
        { st with
          source, phase := .opened, format := some format
          calls := st.calls ++ [(.openDevice, none)] }
  | bindFails (source : σ) (f : Fault) : st.phase = .idle →
      Move st
        { st with source, phase := .opened, calls := st.calls ++ [(.openDevice, some f)] }
  | start (source : σ) (format : AudioFormat) : st.phase = .opened → st.format = some format →
      Move st
        { st with
          source, phase := .delivering, gateOpen := true
          handed := st.handed ++ [(st.stages.length, format)]
          calls := st.calls ++ [(.start, none)] }
  | startFails (source : σ) (format : AudioFormat) (f : Fault) : st.phase = .opened →
      st.format = some format →
      Move st
        { st with
          source, gateOpen := false
          handed := st.handed ++ [(st.stages.length, format)]
          calls := st.calls ++ [(.start, some f)] }
  | stop (source : σ) (failure : Option Fault) : st.phase = .delivering →
      Move st
        { st with
          source, phase := .stopped, gateOpen := false
          calls := st.calls ++ [(.stop, failure)] }
  /-- without a call, for the source was never asked to bind -/
  | leave : st.phase = .idle → Move st { st with phase := .closed, gateOpen := false }
  | release (source : σ) (failure : Option Fault) : st.phase = .opened ∨ st.phase = .stopped →
      Move st { st with source, phase := .closed, calls := st.calls ++ [(.closeDevice, failure)] }

theorem Move.phase_le {σ : Type} {st st' : Standing σ} (h : Move st st') : st.phase ≤ st'.phase := by
  cases h with
  | pass | addStage | shut | startFails => exact Phase.le_refl _
  | bind _ _ h | bindFails _ _ h | start _ _ h | stop _ _ h | leave h =>
    simp [Phase.le_iff, h, Phase.place]
  | release _ _ h => rcases h with h | h <;> simp [Phase.le_iff, h, Phase.place]

/-- Some moves, one after another. -/
abbrev Moves {σ : Type} : Standing σ → Standing σ → Prop := Relation.ReflTransGen Move

theorem Moves.of_eq {σ : Type} {st st' : Standing σ} (h : st' = st) : Moves st st' := h ▸ .refl

namespace Pipeline

variable {σ : Type} [CaptureSource σ] (p : Pipeline σ)

/-! ## Operations as moves -/

theorem openDevice_moves : Moves p.standing p.openDevice.2.standing := by
  by_cases h : p.phase = .idle
  · cases hr : (CaptureSource.openDevice p.source).result with
    | ok format =>
      rw [(openDevice_ok h hr).2]
      exact .single (.bind _ _ h)
    | error f =>
      rw [(openDevice_error h hr).2]
      exact .single (.bindFails _ _ h)
  · rw [openDevice_again h]

theorem start_moves : Moves p.standing p.start.2.standing := by
  by_cases h : p.phase = .opened
  · cases hf : p.format with
    | none => rw [start_unknown h hf]
    | some format =>
      cases hr : (CaptureSource.start p.deliveries.length p.source).result with
      | ok u =>
        rw [(start_ok h hf hr).2]
        exact .single (.start _ _ h hf)
      | error f =>
        rw [(start_error h hf hr).2]
        exact .single (.startFails _ _ _ h hf)
  · rw [start_unopened h]

theorem stop_moves : Moves p.standing p.stop.2.standing := by
  by_cases h : p.phase = .delivering
  · rw [(stop_delivering h).2]
    exact .single (.stop _ _ h)
  · rw [stop_halted h]
    exact .single (.shut h)

theorem close_moves : Moves p.standing p.close.2.standing := by
  by_cases hc : p.phase = .closed
  · rw [close_closed hc]
  by_cases hi : p.phase = .idle
  · rw [close_idle hi]
    exact .single (.leave hi)
  have hs : p.stop.2.phase = .opened ∨ p.stop.2.phase = .stopped := by
    rw [phase_stop]
    cases h : p.phase <;> simp_all
  rw [standing_close hc hi]
  exact (stop_moves p).tail (.release _ _ hs)

theorem drop_moves : Moves p.standing p.drop.standing := by
  obtain ⟨source, h⟩ := standing_drop p
  rw [h]
  exact (close_moves p).tail (.pass source)

/-- **An operation is a few moves**, whatever the source answers and reports. -/
theorem perform_moves (op : Operation) : Moves p.standing (p.perform op).standing := by
  cases op with
  | addStage stage =>
    by_cases h : p.phase = .delivering
    · exact .of_eq (congrArg standing (addStage_delivering stage h))
    · rw [perform, standing_addStage stage h]
      exact .single (.addStage stage h)
  | openDevice => exact openDevice_moves p
  | start => exact start_moves p
  | stop => exact stop_moves p
  | close => exact close_moves p
  | drop => exact drop_moves p
  | wait =>
    rw [perform, wait, standing_attend]
    exact .single (.pass _)

theorem performAll_moves (ops : List Operation) : Moves p.standing (p.performAll ops).standing := by
  induction ops generalizing p with
  | nil => exact .refl
  | cons op ops ih => exact (perform_moves p op).trans (ih (p.perform op))

/-- What holds of a new pipeline and is preserved by every move holds at the end of every life. -/
theorem lived_induct {P : Standing σ → Prop}
    (h₀ : ∀ source : σ, P ({ source } : Pipeline σ).standing)
    (hP : ∀ st st', Move st st' → P st → P st') (source : σ) (ops : List Operation) :
    P (lived source ops).standing :=
  (performAll_moves _ ops).preserves hP (h₀ source)

/-! ## The phases -/

/-- **A phase never goes back.** -/
theorem phase_le_performAll (ops : List Operation) : p.phase ≤ (p.performAll ops).phase :=
  (performAll_moves p ops).preserves (P := fun st => p.phase ≤ st.phase)
    (fun _ _ hm h => Phase.le_trans h hm.phase_le) (Phase.le_refl _)

theorem phase_close : p.close.2.phase = .closed := by
  by_cases hc : p.phase = .closed
  · rw [close_closed hc]
    exact hc
  by_cases hi : p.phase = .idle
  · rw [close_idle hi]
    rfl
  · exact congrArg Standing.phase (standing_close hc hi)

theorem phase_drop : p.drop.phase = .closed := by
  obtain ⟨source, h⟩ := standing_drop p
  exact (congrArg Standing.phase h).trans (phase_close p)

theorem phase_performAll_of_closed (h : p.phase = .closed) (ops : List Operation) :
    (p.performAll ops).phase = .closed := by
  have hle := phase_le_performAll p ops
  rw [h, Phase.le_iff] at hle
  revert hle
  cases (p.performAll ops).phase <;> simp [Phase.place]

end Pipeline
end AirLoop
