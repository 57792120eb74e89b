import AirLoop.Proofs.Capture.Standing
import AirLoop.Session.Run

/-!
# Endings that fail

How a source answers to being stopped and released matters to nobody but the log. Two pipelines that
differ in their journals only stay so whatever they take in (`Alike.receive`) and while they are
stopped and released, by sources that answer differently (`Alike.stop`, `Alike.close`), so that a run
comes to the same over either source (`run_withEndings`).
-/

namespace AirLoop

/-- A source that answers differently to being stopped and released. It reports the same and goes on
the same way. -/
@[reducible] def CaptureSource.withEndings {σ : Type} [CaptureSource σ]
    (onStop onClose : σ → Except Fault Unit) : CaptureSource σ where
  openDevice := CaptureSource.openDevice
  start := CaptureSource.start
  stop s := { CaptureSource.stop s with result := onStop s }
  closeDevice s := { CaptureSource.closeDevice s with result := onClose s }
  deviceName := CaptureSource.deviceName
  idle := CaptureSource.idle
  discard := CaptureSource.discard

/-! ## Pipelines alike -/

namespace Pipeline

variable {σ : Type}

/-- A pipeline without its journal. -/
def unwritten (p : Pipeline σ) : Pipeline σ := { p with journal := [] }

theorem unwritten_raise (p : Pipeline σ) (k : Nat) (f : Fault) :
    (p.raise k f).unwritten = (p.unwritten.raise k f).unwritten := by
  unfold raise
  dsimp only [unwritten]
  split
  · rfl
  · split <;> rfl

theorem unwritten_forward (p : Pipeline σ) (k : Nat) (d : Delivery) (b : AudioBuffer) :
    (p.forward k d b).unwritten = (p.unwritten.forward k d b).unwritten := by
  cases h : (p.transitOf d b).failure with
  | none =>
    rw [forward_passed k h, forward_passed k (p := p.unwritten) h]
    rfl
  | some x =>
    rw [forward_failed k h, forward_failed k (p := p.unwritten) h, unwritten_raise,
      unwritten_raise ((p.unwritten.passed d b).log ..)]
    rfl

theorem unwritten_receiveBuffer (p : Pipeline σ) (k : Nat) (b : AudioBuffer) :
    (p.receiveBuffer k b).unwritten = (p.unwritten.receiveBuffer k b).unwritten := by
  have hd : p.unwritten.deliveries[k]? = p.deliveries[k]? := rfl
  have hg : p.unwritten.gateOpen = p.gateOpen := rfl
  unfold receiveBuffer
  rw [hd, hg]
  split
  · rfl
  · split
    · rfl
    · split
      · rfl
      · exact unwritten_forward ..

variable [CaptureSource σ] (p : Pipeline σ)

/-- A stop but for the journal: the result of the call does not show. -/
theorem unwritten_stop :
    p.stop.2.unwritten =
      if p.phase = .delivering then
        ((p.closeGate.enter .stopped).accept .stop (CaptureSource.stop p.source)).unwritten
      else p.closeGate.unwritten := by
  by_cases h : p.phase = .delivering
  · have hc : ¬p.closeGate.phase ≠ .delivering := not_not_intro h
    unfold stop
    dsimp only
    rw [if_neg hc, if_pos h]
    cases (CaptureSource.stop p.closeGate.source).result <;> rfl
  · rw [stop_halted h, if_neg h]

theorem unwritten_close :
    p.close.2.unwritten =
      if p.phase = .closed then p.unwritten
      else if p.stop.2.phase = .idle then (p.stop.2.enter .closed).unwritten
      else
        ((p.stop.2.enter .closed).accept .closeDevice
          (CaptureSource.closeDevice p.stop.2.source)).unwritten := by
  unfold close
  split
  · rfl
  · dsimp only
    split
    · rfl
    · cases (CaptureSource.closeDevice p.stop.2.source).result <;> rfl

end Pipeline

/-- They differ in their journals at most. -/
def Alike {σ : Type} (p q : Pipeline σ) : Prop := p.unwritten = q.unwritten

namespace Alike

variable {σ : Type} {p q : Pipeline σ}

/-- What is read off a pipeline without its journal is the same. -/
theorem read {α : Type} (h : Alike p q) (f : Pipeline σ → α) (hf : ∀ p, f p = f p.unwritten) :
    f p = f q :=
  (hf p).trans ((congrArg f h).trans (hf q).symm)

theorem phase (h : Alike p q) : p.phase = q.phase := h.read (·.phase) fun _ => rfl

theorem source (h : Alike p q) : p.source = q.source := h.read (·.source) fun _ => rfl

/-- What does not depend on the journal is done alike. -/
theorem map (h : Alike p q) (f : Pipeline σ → Pipeline σ)
    (hf : ∀ p, (f p).unwritten = (f p.unwritten).unwritten) : Alike (f p) (f q) :=
  (hf p).trans ((congrArg (fun t => (f t).unwritten) h).trans (hf q).symm)

theorem receive (h : Alike p q) (s : Signal) : Alike (p.receive s) (q.receive s) := by
  -- what a signal does after it was noted, which changes the journal only
  have hn : Alike (p.note (.signalled s)) (q.note (.signalled s)) := h
  cases s with
  | buffer k b => exact hn.map (·.receiveBuffer k b) fun t => t.unwritten_receiveBuffer k b
  | fault k f => exact hn.map (·.raise k f) fun t => t.unwritten_raise k f
  | log l => exact hn

theorem receiveAll (h : Alike p q) (xs : List Signal) : Alike (p.receiveAll xs) (q.receiveAll xs) := by
  induction xs generalizing p q with
  | nil => exact h
  | cons s xs ih => exact ih (h.receive s)

theorem accept {α : Type} (h : Alike p q) (c : SourceCall) (reply : Reply σ α) (r : Except Fault α) :
    Alike (p.accept c { reply with result := r }) (q.accept c reply) := by
  refine receiveAll ?_ reply.signals
  exact congrArg (fun t : Pipeline σ => { t with source := reply.source }) h

theorem enter (h : Alike p q) (phase : Phase) : Alike (p.enter phase) (q.enter phase) :=
  h.map (·.enter phase) fun _ => rfl

theorem closeGate (h : Alike p q) : Alike p.closeGate q.closeGate := h.map (·.closeGate) fun _ => rfl

variable [CaptureSource σ] (onStop onClose : σ → Except Fault Unit)

theorem stop (h : Alike p q) :
    Alike (@Pipeline.stop σ (CaptureSource.withEndings onStop onClose) p).2 q.stop.2 := by
  have ha := (h.closeGate.enter .stopped).accept .stop (CaptureSource.stop q.source) (onStop q.source)
  unfold Alike
  rw [@Pipeline.unwritten_stop σ (CaptureSource.withEndings onStop onClose) p,
    Pipeline.unwritten_stop q, h.phase, h.source]
  split
  · exact ha
  · exact h.closeGate

theorem close (h : Alike p q) :
    Alike (@Pipeline.close σ (CaptureSource.withEndings onStop onClose) p).2 q.close.2 := by
  have hs := h.stop onStop onClose
  have ha := (hs.enter .closed).accept .closeDevice (CaptureSource.closeDevice q.stop.2.source)
    (onClose q.stop.2.source)
  unfold Alike
  rw [@Pipeline.unwritten_close σ (CaptureSource.withEndings onStop onClose) p,
    Pipeline.unwritten_close q, h.phase, hs.phase, hs.source]
  split
  · exact h
  · split
    · exact hs.enter .closed
    · exact ha

end Alike

/-! ## Sessions over either source -/

namespace Session

variable {σ ι : Type}

/-- Two sessions with the same configuration whose pipelines differ in their journals at most. -/
structure Alike (s t : Session σ ι) : Prop where
  config : s.config = t.config
  pipeline : AirLoop.Alike s.pipeline t.pipeline

theorem Alike.enter {s t : Session σ ι} (h : Alike s t) (next : SessionState) :
    Alike (s.enter next) (t.enter next) := ⟨h.config, h.pipeline⟩

theorem Alike.cleanUp {s t : Session σ ι} (h : Alike s t) (what : String)
    {call call' : Pipeline σ → Except Fault Unit × Pipeline σ}
    (hc : AirLoop.Alike (call s.pipeline).2 (call' t.pipeline).2) :
    Alike (s.cleanUp what call) (t.cleanUp what call') := by
  unfold Session.cleanUp
  dsimp only
  split <;> split <;> exact ⟨h.config, hc⟩

/-- What a session comes to is read off the configuration, the counters and the monitor. -/
theorem Alike.conclude {s t : Session σ ι} (h : Alike s t) (stamp : SessionStamp) (fs : Findings)
    (r : Except Fault Outcome) : (s.conclude stamp fs r).1 = (t.conclude stamp fs r).1 := by
  cases r with
  | error f => rfl
  | ok outcome =>
    have hd := h.pipeline.read (·.diagnostics) fun _ => rfl
    have hm := h.pipeline.read (·.monitor) fun _ => rfl
    unfold Session.conclude summarize
    simp only [h.config, hd, hm]

variable [CaptureSource σ] (onStop onClose : σ → Except Fault Unit)

theorem teardown_withEndings (s : Session σ ι) :
    Alike (@teardown σ ι (CaptureSource.withEndings onStop onClose) s) s.teardown := by
  have he : Alike (s.enter .stopping) (s.enter .stopping) := ⟨rfl, rfl⟩
  have hs := he.cleanUp "Failed to stop capture" (he.pipeline.stop onStop onClose)
  have hc := hs.cleanUp "Failed to close capture device" (hs.pipeline.close onStop onClose)
  exact hc.enter .stopped

variable [Operator ι]

theorem watch_withEndings (polls : Nat) (s : Session σ ι) :
    @watch σ ι (CaptureSource.withEndings onStop onClose) _ polls s = s.watch polls := by
  induction polls generalizing s with
  | zero => unfold watch; rfl
  | succ n ih =>
    unfold watch
    simp only [ih]
    rfl

theorem drive_withEndings (polls : Nat) (s : Session σ ι) :
    @drive σ ι (CaptureSource.withEndings onStop onClose) _ polls s = s.drive polls := by
  unfold drive capture
  simp only [watch_withEndings]
  rfl

/-- **A run comes to the same whatever the source answers to being stopped and released.** -/
theorem run_withEndings {polls : Nat} {stamp : SessionStamp} {s s' : Session σ ι}
    {r : Except Fault Summary} (h : s.run polls stamp = some (r, s')) :
    ∃ s'', @run σ ι (CaptureSource.withEndings onStop onClose) _ polls stamp s = some (r, s'') := by
  unfold run at h ⊢
  split
  · rename_i hs
    rw [if_pos hs] at h
    exact ⟨s', h⟩
  · rename_i hs
    rw [if_neg hs] at h
    obtain ⟨⟨r₀, fs, sd⟩, hd, hr⟩ := Option.map_eq_some_iff.1 h
    rw [drive_withEndings, hd]
    have hc := (teardown_withEndings onStop onClose sd).conclude stamp fs r₀
    have hr' : (sd.teardown.conclude stamp fs r₀).1 = r := congrArg Prod.fst hr
    refine ⟨_, congrArg some (Prod.ext (hc.trans hr') rfl)⟩

end Session
end AirLoop
