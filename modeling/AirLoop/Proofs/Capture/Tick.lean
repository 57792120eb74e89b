import AirLoop.Proofs.Capture.Life

/-!
# Ticks

Each operation of a pipeline is a chain of ticks (`perform_ticks`): a change of one field, a call
noted, a line logged, or one signal of the source taken in. What every tick preserves is preserved by
every operation, signals and all. So a journal only grows, and by nothing that belongs to the session
(`Ticks.extends`).
-/

namespace AirLoop

/-- The smallest steps of a pipeline. -/
inductive Tick {σ : Type} (p : Pipeline σ) : Pipeline σ → Prop where
  | source (source : σ) : Tick p { p with source }
  | enter (phase : Phase) : Tick p (p.enter phase)
  | closeGate : Tick p p.closeGate
  | format (format : Option AudioFormat) : Tick p { p with format }
  | station (stage : Stage) : Tick p { p with stations := p.stations ++ [{ stage }] }
  /-- the source is started with a new delivery -/
  | hand (source : σ) (format : AudioFormat) (failure : Option Fault) :
      Tick p ({ p.openGate format with source }.note (.called .start failure))
  | call (c : SourceCall) (failure : Option Fault) : c ≠ .start → Tick p (p.note (.called c failure))
  | log (level : LogLevel) (text : String) : Tick p (p.log level text)
  | receive (s : Signal) : Tick p (p.receive s)

/-- Some ticks, one after another. -/
abbrev Ticks {σ : Type} : Pipeline σ → Pipeline σ → Prop := Relation.ReflTransGen Tick

namespace Pipeline

variable {σ : Type} (p : Pipeline σ)

theorem receiveAll_ticks (xs : List Signal) : Ticks p (p.receiveAll xs) := by
  induction xs generalizing p with
  | nil => exact .refl
  | cons s xs ih =>
    rw [receiveAll_cons]
    exact (ih (p.receive s)).head (.receive s)

theorem attend_ticks (happening : σ → List Signal × σ) : Ticks p (p.attend happening) :=
  (receiveAll_ticks _ _).head (.source (happening p.source).2)

theorem accept_ticks {α : Type} {c : SourceCall} (hc : c ≠ .start) (reply : Reply σ α) :
    Ticks p (p.accept c reply) := by
  have hs : Tick p { p with source := reply.source } := .source _
  have hn : Ticks p ({ p with source := reply.source }.note (.called c reply.failure)) :=
    .tail (.single hs) (.call c _ hc)
  exact hn.trans (receiveAll_ticks _ _)

theorem accept_start_ticks {α : Type} (format : AudioFormat) (reply : Reply σ α) :
    Ticks p ((p.openGate format).accept .start reply) := by
  have hn : Tick p ({ p.openGate format with source := reply.source }.note
      (.called .start reply.failure)) := .hand _ _ _
  exact (receiveAll_ticks _ _).head hn

variable [CaptureSource σ]

theorem openDevice_ticks : Ticks p p.openDevice.2 := by
  unfold openDevice
  split
  · exact .refl
  · have ha : Ticks p ((p.enter .opened).accept .openDevice (CaptureSource.openDevice p.source)) :=
      (accept_ticks _ (by decide) _).head (.enter .opened)
    dsimp only
    cases (CaptureSource.openDevice p.source).result with
    | error f => exact ha
    | ok format => exact (ha.tail (.log .info _)).tail (.format (some format))

theorem start_ticks : Ticks p p.start.2 := by
  unfold start
  split
  · exact .refl
  · split
    · exact .refl
    · rename_i format _
      have ha := accept_start_ticks p format (CaptureSource.start p.deliveries.length p.source)
      dsimp only
      cases (CaptureSource.start p.deliveries.length p.source).result with
      | error f => exact ha.tail .closeGate
      | ok u => exact (ha.tail (.enter .delivering)).tail (.log .info _)

theorem stop_ticks : Ticks p p.stop.2 := by
  have hc : Ticks p p.closeGate := .single .closeGate
  unfold stop
  dsimp only
  split
  · exact hc
  · have ha : Ticks p ((p.closeGate.enter .stopped).accept .stop (CaptureSource.stop p.source)) :=
      (hc.tail (.enter .stopped)).trans (accept_ticks _ (by decide) _)
    cases hr : (CaptureSource.stop p.closeGate.source).result with
    | error f => exact ha
    | ok u => exact ha.tail (.log .info _)

theorem close_ticks : Ticks p p.close.2 := by
  unfold close
  split
  · exact .refl
  · have he : Ticks p (p.stop.2.enter .closed) := (stop_ticks p).tail (.enter .closed)
    dsimp only
    split
    · exact he
    · have ha := he.trans (accept_ticks _ (c := .closeDevice) (by decide)
        (CaptureSource.closeDevice p.stop.2.source))
      cases (CaptureSource.closeDevice p.stop.2.source).result with
      | error f => exact ha
      | ok u => exact ha.tail (.log .debug _)

theorem drop_ticks : Ticks p p.drop := by
  unfold drop
  dsimp only
  cases p.close.1 with
  | ok u => exact (close_ticks p).trans (attend_ticks _ _)
  | error f => exact ((close_ticks p).tail (.log .warn _)).trans (attend_ticks _ _)

/-- **An operation is a chain of ticks**, signals and all. -/
theorem perform_ticks (op : Operation) : Ticks p (p.perform op) := by
  cases op with
  | addStage stage =>
    by_cases h : p.phase = .delivering
    · rw [perform, addStage_delivering stage h]
    · have ha : (p.addStage stage).2 = { p with stations := p.stations ++ [{ stage }] } := by
        unfold addStage; rw [if_neg h]
      rw [perform, ha]
      exact .single (.station stage)
  | openDevice => exact openDevice_ticks p
  | start => exact start_ticks p
  | stop => exact stop_ticks p
  | close => exact close_ticks p
  | drop => exact drop_ticks p
  | wait => exact attend_ticks p _

theorem performAll_ticks (ops : List Operation) : Ticks p (p.performAll ops) := by
  induction ops generalizing p with
  | nil => exact .refl
  | cons op ops ih => exact (perform_ticks p op).trans (ih (p.perform op))

end Pipeline

/-! ## Journals that grow -/

/-- What happens in a pipeline by itself, apart from the session around it. -/
def Occurrence.ofCapture : Occurrence → Bool
  | .called .. | .signalled _ | .processed .. | .faulted .. | .logged _ | .reported (.level _) => true
  | _ => false

/-- The journal of `q` is that of `p` and some more, all of one kind. -/
def Extends {σ : Type} (kind : Occurrence → Bool) (p q : Pipeline σ) : Prop :=
  ∃ more : Journal, q.journal = p.journal ++ more ∧ ∀ o ∈ more, kind o = true

/-- What comes of a signal, apart from itself. -/
def Occurrence.ofStages : Occurrence → Bool
  | .processed .. | .faulted .. | .logged _ | .reported (.level _) => true
  | _ => false

theorem Occurrence.ofCapture_of_ofStages (o : Occurrence) (h : o.ofStages = true) :
    o.ofCapture = true := by
  unfold ofStages at h
  split at h
  · rfl
  · rfl
  · rfl
  · rfl
  · cases h

theorem ofStages_transit (passage : Passage) (place : Nat) (monitor : LevelMonitor)
    (ss : List Station) : ∀ o ∈ (transit passage place monitor ss).journal, o.ofStages = true := by
  induction ss generalizing place monitor with
  | nil => nofun
  | cons s rest ih =>
    have hs : ∀ o ∈ (s.take monitor passage).reports, o.ofStages = true := by
      unfold Station.take
      dsimp only
      split
      · intro o ho
        rw [List.mem_singleton.1 ho]
        rfl
      · nofun
      · nofun
    simp only [transit]
    split
    · intro o ho
      rcases List.mem_cons.1 ho with rfl | ho
      · rfl
      · exact hs o ho
    · intro o ho
      rcases List.mem_append.1 ho with ho | ho
      · rcases List.mem_cons.1 ho with rfl | ho
        · rfl
        · exact hs o ho
      · exact ih _ _ o ho

namespace Extends

variable {σ : Type} {kind : Occurrence → Bool} {p q r : Pipeline σ}

theorem of_eq (h : q.journal = p.journal) : Extends kind p q :=
  ⟨[], by rw [h, List.append_nil], nofun⟩

theorem trans (h : Extends kind p q) (h' : Extends kind q r) : Extends kind p r := by
  obtain ⟨xs, hx, hxs⟩ := h
  obtain ⟨ys, hy, hys⟩ := h'
  refine ⟨xs ++ ys, by rw [hy, hx, List.append_assoc], ?_⟩
  intro o ho
  rcases List.mem_append.1 ho with ho | ho
  · exact hxs o ho
  · exact hys o ho

theorem mono {kind' : Occurrence → Bool} (hk : ∀ o, kind o = true → kind' o = true)
    (h : Extends kind p q) : Extends kind' p q := by
  obtain ⟨more, hj, hm⟩ := h
  exact ⟨more, hj, fun o ho => hk o (hm o ho)⟩

theorem note (p : Pipeline σ) {o : Occurrence} (ho : kind o = true) : Extends kind p (p.note o) :=
  ⟨[o], rfl, fun _ h => List.mem_singleton.1 h ▸ ho⟩

theorem raise (p : Pipeline σ) (k : Nat) (f : Fault) :
    Extends Occurrence.ofStages p (p.raise k f) := by
  rcases p.raise_cases k f with h | ⟨d, _, _, h⟩
  · exact of_eq (by rw [h])
  · rw [h]
    exact note { p with deliveries := p.deliveries.set k { d with fault := some f } } rfl

theorem forward (p : Pipeline σ) (k : Nat) (d : Delivery) (b : AudioBuffer) :
    Extends Occurrence.ofStages p (p.forward k d b) := by
  have hp : Extends Occurrence.ofStages p (p.passed d b) := ⟨_, rfl, ofStages_transit _ _ _ _⟩
  cases h : (p.transitOf d b).failure with
  | none => rw [Pipeline.forward_passed k h]; exact hp
  | some x =>
    rw [Pipeline.forward_failed k h]
    exact (hp.trans (note _ rfl)).trans (raise ..)

theorem received (p : Pipeline σ) (s : Signal) :
    Extends Occurrence.ofStages (p.note (.signalled s)) (p.receive s) := by
  cases s with
  | buffer k b =>
    change Extends Occurrence.ofStages (p.note _) ((p.note _).receiveBuffer k b)
    rcases (p.note (.signalled (.buffer k b))).receiveBuffer_cases k b with h | h | h | ⟨d, -, h⟩ <;>
      rw [h]
    · exact of_eq rfl
    · exact of_eq rfl
    · exact of_eq rfl
    · exact forward ..
  | fault k f => exact raise ..
  | log l => exact note _ rfl

theorem receive (p : Pipeline σ) (s : Signal) : Extends Occurrence.ofCapture p (p.receive s) :=
  (note p rfl).trans ((received p s).mono Occurrence.ofCapture_of_ofStages)

theorem of_tick (h : Tick p q) : Extends Occurrence.ofCapture p q := by
  cases h with
  | source | enter | closeGate | format | station => exact of_eq rfl
  | hand source format failure => exact note { p.openGate format with source } rfl
  | call c failure => exact note p rfl
  | log => exact note p rfl
  | receive s => exact receive p s

end Extends

/-- **A pipeline only adds to its journal**, and nothing that the session around it would. -/
theorem Ticks.extends {σ : Type} {p q : Pipeline σ} (h : Ticks p q) :
    Extends Occurrence.ofCapture p q :=
  h.preserves (P := Extends Occurrence.ofCapture p) (fun _ _ ht h => h.trans (.of_tick ht))
    (.of_eq rfl)

end AirLoop
