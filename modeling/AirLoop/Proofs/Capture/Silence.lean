import AirLoop.Proofs.Capture.Calls
import AirLoop.Capture.Rehearsal

/-!
# The closed gate

The gate of a pipeline is open exactly while it delivers (`GateFits`), and behind a closed gate no
stage and no monitor sees anything of what the source sends: buffers are counted, and that is all
(`Muted`). The source may send them at any time and through any delivery that it was ever handed,
so that from the first stop or release of a delivering pipeline on nothing reaches a stage again
(`gate_open_iff_delivering_else_muted`).
-/

namespace AirLoop

/-- A buffer, through one of the deliveries that were handed out. -/
def Signal.isBuffer (handed : Nat) : Signal → Bool
  | .buffer k _ => k < handed
  | _ => false

/-- The counters after a few buffers that came through the closed gate. -/
def Diagnostics.dropping (d : Diagnostics) (buffers : Nat) : Diagnostics :=
  { d with buffersDroppedAfterStop := d.buffersDroppedAfterStop + UInt64.ofNat buffers }

theorem Diagnostics.dropping_zero (d : Diagnostics) : d.dropping 0 = d := by
  simp [dropping]

theorem Diagnostics.dropping_dropping (d : Diagnostics) (n m : Nat) :
    (d.dropping n).dropping m = d.dropping (n + m) := by
  simp only [dropping, UInt64.ofNat_add, UInt64.add_assoc]

/-- From `p` to `q` no stage took anything and no meter was read: of what the source reported
meanwhile, the buffers were counted as dropped. Stages may have been appended. -/
structure Muted {σ : Type} (p q : Pipeline σ) : Prop where
  stations : p.stations <+: q.stations
  monitor : q.monitor = p.monitor
  handed : q.deliveries.length = p.deliveries.length
  processed : q.journal.processed = p.journal.processed
  reports : q.journal.reports = p.journal.reports
  counted : ∃ signals, q.journal.signals = p.journal.signals ++ signals ∧
    q.diagnostics = p.diagnostics.dropping (signals.countP (Signal.isBuffer p.deliveries.length))

namespace Muted

variable {σ : Type} {p q r : Pipeline σ}

theorem of_eq (hs : q.stations = p.stations) (hm : q.monitor = p.monitor)
    (hh : q.deliveries.length = p.deliveries.length) (hd : q.diagnostics = p.diagnostics)
    (hj : q.journal = p.journal) : Muted p q where
  stations := hs ▸ List.prefix_refl _
  monitor := hm
  handed := hh
  processed := by rw [hj]
  reports := by rw [hj]
  counted := ⟨[], by rw [hj, List.append_nil], by rw [hd]; exact p.diagnostics.dropping_zero.symm⟩

theorem refl (p : Pipeline σ) : Muted p p := of_eq rfl rfl rfl rfl rfl

theorem trans (h : Muted p q) (h' : Muted q r) : Muted p r where
  stations := h.stations.trans h'.stations
  monitor := h'.monitor.trans h.monitor
  handed := h'.handed.trans h.handed
  processed := h'.processed.trans h.processed
  reports := h'.reports.trans h.reports
  counted := by
    obtain ⟨xs, hx, hd⟩ := h.counted
    obtain ⟨ys, hy, hd'⟩ := h'.counted
    refine ⟨xs ++ ys, by rw [hy, hx, List.append_assoc], ?_⟩
    rw [hd', hd, h.handed, Diagnostics.dropping_dropping, List.countP_append]

/-- What is noted besides signals, buffers and reports is nothing to a stage. -/
theorem note (p : Pipeline σ) {o : Occurrence} (hp : Journal.processed [o] = [])
    (hr : Journal.reports [o] = []) (hs : Journal.signals [o] = []) : Muted p (p.note o) where
  stations := List.prefix_refl _
  monitor := rfl
  handed := rfl
  processed := by rw [Pipeline.note, Journal.processed_append, hp, List.append_nil]
  reports := by rw [Pipeline.note, Journal.reports_append, hr, List.append_nil]
  counted :=
    ⟨[], by rw [Pipeline.note, Journal.signals_append, hs], p.diagnostics.dropping_zero.symm⟩

theorem log (p : Pipeline σ) (level : LogLevel) (text : String) : Muted p (p.log level text) :=
  note p rfl rfl rfl

/-- A signal that is no buffer of a delivery is nothing to a stage. -/
theorem signalled (p : Pipeline σ) {s : Signal} (hs : s.isBuffer p.deliveries.length = false) :
    Muted p (p.note (.signalled s)) where
  stations := List.prefix_refl _
  monitor := rfl
  handed := rfl
  processed := by rw [Pipeline.note, Journal.processed_append]; exact List.append_nil _
  reports := by rw [Pipeline.note, Journal.reports_append]; exact List.append_nil _
  counted := by
    refine ⟨[s], by rw [Pipeline.note, Journal.signals_append]; rfl, ?_⟩
    rw [List.countP_singleton, hs]
    exact p.diagnostics.dropping_zero.symm

theorem raise (p : Pipeline σ) (k : Nat) (f : Fault) : Muted p (p.raise k f) := by
  rcases p.raise_cases k f with h | ⟨d, _, _, h⟩
  · rw [h]; exact refl p
  · rw [h]
    refine trans (q := { p with deliveries := p.deliveries.set k { d with fault := some f } }) ?_
      (note _ rfl rfl rfl)
    exact of_eq rfl rfl (List.length_set ..) rfl rfl

end Muted

namespace Pipeline

variable {σ : Type} {p : Pipeline σ}

/-! ## Signals behind the closed gate -/

/-- **A buffer at the closed gate is counted, and nothing else comes of it.** -/
theorem receive_buffer_of_closed (h : p.gateOpen = false) {k : Nat} (hk : k < p.deliveries.length)
    (b : AudioBuffer) :
    p.receive (.buffer k b) =
      { p with
        diagnostics := p.diagnostics.dropping 1
        journal := p.journal ++ [.signalled (.buffer k b)] } := by
  simp only [receive, receiveBuffer, note, List.getElem?_eq_getElem hk, h, Bool.not_false, if_true]
  rfl

theorem receive_muted (h : p.gateOpen = false) (s : Signal) : Muted p (p.receive s) := by
  cases s with
  | buffer k b =>
    by_cases hk : k < p.deliveries.length
    · rw [receive_buffer_of_closed h hk]
      exact
        { stations := List.prefix_refl _
          monitor := rfl
          handed := rfl
          processed := by rw [Journal.processed_append]; exact List.append_nil _
          reports := by rw [Journal.reports_append]; exact List.append_nil _
          counted := ⟨[.buffer k b], by rw [Journal.signals_append]; rfl, by
            simp [Signal.isBuffer, hk]⟩ }
    · have hn : p.receive (.buffer k b) = p.note (.signalled (.buffer k b)) := by
        have hnone : p.deliveries[k]? = none := List.getElem?_eq_none (by omega)
        simp only [receive, receiveBuffer, note, hnone]
      rw [hn]
      exact .signalled p (by simp only [Signal.isBuffer, hk, decide_false])
  | fault k f => exact (Muted.signalled p rfl).trans (.raise ..)
  | log l => exact (Muted.signalled p rfl).trans (.note _ rfl rfl rfl)

theorem receiveAll_muted (h : p.gateOpen = false) (xs : List Signal) : Muted p (p.receiveAll xs) := by
  induction xs generalizing p with
  | nil => exact .refl p
  | cons s xs ih =>
    rw [receiveAll_cons]
    exact (receive_muted h s).trans (ih ((gateOpen_receive p s).trans h))

theorem attend_muted (h : p.gateOpen = false) (happening : σ → List Signal × σ) :
    Muted p (p.attend happening) := by
  have hs : Muted p { p with source := (happening p.source).2 } := .of_eq rfl rfl rfl rfl rfl
  exact hs.trans (receiveAll_muted (p := { p with source := (happening p.source).2 }) h _)

theorem accept_muted {α : Type} (h : p.gateOpen = false) (call : SourceCall) (reply : Reply σ α) :
    Muted p (p.accept call reply) := by
  have hs : Muted p { p with source := reply.source } := .of_eq rfl rfl rfl rfl rfl
  have hn : Muted p ({ p with source := reply.source }.note (.called call reply.failure)) :=
    hs.trans (.note _ rfl rfl rfl)
  exact hn.trans (receiveAll_muted (p := { p with source := reply.source }.note _) h _)

theorem enter_muted (p : Pipeline σ) (phase : Phase) : Muted p (p.enter phase) :=
  .of_eq rfl rfl rfl rfl rfl

theorem closeGate_muted (p : Pipeline σ) : Muted p p.closeGate := .of_eq rfl rfl rfl rfl rfl

/-! ## Operations behind the closed gate -/

theorem addStage_muted (p : Pipeline σ) (stage : Stage) : Muted p (p.addStage stage).2 := by
  unfold addStage
  split
  · exact .refl p
  · exact { Muted.refl p with stations := List.prefix_append .. }

variable [CaptureSource σ]

theorem openDevice_muted (h : p.gateOpen = false) : Muted p p.openDevice.2 := by
  unfold openDevice
  split
  · exact .refl p
  · have ha := (enter_muted p .opened).trans
      (accept_muted (p := p.enter .opened) h .openDevice (CaptureSource.openDevice p.source))
    dsimp only
    cases (CaptureSource.openDevice p.source).result with
    | error f => exact ha
    | ok format => exact (ha.trans (.log _ .info _)).trans (.of_eq rfl rfl rfl rfl rfl)

/-- The gate closes before the source is called, so that what comes from inside the call is met by
the closed gate. -/
theorem stop_muted (p : Pipeline σ) : Muted p p.stop.2 := by
  unfold stop
  dsimp only
  split
  · exact closeGate_muted p
  · have ha := ((closeGate_muted p).trans (enter_muted _ .stopped)).trans
      (accept_muted (p := p.closeGate.enter .stopped) rfl .stop (CaptureSource.stop p.source))
    cases hr : (CaptureSource.stop p.closeGate.source).result with
    | error f => exact ha
    | ok u => exact ha.trans (.log ..)

theorem gateOpen_stop (p : Pipeline σ) : p.stop.2.gateOpen = false := by
  by_cases h : p.phase = .delivering
  · exact congrArg Standing.gateOpen (stop_delivering h).2
  · rw [stop_halted h]; rfl

theorem close_muted (p : Pipeline σ) : Muted p p.close.2 := by
  unfold close
  split
  · exact .refl p
  · dsimp only
    split
    · exact (stop_muted p).trans (enter_muted ..)
    · have ha := ((stop_muted p).trans (enter_muted _ .closed)).trans
        (accept_muted (p := p.stop.2.enter .closed) (gateOpen_stop p) .closeDevice
          (CaptureSource.closeDevice p.stop.2.source))
      cases (CaptureSource.closeDevice p.stop.2.source).result with
      | error f => exact ha
      | ok u => exact ha.trans (.log ..)

end Pipeline

/-! ## The gate and the phase -/

/-- The gate is open while buffers are delivered, and at no other time. -/
def GateFits {σ : Type} (st : Standing σ) : Prop := st.gateOpen = true ↔ st.phase = .delivering

theorem GateFits.shut {σ : Type} {st : Standing σ} (h : GateFits st) (hp : st.phase ≠ .delivering) :
    st.gateOpen = false :=
  Bool.eq_false_iff.2 fun ho => hp (h.1 ho)

theorem gateFits_of_move {σ : Type} {st st' : Standing σ} (hm : Move st st') (h : GateFits st) :
    GateFits st' := by
  cases hm with
  | pass | addStage => exact h
  | shut hp => exact iff_of_false Bool.false_ne_true hp
  | bind source format hp | bindFails source f hp =>
    have hg := h.shut (by rw [hp]; decide)
    exact iff_of_false (by rw [hg]; exact Bool.false_ne_true) nofun
  | start => exact iff_of_true rfl rfl
  | startFails source format f hp => exact iff_of_false Bool.false_ne_true (by rw [hp]; decide)
  | stop | leave => exact iff_of_false Bool.false_ne_true nofun
  | release source failure hp =>
    have hg := h.shut (by rcases hp with hp | hp <;> rw [hp] <;> decide)
    exact iff_of_false (by rw [hg]; exact Bool.false_ne_true) nofun

namespace Pipeline

variable {σ : Type} [CaptureSource σ] {p : Pipeline σ}

theorem gateFits_lived (source : σ) (ops : List Operation) :
    GateFits (lived source ops).standing :=
  lived_induct (fun _ => iff_of_false Bool.false_ne_true nofun)
    (fun _ _ => gateFits_of_move) source ops

theorem gateFits_perform (h : GateFits p.standing) (op : Operation) :
    GateFits (p.perform op).standing :=
  (perform_moves p op).preserves (P := GateFits) (fun _ _ => gateFits_of_move) h

theorem drop_muted (h : GateFits p.standing) : Muted p p.drop := by
  have hg : p.close.2.gateOpen = false :=
    GateFits.shut (gateFits_perform h .close) (by
      rw [show (p.perform .close).standing.phase = .closed from phase_close p]; decide)
  unfold drop
  dsimp only
  cases p.close.1 with
  | ok u => exact (close_muted p).trans (attend_muted hg _)
  | error f =>
    have hl := (close_muted p).trans
      (.log _ .warn ("Failed to close capture pipeline: " ++ f.message))
    exact hl.trans (attend_muted (p := p.close.2.log ..) hg _)

/-- **Only a start and the time of a delivery let anything through**: every other operation is
muted, whatever the source sends from inside of it. -/
theorem perform_muted (h : GateFits p.standing) {op : Operation}
    (hs : op = .start → p.phase ≠ .opened) (hw : op = .wait → p.phase ≠ .delivering) :
    Muted p (p.perform op) := by
  cases op with
  | addStage stage => exact addStage_muted p stage
  | openDevice =>
    by_cases hp : p.phase = .idle
    · exact openDevice_muted (h.shut (by rw [show p.standing.phase = .idle from hp]; decide))
    · rw [perform, openDevice_again hp]
      exact .refl p
  | start =>
    rw [perform, start_unopened (hs rfl)]
    exact .refl p
  | stop => exact stop_muted p
  | close => exact close_muted p
  | drop => exact drop_muted h
  | wait => exact attend_muted (h.shut (hw rfl)) _

/-- Nothing comes through once a pipeline was stopped. -/
theorem performAll_muted (h : GateFits p.standing) (hp : Phase.stopped ≤ p.phase)
    (ops : List Operation) : Muted p (p.performAll ops) := by
  induction ops generalizing p with
  | nil => exact .refl p
  | cons op ops ih =>
    have hn : p.phase ≠ .opened ∧ p.phase ≠ .delivering := by
      constructor <;> intro he <;> rw [he] at hp <;> exact absurd hp (by decide)
    have ho : Muted p (p.perform op) := perform_muted h (fun _ => hn.1) (fun _ => hn.2)
    exact ho.trans (ih (gateFits_perform h op) (Phase.le_trans hp (phase_le_performAll p [op])))

/-- The stop of a pipeline that was started, and every release of one. -/
theorem stopped_le_perform {op : Operation}
    (ho : op = .stop ∧ Phase.delivering ≤ p.phase ∨ op = .close ∨ op = .drop) :
    Phase.stopped ≤ (p.perform op).phase := by
  rcases ho with ⟨rfl, hd⟩ | rfl | rfl
  · rw [perform, phase_stop, Phase.le_iff]
    split
    · exact Nat.le_refl _
    · rename_i hn
      rw [Phase.le_iff] at hd
      revert hd hn
      cases p.phase <;> simp [Phase.place]
  · rw [perform, phase_close]; exact Nat.le_succ _
  · rw [perform, phase_drop]; exact Nat.le_succ _

/-- Nothing comes through from there on. -/
theorem muted_since_stopped (h : GateFits p.standing) {op : Operation}
    (ho : op = .stop ∧ Phase.delivering ≤ p.phase ∨ op = .close ∨ op = .drop)
    (more : List Operation) : Muted p ((p.perform op).performAll more) := by
  have hone : Muted p (p.perform op) := by
    refine perform_muted h ?_ ?_ <;> rintro rfl <;> rcases ho with ⟨h, -⟩ | h | h <;> cases h
  exact hone.trans (performAll_muted (gateFits_perform h op) (stopped_le_perform ho) more)

/-- **The gate**, over whatever source and in whatever order a pipeline is used. It is open exactly
while the pipeline delivers, and the phases never go back. While it does not deliver, a buffer
through any delivery is counted and nothing else; nor does an operation let anything through that is
neither a start nor a while of delivery. From the stop of a started pipeline on, and from every
release, no stage takes anything again. -/
theorem gate_open_iff_delivering_else_muted (source : σ) (ops : List Operation) :
    let p := lived source ops
    (p.gateOpen = true ↔ p.phase = .delivering) ∧
      (∀ more, p.phase ≤ (lived source (ops ++ more)).phase) ∧
      (p.phase ≠ .delivering → ∀ k b, k < p.deliveries.length →
        p.receive (.buffer k b) =
          { p with
            diagnostics := countDropped p.diagnostics
            journal := p.journal ++ [.signalled (.buffer k b)] }) ∧
      (∀ op, (op = .start → p.phase ≠ .opened) → (op = .wait → p.phase ≠ .delivering) →
        Muted p (p.perform op)) ∧
      ∀ op more,
        op = .stop ∧ (.start, none) ∈ p.journal.calls ∨ op = .close ∨ op = .drop →
          Muted p (lived source (ops ++ op :: more)) := by
  intro p
  have hg : GateFits p.standing := gateFits_lived source ops
  refine ⟨hg, ?_, ?_, ?_, ?_⟩
  · intro more
    rw [lived_append]
    exact phase_le_performAll p more
  · intro hp k b hk
    exact receive_buffer_of_closed (hg.shut hp) hk b
  · intro op hs hw
    exact perform_muted hg hs hw
  · intro op more ho
    rw [lived_append, performAll_cons]
    exact muted_since_stopped hg
      (ho.imp_left (And.imp_right (callsFit_lived source ops).delivering_le)) more

/-- A source that fails to stop, and sends buffers while it is stopped and released. -/
def restless : Rehearsal :=
  let b : AudioBuffer := .full [0, 0, 0, 0]
  { stopFault := some (.captureFault "device lost"), stopBuffers := [b], closeBuffers := [b, b] }

theorem buffers_after_stop_dropped :
    Muted (lived restless [.openDevice, .start])
        (lived restless ([.openDevice, .start] ++ .stop :: [.close, .drop])) ∧
      (lived restless
        [.openDevice, .start, .stop, .close, .drop]).diagnostics.buffersDroppedAfterStop = 3 :=
  ⟨(gate_open_iff_delivering_else_muted restless [.openDevice, .start]).2.2.2.2 .stop [.close, .drop]
    (.inl ⟨rfl, by decide⟩), by decide⟩

end Pipeline
end AirLoop
