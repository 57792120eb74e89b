import AirLoop.Proofs.Capture.Retry

/-!
# Deliveries of failed starts

All deliveries of a pipeline share its gate. So one whose start failed is dead as long as no later
start reaches the source, but not for good: when the gate opens again a buffer through it counts
like any other, and goes through the stages that there were at its own start
(`retry_revives_failed_start_delivery`). It does so at no other time, and never once the pipeline
was stopped (`failed_start_delivery_follows_gate`).
-/

namespace AirLoop

namespace Pipeline

variable {σ : Type} {p : Pipeline σ}

theorem handed_of_handout {k : Nat} {x : List Stage × AudioFormat} (h : p.handout k = some x) :
    k < p.deliveries.length := by
  obtain ⟨y, hy, -⟩ := Option.map_eq_some_iff.1 h
  have hk := (List.getElem?_eq_some_iff.1 hy).1
  simpa [standing] using hk

/-- **A buffer through a delivery at the open gate** counts and goes through the stages of the
delivery, whatever came of the start that handed it out. -/
theorem receive_of_gateOpen (hf : Faithful p) (hg : p.gateOpen = true) {k : Nat}
    {chain : List Stage} {format : AudioFormat} (hh : p.handout k = some (chain, format))
    {b : AudioBuffer} (hb : b.isEmpty = false) :
    (p.receive (.buffer k b)).diagnostics = countDelivered p.diagnostics b ∧
      (p.receive (.buffer k b)).journal.processed =
        p.journal.processed ++ route p.journal.processed ⟨b, format⟩ 0 chain := by
  have hin : p.doorway.intake (.buffer k b) = some ⟨k, b, true⟩ := by
    simp only [Doorway.intake, doorway, if_pos (handed_of_handout hh), hg]
  have hdelivered : (⟨k, b, true⟩ : Intake).isDelivered = true := by
    simp only [Intake.isDelivered, hb, Bool.not_false, Bool.and_self]
  obtain ⟨-, hcount, hway⟩ := receive_of_intake hf hin
  rw [if_pos hdelivered] at hcount
  refine ⟨hcount, ?_⟩
  rw [hway, way, hh]
  simp only [hdelivered, if_true]

/-! ## Until the next start -/

/-- A standing with no more than `n` deliveries does not deliver. -/
def AwaitsStart (n : Nat) (st : Standing σ) : Prop :=
  n ≤ st.handed.length ∧ (st.handed.length = n → st.phase ≠ .delivering)

theorem awaitsStart_of_move {n : Nat} {st st' : Standing σ} (hm : Move st st')
    (h : AwaitsStart n st) : AwaitsStart n st' := by
  refine ⟨Nat.le_trans h.1 hm.grows.2.length_le, ?_⟩
  cases hm with
  | pass | addStage | shut => exact h.2
  | bind | bindFails | stop | leave | release => exact fun _ => nofun
  | start =>
    intro hlen
    have hle := h.1
    simp only [List.length_append, List.length_singleton] at hlen
    omega
  | startFails _ _ _ hopened => exact fun _ => hopened ▸ nofun

/-- Something is handed out before a pipeline delivers again. -/
theorem not_delivering_of_moves {st st' : Standing σ} (h : Moves st st')
    (hp : st.phase ≠ .delivering) (hh : st'.handed.length = st.handed.length) :
    st'.phase ≠ .delivering := by
  have hawaits : AwaitsStart st.handed.length st := ⟨Nat.le_refl _, fun _ => hp⟩
  exact (h.preserves (P := AwaitsStart st.handed.length) (fun _ _ => awaitsStart_of_move)
    hawaits).2 hh

variable [CaptureSource σ]

/-- An operation that hands nothing out lets nothing through, unless it is a while of delivery. -/
theorem perform_muted_of_length (hg : GateFits p.standing) (hp : p.phase ≠ .delivering)
    {op : Operation} (hl : (p.perform op).deliveries.length = p.deliveries.length) :
    Muted p (p.perform op) := by
  by_cases hs : op = .start ∧ p.phase = .opened
  · obtain ⟨rfl, ho⟩ := hs
    cases hf : p.format with
    | none =>
      rw [perform, start_unknown ho hf]
      exact .refl p
    | some format =>
      -- a start that reaches the source hands something out
      have hmore := (handout_start ho hf).2
      rw [perform, hmore] at hl
      omega
  · exact perform_muted hg (fun h ho => hs ⟨h, ho⟩) fun _ => hp

/-- **Nothing comes through before another start reaches the source.** -/
theorem performAll_muted_of_length (hg : GateFits p.standing) (hp : p.phase ≠ .delivering)
    {ops : List Operation} (hl : (p.performAll ops).deliveries.length = p.deliveries.length) :
    Muted p (p.performAll ops) := by
  induction ops generalizing p with
  | nil => exact .refl p
  | cons op ops ih =>
    have hone := (perform_ticks p op).length_deliveries_le
    have hrest := (performAll_ticks (p.perform op) ops).length_deliveries_le
    rw [performAll_cons] at hl ⊢
    have hsame : (p.perform op).deliveries.length = p.deliveries.length := by omega
    have hphase : (p.perform op).phase ≠ .delivering :=
      not_delivering_of_moves (perform_moves p op) hp (by simpa [standing] using hsame)
    have ho : Muted p (p.perform op) := perform_muted_of_length hg hp hsame
    exact ho.trans (ih (gateFits_perform hg op) hphase (by omega))

/-- A pipeline that delivers has been started since it was open. -/
theorem started_since (hc : CallsFit p.standing) (hp : p.phase = .opened) {ops : List Operation}
    (hd : (p.performAll ops).phase = .delivering) :
    ∃ later, (p.performAll ops).journal.calls = p.journal.calls ++ later ∧
      (.start, none) ∈ later := by
  obtain ⟨more, hj, -⟩ := (performAll_ticks p ops).extends
  have hcalls : (p.performAll ops).journal.calls = p.journal.calls ++ Journal.calls more := by
    rw [hj, Journal.calls_append]
  have hfit : CallsFit (p.performAll ops).standing :=
    (performAll_moves p ops).preserves (P := CallsFit) (fun _ _ => callsFit_of_move) hc
  obtain ⟨fs, hfs⟩ := hfit.of_delivering hd
  have hin : (.start, none) ∈ (p.performAll ops).journal.calls := by
    change (.start, none) ∈ (p.performAll ops).standing.calls
    rw [hfs]
    simp
  rw [hcalls] at hin
  refine ⟨_, hcalls, (List.mem_append.1 hin).resolve_left ?_⟩
  -- no start had succeeded before, or the pipeline would have been past the open phase
  intro hbefore
  have hle := hc.delivering_le hbefore
  rw [show p.standing.phase = .opened from hp] at hle
  exact absurd hle (by decide)

/-! ## Inside the next start -/

/-- The pipeline as its source is called to start, before the source reports anything. -/
def calledToStart (p : Pipeline σ) (format : AudioFormat) : Pipeline σ :=
  let reply := CaptureSource.start p.deliveries.length p.source
  { p.openGate format with source := reply.source }.note (.called .start reply.failure)

theorem calledToStart_tick (p : Pipeline σ) (format : AudioFormat) :
    Tick p (p.calledToStart format) := .hand _ _ _

/-- What the source reports from inside the call is all that counts, or comes to the stages. -/
theorem start_counts {format : AudioFormat} (hp : p.phase = .opened) (hf : p.format = some format) :
    let m := (p.calledToStart format).receiveAll
      (CaptureSource.start p.deliveries.length p.source).signals
    p.start.2.diagnostics = m.diagnostics ∧ p.start.2.journal.processed = m.journal.processed := by
  cases hr : (CaptureSource.start p.deliveries.length p.source).result with
  | error f =>
    rw [start_eq_error hp hf hr]
    exact ⟨rfl, rfl⟩
  | ok u =>
    rw [start_eq_ok hp hf hr]
    refine ⟨rfl, ?_⟩
    exact (Journal.processed_append ..).trans (List.append_nil _)

/-- **Inside the next start the gate is open**, whatever was reported so far. -/
theorem open_inside_start {q r : Pipeline σ} (ht : Ticks q r) {format : AudioFormat}
    (hp : r.phase = .opened) (hf : r.format = some format) :
    let reply := CaptureSource.start r.deliveries.length r.source
    let inside := fun n => (r.calledToStart format).receiveAll (reply.signals.take n)
    (∀ n, Ticks q (inside n) ∧ (inside n).gateOpen = true) ∧
      r.start.2.diagnostics = (inside reply.signals.length).diagnostics ∧
      r.start.2.journal.processed = (inside reply.signals.length).journal.processed := by
  intro reply inside
  refine ⟨fun n => ?_, ?_⟩
  · have hticks : Ticks q (inside n) :=
      (ht.tail (calledToStart_tick r format)).trans (receiveAll_ticks _ _)
    exact ⟨hticks, gateOpen_receiveAll _ _⟩
  · have hcounts := start_counts hp hf
    rwa [← List.take_length (l := reply.signals)] at hcounts

/-! ## Lives -/

/-- **The delivery of a failed start**, over whatever source and in whatever order a pipeline is
used. At every moment, also inside of calls, it is as good as any: at the closed gate a buffer is
counted as dropped, and at the open gate it counts as delivered and goes through the stages that
there were at the failed start. The gate stays closed until another start reaches the source, and is
open for all that the source reports from inside that call. Between operations it is open exactly
while the pipeline delivers, which it does only after such a start has succeeded; and an operation
lets something through only if it is a start that reaches the source, or a while of delivery. Once
that delivery was stopped, or the pipeline released, nothing comes through again. -/
theorem failed_start_delivery_follows_gate (source : σ) (ops : List Operation)
    (format : AudioFormat) (f : Fault)
    (hp : (lived source ops).phase = .opened) (hf : (lived source ops).format = some format)
    (hr : (CaptureSource.start (lived source ops).deliveries.length
      (lived source ops).source).result = .error f) :
    let p := lived source ops
    let k := p.deliveries.length
    let q := p.start.2
    p.start.1 = .error f ∧
      (∀ m, Ticks q m → m.handout k = some (p.stages, format) ∧
        ∀ b, (m.gateOpen = false → m.receive (.buffer k b) =
            { m with
              diagnostics := countDropped m.diagnostics
              journal := m.journal ++ [.signalled (.buffer k b)] }) ∧
          (m.gateOpen = true → b.isEmpty = false →
            (m.receive (.buffer k b)).diagnostics = countDelivered m.diagnostics b ∧
              (m.receive (.buffer k b)).journal.processed =
                m.journal.processed ++ route m.journal.processed ⟨b, format⟩ 0 p.stages)) ∧
      ∀ more, let r := q.performAll more
        (r.deliveries.length = q.deliveries.length → r.gateOpen = false ∧ Muted q r) ∧
          (r.gateOpen = true ↔ r.phase = .delivering) ∧
          (r.phase = .delivering → ∃ later,
            r.journal.calls = q.journal.calls ++ later ∧ (.start, none) ∈ later) ∧
          (r.phase = .opened →
            let reply := CaptureSource.start r.deliveries.length r.source
            let inside := fun n => (r.calledToStart format).receiveAll (reply.signals.take n)
            (∀ n, Ticks q (inside n) ∧ (inside n).gateOpen = true) ∧
              r.start.2.diagnostics = (inside reply.signals.length).diagnostics ∧
              r.start.2.journal.processed = (inside reply.signals.length).journal.processed) ∧
          (∀ op, (op = .start → r.phase ≠ .opened) → (op = .wait → r.phase ≠ .delivering) →
            Muted r (r.perform op)) ∧
          ∀ op further, op = .stop ∧ r.phase = .delivering ∨ op = .close ∨ op = .drop →
            Muted r ((r.perform op).performAll further) := by
  intro p k q
  have hfaithful : Faithful p := faithful_lived source ops
  obtain ⟨hresult, hback⟩ := setBack_of_error hfaithful (gateFits_lived source ops) hp hf hr
  obtain ⟨hhandout, hlength⟩ := handout_start hp hf
  have hq : Faithful q := (start_ticks p).faithful hfaithful
  have hopened : q.phase = .opened := hback.phase.trans hp
  have hgate : GateFits q.standing := gateFits_perform (gateFits_lived source ops) .start
  have hcalls : CallsFit q.standing :=
    (start_moves p).preserves (P := CallsFit) (fun _ _ => callsFit_of_move)
      (callsFit_lived source ops)
  have hk : k < q.deliveries.length := by
    rw [hlength]
    exact Nat.lt_succ_self _
  have hidle : q.phase ≠ .delivering := by rw [hopened]; decide
  refine ⟨hresult, ?_, ?_⟩
  · intro m hm
    have hh : m.handout k = some (p.stages, format) := (hm.handout hq hk).trans hhandout
    refine ⟨hh, ?_⟩
    intro b
    refine ⟨fun hshut => receive_buffer_of_closed hshut (handed_of_handout hh) b, ?_⟩
    intro ho hb
    exact receive_of_gateOpen (hm.faithful hq) ho hh hb
  · intro more r
    have hg : GateFits r.standing :=
      (performAll_moves q more).preserves (P := GateFits) (fun _ _ => gateFits_of_move) hgate
    have hformat : r.format = some format :=
      format_performAll (by rw [hopened]; decide) (hback.format.trans hf) more
    refine ⟨?_, hg, started_since hcalls hopened,
      fun ho => open_inside_start (performAll_ticks q more) ho hformat, ?_, ?_⟩
    · intro hl
      have hstill : r.phase ≠ .delivering :=
        not_delivering_of_moves (performAll_moves q more) hidle (by simpa [standing] using hl)
      exact ⟨hg.shut hstill, performAll_muted_of_length hgate hidle hl⟩
    · intro op hs hw
      exact perform_muted hg hs hw
    · intro op further ho
      refine muted_since_stopped hg (ho.imp_left (And.imp_right fun hd => ?_)) further
      rw [hd]
      exact Phase.le_refl _

end Pipeline

/-! ## A source that keeps to its first delivery -/

/-- A source that fails its first start, and between calls sends a buffer through the delivery that
this start handed it. -/
structure Straggler where
  /-- starts so far -/
  starts : Nat := 0

namespace Straggler

def format : AudioFormat := ⟨48000, 32, 2⟩

/-- What it sends. -/
def buffer : AudioBuffer := .full [0, 0, 0, 0x3f]

def busy : Fault := .captureFault "busy"

end Straggler

instance : CaptureSource Straggler where
  openDevice s := { result := .ok Straggler.format, source := s }
  start _ s :=
    { result := if s.starts = 0 then .error Straggler.busy else .ok (), source := ⟨s.starts + 1⟩ }
  stop s := { result := .ok (), source := s }
  closeDevice s := { result := .ok (), source := s }
  deviceName _ := none
  idle s := ([.buffer 0 Straggler.buffer], s)
  discard s := ([], s)

namespace Pipeline

/-- A stage that takes everything. -/
def sink : Stage := ⟨"a", .handle fun _ => none⟩

/-- The delivery of a failed start is revived by the next one. -/
theorem retry_revives_failed_start_delivery :
    let p := lived ({} : Straggler) [.addStage sink, .openDevice]
    let q := p.start.2
    let r := q.performAll [.start, .wait]
    (p.start.1 = .error Straggler.busy ∧ p.deliveries.length = 0 ∧ q.deliveries.length = 1) ∧
      r.journal.calls = [(.openDevice, none), (.start, some Straggler.busy), (.start, none)] ∧
      r.journal.signals = [.buffer 0 Straggler.buffer] ∧
      r.diagnostics.buffersDelivered = 1 ∧
      r.journal.processed = [(0, Straggler.buffer, Straggler.format, none)] :=
  ⟨⟨rfl, rfl, rfl⟩, rfl, rfl, rfl, rfl⟩

theorem failed_start_delivery_reopened_by_retry :
    let p := lived ({} : Straggler) [.addStage sink, .openDevice]
    let q := p.start.2
    let r := q.performAll [.start]
    p.start.1 = .error Straggler.busy ∧
      Muted q (q.performAll [.addStage sink, .wait]) ∧
      (∃ later, r.journal.calls = q.journal.calls ++ later ∧ (.start, none) ∈ later) ∧
      (q.calledToStart Straggler.format).gateOpen = true ∧
      (r.receive (.buffer 0 Straggler.buffer)).diagnostics.buffersDelivered = 1 ∧
      Muted r ((r.perform .stop).performAll [.start, .wait]) := by
  intro p q r
  obtain ⟨hresult, hmoments, hlater⟩ := failed_start_delivery_follows_gate ({} : Straggler)
    [.addStage sink, .openDevice] Straggler.format Straggler.busy rfl rfl rfl
  have hreceived := ((hmoments r (performAll_ticks _ [.start])).2 Straggler.buffer).2 rfl rfl
  obtain ⟨-, -, -, hinside, -, -⟩ := hlater []
  obtain ⟨-, -, hstarted, -, -, hended⟩ := hlater [.start]
  refine ⟨hresult, ((hlater [.addStage sink, .wait]).1 rfl).2, hstarted rfl, ?_, ?_, ?_⟩
  · exact ((hinside rfl).1 0).2
  · exact congrArg Diagnostics.buffersDelivered hreceived.1
  · exact hended .stop [.start, .wait] (.inl ⟨rfl, rfl⟩)

end Pipeline

end AirLoop
