import AirLoop.Proofs.Capture.Account
import AirLoop.Proofs.Capture.Sequel

/-!
# Refusals and retries

What comes of a pipeline that is opened, started or given a stage at a time when it may not be:
nothing at all. A start that the source fails leaves it as it was, but for what the buffers did that
came meanwhile (`SetBack`), so that it can be started again, and then it goes on as if it had never
been started before (`LikeFirst`). After a failed attempt to bind it can only be released
(`Unbound`). All of this holds in every life (`refusals_inert_and_starts_retriable`).
-/

namespace AirLoop

namespace Pipeline

variable {σ : Type}

/-! ## Signals without buffers -/

/-- Stages, counters and monitor are as they were. -/
structure Untouched (p q : Pipeline σ) : Prop where
  stations : q.stations = p.stations
  diagnostics : q.diagnostics = p.diagnostics
  monitor : q.monitor = p.monitor

theorem Untouched.trans {p q r : Pipeline σ} (h : Untouched p q) (h' : Untouched q r) :
    Untouched p r :=
  ⟨h'.stations.trans h.stations, h'.diagnostics.trans h.diagnostics, h'.monitor.trans h.monitor⟩

theorem receive_untouched (p : Pipeline σ) {s : Signal} (h : ∀ k b, s ≠ .buffer k b) :
    Untouched p (p.receive s) := by
  cases s with
  | buffer k b => exact absurd rfl (h k b)
  | fault k f =>
    change Untouched p ((p.note (.signalled (.fault k f))).raise k f)
    rcases (p.note (.signalled (.fault k f))).raise_cases k f with hr | ⟨d, -, -, hr⟩ <;> rw [hr]
    · exact ⟨rfl, rfl, rfl⟩
    · exact ⟨rfl, rfl, rfl⟩
  | log line => exact ⟨rfl, rfl, rfl⟩

theorem receiveAll_untouched (p : Pipeline σ) {xs : List Signal}
    (h : ∀ s ∈ xs, ∀ k b, s ≠ .buffer k b) : Untouched p (p.receiveAll xs) := by
  induction xs generalizing p with
  | nil => exact ⟨rfl, rfl, rfl⟩
  | cons s xs ih =>
    obtain ⟨hs, hxs⟩ := List.forall_mem_cons.1 h
    rw [receiveAll_cons]
    exact (receive_untouched p hs).trans (ih _ hxs)

/-! ## Without a past -/

/-- The pipeline over another source, as if nothing had happened and nothing been handed out. -/
def fresh {τ : Type} (p : Pipeline σ) (source : τ) : Pipeline τ :=
  { p with source, deliveries := [], journal := [] }

/-- The pipeline with the deliveries from the `n`th on, as if nothing had happened. -/
def since (p : Pipeline σ) (n : Nat) : Pipeline σ :=
  { p with deliveries := p.deliveries.drop n, journal := [] }

theorem continuing_fresh {τ : Type} (p : Pipeline σ) (source : τ) :
    (p.fresh source).continuing p.source p.deliveries p.journal = p := by
  simp only [continuing, fresh, List.append_nil, List.map_nil]

theorem continuing_since (p : Pipeline σ) (n : Nat) :
    (p.since n).continuing p.source (p.deliveries.take n) p.journal = p := by
  simp only [continuing, since, List.take_append_drop, List.append_nil, List.map_nil]

/-- A signal through a delivery from the `n`th on comes to the same without those before. -/
theorem receive_since (p : Pipeline σ) {n : Nat} (h : n ≤ p.deliveries.length) (s : Signal) :
    p.receive (s.later n) = ((p.since n).receive s).continuing p.source (p.deliveries.take n)
      p.journal := by
  have hs := receive_continuing (p.since n) p.source (p.deliveries.take n) p.journal s
  rwa [continuing_since, List.length_take, Nat.min_eq_left h] at hs

/-! ## Starts that fail -/

variable [CaptureSource σ]

/-- What a start that fails makes of a pipeline. -/
structure SetBack (f : Fault) (p q : Pipeline σ) : Prop where
  phase : q.phase = p.phase
  format : q.format = p.format
  stages : q.stages = p.stages
  shut : p.gateOpen = false ∧ q.gateOpen = false
  handout : ∀ k < p.deliveries.length, q.handout k = p.handout k
  calls : q.journal.calls = p.journal.calls ++ [(.start, some f)]
  /-- if no buffer came meanwhile -/
  quiet :
    (∀ s ∈ (CaptureSource.start p.deliveries.length p.source).signals, ∀ k b, s ≠ .buffer k b) →
      Untouched p q

variable {p : Pipeline σ}

theorem setBack_of_error {format : AudioFormat} {f : Fault} (hfaithful : Faithful p)
    (hg : GateFits p.standing) (h : p.phase = .opened) (hf : p.format = some format)
    (hr : (CaptureSource.start p.deliveries.length p.source).result = .error f) :
    p.start.1 = .error f ∧ SetBack f p p.start.2 := by
  obtain ⟨hresult, hst⟩ := start_error h hf hr
  refine ⟨hresult, ?_⟩
  exact
    { phase := congrArg Standing.phase hst
      format := congrArg Standing.format hst
      stages := congrArg Standing.stages hst
      shut := ⟨hg.shut (by rw [show p.standing.phase = .opened from h]; decide),
        congrArg Standing.gateOpen hst⟩
      handout := fun k hk => handout_performAll hfaithful hk [.start]
      calls := congrArg Standing.calls hst
      quiet := by
        intro hs
        rw [start_eq_error h hf hr]
        have hu := receiveAll_untouched ({ p.openGate format with
          source := (CaptureSource.start p.deliveries.length p.source).source }.note
            (.called .start (some f))) hs
        unfold accept
        rw [hr]
        exact ⟨hu.stations, hu.diagnostics, hu.monitor⟩ }

/-! ## Starts after others -/

/-- The pipeline can be started, and goes on like one that is started for the first time. -/
structure LikeFirst (format : AudioFormat) (p : Pipeline σ) : Prop where
  result : p.start.1 = (CaptureSource.start p.deliveries.length p.source).result
  calls : p.start.2.journal.calls =
    p.journal.calls ++ [(.start, (CaptureSource.start p.deliveries.length p.source).failure)]
  handout : p.start.2.handout p.deliveries.length = some (p.stages, format)
  /-- over a source that answers as it would if it had never been started -/
  first : ∀ (τ : Type) [CaptureSource τ] (R : τ → σ → Prop), AnswerAlike p.deliveries.length R →
    ∀ a, R a p.source →
      p.start.1 = (p.fresh a).start.1 ∧
      ∀ ops, ∃ b, R ((p.fresh a).start.2.performAll ops).source b ∧
        p.start.2.performAll ops =
          ((p.fresh a).start.2.performAll ops).continuing b p.deliveries p.journal
  /-- at every moment afterwards, whatever came through earlier deliveries -/
  own : ∀ q, Ticks p.start.2 q → ∀ s,
    q.receive (s.later p.deliveries.length) =
      ((q.since p.deliveries.length).receive s).continuing q.source
        (q.deliveries.take p.deliveries.length) q.journal

theorem likeFirst_of_opened {format : AudioFormat} (h : p.phase = .opened)
    (hf : p.format = some format) : LikeFirst format p := by
  have hstart : p.start.1 = (CaptureSource.start p.deliveries.length p.source).result ∧
      p.start.2.journal.calls = p.journal.calls ++
        [(.start, (CaptureSource.start p.deliveries.length p.source).failure)] := by
    cases hr : (CaptureSource.start p.deliveries.length p.source).result with
    | ok u =>
      obtain ⟨hresult, hst⟩ := start_ok h hf hr
      exact ⟨hresult, by rw [Reply.failure_ok hr]; exact congrArg Standing.calls hst⟩
    | error f =>
      obtain ⟨hresult, hst⟩ := start_error h hf hr
      exact ⟨hresult, by rw [Reply.failure_error hr]; exact congrArg Standing.calls hst⟩
  refine ⟨hstart.1, hstart.2, (handout_start h hf).1, ?_, ?_⟩
  · intro τ _ R hR a ha
    -- the pipeline continues a fresh one, with what was handed out and happened before
    obtain ⟨b, hb, hboth⟩ := start_continuing (p := p.fresh a) p.journal hR ha
    rw [continuing_fresh] at hboth
    refine ⟨congrArg Prod.fst hboth, ?_⟩
    intro ops
    rw [hboth]
    exact performAll_continuing p.journal hR hb ops
  · intro q hq s
    refine receive_since q ?_ s
    have hle := hq.length_deliveries_le
    rw [(handout_start h hf).2] at hle
    exact Nat.le_of_succ_le hle

/-! ## Attempts to bind that fail -/

/-- Nothing more can be made of a pipeline whose source could not be bound. -/
structure Unbound (p : Pipeline σ) : Prop where
  format : p.format = none
  openDevice : p.openDevice =
    (.error (.invalidConfiguration "capture pipeline can only be opened once"), p)
  start : ∃ text, p.start = (.error (.invalidConfiguration text), p)

/-- A source that could not be bound is released at most. -/
def Forsaken (f : Fault) (st : Standing σ) : Prop :=
  st.format = none ∧ (st.phase = .opened ∧ st.calls = [(.openDevice, some f)] ∨
    st.phase = .closed ∧ ∃ r, st.calls = [(.openDevice, some f), (.closeDevice, r)])

omit [CaptureSource σ] in
theorem forsaken_of_move {f : Fault} {st st' : Standing σ} (hm : Move st st') (h : Forsaken f st) :
    Forsaken f st' := by
  obtain ⟨hformat, hcalls⟩ := h
  have hopen : st.phase = .opened ∨ st.phase = .closed := hcalls.imp And.left And.left
  cases hm with
  | pass | addStage | shut => exact ⟨hformat, hcalls⟩
  | bind _ _ hp | bindFails _ _ hp | stop _ _ hp | leave hp =>
    rw [hp] at hopen
    exact absurd hopen (by decide)
  | start _ _ _ hf | startFails _ _ _ _ hf =>
    rw [hformat] at hf
    cases hf
  | release source r hp =>
    obtain ⟨-, hc⟩ | ⟨hclosed, -⟩ := hcalls
    · exact ⟨hformat, .inr ⟨rfl, r, by rw [hc]; rfl⟩⟩
    · rw [hclosed] at hp
      exact absurd hp (by decide)

theorem unbound_of_forsaken {f : Fault} (h : Forsaken f p.standing) : Unbound p := by
  obtain ⟨hformat, hcalls⟩ := h
  have hopen : p.phase = .opened ∨ p.phase = .closed := hcalls.imp And.left And.left
  refine ⟨hformat, openDevice_again ?_, ?_⟩
  · rcases hopen with hp | hp <;> rw [hp] <;> decide
  · rcases hopen with hp | hp
    · exact ⟨_, start_unknown hp hformat⟩
    · exact ⟨_, start_unopened (by rw [hp]; decide)⟩

/-- Only a release ends the phase in which the source could not be bound. -/
theorem opened_of_unreleased {f : Fault} (h : Forsaken f p.standing) (hp : p.phase = .opened)
    {ops : List Operation} (hops : ∀ op ∈ ops, op ≠ .close ∧ op ≠ .drop) :
    (p.performAll ops).phase = .opened := by
  induction ops generalizing p with
  | nil => exact hp
  | cons op ops ih =>
    obtain ⟨hop, hops⟩ := List.forall_mem_cons.1 hops
    have hstill : Forsaken f (p.perform op).standing :=
      (perform_moves p op).preserves (P := Forsaken f) (fun _ _ => forsaken_of_move) h
    refine ih hstill ?_ hops
    cases op with
    | addStage stage =>
      exact congrArg Standing.phase (standing_addStage stage (by rw [hp]; decide)) |>.trans hp
    | openDevice =>
      rw [perform, openDevice_again (by rw [hp]; decide)]
      exact hp
    | start =>
      rw [perform, start_unknown hp h.1]
      exact hp
    | stop =>
      rw [perform, phase_stop, if_neg (by rw [hp]; decide)]
      exact hp
    | close => exact absurd rfl hop.1
    | drop => exact absurd rfl hop.2
    | wait => exact (congrArg Standing.phase (standing_attend p _)).trans hp

theorem closed_of_released (p : Pipeline σ) {ops : List Operation}
    (h : .close ∈ ops ∨ .drop ∈ ops) : (p.performAll ops).phase = .closed := by
  rcases h with h | h <;> obtain ⟨before, after, rfl⟩ := List.append_of_mem h <;>
    rw [performAll_append, performAll_cons]
  · exact phase_performAll_of_closed _ (phase_close _) after
  · exact phase_performAll_of_closed _ (phase_drop _) after

/-- **After a failed attempt to bind** nothing more is asked of the source than to be released,
once. -/
theorem unbound_of_error {f : Fault} (hc : CallsFit p.standing) (h : p.phase = .idle)
    (hr : (CaptureSource.openDevice p.source).result = .error f) (ops : List Operation) :
    let q := p.openDevice.2.performAll ops
    Unbound q ∧
      ((∀ op ∈ ops, op ≠ .close ∧ op ≠ .drop) → q.journal.calls = [(.openDevice, some f)]) ∧
      (.close ∈ ops ∨ .drop ∈ ops →
        ∃ r, q.journal.calls = [(.openDevice, some f), (.closeDevice, r)]) := by
  intro q
  obtain ⟨hformat, hcalls⟩ := hc.of_idle h
  have hst := (openDevice_error h hr).2
  have hbound : Forsaken f p.openDevice.2.standing := by
    rw [hst]
    exact ⟨hformat, .inl ⟨rfl, by rw [hcalls]; rfl⟩⟩
  have hq : Forsaken f q.standing :=
    (performAll_moves _ ops).preserves (P := Forsaken f) (fun _ _ => forsaken_of_move) hbound
  refine ⟨unbound_of_forsaken hq, ?_, ?_⟩
  · intro hops
    have hphase : q.phase = .opened :=
      opened_of_unreleased hbound (congrArg Standing.phase hst) hops
    obtain ⟨-, hcalls⟩ | ⟨hclosed, -⟩ := hq.2
    · exact hcalls
    · exact absurd (hphase.symm.trans hclosed) (by decide)
  · intro hops
    have hphase : q.phase = .closed := closed_of_released _ hops
    obtain ⟨hopened, -⟩ | ⟨-, hcalls⟩ := hq.2
    · exact absurd (hphase.symm.trans hopened) (by decide)
    · exact hcalls

/-! ## Lives -/

/-- **Refusals change nothing and failed starts can be retried**, over whatever source and in
whatever order a pipeline is used. What a pipeline refuses by itself is a wrong configuration, and
leaves everything as it is. What it does not refuse the source is called for, and decides. A start
that the source fails leaves phase, format and stages as they were and the gate closed; and as long
as the phase does not change the pipeline can be started again, and goes on as if that were the first
time. After a failed attempt to bind every further one and every start is refused, and the source is
still released, once. -/
theorem refusals_inert_and_starts_retriable (source : σ) (ops : List Operation) :
    let p := lived source ops
    (if p.phase = .idle then
        p.openDevice.1 = (CaptureSource.openDevice p.source).result
      else p.openDevice =
        (.error (.invalidConfiguration "capture pipeline can only be opened once"), p)) ∧
      (match p.phase, p.format with
        | .opened, some format => LikeFirst format p
        | .opened, none => p.start = (.error (.invalidConfiguration "capture format not known"), p)
        | _, _ => p.start =
          (.error (.invalidConfiguration "can only start an open, idle pipeline"), p)) ∧
      (∀ stage, if p.phase = .delivering then
          p.addStage stage =
            (.error (.invalidConfiguration "cannot add a stage while delivering"), p)
        else (p.addStage stage).1 = .ok ()) ∧
      (∀ format f, p.phase = .opened → p.format = some format →
        (CaptureSource.start p.deliveries.length p.source).result = .error f →
        p.start.1 = .error f ∧ SetBack f p p.start.2 ∧
          ∀ more, (p.start.2.performAll more).phase = .opened →
            (p.start.2.performAll more).format = some format ∧
              LikeFirst format (p.start.2.performAll more)) ∧
      ∀ f, p.phase = .idle → (CaptureSource.openDevice p.source).result = .error f →
        p.openDevice.1 = .error f ∧ ∀ more,
          let q := p.openDevice.2.performAll more
          Unbound q ∧
            ((∀ op ∈ more, op ≠ .close ∧ op ≠ .drop) → q.journal.calls = [(.openDevice, some f)]) ∧
            (.close ∈ more ∨ .drop ∈ more →
              ∃ r, q.journal.calls = [(.openDevice, some f), (.closeDevice, r)]) := by
  intro p
  have hg : GateFits p.standing := gateFits_lived source ops
  have hc : CallsFit p.standing := callsFit_lived source ops
  refine ⟨?_, ?_, ?_, ?_, ?_⟩
  · split
    · rename_i hp
      cases hr : (CaptureSource.openDevice p.source).result with
      | ok format => exact (openDevice_ok hp hr).1
      | error f => exact (openDevice_error hp hr).1
    · rename_i hp
      exact openDevice_again hp
  · split
    · rename_i hp hf
      exact likeFirst_of_opened hp hf
    · rename_i hp hf
      exact start_unknown hp hf
    · rename_i hsome hnone
      refine start_unopened ?_
      intro hp
      cases hf : p.format with
      | none => exact hnone hp hf
      | some format => exact hsome format hp hf
  · intro stage
    unfold addStage
    split <;> rfl
  · intro format f hp hf hr
    have hfaithful : Faithful p := faithful_lived source ops
    obtain ⟨hresult, hback⟩ := setBack_of_error hfaithful hg hp hf hr
    refine ⟨hresult, hback, ?_⟩
    intro more hopened
    have hphase : p.start.2.phase ≠ .idle := by
      rw [hback.phase, show p.phase = .opened from hp]
      decide
    have hkept := format_performAll hphase (hback.format.trans hf) more
    exact ⟨hkept, likeFirst_of_opened hopened hkept⟩
  · intro f hp hr
    exact ⟨(openDevice_error hp hr).1, unbound_of_error hc hp hr⟩

end Pipeline

/-! ## A source that hesitates -/

/-- A source that fails to start at first, and sends a buffer whenever it is started. -/
def hesitant : Rehearsal :=
  { firstStartFault := some (.captureFault "device busy"), startBuffers := [.full [0, 0, 0, 0]] }

/-- The second source is the first one, had it failed to start once before. -/
def Recovered (a b : Rehearsal) : Prop :=
  a.firstStartFault = none ∧ a.stopBuffers = [] ∧ a.closeBuffers = [] ∧ a.traffic = [] ∧
    b = { a with
      firstStartFault := hesitant.firstStartFault
      deliveries := 0 :: a.deliveries.map (1 + ·) }

namespace Rehearsal

theorem signals_nil (r : Rehearsal) : r.signals [] [] = [] := by
  unfold signals
  split <;> rfl

/-- All goes through the latest delivery. -/
theorem signals_of_concat {r : Rehearsal} {before : List Nat} {k : Nat}
    (h : r.deliveries = before ++ [k]) (buffers : List AudioBuffer) (faults : List Fault) :
    r.signals buffers faults = buffers.map (.buffer k) ++ faults.map (.fault k) := by
  have hlatest : r.latest = some k := by rw [latest, h, List.getLast?_concat]
  unfold signals
  rw [hlatest]

end Rehearsal

theorem answerAlike_recovered : AnswerAlike 1 Recovered where
  openDevice := by
    rintro a _ ⟨hfirst, hstop, hclose, htraffic, rfl⟩
    exact ⟨rfl, rfl, hfirst, hstop, hclose, htraffic, rfl⟩
  start := by
    rintro a _ ⟨hfirst, hstop, hclose, htraffic, rfl⟩ k
    refine ⟨?_, ?_, hfirst, hstop, hclose, htraffic, ?_⟩
    · simp [CaptureSource.start, hfirst]
    · simp only [CaptureSource.start]
      rw [Rehearsal.signals_of_concat rfl, Rehearsal.signals_of_concat rfl, List.map_append,
        List.map_map, List.map_map]
      rfl
    · simp [CaptureSource.start]
  stop := by
    rintro a _ ⟨hfirst, hstop, hclose, htraffic, rfl⟩
    refine ⟨rfl, ?_, hfirst, hstop, hclose, htraffic, rfl⟩
    simp [CaptureSource.stop, hstop, Rehearsal.signals_nil]
  closeDevice := by
    rintro a _ ⟨hfirst, hstop, hclose, htraffic, rfl⟩
    refine ⟨rfl, ?_, hfirst, hstop, hclose, htraffic, rfl⟩
    simp [CaptureSource.closeDevice, hclose, Rehearsal.signals_nil]
  idle := by
    rintro a _ ⟨hfirst, hstop, hclose, htraffic, rfl⟩
    simp only [CaptureSource.idle, htraffic]
    exact ⟨rfl, hfirst, hstop, hclose, htraffic, by rw [htraffic]⟩
  discard := by
    rintro a _ ⟨hfirst, hstop, hclose, htraffic, rfl⟩
    exact ⟨rfl, hfirst, hstop, hclose, htraffic, rfl⟩

/-- A source that cannot be bound. -/
def unbindable : Rehearsal := { openFault := some (.deviceUnavailable "no default output device") }

namespace Pipeline

theorem start_retried_with_further_stage :
    let p := lived hesitant [.addStage (.meter true), .openDevice]
    let r := p.start.2.performAll [.addStage (.meter false)]
    (p.start.1 = .error (.captureFault "device busy") ∧ p.start.2.gateOpen = false) ∧
      r.start.2.handout 1 = some ([.meter true, .meter false], ⟨48000, 32, 2⟩) ∧
      r.start.1 = (r.fresh { hesitant with firstStartFault := none }).start.1 ∧
      ∃ x, ((lived unbindable []).openDevice.2.performAll [.start, .close]).journal.calls =
        [(.openDevice, some (.deviceUnavailable "no default output device")),
          (.closeDevice, x)] := by
  intro p r
  obtain ⟨-, -, -, hfailed, -⟩ :=
    refusals_inert_and_starts_retriable hesitant [.addStage (.meter true), .openDevice]
  obtain ⟨hresult, hback, hretry⟩ :=
    hfailed ⟨48000, 32, 2⟩ (.captureFault "device busy") rfl rfl rfl
  obtain ⟨-, hlike⟩ := hretry [.addStage (.meter false)] rfl
  obtain ⟨-, -, -, -, hunbound⟩ := refusals_inert_and_starts_retriable unbindable []
  obtain ⟨-, hcalls⟩ := hunbound (.deviceUnavailable "no default output device") rfl rfl
  refine ⟨⟨hresult, hback.shut.2⟩, hlike.handout, ?_, (hcalls [.start, .close]).2.2 (.inl ?_)⟩
  · exact (hlike.first Rehearsal Recovered answerAlike_recovered
      { hesitant with firstStartFault := none } ⟨rfl, rfl, rfl, rfl, rfl⟩).1
  · exact List.mem_cons_of_mem _ List.mem_cons_self

end Pipeline

end AirLoop
