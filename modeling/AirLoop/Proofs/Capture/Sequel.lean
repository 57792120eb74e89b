import AirLoop.Proofs.Capture.Life

/-!
# Pipelines with a past

A pipeline that handed out deliveries before goes on as one that never did: what was handed out and
what happened stays as it was, and later deliveries bear later numbers (`Pipeline.continuing`). A
signal through a later delivery comes to the same in both (`receive_continuing`); and over sources
that answer alike every operation does (`performAll_continuing`).
-/

namespace AirLoop

/-! ## Later numbers -/

/-- The same signal, if `n` deliveries were handed out before those of the source. -/
def Signal.later (n : Nat) : Signal → Signal
  | buffer k b => buffer (n + k) b
  | fault k f => fault (n + k) f
  | log line => log line

/-- The same occurrence, if `n` deliveries were handed out before. -/
def Occurrence.later (n : Nat) : Occurrence → Occurrence
  | signalled s => signalled (s.later n)
  | faulted k f => faulted (n + k) f
  | o => o

/-- What comes of a passage has nothing to do with the number of its delivery. -/
theorem later_transit (n : Nat) (passage : Passage) (place : Nat) (monitor : LevelMonitor)
    (ss : List Station) :
    (transit passage place monitor ss).journal.map (·.later n) =
      (transit passage place monitor ss).journal := by
  induction ss generalizing place monitor with
  | nil => rfl
  | cons s rest ih =>
    have hs : (s.take monitor passage).reports.map (·.later n) =
        (s.take monitor passage).reports := by
      unfold Station.take; dsimp only; split <;> rfl
    simp only [transit]
    split
    · rw [List.map_cons, hs]
      rfl
    · rw [List.map_append, List.map_cons, hs, ih]
      rfl

/-! ## The past of a pipeline -/

namespace Pipeline

variable {τ σ : Type}

/-- The pipeline over another source, with deliveries and a journal from before. -/
def continuing (p : Pipeline τ) (source : σ) (old : List Delivery) (past : Journal) :
    Pipeline σ where
  source
  phase := p.phase
  format := p.format
  stations := p.stations
  gateOpen := p.gateOpen
  diagnostics := p.diagnostics
  deliveries := old ++ p.deliveries
  monitor := p.monitor
  journal := past ++ p.journal.map (·.later old.length)

variable (p : Pipeline τ) (source : σ) (old : List Delivery) (past : Journal)

theorem note_continuing (o : Occurrence) :
    (p.continuing source old past).note (o.later old.length) =
      (p.note o).continuing source old past := by
  simp only [note, continuing, List.map_append, List.map_cons, List.map_nil, List.append_assoc]

theorem log_continuing (level : LogLevel) (text : String) :
    (p.continuing source old past).log level text =
      (p.log level text).continuing source old past :=
  note_continuing p source old past (.logged ⟨level, text⟩)

/-- The deliveries of now stand behind the old ones. -/
theorem getElem?_continuing (k : Nat) :
    (p.continuing source old past).deliveries[old.length + k]? = p.deliveries[k]? := by
  rw [continuing, List.getElem?_append_right (Nat.le_add_right ..), Nat.add_sub_cancel_left]

theorem raise_continuing (k : Nat) (f : Fault) :
    (p.continuing source old past).raise (old.length + k) f =
      (p.raise k f).continuing source old past := by
  unfold raise
  rw [getElem?_continuing]
  cases p.deliveries[k]? with
  | none => rfl
  | some d =>
    dsimp only
    cases d.fault with
    | some _ => rfl
    | none =>
      have hset : (old ++ p.deliveries).set (old.length + k) { d with fault := some f } =
          old ++ p.deliveries.set k { d with fault := some f } := by
        rw [List.set_append_right _ _ (Nat.le_add_right ..), Nat.add_sub_cancel_left]
      rw [← note_continuing]
      simp only [continuing, hset]
      rfl

theorem forward_continuing (k : Nat) (d : Delivery) (b : AudioBuffer) :
    (p.continuing source old past).forward (old.length + k) d b =
      (p.forward k d b).continuing source old past := by
  have hpassed : (p.continuing source old past).passed d b =
      (p.passed d b).continuing source old past := by
    simp only [passed, continuing, transitOf, List.map_append, later_transit, List.append_assoc]
  cases hf : (p.transitOf d b).failure with
  | none =>
    rw [forward_passed (p := p.continuing source old past) _ hf, forward_passed k hf, hpassed]
  | some x =>
    rw [forward_failed (p := p.continuing source old past) _ hf, forward_failed k hf, hpassed,
      log_continuing, raise_continuing]

theorem receiveBuffer_continuing (k : Nat) (b : AudioBuffer) :
    (p.continuing source old past).receiveBuffer (old.length + k) b =
      (p.receiveBuffer k b).continuing source old past := by
  unfold receiveBuffer
  rw [getElem?_continuing]
  cases p.deliveries[k]? with
  | none => rfl
  | some d =>
    dsimp only
    rw [forward_continuing]
    change (if !p.gateOpen then _ else _) = _
    split
    · rfl
    · split <;> rfl

/-- **A signal through a later delivery** comes to the same as it does without a past. -/
theorem receive_continuing (s : Signal) :
    (p.continuing source old past).receive (s.later old.length) =
      (p.receive s).continuing source old past := by
  have hn := note_continuing p source old past (.signalled s)
  cases s with
  | buffer k b =>
    change ((p.continuing source old past).note
      (.signalled (.buffer (old.length + k) b))).receiveBuffer (old.length + k) b = _
    rw [show Occurrence.signalled (.buffer (old.length + k) b) =
      (Occurrence.signalled (.buffer k b)).later old.length from rfl, hn, receiveBuffer_continuing]
    rfl
  | fault k f =>
    change ((p.continuing source old past).note (.signalled (.fault (old.length + k) f))).raise
      (old.length + k) f = _
    rw [show Occurrence.signalled (.fault (old.length + k) f) =
      (Occurrence.signalled (.fault k f)).later old.length from rfl, hn, raise_continuing]
    rfl
  | log line =>
    change ((p.continuing source old past).note (.signalled (.log line))).note (.logged line) = _
    rw [show Occurrence.signalled (.log line) =
      (Occurrence.signalled (.log line)).later old.length from rfl, hn]
    exact note_continuing _ source old past (.logged line)

theorem receiveAll_continuing (xs : List Signal) :
    (p.continuing source old past).receiveAll (xs.map (·.later old.length)) =
      (p.receiveAll xs).continuing source old past := by
  induction xs generalizing p with
  | nil => rfl
  | cons s xs ih => rw [List.map_cons, receiveAll_cons, receiveAll_cons, receive_continuing, ih]

theorem source_accept {α : Type} (p : Pipeline τ) (call : SourceCall) (x : Reply τ α) :
    (p.accept call x).source = x.source :=
  congrArg Standing.source (standing_accept p call x)

theorem source_attend (p : Pipeline τ) (happening : τ → List Signal × τ) :
    (p.attend happening).source = (happening p.source).2 :=
  congrArg Standing.source (standing_attend p happening)

end Pipeline

/-! ## Sources that answer alike -/

section
variable {τ σ : Type}

/-- One answer is like another, but for the numbers of the deliveries. -/
structure Reply.Like {α : Type} (n : Nat) (R : τ → σ → Prop) (x : Reply τ α) (y : Reply σ α) :
    Prop where
  result : y.result = x.result
  signals : y.signals = x.signals.map (·.later n)
  source : R x.source y.source

theorem Reply.Like.accept {α : Type} {n : Nat} {R : τ → σ → Prop} {x : Reply τ α} {y : Reply σ α}
    (h : Reply.Like n R x y) (p : Pipeline τ) (call : SourceCall) :
    R (p.accept call x).source y.source := by
  rw [p.source_accept]
  exact h.source

/-- Sources that stand in `R` answer alike, after `n` deliveries and after none, and stay in `R`. -/
structure AnswerAlike [CaptureSource τ] [CaptureSource σ] (n : Nat) (R : τ → σ → Prop) : Prop where
  openDevice : ∀ {a b}, R a b →
    Reply.Like n R (CaptureSource.openDevice a) (CaptureSource.openDevice b)
  start : ∀ {a b}, R a b → ∀ k,
    Reply.Like n R (CaptureSource.start k a) (CaptureSource.start (n + k) b)
  stop : ∀ {a b}, R a b → Reply.Like n R (CaptureSource.stop a) (CaptureSource.stop b)
  closeDevice : ∀ {a b}, R a b →
    Reply.Like n R (CaptureSource.closeDevice a) (CaptureSource.closeDevice b)
  idle : ∀ {a b}, R a b →
    (CaptureSource.idle b).1 = (CaptureSource.idle a).1.map (·.later n) ∧
      R (CaptureSource.idle a).2 (CaptureSource.idle b).2
  discard : ∀ {a b}, R a b →
    (CaptureSource.discard b).1 = (CaptureSource.discard a).1.map (·.later n) ∧
      R (CaptureSource.discard a).2 (CaptureSource.discard b).2

end

namespace Pipeline

variable {τ σ : Type}

/-- The results are the same, and one pipeline continues the other. -/
def Continues {ε : Type} (R : τ → σ → Prop) (old : List Delivery) (past : Journal)
    (x : ε × Pipeline τ) (y : ε × Pipeline σ) : Prop :=
  ∃ b, R x.2.source b ∧ y = (x.1, x.2.continuing b old past)

variable {R : τ → σ → Prop} {old : List Delivery} (past : Journal) {p : Pipeline τ} {b : σ}

theorem accept_continuing {α : Type} {x : Reply τ α} {y : Reply σ α}
    (h : Reply.Like old.length R x y) (call : SourceCall) :
    (p.continuing b old past).accept call y = (p.accept call x).continuing y.source old past := by
  have hn := note_continuing { p with source := x.source } y.source old past
    (.called call x.failure)
  have hy : (p.continuing b old past).accept call y =
      (({ p.continuing b old past with source := y.source }).note
        (.called call y.failure)).receiveAll y.signals := rfl
  have hf : y.failure = x.failure := by
    unfold Reply.failure
    rw [h.result]
  rw [hy, hf, h.signals]
  exact (congrArg (receiveAll · _) hn).trans (receiveAll_continuing ..)

theorem attend_continuing {happening : τ → List Signal × τ} {happening' : σ → List Signal × σ}
    (h : (happening' b).1 = (happening p.source).1.map (·.later old.length)) :
    (p.continuing b old past).attend happening' =
      (p.attend happening).continuing (happening' b).2 old past := by
  have hy : (p.continuing b old past).attend happening' =
      ({ p with source := (happening p.source).2 }.continuing (happening' b).2 old past).receiveAll
        (happening' b).1 := rfl
  rw [hy, h]
  exact receiveAll_continuing ..

/-! ## Operations -/

theorem addStage_continuing (hR : R p.source b) (stage : Stage) :
    Continues R old past (p.addStage stage) ((p.continuing b old past).addStage stage) := by
  unfold addStage
  change Continues R old past _ (if p.phase = .delivering then _ else _)
  split
  · exact ⟨b, hR, rfl⟩
  · exact ⟨b, hR, rfl⟩

variable [CaptureSource τ] [CaptureSource σ]

theorem openDevice_continuing (h : AnswerAlike old.length R) (hR : R p.source b) :
    Continues R old past p.openDevice (p.continuing b old past).openDevice := by
  by_cases hp : p.phase = .idle
  · have hl := h.openDevice hR
    have ha : ((p.continuing b old past).enter .opened).accept .openDevice
        (CaptureSource.openDevice b) = _ :=
      accept_continuing (p := p.enter .opened) (b := b) past hl .openDevice
    have hs := hl.accept (p.enter .opened) .openDevice
    cases hr : (CaptureSource.openDevice p.source).result with
    | error f =>
      rw [openDevice_eq_error hp hr,
        openDevice_eq_error (p := p.continuing b old past) hp (hl.result.trans hr)]
      exact ⟨_, hs, Prod.ext rfl ha⟩
    | ok format =>
      have hlog := log_continuing ((p.enter .opened).accept .openDevice
        (CaptureSource.openDevice p.source)) (CaptureSource.openDevice b).source old past .info
        ("Loopback capture opened: " ++ format.describe)
      rw [← ha] at hlog
      rw [openDevice_eq_ok hp hr,
        openDevice_eq_ok (p := p.continuing b old past) hp (hl.result.trans hr)]
      exact ⟨_, hs, Prod.ext rfl
        (congrArg (fun q : Pipeline σ => { q with format := some format }) hlog)⟩
  · rw [openDevice_again hp, openDevice_again (p := p.continuing b old past) hp]
    exact ⟨b, hR, rfl⟩

theorem start_continuing (h : AnswerAlike old.length R) (hR : R p.source b) :
    Continues R old past p.start (p.continuing b old past).start := by
  by_cases hp : p.phase = .opened
  · cases hf : p.format with
    | none =>
      rw [start_unknown hp hf, start_unknown (p := p.continuing b old past) hp hf]
      exact ⟨b, hR, rfl⟩
    | some format =>
      -- the new delivery bears the number behind the old ones
      have hnumber : (p.continuing b old past).deliveries.length =
          old.length + p.deliveries.length := List.length_append
      have hgate : (p.continuing b old past).openGate format =
          (p.openGate format).continuing b old past := by
        simp only [openGate, continuing, List.append_assoc]
      have hl := h.start hR p.deliveries.length
      rw [← hnumber] at hl
      have ha := accept_continuing (p := p.openGate format) (b := b) past hl .start
      rw [← hgate] at ha
      have hs := hl.accept (p.openGate format) .start
      cases hr : (CaptureSource.start p.deliveries.length p.source).result with
      | error f =>
        rw [start_eq_error hp hf hr,
          start_eq_error (p := p.continuing b old past) hp hf (hl.result.trans hr)]
        exact ⟨_, hs, Prod.ext rfl (congrArg closeGate ha)⟩
      | ok _ =>
        rw [start_eq_ok hp hf hr,
          start_eq_ok (p := p.continuing b old past) hp hf (hl.result.trans hr)]
        have hlog := congrArg (fun q : Pipeline σ => (q.enter .delivering).log .info
          ("Capture delivering through stages: " ++ Text.quotedList q.stageNames)) ha
        exact ⟨_, hs, Prod.ext rfl (hlog.trans (log_continuing ((p.openGate format).accept .start
          (CaptureSource.start p.deliveries.length p.source) |>.enter .delivering) ..))⟩
  · rw [start_unopened hp, start_unopened (p := p.continuing b old past) hp]
    exact ⟨b, hR, rfl⟩

theorem stop_continuing (h : AnswerAlike old.length R) (hR : R p.source b) :
    Continues R old past p.stop (p.continuing b old past).stop := by
  by_cases hp : p.phase = .delivering
  · have hl := h.stop hR
    have ha : ((p.continuing b old past).closeGate.enter .stopped).accept .stop
        (CaptureSource.stop b) = _ :=
      accept_continuing (p := p.closeGate.enter .stopped) (b := b) past hl .stop
    have hs := hl.accept (p.closeGate.enter .stopped) .stop
    cases hr : (CaptureSource.stop p.source).result with
    | error f =>
      rw [stop_eq_error hp hr, stop_eq_error (p := p.continuing b old past) hp (hl.result.trans hr)]
      exact ⟨_, hs, Prod.ext rfl ha⟩
    | ok _ =>
      rw [stop_eq_ok hp hr, stop_eq_ok (p := p.continuing b old past) hp (hl.result.trans hr)]
      have hlog := congrArg (fun q : Pipeline σ =>
        q.log .info ("Capture stopped: " ++ q.diagnostics.describe)) ha
      exact ⟨_, hs, Prod.ext rfl (hlog.trans (log_continuing ..))⟩
  · rw [stop_halted hp, stop_halted (p := p.continuing b old past) hp]
    exact ⟨b, hR, rfl⟩

theorem close_continuing (h : AnswerAlike old.length R) (hR : R p.source b) :
    Continues R old past p.close (p.continuing b old past).close := by
  by_cases hc : p.phase = .closed
  · rw [close_closed hc, close_closed (p := p.continuing b old past) hc]
    exact ⟨b, hR, rfl⟩
  by_cases hi : p.phase = .idle
  · rw [close_idle hi, close_idle (p := p.continuing b old past) hi]
    exact ⟨b, hR, rfl⟩
  obtain ⟨b', hR', hstop⟩ := stop_continuing past h hR
  have hl := h.closeDevice hR'
  have ha : ((p.stop.2.continuing b' old past).enter .closed).accept .closeDevice
      (CaptureSource.closeDevice b') = _ :=
    accept_continuing (p := p.stop.2.enter .closed) (b := b') past hl .closeDevice
  have hs := hl.accept (p.stop.2.enter .closed) .closeDevice
  have hsource : (p.continuing b old past).stop.2.source = b' := by rw [hstop]; rfl
  cases hr : (CaptureSource.closeDevice p.stop.2.source).result with
  | error f =>
    rw [close_eq_error hc hi hr, close_eq_error (p := p.continuing b old past) hc hi
      (by rw [hsource]; exact hl.result.trans hr), hstop]
    exact ⟨_, hs, Prod.ext rfl ha⟩
  | ok _ =>
    rw [close_eq_ok hc hi hr, close_eq_ok (p := p.continuing b old past) hc hi
      (by rw [hsource]; exact hl.result.trans hr), hstop]
    have hlog := congrArg (fun q : Pipeline σ => q.log .debug "Capture device released") ha
    exact ⟨_, hs, Prod.ext rfl (hlog.trans (log_continuing ..))⟩

theorem drop_continuing (h : AnswerAlike old.length R) (hR : R p.source b) :
    ∃ b', R p.drop.source b' ∧ (p.continuing b old past).drop = p.drop.continuing b' old past := by
  obtain ⟨b', hR', hclose⟩ := close_continuing past h hR
  obtain ⟨hsignals, hnext⟩ := h.discard hR'
  unfold drop
  rw [hclose]
  dsimp only
  cases p.close.1 with
  | ok _ =>
    refine ⟨(CaptureSource.discard b').2, ?_, attend_continuing past hsignals⟩
    rw [source_attend]
    exact hnext
  | error f =>
    refine ⟨(CaptureSource.discard b').2, ?_, ?_⟩
    · rw [source_attend]
      exact hnext
    · dsimp only
      rw [log_continuing]
      exact attend_continuing (p := p.close.2.log ..) past hsignals

/-- **An operation over sources that answer alike** comes to the same after earlier deliveries as
without any. -/
theorem perform_continuing (h : AnswerAlike old.length R) (hR : R p.source b) (op : Operation) :
    ∃ b', R (p.perform op).source b' ∧
      (p.continuing b old past).perform op = (p.perform op).continuing b' old past := by
  have hcontinues {ε : Type} {x : ε × Pipeline τ} {y : ε × Pipeline σ}
      (hc : Continues R old past x y) :
      ∃ b', R x.2.source b' ∧ y.2 = x.2.continuing b' old past := by
    obtain ⟨b', hR', rfl⟩ := hc
    exact ⟨b', hR', rfl⟩
  cases op with
  | addStage stage => exact hcontinues (addStage_continuing past hR stage)
  | openDevice => exact hcontinues (openDevice_continuing past h hR)
  | start => exact hcontinues (start_continuing past h hR)
  | stop => exact hcontinues (stop_continuing past h hR)
  | close => exact hcontinues (close_continuing past h hR)
  | drop => exact drop_continuing past h hR
  | wait =>
    obtain ⟨hsignals, hnext⟩ := h.idle hR
    refine ⟨_, ?_, attend_continuing past hsignals⟩
    rw [perform, wait, source_attend]
    exact hnext

theorem performAll_continuing (h : AnswerAlike old.length R) (hR : R p.source b)
    (ops : List Operation) :
    ∃ b', R (p.performAll ops).source b' ∧
      (p.continuing b old past).performAll ops = (p.performAll ops).continuing b' old past := by
  induction ops generalizing p b with
  | nil => exact ⟨b, hR, rfl⟩
  | cons op ops ih =>
    obtain ⟨b', hR', hop⟩ := perform_continuing past h hR op
    rw [performAll_cons, performAll_cons, hop]
    exact ih hR'

end Pipeline

end AirLoop
