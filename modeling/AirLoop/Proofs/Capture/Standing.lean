import AirLoop.Capture.Gate

/-!
# Standings

A pipeline's standing is what its operations decide: its source, phase, format, stages, gate,
deliveries and the calls it made. No report of a source moves it (`standing_receiveAll`), so one
equation for each operation (`openDevice_ok` and the like) says all that the operation does
to it, whatever the source answers and reports meanwhile.
-/

namespace AirLoop

/-- The fault of an answer, if it is one. -/
def Reply.failure {σ α : Type} (r : Reply σ α) : Option Fault :=
  match r.result with
  | .ok _ => none
  | .error f => some f

theorem Reply.failure_ok {σ α : Type} {r : Reply σ α} {a : α} (h : r.result = .ok a) :
    r.failure = none := by
  unfold Reply.failure; rw [h]

theorem Reply.failure_error {σ α : Type} {r : Reply σ α} {f : Fault} (h : r.result = .error f) :
    r.failure = some f := by
  unfold Reply.failure; rw [h]

/-- The calls on a source in their order, and how they failed. -/
abbrev Calls := List (SourceCall × Option Fault)

/-- What the operations of a pipeline decide, and the calls they made. -/
structure Standing (σ : Type) where
  source : σ
  phase : Phase
  format : Option AudioFormat
  stages : List Stage
  gateOpen : Bool
  /-- number of stages and format of each delivery -/
  handed : List (Nat × AudioFormat)
  calls : Calls

namespace Pipeline

variable {σ : Type}

/-- Where a pipeline stands. -/
def standing (p : Pipeline σ) : Standing σ where
  source := p.source
  phase := p.phase
  format := p.format
  stages := p.stations.map (·.stage)
  gateOpen := p.gateOpen
  handed := p.deliveries.map fun d => (d.stages, d.format)
  calls := p.journal.calls

/-! ## Parts that do not count -/

theorem standing_note (p : Pipeline σ) (o : Occurrence) :
    (p.note o).standing = { p.standing with calls := p.standing.calls ++ Journal.calls [o] } := by
  simp only [standing, note, Journal.calls_append]

@[simp] theorem standing_log (p : Pipeline σ) (level : LogLevel) (text : String) :
    (p.log level text).standing = p.standing := by
  unfold log
  rw [standing_note]
  simp [Journal.calls]

/-- A fault through a delivery changes nothing, or else it is the delivery's first. -/
theorem raise_cases (p : Pipeline σ) (k : Nat) (f : Fault) :
    p.raise k f = p ∨ ∃ d, p.deliveries[k]? = some d ∧ d.fault = none ∧
      p.raise k f =
        { p with deliveries := p.deliveries.set k { d with fault := some f } }.note
          (.faulted k f) := by
  unfold raise
  split
  · exact .inl rfl
  · rename_i d hd
    split
    · exact .inl rfl
    · rename_i hf
      exact .inr ⟨d, hd, hf, rfl⟩

@[simp] theorem standing_raise (p : Pipeline σ) (k : Nat) (f : Fault) :
    (p.raise k f).standing = p.standing := by
  rcases raise_cases p k f with h | ⟨d, hd, _, h⟩
  · rw [h]
  · -- the fault of a delivery does not show in a standing
    have hset : (p.deliveries.set k { d with fault := some f }).map (fun d => (d.stages, d.format)) =
        p.deliveries.map fun d => (d.stages, d.format) := by
      obtain ⟨hlt, rfl⟩ := List.getElem?_eq_some_iff.1 hd
      have hself : p.deliveries.set k p.deliveries[k] = p.deliveries := List.set_getElem_self hlt
      conv => rhs; rw [← hself]
      rw [List.map_set, List.map_set]
    rw [h, standing_note]
    simp only [standing, hset, Journal.calls, List.filterMap_cons, List.filterMap_nil,
      List.append_nil]

/-! ## Buffers on their way through the stages -/

/-- What comes of a buffer that is forwarded to the stages of a delivery. -/
def transitOf (p : Pipeline σ) (d : Delivery) (b : AudioBuffer) : Transit :=
  transit ⟨b, d.format⟩ 0 p.monitor (p.stations.take d.stages)

/-- The pipeline with that, a failure not raised yet. -/
def passed (p : Pipeline σ) (d : Delivery) (b : AudioBuffer) : Pipeline σ :=
  { p with
    diagnostics := countDelivered p.diagnostics b
    stations := (p.transitOf d b).stations ++ p.stations.drop d.stages
    monitor := (p.transitOf d b).monitor
    journal := p.journal ++ (p.transitOf d b).journal }

theorem forward_passed {p : Pipeline σ} {d : Delivery} {b : AudioBuffer} (k : Nat)
    (h : (p.transitOf d b).failure = none) : p.forward k d b = p.passed d b := by
  unfold transitOf at h
  unfold forward
  dsimp only
  rw [h]
  rfl

theorem forward_failed {p : Pipeline σ} {d : Delivery} {b : AudioBuffer} {name : String} {f : Fault}
    (k : Nat) (h : (p.transitOf d b).failure = some (name, f)) :
    p.forward k d b =
      ((p.passed d b).log .error s!"Stage '{name}' failed: {f.message}").raise k
        (.captureFault (name ++ ": " ++ f.message)) := by
  unfold transitOf at h
  unfold forward
  dsimp only
  rw [h]
  rfl

theorem stages_transit (passage : Passage) (place : Nat) (monitor : LevelMonitor)
    (ss : List Station) :
    (transit passage place monitor ss).stations.map (·.stage) = ss.map (·.stage) := by
  induction ss generalizing place monitor with
  | nil => rfl
  | cons s rest ih =>
    have hs : (s.take monitor passage).station.stage = s.stage := by
      unfold Station.take; dsimp only; split <;> rfl
    simp only [transit]
    split
    · rw [List.map_cons, hs, List.map_cons]
    · rw [List.map_cons, hs, ih, List.map_cons]

theorem calls_transit (passage : Passage) (place : Nat) (monitor : LevelMonitor)
    (ss : List Station) : Journal.calls (transit passage place monitor ss).journal = [] := by
  induction ss generalizing place monitor with
  | nil => rfl
  | cons s rest ih =>
    have hs : Journal.calls (s.take monitor passage).reports = [] := by
      unfold Station.take; dsimp only; split <;> rfl
    simp only [transit]
    split
    · exact hs
    · rw [Journal.calls_append, ih, List.append_nil]; exact hs

@[simp] theorem standing_passed (p : Pipeline σ) (d : Delivery) (b : AudioBuffer) :
    (p.passed d b).standing = p.standing := by
  have hs : ((p.transitOf d b).stations ++ p.stations.drop d.stages).map (·.stage) =
      p.stations.map (·.stage) := by
    rw [transitOf, List.map_append, stages_transit, ← List.map_append, List.take_append_drop]
  have hc : Journal.calls (p.transitOf d b).journal = [] := calls_transit ..
  simp only [standing, passed, hs, Journal.calls_append, hc, List.append_nil]

@[simp] theorem standing_forward (p : Pipeline σ) (k : Nat) (d : Delivery) (b : AudioBuffer) :
    (p.forward k d b).standing = p.standing := by
  cases h : (p.transitOf d b).failure with
  | none => rw [forward_passed k h, standing_passed]
  | some x => rw [forward_failed k h, standing_raise, standing_log, standing_passed]

/-! ## Reports of the source -/

/-- What comes of a buffer: nothing, or it is counted as dropped or empty, or it is forwarded. -/
theorem receiveBuffer_cases (p : Pipeline σ) (k : Nat) (b : AudioBuffer) :
    p.receiveBuffer k b = p ∨
      p.receiveBuffer k b = { p with diagnostics := countDropped p.diagnostics } ∨
      p.receiveBuffer k b = { p with diagnostics := countEmpty p.diagnostics } ∨
      ∃ d, p.deliveries[k]? = some d ∧ p.receiveBuffer k b = p.forward k d b := by
  unfold receiveBuffer
  split
  · exact .inl rfl
  · rename_i d hd
    split
    · exact .inr (.inl rfl)
    · split
      · exact .inr (.inr (.inl rfl))
      · exact .inr (.inr (.inr ⟨d, hd, rfl⟩))

@[simp] theorem standing_receiveBuffer (p : Pipeline σ) (k : Nat) (b : AudioBuffer) :
    (p.receiveBuffer k b).standing = p.standing := by
  rcases p.receiveBuffer_cases k b with h | h | h | ⟨d, -, h⟩ <;> rw [h]
  · rfl
  · rfl
  · exact standing_forward ..

@[simp] theorem standing_receive (p : Pipeline σ) (s : Signal) :
    (p.receive s).standing = p.standing := by
  have hn : (p.note (.signalled s)).standing = p.standing := by
    rw [standing_note]; simp [Journal.calls]
  cases s with
  | buffer k b => exact (standing_receiveBuffer ..).trans hn
  | fault k f => exact (standing_raise ..).trans hn
  | log l =>
    have hl : ((p.note (.signalled (.log l))).note (.logged l)).standing =
        (p.note (.signalled (.log l))).standing := by
      rw [standing_note]; simp [Journal.calls]
    exact hl.trans hn

/-- **A source cannot move a standing** by what it reports. -/
@[simp] theorem standing_receiveAll (p : Pipeline σ) (xs : List Signal) :
    (p.receiveAll xs).standing = p.standing := by
  induction xs generalizing p with
  | nil => rfl
  | cons s xs ih => rw [receiveAll_cons, ih, standing_receive]

theorem standing_attend (p : Pipeline σ) (happening : σ → List Signal × σ) :
    (p.attend happening).standing = { p.standing with source := (happening p.source).2 } := by
  unfold attend
  rw [standing_receiveAll]
  rfl

theorem standing_accept {α : Type} (p : Pipeline σ) (call : SourceCall) (reply : Reply σ α) :
    (p.accept call reply).standing =
      { p.standing with
        source := reply.source
        calls := p.standing.calls ++ [(call, reply.failure)] } := by
  unfold accept
  rw [standing_receiveAll, standing_note]
  rfl

/-! ## Operations -/

theorem standing_addStage {p : Pipeline σ} (stage : Stage) (h : p.phase ≠ .delivering) :
    (p.addStage stage).2.standing = { p.standing with stages := p.standing.stages ++ [stage] } := by
  unfold addStage
  rw [if_neg h]
  simp only [standing, List.map_append, List.map_cons, List.map_nil]

theorem addStage_delivering {p : Pipeline σ} (stage : Stage) (h : p.phase = .delivering) :
    (p.addStage stage).2 = p := by
  unfold addStage; rw [if_pos h]

theorem standing_openGate (p : Pipeline σ) (format : AudioFormat) :
    (p.openGate format).standing =
      { p.standing with
        gateOpen := true
        handed := p.standing.handed ++ [(p.standing.stages.length, format)] } := by
  simp only [openGate, standing, List.map_append, List.map_cons, List.map_nil, List.length_map]

variable [CaptureSource σ] {p : Pipeline σ}

theorem openDevice_again (h : p.phase ≠ .idle) :
    p.openDevice =
      (.error (.invalidConfiguration "capture pipeline can only be opened once"), p) := by
  unfold openDevice; rw [if_pos h]

theorem openDevice_eq_ok {format : AudioFormat} (h : p.phase = .idle)
    (hr : (CaptureSource.openDevice p.source).result = .ok format) :
    p.openDevice = (.ok format,
      { ((p.enter .opened).accept .openDevice (CaptureSource.openDevice p.source)).log .info
          ("Loopback capture opened: " ++ format.describe) with format := some format }) := by
  unfold openDevice
  rw [if_neg (not_not_intro h)]
  dsimp only
  rw [hr]

theorem openDevice_eq_error {f : Fault} (h : p.phase = .idle)
    (hr : (CaptureSource.openDevice p.source).result = .error f) :
    p.openDevice =
      (.error f, (p.enter .opened).accept .openDevice (CaptureSource.openDevice p.source)) := by
  unfold openDevice
  rw [if_neg (not_not_intro h)]
  dsimp only
  rw [hr]

theorem openDevice_ok {format : AudioFormat} (h : p.phase = .idle)
    (hr : (CaptureSource.openDevice p.source).result = .ok format) :
    p.openDevice.1 = .ok format ∧ p.openDevice.2.standing =
      { p.standing with
        source := (CaptureSource.openDevice p.source).source
        phase := .opened
        format := some format
        calls := p.standing.calls ++ [(.openDevice, none)] } := by
  have ha := standing_accept (p.enter .opened) .openDevice (CaptureSource.openDevice p.source)
  rw [Reply.failure_ok hr,
    ← standing_log _ .info ("Loopback capture opened: " ++ format.describe)] at ha
  rw [openDevice_eq_ok h hr]
  refine ⟨rfl, ?_⟩
  exact congrArg (fun st : Standing σ => { st with format := some format }) ha

theorem openDevice_error {f : Fault} (h : p.phase = .idle)
    (hr : (CaptureSource.openDevice p.source).result = .error f) :
    p.openDevice.1 = .error f ∧ p.openDevice.2.standing =
      { p.standing with
        source := (CaptureSource.openDevice p.source).source
        phase := .opened
        calls := p.standing.calls ++ [(.openDevice, some f)] } := by
  rw [openDevice_eq_error h hr]
  refine ⟨rfl, ?_⟩
  rw [standing_accept, Reply.failure_error hr]
  rfl

theorem start_unopened (h : p.phase ≠ .opened) :
    p.start = (.error (.invalidConfiguration "can only start an open, idle pipeline"), p) := by
  unfold start; rw [if_pos h]

theorem start_unknown (h : p.phase = .opened) (hf : p.format = none) :
    p.start = (.error (.invalidConfiguration "capture format not known"), p) := by
  unfold start; rw [if_neg (not_not_intro h), hf]

theorem start_eq_ok {format : AudioFormat} (h : p.phase = .opened) (hf : p.format = some format)
    (hr : (CaptureSource.start p.deliveries.length p.source).result = .ok ()) :
    let q := ((p.openGate format).accept .start
      (CaptureSource.start p.deliveries.length p.source)).enter .delivering
    p.start = (.ok (), q.log .info
      ("Capture delivering through stages: " ++ Text.quotedList q.stageNames)) := by
  unfold start
  rw [if_neg (not_not_intro h), hf]
  dsimp only
  rw [hr]
  rfl

theorem start_eq_error {format : AudioFormat} {f : Fault} (h : p.phase = .opened)
    (hf : p.format = some format)
    (hr : (CaptureSource.start p.deliveries.length p.source).result = .error f) :
    p.start = (.error f, ((p.openGate format).accept .start
      (CaptureSource.start p.deliveries.length p.source)).closeGate) := by
  unfold start
  rw [if_neg (not_not_intro h), hf]
  dsimp only
  rw [hr]

theorem start_ok {format : AudioFormat} (h : p.phase = .opened) (hf : p.format = some format)
    (hr : (CaptureSource.start p.deliveries.length p.source).result = .ok ()) :
    p.start.1 = .ok () ∧ p.start.2.standing =
      { p.standing with
        source := (CaptureSource.start p.deliveries.length p.source).source
        phase := .delivering
        gateOpen := true
        handed := p.standing.handed ++ [(p.standing.stages.length, format)]
        calls := p.standing.calls ++ [(.start, none)] } := by
  have ha := standing_accept (p.openGate format) .start
    (CaptureSource.start p.deliveries.length p.source)
  rw [Reply.failure_ok hr, standing_openGate] at ha
  rw [start_eq_ok h hf hr]
  refine ⟨rfl, ?_⟩
  rw [standing_log]
  exact congrArg (fun st : Standing σ => { st with phase := .delivering }) ha

theorem start_error {format : AudioFormat} {f : Fault} (h : p.phase = .opened)
    (hf : p.format = some format)
    (hr : (CaptureSource.start p.deliveries.length p.source).result = .error f) :
    p.start.1 = .error f ∧ p.start.2.standing =
      { p.standing with
        source := (CaptureSource.start p.deliveries.length p.source).source
        gateOpen := false
        handed := p.standing.handed ++ [(p.standing.stages.length, format)]
        calls := p.standing.calls ++ [(.start, some f)] } := by
  have ha := standing_accept (p.openGate format) .start
    (CaptureSource.start p.deliveries.length p.source)
  rw [Reply.failure_error hr, standing_openGate] at ha
  rw [start_eq_error h hf hr]
  refine ⟨rfl, ?_⟩
  exact congrArg (fun st : Standing σ => { st with gateOpen := false }) ha

theorem stop_halted (h : p.phase ≠ .delivering) : p.stop = (.ok (), p.closeGate) := by
  unfold stop
  exact if_pos h

theorem stop_eq_ok (h : p.phase = .delivering)
    (hr : (CaptureSource.stop p.source).result = .ok ()) :
    let q := (p.closeGate.enter .stopped).accept .stop (CaptureSource.stop p.source)
    p.stop = (.ok (), q.log .info ("Capture stopped: " ++ q.diagnostics.describe)) := by
  have hc : ¬p.closeGate.phase ≠ .delivering := not_not_intro h
  have hr' : (CaptureSource.stop p.closeGate.source).result = .ok () := hr
  unfold stop
  dsimp only
  rw [if_neg hc, hr']
  rfl

theorem stop_eq_error {f : Fault} (h : p.phase = .delivering)
    (hr : (CaptureSource.stop p.source).result = .error f) :
    p.stop =
      (.error f, (p.closeGate.enter .stopped).accept .stop (CaptureSource.stop p.source)) := by
  have hc : ¬p.closeGate.phase ≠ .delivering := not_not_intro h
  have hr' : (CaptureSource.stop p.closeGate.source).result = .error f := hr
  unfold stop
  dsimp only
  rw [if_neg hc, hr']
  rfl

theorem stop_delivering (h : p.phase = .delivering) :
    p.stop.1 = (CaptureSource.stop p.source).result ∧ p.stop.2.standing =
      { p.standing with
        source := (CaptureSource.stop p.source).source
        phase := .stopped
        gateOpen := false
        calls := p.standing.calls ++ [(.stop, (CaptureSource.stop p.source).failure)] } := by
  have ha := standing_accept (p.closeGate.enter .stopped) .stop (CaptureSource.stop p.source)
  cases hr : (CaptureSource.stop p.source).result with
  | error f =>
    rw [stop_eq_error h hr]
    exact ⟨rfl, ha⟩
  | ok _ =>
    rw [stop_eq_ok h hr]
    exact ⟨rfl, (standing_log ..).trans ha⟩

theorem close_closed (h : p.phase = .closed) : p.close = (.ok (), p) := by
  unfold close; rw [if_pos h]

/-- Without a call: the source was never asked to bind. -/
theorem close_idle (h : p.phase = .idle) : p.close = (.ok (), p.closeGate.enter .closed) := by
  have hs : p.stop = (.ok (), p.closeGate) := stop_halted (by rw [h]; decide)
  unfold close
  rw [if_neg (by rw [h]; decide), hs]
  exact if_pos h

theorem phase_stop (p : Pipeline σ) :
    p.stop.2.phase = if p.phase = .delivering then .stopped else p.phase := by
  by_cases h : p.phase = .delivering
  · rw [if_pos h]
    exact congrArg Standing.phase (stop_delivering h).2
  · rw [if_neg h, stop_halted h]
    rfl

theorem phase_stop_ne_idle (hi : p.phase ≠ .idle) : p.stop.2.phase ≠ .idle := by
  rw [phase_stop]
  split
  · decide
  · exact hi

theorem close_eq_ok (h : p.phase ≠ .closed) (hi : p.phase ≠ .idle)
    (hr : (CaptureSource.closeDevice p.stop.2.source).result = .ok ()) :
    p.close = (p.stop.1, ((p.stop.2.enter .closed).accept .closeDevice
      (CaptureSource.closeDevice p.stop.2.source)).log .debug "Capture device released") := by
  unfold close
  rw [if_neg h]
  dsimp only
  rw [if_neg (phase_stop_ne_idle hi), hr]

theorem close_eq_error {f : Fault} (h : p.phase ≠ .closed) (hi : p.phase ≠ .idle)
    (hr : (CaptureSource.closeDevice p.stop.2.source).result = .error f) :
    p.close = (.error f, (p.stop.2.enter .closed).accept .closeDevice
      (CaptureSource.closeDevice p.stop.2.source)) := by
  unfold close
  rw [if_neg h]
  dsimp only
  rw [if_neg (phase_stop_ne_idle hi), hr]

theorem standing_close (h : p.phase ≠ .closed) (hi : p.phase ≠ .idle) :
    p.close.2.standing =
      { p.stop.2.standing with
        source := (CaptureSource.closeDevice p.stop.2.source).source
        phase := .closed
        calls := p.stop.2.standing.calls ++
          [(.closeDevice, (CaptureSource.closeDevice p.stop.2.source).failure)] } := by
  have ha := standing_accept (p.stop.2.enter .closed) .closeDevice
    (CaptureSource.closeDevice p.stop.2.source)
  cases hr : (CaptureSource.closeDevice p.stop.2.source).result with
  | error f =>
    rw [close_eq_error h hi hr]
    exact ha
  | ok _ =>
    rw [close_eq_ok h hi hr]
    exact (standing_log ..).trans ha

/-- A stop leaves the stages and the deliveries as they are. -/
theorem laid_stop (p : Pipeline σ) :
    p.stop.2.standing.stages = p.standing.stages ∧ p.stop.2.standing.handed = p.standing.handed := by
  by_cases h : p.phase = .delivering
  · rw [(stop_delivering h).2]
    exact ⟨rfl, rfl⟩
  · rw [stop_halted h]
    exact ⟨rfl, rfl⟩

/-- So does a release. -/
theorem laid_close (p : Pipeline σ) :
    p.close.2.standing.stages = p.standing.stages ∧
      p.close.2.standing.handed = p.standing.handed := by
  by_cases hc : p.phase = .closed
  · rw [close_closed hc]
    exact ⟨rfl, rfl⟩
  by_cases hi : p.phase = .idle
  · rw [close_idle hi]
    exact ⟨rfl, rfl⟩
  · rw [standing_close hc hi]
    exact laid_stop p

theorem standing_drop (p : Pipeline σ) :
    ∃ source, p.drop.standing = { p.close.2.standing with source } := by
  unfold drop
  dsimp only
  cases p.close.1 with
  | ok u => exact ⟨_, standing_attend ..⟩
  | error f =>
    have ha := standing_attend (p.close.2.log .warn ("Failed to close capture pipeline: " ++ f.message))
      CaptureSource.discard
    rw [standing_log] at ha
    exact ⟨_, ha⟩

end Pipeline
end AirLoop
