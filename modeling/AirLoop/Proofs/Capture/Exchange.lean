import AirLoop.Proofs.Capture.Intake

/-!
# What a source sends

What comes of the buffers that a source sends can only be told by somebody who knows what it sent.
So the source is asked here in the pipeline's place: an exchange makes the calls that the operations
of the pipeline's owner come to, keeps all that the source sends meanwhile with the way in that it
meets, and does nothing else with it. The gate is open inside a call to start, and while a start that
succeeded is not yet undone; it is closed whenever else the source has something to send. A pipeline
that goes through the same operations follows the exchange (`Follows.performAll`): its account is
the account of what the source has sent.
-/

namespace AirLoop

/-- A source in use, and each signal that it sent so far with the way in that it met. -/
structure Exchange (σ : Type) where
  source : σ
  phase : Phase := .idle
  /-- what the source reported when it was opened -/
  format : Option AudioFormat := none
  /-- how many deliveries it was handed -/
  handed : Nat := 0
  sent : List (Doorway × Signal) := []

namespace Exchange

variable {σ : Type}

/-- What the source sent, in order. -/
def signals (x : Exchange σ) : List Signal := x.sent.map (·.2)

/-- The buffers that it sent through its deliveries. -/
def intakes (x : Exchange σ) : List Intake := x.sent.filterMap fun (w, s) => w.intake s

/-- The gate is open between calls. -/
def isOpen (x : Exchange σ) : Bool := x.phase = .delivering

theorem isOpen_eq_false {x : Exchange σ} (h : x.phase ≠ .delivering) : x.isOpen = false :=
  decide_eq_false h

/-- The source sends something. -/
def hear (x : Exchange σ) (gateOpen : Bool) (signals : List Signal) : Exchange σ :=
  { x with sent := x.sent ++ signals.map fun s => (⟨gateOpen, x.handed⟩, s) }

/-- The source answers a call. -/
def heed {α : Type} (x : Exchange σ) (gateOpen : Bool) (reply : Reply σ α) : Exchange σ :=
  { x with source := reply.source }.hear gateOpen reply.signals

/-- Something happens to the source without a call. -/
def attend (x : Exchange σ) (gateOpen : Bool) (happening : σ → List Signal × σ) : Exchange σ :=
  let (signals, source) := happening x.source
  { x with source }.hear gateOpen signals

/-! ## The calls that operations come to -/

variable [CaptureSource σ]

/-- Only the first opening is a call. -/
def openDevice (x : Exchange σ) : Exchange σ :=
  if x.phase = .idle then
    let reply := CaptureSource.openDevice x.source
    let x := { x with phase := .opened }.heed false reply
    match reply.result with
    | .error _ => x
    | .ok format => { x with format := some format }
  else x

/-- A start is a call if the source is open, and hands it a delivery. -/
def start (x : Exchange σ) : Exchange σ :=
  if x.phase = .opened ∧ x.format.isSome then
    let reply := CaptureSource.start x.handed x.source
    let x := { x with handed := x.handed + 1 }.heed true reply
    match reply.result with
    | .error _ => x
    | .ok () => { x with phase := .delivering }
  else x

/-- A stop is a call while the source delivers. -/
def stop (x : Exchange σ) : Exchange σ :=
  if x.phase = .delivering then
    { x with phase := .stopped }.heed false (CaptureSource.stop x.source)
  else x

/-- The first closing stops a source that delivers, and releases one that was ever opened. -/
def close (x : Exchange σ) : Exchange σ :=
  if x.phase = .closed then x
  else
    let x := x.stop
    if x.phase = .idle then { x with phase := .closed }
    else { x with phase := .closed }.heed false (CaptureSource.closeDevice x.source)

/-- The exchange after an operation of the pipeline's owner. -/
def perform (x : Exchange σ) : Operation → Exchange σ
  | .addStage _ => x
  | .openDevice => x.openDevice
  | .start => x.start
  | .stop => x.stop
  | .close => x.close
  | .drop => x.close.attend false CaptureSource.discard
  | .wait => x.attend x.isOpen CaptureSource.idle

/-- The exchange after some operations, one after another. -/
def performAll (x : Exchange σ) (ops : List Operation) : Exchange σ := ops.foldl perform x

/-- A new source in use, after some operations. -/
def lived (source : σ) (ops : List Operation) : Exchange σ := ({ source } : Exchange σ).performAll ops

theorem performAll_append (x : Exchange σ) (ops more : List Operation) :
    x.performAll (ops ++ more) = (x.performAll ops).performAll more :=
  List.foldl_append ..

theorem phase_stop (x : Exchange σ) :
    x.stop.phase = if x.phase = .delivering then .stopped else x.phase := by
  unfold stop
  split <;> rfl

theorem isOpen_stop (x : Exchange σ) : x.stop.isOpen = false := by
  refine isOpen_eq_false ?_
  rw [phase_stop]
  split
  · decide
  · assumption

theorem phase_stop_eq_idle {x : Exchange σ} : x.stop.phase = .idle ↔ x.phase = .idle := by
  rw [phase_stop]
  split
  · simp [*]
  · rfl

theorem phase_close (x : Exchange σ) : x.close.phase = .closed := by
  unfold close
  split
  · assumption
  · dsimp only
    split <;> rfl

end Exchange

/-! ## Pipelines that follow -/

/-- What a signal adds to the journal is itself, and what the stages make of it. -/
theorem Pipeline.signals_receive {σ : Type} (p : Pipeline σ) (s : Signal) :
    (p.receive s).journal.signals = p.journal.signals ++ [s] := by
  obtain ⟨more, hj, hmore⟩ := Extends.received p s
  have hnone : Journal.signals more = [] := by
    refine List.filterMap_eq_nil_iff.2 ?_
    intro o ho
    have hs := hmore o ho
    cases o with
    | signalled => cases hs
    | _ => rfl
  rw [hj, Journal.signals_append, hnone, List.append_nil, Pipeline.note, Journal.signals_append]
  rfl

/-- A pipeline, its gate open or not, that has had all that the source of an exchange sent and
nothing else. -/
structure Follows {σ : Type} (gateOpen : Bool) (x : Exchange σ) (p : Pipeline σ) : Prop where
  source : p.source = x.source
  phase : p.phase = x.phase
  format : p.format = x.format
  handed : p.deliveries.length = x.handed
  gate : p.gateOpen = gateOpen
  signals : p.journal.signals = x.signals
  accounted : Accounted x.intakes p

namespace Follows

variable {σ : Type} {gateOpen : Bool} {x : Exchange σ} {p : Pipeline σ}

theorem new (source : σ) (stages : List Stage) :
    Follows false ({ source } : Exchange σ)
      ({ source, stations := stages.map ({ stage := · }) } : Pipeline σ) where
  source := rfl
  phase := rfl
  format := rfl
  handed := rfl
  gate := rfl
  signals := rfl
  accounted :=
    { faithful := .new source stages
      known := nofun
      counted := rfl
      taken := rfl }

/-! ### Signals -/

theorem receive (h : Follows gateOpen x p) (s : Signal) :
    Follows gateOpen (x.hear gateOpen [s]) (p.receive s) := by
  have hst := p.standing_receive s
  have hdoor : p.doorway = ⟨gateOpen, x.handed⟩ := by rw [Pipeline.doorway, h.gate, h.handed]
  have hintakes : (x.hear gateOpen [s]).intakes =
      x.intakes ++ ((⟨gateOpen, x.handed⟩ : Doorway).intake s).toList := by
    rw [Exchange.intakes, Exchange.hear, List.filterMap_append]
    cases ha : (⟨gateOpen, x.handed⟩ : Doorway).intake s <;> simp [Exchange.intakes, ha]
  refine
    { source := (congrArg Standing.source hst).trans h.source
      phase := (congrArg Standing.phase hst).trans h.phase
      format := (congrArg Standing.format hst).trans h.format
      handed := (Pipeline.deliveries_of_standing hst).trans h.handed
      gate := (congrArg Standing.gateOpen hst).trans h.gate
      signals := ?_
      accounted := ?_ }
  · rw [Pipeline.signals_receive, h.signals, Exchange.signals, Exchange.signals, Exchange.hear,
      List.map_append]
    rfl
  · rw [hintakes, ← hdoor]
    have hf : Faithful (p.receive s) := h.accounted.faithful.receive s
    cases ha : p.doorway.intake s with
    | none =>
      obtain ⟨hd, hp⟩ := Pipeline.receive_of_no_intake ha
      rw [Option.toList_none, List.append_nil]
      exact h.accounted.still hf hst hd hp
    | some a =>
      obtain ⟨hk, hd, hp⟩ := Pipeline.receive_of_intake h.accounted.faithful ha
      exact h.accounted.arrive a hf hst hk hd hp

theorem receiveAll (h : Follows gateOpen x p) (signals : List Signal) :
    Follows gateOpen (x.hear gateOpen signals) (p.receiveAll signals) := by
  induction signals generalizing x p with
  | nil =>
    have hnone : x.hear gateOpen [] = x := by simp [Exchange.hear]
    rw [hnone]
    exact h
  | cons s signals ih =>
    have hcons : x.hear gateOpen (s :: signals) =
        (x.hear gateOpen [s]).hear gateOpen signals := by
      simp [Exchange.hear]
    rw [hcons]
    exact ih (h.receive s)

/-! ### Steps of the pipeline's own -/

/-- Notes that tell of no signal, of no stage and of no level. -/
theorem noteAll (h : Follows gateOpen x p) (os : Journal) (hs : os.signals = [])
    (hp : os.processed = []) (hl : os.levels = []) :
    Follows gateOpen x { p with journal := p.journal ++ os } := by
  refine { h with signals := ?_, accounted := h.accounted.untouched rfl rfl rfl rfl ?_ ?_ }
  · rw [Journal.signals_append, hs, List.append_nil]
    exact h.signals
  · rw [Journal.processed_append, hp, List.append_nil]
  · rw [Journal.levels_append, hl, List.append_nil]

theorem log (h : Follows gateOpen x p) (level : LogLevel) (text : String) :
    Follows gateOpen x (p.log level text) := h.noteAll _ rfl rfl rfl

theorem enter (h : Follows gateOpen x p) (phase : Phase) :
    Follows gateOpen { x with phase } (p.enter phase) :=
  { h with phase := rfl, accounted := h.accounted.untouched rfl rfl rfl rfl rfl rfl }

theorem bind (h : Follows gateOpen x p) (format : AudioFormat) :
    Follows gateOpen { x with format := some format } { p with format := some format } :=
  { h with format := rfl, accounted := h.accounted.untouched rfl rfl rfl rfl rfl rfl }

theorem closeGate (h : Follows gateOpen x p) : Follows false x p.closeGate :=
  { h with gate := rfl, accounted := h.accounted.untouched rfl rfl rfl rfl rfl rfl }

/-- A source in the state in which a call, or the time that passes, leaves it. -/
theorem turn (h : Follows gateOpen x p) (source : σ) :
    Follows gateOpen { x with source } { p with source } :=
  { h with source := rfl, accounted := h.accounted.untouched rfl rfl rfl rfl rfl rfl }

theorem accept {α : Type} (h : Follows gateOpen x p) (call : SourceCall) (reply : Reply σ α) :
    Follows gateOpen (x.heed gateOpen reply) (p.accept call reply) :=
  ((h.turn reply.source).noteAll [.called call reply.failure] rfl rfl rfl).receiveAll
    reply.signals

theorem attend (h : Follows gateOpen x p) (happening : σ → List Signal × σ) :
    Follows gateOpen (x.attend gateOpen happening) (p.attend happening) := by
  rw [Exchange.attend, Pipeline.attend, h.source]
  exact (h.turn (happening x.source).2).receiveAll (happening x.source).1

/-- The gate opens with a new delivery. -/
theorem openGate (h : Follows gateOpen x p) (format : AudioFormat) :
    Follows true { x with handed := x.handed + 1 } (p.openGate format) := by
  have hhanded : p.standing.handed <+: (p.openGate format).standing.handed := by
    rw [Pipeline.standing_openGate]
    exact List.prefix_append ..
  refine { h with handed := ?_, gate := rfl, accounted := ?_ }
  · rw [Pipeline.openGate, List.length_append, h.handed]
    rfl
  · exact h.accounted.quiet (h.accounted.faithful.openGate format) (List.prefix_refl _) hhanded
      rfl rfl

/-! ### Operations -/

theorem addStage (h : Follows gateOpen x p) (stage : Stage) :
    Follows gateOpen x (p.addStage stage).2 := by
  by_cases hp : p.phase = .delivering
  · rw [Pipeline.addStage_delivering stage hp]
    exact h
  · have ha : (p.addStage stage).2 = { p with stations := p.stations ++ [{ stage }] } := by
      unfold Pipeline.addStage
      rw [if_neg hp]
    rw [ha]
    refine { h with accounted := ?_ }
    refine h.accounted.quiet (h.accounted.faithful.station stage) ?_ (List.prefix_refl _) rfl rfl
    exact ⟨[stage], by simp [Pipeline.standing]⟩

variable [CaptureSource σ]

theorem openDevice (h : Follows x.isOpen x p) :
    Follows x.openDevice.isOpen x.openDevice p.openDevice.2 := by
  by_cases hx : x.phase = .idle
  · have hp : p.phase = .idle := h.phase.trans hx
    rw [Exchange.isOpen_eq_false (by rw [hx]; decide)] at h
    have ha := (h.enter .opened).accept .openDevice (CaptureSource.openDevice x.source)
    unfold Exchange.openDevice
    rw [if_pos hx]
    dsimp only
    cases hr : (CaptureSource.openDevice x.source).result with
    | error f =>
      rw [Pipeline.openDevice_eq_error hp (h.source ▸ hr), h.source]
      exact ha
    | ok format =>
      rw [Pipeline.openDevice_eq_ok hp (h.source ▸ hr), h.source]
      exact (ha.log ..).bind format
  · have hp : p.phase ≠ .idle := h.phase ▸ hx
    rw [Exchange.openDevice, if_neg hx, Pipeline.openDevice_again hp]
    exact h

theorem start (h : Follows x.isOpen x p) : Follows x.start.isOpen x.start p.start.2 := by
  by_cases hx : x.phase = .opened
  · have hp : p.phase = .opened := h.phase.trans hx
    have hshut : x.isOpen = false := Exchange.isOpen_eq_false (by rw [hx]; decide)
    cases hf : x.format with
    | none =>
      rw [Exchange.start, if_neg (by simp [hf]), Pipeline.start_unknown hp (h.format.trans hf)]
      exact h
    | some format =>
      have ha := (h.openGate format).accept .start (CaptureSource.start x.handed x.source)
      have hcall : CaptureSource.start p.deliveries.length p.source =
          CaptureSource.start x.handed x.source := by rw [h.handed, h.source]
      unfold Exchange.start
      rw [if_pos ⟨hx, by rw [hf]; rfl⟩]
      dsimp only
      cases hr : (CaptureSource.start x.handed x.source).result with
      | error f =>
        -- the phase is still the one before, so that the gate has to close again
        rw [Pipeline.start_eq_error hp (h.format.trans hf) (hcall ▸ hr), hcall]
        change Follows x.isOpen _ _
        rw [hshut]
        exact ha.closeGate
      | ok u =>
        rw [Pipeline.start_eq_ok hp (h.format.trans hf) (hcall ▸ hr), hcall]
        exact (ha.enter .delivering).log ..
  · have hp : p.phase ≠ .opened := h.phase ▸ hx
    rw [Exchange.start, if_neg (fun hstart => hx hstart.1), Pipeline.start_unopened hp]
    exact h

/-- The gate closes first, whatever it was. -/
theorem stop (h : Follows gateOpen x p) : Follows false x.stop p.stop.2 := by
  by_cases hx : x.phase = .delivering
  · have hp : p.phase = .delivering := h.phase.trans hx
    have ha := (h.closeGate.enter .stopped).accept .stop (CaptureSource.stop x.source)
    rw [Exchange.stop, if_pos hx]
    cases hr : (CaptureSource.stop x.source).result with
    | error f =>
      rw [Pipeline.stop_eq_error hp (h.source ▸ hr), h.source]
      exact ha
    | ok u =>
      rw [Pipeline.stop_eq_ok hp (h.source ▸ hr), h.source]
      exact ha.log ..
  · have hp : p.phase ≠ .delivering := h.phase ▸ hx
    rw [Exchange.stop, if_neg hx, Pipeline.stop_halted hp]
    exact h.closeGate

theorem close (h : Follows x.isOpen x p) : Follows false x.close p.close.2 := by
  by_cases hx : x.phase = .closed
  · rw [Exchange.isOpen_eq_false (by rw [hx]; decide)] at h
    rw [Exchange.close, if_pos hx, Pipeline.close_closed (h.phase.trans hx)]
    exact h
  · have hs := h.stop
    have hp : p.phase ≠ .closed := h.phase ▸ hx
    unfold Exchange.close
    rw [if_neg hx]
    dsimp only
    by_cases hi : x.phase = .idle
    · have hidle : p.phase = .idle := h.phase.trans hi
      rw [Pipeline.stop_halted (by rw [hidle]; decide)] at hs
      rw [if_pos (Exchange.phase_stop_eq_idle.2 hi), Pipeline.close_idle hidle]
      exact hs.enter .closed
    · have hbound : p.phase ≠ .idle := h.phase ▸ hi
      have ha := (hs.enter .closed).accept .closeDevice (CaptureSource.closeDevice x.stop.source)
      rw [if_neg fun hidle => hi (Exchange.phase_stop_eq_idle.1 hidle)]
      cases hr : (CaptureSource.closeDevice x.stop.source).result with
      | error f =>
        rw [Pipeline.close_eq_error hp hbound (hs.source ▸ hr), hs.source]
        exact ha
      | ok u =>
        rw [Pipeline.close_eq_ok hp hbound (hs.source ▸ hr), hs.source]
        exact ha.log ..

theorem drop (h : Follows x.isOpen x p) :
    Follows false (x.close.attend false CaptureSource.discard) p.drop := by
  have hc := h.close
  unfold Pipeline.drop
  dsimp only
  cases p.close.1 with
  | ok u => exact hc.attend _
  | error f => exact (hc.log ..).attend _

/-- **A pipeline follows through every operation.** -/
theorem perform (h : Follows x.isOpen x p) (op : Operation) :
    Follows (x.perform op).isOpen (x.perform op) (p.perform op) := by
  cases op with
  | addStage stage => exact h.addStage stage
  | openDevice => exact h.openDevice
  | start => exact h.start
  | stop =>
    rw [Exchange.perform, Exchange.isOpen_stop]
    exact h.stop
  | close =>
    rw [Exchange.perform, Exchange.isOpen_eq_false (by rw [Exchange.phase_close]; decide)]
    exact h.close
  | drop =>
    have hphase : (x.perform .drop).phase = .closed := Exchange.phase_close x
    rw [Exchange.isOpen_eq_false (by rw [hphase]; decide)]
    exact h.drop
  | wait => exact h.attend CaptureSource.idle

/-- **And so through every life.** -/
theorem performAll (h : Follows x.isOpen x p) (ops : List Operation) :
    Follows (x.performAll ops).isOpen (x.performAll ops) (p.performAll ops) := by
  induction ops generalizing x p with
  | nil => exact h
  | cons op ops ih => exact ih (h.perform op)

end Follows

end AirLoop
