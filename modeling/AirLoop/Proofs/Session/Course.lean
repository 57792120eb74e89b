import AirLoop.Proofs.Capture.Life
import AirLoop.Session.Run

/-!
# Courses of a session

What a session does before it watches is told by a few answers: the one of the directory, that of
the operator where there are no receivers, and those of the source to being opened and started. They
decide which way a session goes (`drive_course`), and up to the first call of the source it only
writes to its journal (`lookUp_eq`, `passGate_eq`).
-/

namespace AirLoop

/-! ## Notes of a session -/

/-- What a session notes by itself: no deed of the source, of a stage or of a delivery. -/
def Occurrence.ofSession : Occurrence → Bool
  | .called .. | .signalled _ | .processed .. | .faulted .. => false
  | _ => true

/-- What it notes on the side: no level, and not that it stops. -/
def Occurrence.aside : Occurrence → Bool
  | .reported (.level _) | .reported (.state .stopping) => false
  | .reported _ | .queried .. | .acknowledged | .polled _ | .logged _ => true
  | _ => false

theorem Occurrence.ofSession_of_aside (o : Occurrence) (h : o.aside = true) :
    o.ofSession = true := by
  cases o with
  | called | signalled | processed | faulted => cases h
  | _ => rfl

theorem Journal.calls_eq_nil {os : Journal} (h : ∀ o ∈ os, o.ofSession = true) : os.calls = [] := by
  refine List.filterMap_eq_nil_iff.2 ?_
  intro o ho
  have := h o ho
  cases o with
  | called => cases this
  | _ => rfl

namespace Pipeline

variable {σ : Type} (p : Pipeline σ)

/-- The pipeline after some more things happened. -/
def noteAll (os : Journal) : Pipeline σ := { p with journal := p.journal ++ os }

theorem noteAll_noteAll (os more : Journal) :
    (p.noteAll os).noteAll more = p.noteAll (os ++ more) := by
  simp only [noteAll, List.append_assoc]

theorem standing_noteAll {os : Journal} (h : ∀ o ∈ os, o.ofSession = true) :
    (p.noteAll os).standing = p.standing := by
  simp only [standing, noteAll, Journal.calls_append, Journal.calls_eq_nil h, List.append_nil]

end Pipeline

namespace Session

variable {σ ι : Type}

theorem logAll_eq (s : Session σ ι) (lines : List LogLine) :
    s.logAll lines = { s with pipeline := s.pipeline.noteAll (lines.map .logged) } := by
  unfold logAll
  induction lines generalizing s with
  | nil => simp [Pipeline.noteAll]
  | cons l lines ih =>
    rw [List.foldl_cons, ih]
    exact congrArg (fun q => { s with pipeline := q })
      (Pipeline.noteAll_noteAll s.pipeline [.logged l] (lines.map .logged))

/-- What is noted when a session goes over to a state. -/
def entering (s : Session σ ι) (next : SessionState) : Journal :=
  [.logged ⟨.info, s!"Session state: {s.state.name} -> {next.name}"⟩, .reported (.state next)]

theorem enter_eq (s : Session σ ι) (next : SessionState) :
    s.enter next = { s with state := next, pipeline := s.pipeline.noteAll (s.entering next) } := by
  simp [enter, entering, log, report, note, Pipeline.note, Pipeline.noteAll]

theorem ofSession_entering (s : Session σ ι) (next : SessionState) :
    ∀ o ∈ s.entering next, o.ofSession = true := by
  simp [entering, Occurrence.ofSession]

theorem aside_entering (s : Session σ ι) {next : SessionState} (h : next ≠ .stopping) :
    ∀ o ∈ s.entering next, o.aside = true := by
  intro o ho
  simp only [entering, List.mem_cons, List.not_mem_nil, or_false] at ho
  rcases ho with rfl | rfl
  · rfl
  · cases next with
    | stopping => exact absurd rfl h
    | _ => rfl

theorem aside_logged (lines : List LogLine) : ∀ o ∈ lines.map Occurrence.logged, o.aside = true := by
  simp [Occurrence.aside]

theorem standing_note (s : Session σ ι) {o : Occurrence} (ho : o.ofSession = true) :
    (s.note o).pipeline.standing = s.pipeline.standing :=
  Pipeline.standing_noteAll s.pipeline fun _ h => List.mem_singleton.1 h ▸ ho

theorem standing_enter (s : Session σ ι) (next : SessionState) :
    (s.enter next).pipeline.standing = s.pipeline.standing := by
  rw [enter_eq]
  exact Pipeline.standing_noteAll _ (ofSession_entering s next)

/-! ## New sessions -/

/-- A session with further stages, ready to run. -/
def prepare (config : Configuration) (directory : Directory) (source : σ) (operator : ι)
    (stages : List Stage) : Except Fault (Session σ ι) :=
  (Session.new config directory source operator).map fun s =>
    stages.foldl (fun s stage => (s.addStage stage).2) s

/-- A session that has done nothing yet. -/
structure Fresh (s : Session σ ι) : Prop where
  state : s.state = .idle
  phase : s.pipeline.phase = .idle
  handed : s.pipeline.deliveries = []
  journal : s.pipeline.journal = []

theorem Fresh.calls {s : Session σ ι} (h : s.Fresh) : s.pipeline.standing.calls = [] :=
  congrArg Journal.calls h.journal

theorem Fresh.handed_eq {s : Session σ ι} (h : s.Fresh) : s.pipeline.standing.handed = [] :=
  List.map_eq_nil_iff.2 h.handed

theorem Fresh.addStage {s : Session σ ι} (h : s.Fresh) (stage : Stage) :
    (s.addStage stage).2.Fresh := by
  have hp : (s.pipeline.addStage stage).2 =
      { s.pipeline with stations := s.pipeline.stations ++ [{ stage }] } := by
    unfold Pipeline.addStage
    rw [if_neg (by rw [h.phase]; decide)]
  unfold Session.addStage
  dsimp only
  rw [hp]
  exact ⟨h.state, h.phase, h.handed, h.journal⟩

section
variable {config : Configuration} {directory : Directory} {source : σ} {operator : ι}
  {stages : List Stage} {s : Session σ ι}

/-- What holds of a new session, and stays when a stage is added, holds of a prepared one. -/
theorem prepare_induct {motive : Session σ ι → Prop}
    (h : prepare config directory source operator stages = .ok s)
    (hnew : motive
      { config, directory, pipeline := (({ source } : Pipeline σ).addStage (.meter true)).2, operator })
    (hadd : ∀ s stage, motive s → motive (s.addStage stage).2) : motive s := by
  have hall : ∀ (stages : List Stage) (s₀ : Session σ ι), motive s₀ →
      motive (stages.foldl (fun s stage => (s.addStage stage).2) s₀) := by
    intro stages
    induction stages with
    | nil =>
      intro s₀ h₀
      exact h₀
    | cons stage stages ih =>
      intro s₀ h₀
      exact ih _ (hadd s₀ stage h₀)
  unfold prepare Session.new at h
  split at h
  · cases h
  · cases h
    exact hall _ _ hnew

theorem fresh_of_prepare (h : prepare config directory source operator stages = .ok s) : s.Fresh :=
  prepare_induct h ⟨rfl, rfl, rfl, rfl⟩ fun _ stage hs => hs.addStage stage

theorem operator_of_prepare (h : prepare config directory source operator stages = .ok s) :
    s.operator = operator :=
  prepare_induct (motive := fun s => s.operator = operator) h rfl fun _ _ hs => hs

end

/-! ## The answers that decide -/

/-- The directory's answer. -/
def found (s : Session σ ι) : Except Fault (List Receiver) :=
  (s.directory s.config.serviceType s.config.discoveryTimeout).answer

/-- The source's answer to being opened. -/
def opening [CaptureSource σ] (s : Session σ ι) : Reply σ AudioFormat :=
  CaptureSource.openDevice s.pipeline.source

/-- Its answer to being started then, with its first delivery. -/
def starting [CaptureSource σ] (s : Session σ ι) : Reply σ Unit :=
  CaptureSource.start 0 s.opening.source

/-- The session goes on to the source: there are receivers, or the operator wants to do without. -/
def passes [Operator ι] (s : Session σ ι) : Bool :=
  match s.found with
  | .error _ => false
  | .ok devices => devices ≠ [] ∨ (Operator.acknowledge s.operator).answer = .proceed

theorem passes_of_error [Operator ι] {s : Session σ ι} {f : Fault} (h : s.found = .error f) :
    s.passes = false := by
  unfold passes; rw [h]

theorem passes_iff [Operator ι] {s : Session σ ι} {devices : List Receiver}
    (h : s.found = .ok devices) :
    s.passes = true ↔ devices ≠ [] ∨ (Operator.acknowledge s.operator).answer = .proceed := by
  unfold passes
  rw [h]
  exact decide_eq_true_iff

/-! ## On the way to the source -/

/-- What is noted up to the directory's answer. -/
def preface (s : Session σ ι) : Journal :=
  s.entering .discovering ++
    [.reported (.discoveryStarted s.config.serviceType),
      .queried s.config.serviceType s.config.discoveryTimeout] ++
    (s.directory s.config.serviceType s.config.discoveryTimeout).log.map .logged ++
    match s.found with
    | .error _ => []
    | .ok devices =>
      [.logged ⟨.info, s!"Discovery found {devices.length} receiver(s)"⟩,
        .reported (.devicesFound devices)]

theorem ofSession_logged (lines : List LogLine) :
    ∀ o ∈ lines.map Occurrence.logged, o.ofSession = true := by
  simp [Occurrence.ofSession]

theorem aside_preface (s : Session σ ι) : ∀ o ∈ s.preface, o.aside = true := by
  intro o ho
  simp only [preface, List.mem_append] at ho
  rcases ho with ((ho | ho) | ho) | ho
  · exact aside_entering s (by decide) o ho
  · simp only [List.mem_cons, List.not_mem_nil, or_false] at ho
    rcases ho with rfl | rfl <;> rfl
  · exact aside_logged _ o ho
  · cases hf : s.found <;> rw [hf] at ho
    · cases ho
    · simp only [List.mem_cons, List.not_mem_nil, or_false] at ho
      rcases ho with rfl | rfl <;> rfl

theorem ofSession_preface (s : Session σ ι) : ∀ o ∈ s.preface, o.ofSession = true :=
  fun o ho => o.ofSession_of_aside (aside_preface s o ho)

/-- The session with the directory's answer. -/
def lookedUp (s : Session σ ι) : Session σ ι :=
  { s with state := .discovering, pipeline := s.pipeline.noteAll s.preface }

theorem lookUp_eq (s : Session σ ι) : s.announce.lookUp = (s.found, s.lookedUp) := by
  unfold lookUp
  dsimp only
  rw [logAll_eq]
  cases hf : s.found with
  | error f =>
    have hf' : (s.announce.directory s.announce.config.serviceType
        s.announce.config.discoveryTimeout).answer = .error f := hf
    rw [hf']
    simp [lookedUp, preface, hf, announce, enter_eq, report, note, Pipeline.note, Pipeline.noteAll]
  | ok devices =>
    have hf' : (s.announce.directory s.announce.config.serviceType
        s.announce.config.discoveryTimeout).answer = .ok devices := hf
    rw [hf']
    simp [lookedUp, preface, hf, announce, enter_eq, report, log, note, Pipeline.note,
      Pipeline.noteAll]

variable [Operator ι]

/-- What is noted while the operator decides. -/
def gateNotes (s : Session σ ι) (devices : List Receiver) : Journal :=
  s.entering .awaitingOperator ++
    if devices = [] then
      [.reported .acknowledgementRequired, .acknowledged] ++
        (Operator.acknowledge s.operator).log.map .logged
    else []

theorem aside_gateNotes (s : Session σ ι) (devices : List Receiver) :
    ∀ o ∈ s.gateNotes devices, o.aside = true := by
  intro o ho
  rcases List.mem_append.1 ho with ho | ho
  · exact aside_entering s (by decide) o ho
  · split at ho
    · rcases List.mem_append.1 ho with ho | ho
      · simp only [List.mem_cons, List.not_mem_nil, or_false] at ho
        rcases ho with rfl | rfl <;> rfl
      · exact aside_logged _ o ho
    · cases ho

/-- All that is noted on the way to the source. -/
theorem aside_approach (s : Session σ ι) (devices : List Receiver) :
    ∀ o ∈ s.preface ++ s.lookedUp.gateNotes devices, o.aside = true := by
  intro o ho
  rcases List.mem_append.1 ho with ho | ho
  · exact aside_preface s o ho
  · exact aside_gateNotes s.lookedUp devices o ho

theorem ofSession_approach (s : Session σ ι) (devices : List Receiver) :
    ∀ o ∈ s.preface ++ s.lookedUp.gateNotes devices, o.ofSession = true :=
  fun o ho => o.ofSession_of_aside (aside_approach s devices o ho)

/-- The operator afterwards. -/
def acquainted (s : Session σ ι) (devices : List Receiver) : ι :=
  if devices = [] then (Operator.acknowledge s.operator).operator else s.operator

/-- The session with the operator's decision. -/
def admitted (s : Session σ ι) (devices : List Receiver) : Session σ ι :=
  { s with
    state := .awaitingOperator
    operator := s.acquainted devices
    pipeline := s.pipeline.noteAll (s.preface ++ s.lookedUp.gateNotes devices) }

theorem passGate_eq (s : Session σ ι) (devices : List Receiver) :
    s.lookedUp.passGate devices =
      (decide (devices ≠ [] ∨ (Operator.acknowledge s.operator).answer = .proceed),
        s.admitted devices) := by
  unfold passGate
  by_cases hd : devices = []
  · rw [hd]
    simp [admitted, gateNotes, acquainted, lookedUp, enter_eq, entering, logAll_eq, report, note,
      Pipeline.note, Pipeline.noteAll]
  · simp [hd, admitted, gateNotes, acquainted, lookedUp, enter_eq, entering, Pipeline.noteAll]

theorem standing_admitted (s : Session σ ι) (devices : List Receiver) :
    (s.admitted devices).pipeline.standing = s.pipeline.standing :=
  Pipeline.standing_noteAll _ (ofSession_approach s devices)

variable [CaptureSource σ]

/-- The session after the call to open the source. -/
def opened (s : Session σ ι) (devices : List Receiver) : Session σ ι :=
  (s.admitted devices).openCapture.2

/-- The session after the call to start it. -/
def started (s : Session σ ι) (devices : List Receiver) : Session σ ι :=
  (s.opened devices).startCapture.2

/-- The session as it begins to watch. -/
def begun (s : Session σ ι) (devices : List Receiver) (format : AudioFormat) : Session σ ι :=
  ((s.started devices).enter .capturing).report
    (.captureStarted format (s.opened devices).pipeline.deviceName)

theorem standing_begun (s : Session σ ι) (devices : List Receiver) (format : AudioFormat) :
    (s.begun devices format).pipeline.standing = (s.started devices).pipeline.standing :=
  (standing_note _ rfl).trans (standing_enter _ _)

/-- What a session has found out when its source is open. -/
def findings (s : Session σ ι) (devices : List Receiver) (format : AudioFormat) : Findings where
  devices := devices.map (·.displayName)
  format := some format
  sourceDevice := (s.opened devices).pipeline.deviceName

/-! ## Courses -/

/-- How the work of a session can go: what it comes to, what it found out and where it is left. -/
inductive Course (polls : Nat) (s : Session σ ι) :
    Except Fault Outcome → Findings → Session σ ι → Prop where
  | undiscovered {f : Fault} : s.found = .error f → Course polls s (.error f) {} s.lookedUp
  | aborted : s.found = .ok [] → s.passes = false →
      Course polls s (.ok .aborted) {} (s.admitted [])
  | unopened {devices : List Receiver} {f : Fault} : s.found = .ok devices → s.passes = true →
      s.opening.result = .error f →
      Course polls s (.error f) { devices := devices.map (·.displayName) } (s.opened devices)
  | unstarted {devices : List Receiver} {format : AudioFormat} {f : Fault} :
      s.found = .ok devices → s.passes = true → s.opening.result = .ok format →
      s.starting.result = .error f →
      Course polls s (.error f) (s.findings devices format) (s.started devices)
  | watched {devices : List Receiver} {format : AudioFormat} {r : Except Fault Outcome}
      {sd : Session σ ι} :
      s.found = .ok devices → s.passes = true → s.opening.result = .ok format →
      s.starting.result = .ok () → (s.begun devices format).watch polls = some (r, sd) →
      Course polls s r (s.findings devices format) sd

variable {s : Session σ ι} (hs : s.Fresh) (devices : List Receiver)

section
include hs

theorem opened_ok {format : AudioFormat} (h : s.opening.result = .ok format) :
    (s.admitted devices).openCapture.1 = .ok format ∧
      (s.opened devices).pipeline.standing =
        { s.pipeline.standing with
          source := s.opening.source, phase := .opened, format := some format
          calls := [(.openDevice, none)] } := by
  have ho := Pipeline.openDevice_ok (p := (s.admitted devices).pipeline) hs.phase h
  rw [standing_admitted] at ho
  rw [hs.calls] at ho
  exact ho

theorem opened_error {f : Fault} (h : s.opening.result = .error f) :
    (s.admitted devices).openCapture.1 = .error f ∧
      (s.opened devices).pipeline.standing =
        { s.pipeline.standing with
          source := s.opening.source, phase := .opened
          calls := [(.openDevice, some f)] } := by
  have ho := Pipeline.openDevice_error (p := (s.admitted devices).pipeline) hs.phase h
  rw [standing_admitted] at ho
  rw [hs.calls] at ho
  exact ho

theorem handed_opened {format : AudioFormat} (h : s.opening.result = .ok format) :
    (s.opened devices).pipeline.deliveries = [] := by
  have hh : (s.opened devices).pipeline.standing.handed = s.pipeline.standing.handed := by
    rw [(opened_ok hs devices h).2]
  exact List.map_eq_nil_iff.1 (hh.trans hs.handed_eq)

/-- The name of the device as the source tells it once it is open. -/
theorem deviceName_opened {format : AudioFormat} (h : s.opening.result = .ok format) :
    (s.opened devices).pipeline.deviceName = CaptureSource.deviceName s.opening.source := by
  have hsource : (s.opened devices).pipeline.standing.source = s.opening.source := by
    rw [(opened_ok hs devices h).2]
  exact congrArg CaptureSource.deviceName hsource

/-- The source's answer to `start` as the session comes to know it. -/
theorem start_opened {format : AudioFormat} (h : s.opening.result = .ok format) :
    CaptureSource.start (s.opened devices).pipeline.deliveries.length
      (s.opened devices).pipeline.source = s.starting := by
  have ho : (s.opened devices).pipeline.standing.source = s.opening.source := by
    rw [(opened_ok hs devices h).2]
  rw [handed_opened hs devices h]
  exact congrArg (CaptureSource.start 0) ho

theorem started_ok {format : AudioFormat} (h : s.opening.result = .ok format)
    (h' : s.starting.result = .ok ()) :
    (s.opened devices).startCapture.1 = .ok () ∧
      (s.started devices).pipeline.standing =
        { s.pipeline.standing with
          source := s.starting.source, phase := .delivering, format := some format
          gateOpen := true, handed := [(s.pipeline.standing.stages.length, format)]
          calls := [(.openDevice, none), (.start, none)] } := by
  have ho := (opened_ok hs devices h).2
  have hst := start_opened hs devices h
  have hp : (s.opened devices).pipeline.phase = .opened := congrArg Standing.phase ho
  have hf : (s.opened devices).pipeline.format = some format := congrArg Standing.format ho
  have ht := Pipeline.start_ok hp hf (hst ▸ h')
  rw [hst, ho] at ht
  simp only [hs.handed_eq, List.nil_append, List.cons_append] at ht
  exact ht

theorem started_error {format : AudioFormat} {f : Fault} (h : s.opening.result = .ok format)
    (h' : s.starting.result = .error f) :
    (s.opened devices).startCapture.1 = .error f ∧
      (s.started devices).pipeline.standing =
        { s.pipeline.standing with
          source := s.starting.source, phase := .opened, format := some format
          gateOpen := false, handed := [(s.pipeline.standing.stages.length, format)]
          calls := [(.openDevice, none), (.start, some f)] } := by
  have ho := (opened_ok hs devices h).2
  have hst := start_opened hs devices h
  have hp : (s.opened devices).pipeline.phase = .opened := congrArg Standing.phase ho
  have hf : (s.opened devices).pipeline.format = some format := congrArg Standing.format ho
  have ht := Pipeline.start_error hp hf (hst ▸ h')
  rw [hst, ho] at ht
  simp only [hs.handed_eq, List.nil_append, List.cons_append] at ht
  exact ht

/-- **The work of a session goes one of these ways.** -/
theorem drive_course {polls : Nat} {r : Except Fault Outcome} {fs : Findings} {sd : Session σ ι}
    (h : s.drive polls = some (r, fs, sd)) : Course polls s r fs sd := by
  unfold drive at h
  rw [lookUp_eq] at h
  cases hf : s.found with
  | error f =>
    rw [hf] at h
    cases h
    exact .undiscovered hf
  | ok devices =>
    rw [hf] at h
    dsimp only at h
    unfold capture at h
    rw [passGate_eq] at h
    dsimp only at h
    by_cases hg : devices ≠ [] ∨ (Operator.acknowledge s.operator).answer = .proceed
    · have hp : s.passes = true := (passes_iff hf).2 hg
      rw [decide_eq_true hg, if_neg (by decide)] at h
      cases ho : s.opening.result with
      | error f =>
        rw [(opened_error hs devices ho).1] at h
        cases h
        exact .unopened hf hp ho
      | ok format =>
        rw [(opened_ok hs devices ho).1] at h
        dsimp only at h
        cases ht : s.starting.result with
        | error f =>
          rw [show (s.admitted devices).openCapture.2.startCapture.1 = .error f from
            (started_error hs devices ho ht).1] at h
          cases h
          exact .unstarted hf hp ho ht
        | ok u =>
          rw [show (s.admitted devices).openCapture.2.startCapture.1 = .ok () from
            (started_ok hs devices ho ht).1] at h
          obtain ⟨⟨r', sd'⟩, hw, hr⟩ := Option.map_eq_some_iff.1 h
          cases hr
          exact .watched hf hp ho ht hw
    · have hp : s.passes = false := Bool.eq_false_iff.2 fun hp => hg ((passes_iff hf).1 hp)
      obtain rfl : devices = [] := Decidable.not_not.1 (not_or.1 hg).1
      rw [decide_eq_false hg, if_pos (by decide)] at h
      cases h
      exact .aborted hf hp

end
end Session
end AirLoop
