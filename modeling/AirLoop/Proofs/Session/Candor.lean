import AirLoop.Proofs.Session.Trace

/-!
# What the kind of a fault tells

A fault may be of a kind that comes before any capture (`Fault.isPreCapture`). With a source that
is candid about it (`Candid`) and a directory that fails with such faults only, the kind of the fault
that ends a session tells how far the session came: it is of that kind exactly if the session never
got to capture (`kind_of_run`). What a stage fails with is never of that kind, whatever the stage
says.
-/

namespace AirLoop

/-! ## Faults that come up while a source captures -/

/-- A signal that comes in time: it tells of no fault that would have come before capture. -/
def Signal.timely : Signal → Bool
  | .fault _ f => !f.isPreCapture
  | .buffer .. | .log _ => true

/-- The faults that a pipeline's deliveries had are none that come before capture. -/
def Pipeline.Timely {σ : Type} (p : Pipeline σ) : Prop :=
  ∀ d ∈ p.deliveries, ∀ f, d.fault = some f → f.isPreCapture = false

namespace Pipeline.Timely

variable {σ : Type} {p q : Pipeline σ}

theorem congr (h : p.Timely) (hd : q.deliveries = p.deliveries) : q.Timely := by
  rw [Timely, hd]
  exact h

theorem raise (h : p.Timely) (k : Nat) {f : Fault} (hf : f.isPreCapture = false) :
    (p.raise k f).Timely := by
  rcases p.raise_cases k f with hr | ⟨d, _, _, hr⟩
  · rwa [hr]
  · rw [hr]
    intro d' hd' f' hf'
    rcases List.mem_or_eq_of_mem_set hd' with hd' | rfl
    · exact h d' hd' f' hf'
    · cases hf'
      exact hf

/-- A stage that fails makes it a fault of capture. -/
theorem forward (h : p.Timely) (k : Nat) (d : Delivery) (b : AudioBuffer) :
    (p.forward k d b).Timely := by
  have hp : (p.passed d b).Timely := h.congr rfl
  cases hx : (p.transitOf d b).failure with
  | none => rwa [forward_passed k hx]
  | some x =>
    have hl : ((p.passed d b).log .error s!"Stage '{x.1}' failed: {x.2.message}").Timely :=
      hp.congr rfl
    rw [forward_failed k hx]
    exact hl.raise k rfl

theorem receive (h : p.Timely) {s : Signal} (hs : s.timely = true) : (p.receive s).Timely := by
  have hn : (p.note (.signalled s)).Timely := h.congr rfl
  cases s with
  | buffer k b =>
    change ((p.note (.signalled (.buffer k b))).receiveBuffer k b).Timely
    rcases (p.note (.signalled (.buffer k b))).receiveBuffer_cases k b with hb | hb | hb | ⟨d, -, hb⟩
    · rwa [hb]
    · rw [hb]
      exact hn.congr rfl
    · rw [hb]
      exact hn.congr rfl
    · rw [hb]
      exact hn.forward k d b
  | fault k f => exact hn.raise k (Bool.not_eq_eq_eq_not.1 hs)
  | log line => exact hn.congr rfl

theorem receiveAll (h : p.Timely) {xs : List Signal} (hxs : ∀ s ∈ xs, s.timely = true) :
    (p.receiveAll xs).Timely := by
  induction xs generalizing p with
  | nil => exact h
  | cons s xs ih =>
    exact ih (h.receive (hxs s List.mem_cons_self)) fun s hs => hxs s (List.mem_cons_of_mem _ hs)

theorem attend (h : p.Timely) {happening : σ → List Signal × σ}
    (hs : ∀ s ∈ (happening p.source).1, s.timely = true) : (p.attend happening).Timely := by
  have hp : ({ p with source := (happening p.source).2 } : Pipeline σ).Timely := h.congr rfl
  exact hp.receiveAll hs

theorem accept {α : Type} (h : p.Timely) (call : SourceCall) {reply : Reply σ α}
    (hs : ∀ s ∈ reply.signals, s.timely = true) : (p.accept call reply).Timely := by
  have hp : ({ p with source := reply.source }.note (.called call reply.failure)).Timely :=
    h.congr rfl
  exact hp.receiveAll hs

/-- A new delivery has had no fault. -/
theorem openGate (h : p.Timely) (format : AudioFormat) : (p.openGate format).Timely := by
  intro d hd f hf
  rcases List.mem_append.1 hd with hd | hd
  · exact h d hd f hf
  · cases List.mem_singleton.1 hd
    cases hf

end Pipeline.Timely

/-! ## Candid sources -/

/-- A source whose faults tell when they came up. What keeps it from being opened, or from being
started once it is open, is of the kind that comes before capture; what it reports is not. -/
structure Candid {σ : Type} [CaptureSource σ] (source : σ) : Prop where
  opening : ∀ f, (CaptureSource.openDevice source).result = .error f → f.isPreCapture = true
  starting : ∀ format f, (CaptureSource.openDevice source).result = .ok format →
    (CaptureSource.start 0 (CaptureSource.openDevice source).source).result = .error f →
      f.isPreCapture = true
  duringOpen : ∀ x : σ, ∀ s ∈ (CaptureSource.openDevice x).signals, s.timely = true
  duringStart : ∀ (k : Nat) (x : σ), ∀ s ∈ (CaptureSource.start k x).signals, s.timely = true
  meanwhile : ∀ x : σ, ∀ s ∈ (CaptureSource.idle x).1, s.timely = true

namespace Pipeline.Timely

variable {σ : Type} [CaptureSource σ] {source : σ} (hc : Candid source) {p : Pipeline σ}
include hc

theorem openDevice (h : p.Timely) : p.openDevice.2.Timely := by
  unfold Pipeline.openDevice
  split
  · exact h
  · have hp : (p.enter .opened).Timely := h.congr rfl
    have ha := hp.accept .openDevice (hc.duringOpen p.source)
    dsimp only
    cases (CaptureSource.openDevice p.source).result with
    | error f => exact ha
    | ok format => exact ha.congr rfl

theorem start (h : p.Timely) : p.start.2.Timely := by
  unfold Pipeline.start
  split
  · exact h
  · split
    · exact h
    · rename_i format _
      have ha := (h.openGate format).accept .start (hc.duringStart p.deliveries.length p.source)
      dsimp only
      cases (CaptureSource.start p.deliveries.length p.source).result with
      | error f => exact ha.congr rfl
      | ok u => exact ha.congr rfl

theorem wait (h : p.Timely) : p.wait.Timely := h.attend (hc.meanwhile p.source)

end Pipeline.Timely

/-! ## The fault that ends the work of a session -/

namespace Session

variable {σ ι : Type} {s : Session σ ι}

/-- The fault that a session waits to see is one that came up in its pipeline. -/
theorem pendingFault_timely (h : s.pipeline.Timely) {f : Fault} (hf : s.pendingFault = some f) :
    f.isPreCapture = false := by
  obtain ⟨d, hd, hdf⟩ := Option.bind_eq_some_iff.1 hf
  exact h d (List.mem_of_getLast? hd) f hdf

variable [CaptureSource σ] [Operator ι]

/-- A session gets to capture: it goes on to its source, which can be opened and started. -/
def captures (s : Session σ ι) : Bool :=
  s.passes && s.opening.result.isOk && s.starting.result.isOk

section
variable {source : σ} (hc : Candid source)
include hc

theorem timely_poll (h : s.pipeline.Timely) : s.poll.2.pipeline.Timely := by
  have hn : (s.pipeline.note (.polled s.config.pollInterval)).Timely := h.congr rfl
  rw [poll_eq]
  exact (hn.wait hc).congr rfl

theorem Watched.timely {sd : Session σ ι} {n : Nat} {r : Except Fault Outcome} {f : Fault}
    (h : Watched s n r sd) (ht : s.pipeline.Timely) (hr : r = .error f) : f.isPreCapture = false := by
  induction h with
  | fault hf =>
    cases hr
    exact pendingFault_timely ht hf
  | quit => cases hr
  | again _ _ _ ih => exact ih (timely_poll hc ht) hr

theorem timely_begun (hs : s.Fresh) (devices : List Receiver) (format : AudioFormat) :
    (s.begun devices format).pipeline.Timely := by
  have hadmitted : (s.admitted devices).pipeline.Timely := by
    have hd : (s.admitted devices).pipeline.deliveries = [] := hs.handed
    rw [Pipeline.Timely, hd]
    nofun
  have hopened : (s.opened devices).pipeline.Timely := hadmitted.openDevice hc
  have hstarted : (s.started devices).pipeline.Timely := hopened.start hc
  rw [begun, enter_eq]
  exact hstarted.congr rfl

end

/-- **The kind of the fault that ends the work tells whether the session got to capture**, by cases
on the way that it went: without receivers, unopened, unstarted, or watched until a fault came. -/
theorem Course.kind {polls : Nat} {f : Fault} {fs : Findings} {sd : Session σ ι} (hs : s.Fresh)
    (hd : ∀ f, s.found = .error f → f.isPreCapture = true) (hc : Candid s.pipeline.source)
    (h : Course polls s (.error f) fs sd) : f.isPreCapture = !s.captures := by
  cases h with
  | undiscovered hf =>
    rw [hd f hf, captures, passes_of_error hf]
    rfl
  | unopened hf hp ho =>
    rw [hc.opening f ho, captures, hp, ho]
    rfl
  | unstarted hf hp ho ht =>
    rw [hc.starting _ f ho ht, captures, hp, ho, ht]
    rfl
  | watched hf hp ho ht hw =>
    obtain ⟨n, hn⟩ := watched_of_watch hw
    rw [hn.timely hc (timely_begun hc hs _ _) rfl, captures, hp, ho, ht]
    rfl

/-- Work that ends well was aborted before capture or is over because the operator quit. -/
theorem Course.outcome {polls : Nat} {o : Outcome} {fs : Findings} {sd : Session σ ι} (hs : s.Fresh)
    (h : Course polls s (.ok o) fs sd) : o = .quit ∨ o = .aborted := by
  cases h with
  | aborted => exact .inr rfl
  | watched hf hp ho ht hw =>
    obtain ⟨n, hn⟩ := watched_of_watch hw
    exact .inl (hn.ended (vigil_begun hs _ ho ht)).1

/-! ## States that were told -/

theorem mem_filterMap_state {st : SessionState} {rs : List Report} :
    st ∈ rs.filterMap Report.state? ↔ .state st ∈ rs := by
  rw [List.mem_filterMap]
  constructor
  · rintro ⟨r, hr, hst⟩
    cases r with
    | state st' =>
      cases hst
      exact hr
    | _ => cases hst
  · intro h
    exact ⟨.state st, h, rfl⟩

/-- Capture is told of exactly if the session gets to it. -/
theorem capturing_due (s : Session σ ι) (r : Except Fault Summary) :
    .state .capturing ∈ s.traceDue r ↔ s.captures = true := by
  have hd : .state .capturing ∉ s.discoveryDue := by
    unfold discoveryDue
    cases s.found <;> simp
  have hg : .state .capturing ∉ s.gateDue := by
    unfold gateDue
    cases s.found with
    | error f => simp
    | ok devices => by_cases h : devices = [] <;> simp [h]
  have hc : .state .capturing ∈ s.captureDue ↔ s.captures = true := by
    unfold captureDue captures
    cases s.passes with
    | false => simp
    | true => cases s.opening.result <;> cases s.starting.result <;> simp [Except.isOk, Except.toBool]
  unfold traceDue
  rw [List.append_assoc, List.mem_append, List.mem_append, List.mem_append, hc]
  cases r <;> simp [hd, hg]

/-- A run that is over has told what is due. -/
theorem tells_run {polls : Nat} {stamp : SessionStamp} {s' : Session σ ι} {r : Except Fault Summary}
    (hs : s.Fresh) (h : s.run polls stamp = some (r, s')) : s'.Tells (s.traceDue r) := by
  obtain ⟨r₀, fs, sd, hd, hc⟩ := run_eq hs h
  obtain ⟨hcourse, hstop⟩ := (drive_course hs hd).tells hs
  have hend := (tells_conclude (tells_teardown hcourse hstop) stamp fs r₀).2
  rw [hc] at hend
  exact hend

theorem capturing_mem_states {polls : Nat} {stamp : SessionStamp} {s' : Session σ ι}
    {r : Except Fault Summary} (hs : s.Fresh) (h : s.run polls stamp = some (r, s')) :
    .capturing ∈ s'.journal.states ↔ s.captures = true := by
  rw [(tells_run hs h).states_eq, mem_filterMap_state, capturing_due]

/-! ## Runs -/

section
variable {polls : Nat} {stamp : SessionStamp} {s' : Session σ ι} (hs : s.Fresh)
include hs

/-- A run that is over went one of the ways that work can go, and came to the same. -/
theorem course_of_run {r : Except Fault Summary} (h : s.run polls stamp = some (r, s')) :
    ∃ r₀ fs sd, Course polls s r₀ fs sd ∧ Concluded r₀ r := by
  obtain ⟨r₀, fs, sd, hd, hc⟩ := run_eq hs h
  have hr := concluded sd.teardown stamp fs r₀
  rw [hc] at hr
  exact ⟨r₀, fs, sd, drive_course hs hd, hr⟩

/-- **A run that fails does so with a fault of the kind that comes before capture, exactly if it
never captured.** -/
theorem kind_of_run {f : Fault} (hd : ∀ f, s.found = .error f → f.isPreCapture = true)
    (hc : Candid s.pipeline.source) (h : s.run polls stamp = some (.error f, s')) :
    f.isPreCapture = true ↔ .capturing ∉ s'.journal.states := by
  obtain ⟨r₀, fs, sd, hcourse, hr⟩ := course_of_run hs h
  cases r₀ with
  | ok o =>
    obtain ⟨summary, hsummary, -⟩ := hr
    cases hsummary
  | error f₀ =>
    cases hr
    rw [hcourse.kind hs hd hc, capturing_mem_states hs h, Bool.not_eq_true', Bool.not_eq_true]

/-- A run that ends well was aborted or ends because the operator quit. -/
theorem outcome_of_ok {summary : Summary} (h : s.run polls stamp = some (.ok summary, s')) :
    summary.outcome = .quit ∨ summary.outcome = .aborted := by
  obtain ⟨r₀, fs, sd, hcourse, hr⟩ := course_of_run hs h
  cases r₀ with
  | error f => cases hr
  | ok o =>
    obtain ⟨summary', hsummary, ho⟩ := hr
    cases hsummary
    rw [ho]
    exact hcourse.outcome hs

/-- A run that is over has kept a summary, whatever it came to. -/
theorem summary_of_run {r : Except Fault Summary} (h : s.run polls stamp = some (r, s')) :
    ∃ summary, s'.summary = some summary := by
  obtain ⟨r₀, fs, sd, -, hc⟩ := run_eq hs h
  cases r₀ <;> cases hc <;> exact ⟨_, rfl⟩

end

end Session

end AirLoop
