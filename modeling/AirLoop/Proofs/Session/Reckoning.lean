import AirLoop.Proofs.Capture.Account
import AirLoop.Proofs.Capture.Metered
import AirLoop.Proofs.Session.Outcome

/-!
# What a session reckons up

At its end a session reports on what happened: whom it found, what it captured, how many buffers it
took in and how loud they were. All of it can be told from the answers that decided its way and from
the exchange with its source (`summary_agrees_with_exchange`), which its pipeline follows over the
whole run (`Course.follows`, `follows_teardown`).
-/

namespace AirLoop

/-! ## Notes between the operations -/

theorem Journal.nothing_of_aside {os : Journal} (h : ∀ o ∈ os, o.aside = true) :
    os.signals = [] ∧ os.processed = [] ∧ os.levels = [] := by
  refine ⟨?_, ?_, ?_⟩
  · refine List.filterMap_eq_nil_iff.2 ?_
    intro o ho
    have ha := h o ho
    cases o with
    | signalled => cases ha
    | _ => rfl
  · refine List.filterMap_eq_nil_iff.2 ?_
    intro o ho
    have ha := h o ho
    cases o with
    | processed => cases ha
    | _ => rfl
  · refine List.filterMap_eq_nil_iff.2 ?_
    intro o ho
    have ha := h o ho
    cases o with
    | reported r =>
      cases r with
      | level => cases ha
      | _ => rfl
    | _ => rfl

theorem Follows.aside {σ : Type} {gateOpen : Bool} {x : Exchange σ} {p : Pipeline σ}
    (h : Follows gateOpen x p) {os : Journal} (ho : ∀ o ∈ os, o.aside = true) :
    Follows gateOpen x (p.noteAll os) := by
  obtain ⟨hs, hp, hl⟩ := Journal.nothing_of_aside ho
  exact h.noteAll os hs hp hl

namespace Session

variable {σ ι : Type}

/-! ## New sessions -/

/-- A prepared session has its own meter and the further stages, and nothing else yet. -/
theorem pipeline_of_prepare {config : Configuration} {directory : Directory} {source : σ}
    {operator : ι} {stages : List Stage} {s : Session σ ι}
    (h : prepare config directory source operator stages = .ok s) :
    s.pipeline = { source, stations := (.meter true :: stages).map ({ stage := · }) } := by
  have hall : ∀ (stages before : List Stage) (s₀ : Session σ ι),
      s₀.pipeline = { source, stations := before.map ({ stage := · }) } →
      (stages.foldl (fun s stage => (s.addStage stage).2) s₀).pipeline =
        { source, stations := (before ++ stages).map ({ stage := · }) } := by
    intro stages
    induction stages with
    | nil =>
      intro before s₀ h₀
      rw [List.append_nil]
      exact h₀
    | cons stage stages ih =>
      intro before s₀ h₀
      rw [List.foldl_cons, List.append_cons]
      refine ih (before ++ [stage]) _ ?_
      unfold addStage
      rw [h₀]
      simp [Pipeline.addStage]
  unfold prepare Session.new at h
  split at h
  · cases h
  · cases h
    exact hall stages [.meter true] _ rfl

/-- What is kept of a run: the report that it returns, or one that it failed. -/
theorem summary_conclude (s : Session σ ι) (stamp : SessionStamp) (fs : Findings)
    (r₀ : Except Fault Outcome) {s' : Session σ ι} {r : Except Fault Summary}
    (h : s.conclude stamp fs r₀ = (r, s')) :
    ∃ outcome, s'.summary = some (s'.summarize stamp fs outcome) ∧
      (∀ x, r = .ok x → x = s'.summarize stamp fs outcome) ∧
      ∀ f, r = .error f → outcome = .failed f.message := by
  cases r₀ with
  | ok outcome =>
    cases h
    exact ⟨outcome, rfl, fun x hx => (Except.ok.inj hx).symm, nofun⟩
  | error f =>
    cases h
    exact ⟨.failed f.message, rfl, nofun, fun f hf => by cases hf; rfl⟩

theorem metered_of_laid {p : Pipeline σ} {stages : List Stage}
    (hs : p.standing.stages = .meter true :: stages)
    (hh : ∀ x ∈ p.standing.handed, x.1 = p.standing.stages.length) : Metered p where
  first := by
    change p.standing.stages[0]? = _
    rw [hs]
    rfl
  reached := by
    intro k hk
    have hd : p.deliveries[k]? = some p.deliveries[k] := List.getElem?_eq_getElem hk
    have hlen : p.deliveries[k].stages = p.standing.stages.length :=
      hh _ (List.mem_map.2 ⟨_, List.getElem_mem hk, rfl⟩)
    have htake : p.stages.take p.deliveries[k].stages = .meter true :: stages := by
      rw [hlen]
      exact (List.take_length).trans hs
    exact ⟨stages, p.deliveries[k].format, by rw [Pipeline.handout_of_delivery hd, htake]⟩

/-- A delivery that was handed out with all stages goes to all of them. -/
theorem chain_of_laid {p : Pipeline σ} {k : Nat} {chain : List Stage} {format : AudioFormat}
    (hh : ∀ x ∈ p.standing.handed, x.1 = p.standing.stages.length)
    (h : p.handout k = some (chain, format)) : chain = p.stages := by
  rw [Pipeline.handout, Standing.handout] at h
  obtain ⟨x, hx, he⟩ := Option.map_eq_some_iff.1 h
  cases he
  rw [hh x (List.mem_of_getElem? hx)]
  exact List.take_length

/-! ## The account of a session -/

section
variable {gateOpen : Bool} {x : Exchange σ} {s : Session σ ι}

theorem follows_enter (h : Follows gateOpen x s.pipeline) (next : SessionState) :
    Follows gateOpen x (s.enter next).pipeline := by
  rw [enter_eq]
  exact h.noteAll _ rfl rfl rfl

theorem follows_cleanUp {what : String} {call : Pipeline σ → Except Fault Unit × Pipeline σ}
    (h : Follows gateOpen x (call s.pipeline).2) :
    Follows gateOpen x (s.cleanUp what call).pipeline := by
  unfold cleanUp
  dsimp only
  split
  · exact h
  · exact h.log ..

theorem follows_conclude (h : Follows gateOpen x s.pipeline) (stamp : SessionStamp) (fs : Findings)
    (r : Except Fault Outcome) : Follows gateOpen x (s.conclude stamp fs r).2.pipeline := by
  cases r with
  | ok outcome => exact h.log ..
  | error f => exact (h.log ..).noteAll [.reported (.error f)] rfl rfl rfl

variable [CaptureSource σ]

/-- A teardown is a stop and a release. -/
theorem follows_teardown (h : Follows gateOpen x s.pipeline) :
    Follows false (x.performAll [.stop, .close]) s.teardown.pipeline := by
  have hhalted : Follows false x.stop s.halted.pipeline :=
    follows_cleanUp (follows_enter h .stopping).stop
  rw [← x.isOpen_stop] at hhalted
  exact follows_enter (follows_cleanUp hhalted.close) .stopped

variable [Operator ι]

theorem follows_opened (h : Follows x.isOpen x s.pipeline) (devices : List Receiver) :
    Follows x.openDevice.isOpen x.openDevice (s.opened devices).pipeline :=
  (h.aside (aside_approach s devices)).openDevice

theorem follows_started (h : Follows x.isOpen x s.pipeline) (devices : List Receiver) :
    Follows x.openDevice.start.isOpen x.openDevice.start (s.started devices).pipeline :=
  (follows_opened h devices).start

theorem follows_begun (h : Follows x.isOpen x s.pipeline) (devices : List Receiver)
    (format : AudioFormat) :
    Follows x.openDevice.start.isOpen x.openDevice.start (s.begun devices format).pipeline :=
  (follows_enter (follows_started h devices) .capturing).noteAll
    [.reported (.captureStarted format (s.opened devices).pipeline.deviceName)] rfl rfl rfl

/-- The source goes on while the operator is polled. -/
theorem follows_poll (h : Follows x.isOpen x s.pipeline) :
    Follows (x.perform .wait).isOpen (x.perform .wait) s.poll.2.pipeline := by
  have hp : Follows x.isOpen x (s.pipeline.note (.polled s.config.pollInterval)) :=
    h.noteAll _ rfl rfl rfl
  rw [poll_eq]
  exact (hp.perform .wait).aside (aside_logged _)

theorem Watched.follows {n : Nat} {r : Except Fault Outcome} {sd : Session σ ι}
    (hw : Watched s n r sd) (h : Follows x.isOpen x s.pipeline) :
    Follows (x.performAll (List.replicate n .wait)).isOpen (x.performAll (List.replicate n .wait))
      sd.pipeline := by
  induction hw generalizing x with
  | fault => exact h
  | quit => exact follows_poll h
  | again _ _ _ ih => exact ih (follows_poll h)

end

/-! ### What a session does with its pipeline -/

variable [CaptureSource σ] [Operator ι]

/-- What a session that polls its operator so often has done with its pipeline when it is to be torn
down. -/
def work (s : Session σ ι) (polls : Nat) : List Operation :=
  if s.passes then .openDevice :: .start :: List.replicate polls .wait else []

/-- What it does with its pipeline in all. -/
def operations (s : Session σ ι) (polls : Nat) : List Operation := s.work polls ++ [.stop, .close]

namespace Course

variable {polls : Nat} {s sd : Session σ ι} {r : Except Fault Outcome} {fs : Findings}

/-- **The pipeline of a session follows on each of its ways.** -/
theorem follows (hs : s.Fresh) (hf : s.pipeline.format = none) (h : Course polls s r fs sd)
    {x : Exchange σ} (hx : Follows x.isOpen x s.pipeline) :
    Follows (x.performAll (s.work sd.journal.polls.length)).isOpen
      (x.performAll (s.work sd.journal.polls.length)) sd.pipeline := by
  unfold work
  cases h with
  | undiscovered hd =>
    rw [passes_of_error hd]
    exact hx.aside (aside_preface s)
  | aborted _ hp =>
    rw [hp]
    exact hx.aside (aside_approach s [])
  | @unopened devices f _ hp ho =>
    -- a start would not reach the source, so that it makes no difference that there is none
    have hstart : (s.opened devices).pipeline.start.2 = (s.opened devices).pipeline := by
      have hst := (opened_error hs devices ho).2
      rw [Pipeline.start_unknown (congrArg Standing.phase hst)
        ((congrArg Standing.format hst).trans hf)]
    have hstarted := (follows_opened hx devices).start
    rw [hstart] at hstarted
    rw [if_pos hp, (asked_opened hs devices).waits]
    exact hstarted
  | @unstarted devices _ _ _ hp _ _ =>
    rw [if_pos hp, (asked_started hs devices).waits]
    exact follows_started hx devices
  | @watched devices format _ sd _ hp _ _ hw =>
    obtain ⟨n, hn⟩ := watched_of_watch hw
    have hpolls : sd.journal.polls.length = n := by
      rw [(hn.asked (asked_begun hs devices format)).waits, List.nil_append, List.length_replicate]
    rw [if_pos hp, hpolls]
    exact hn.follows (follows_begun hx devices format)

/-- The stages stay as they were prepared, and the delivery, if there is one, goes to all of them. -/
theorem laid (hs : s.Fresh) (h : Course polls s r fs sd) :
    sd.pipeline.standing.stages = s.pipeline.standing.stages ∧
      ∀ x ∈ sd.pipeline.standing.handed, x.1 = s.pipeline.standing.stages.length := by
  have hnone : ∀ x ∈ s.pipeline.standing.handed, x.1 = s.pipeline.standing.stages.length := by
    rw [hs.handed_eq]
    nofun
  cases h with
  | undiscovered =>
    rw [show s.lookedUp.pipeline.standing = s.pipeline.standing from
      Pipeline.standing_noteAll _ (ofSession_preface s)]
    exact ⟨rfl, hnone⟩
  | aborted =>
    rw [standing_admitted]
    exact ⟨rfl, hnone⟩
  | unopened _ _ ho =>
    rw [(opened_error hs _ ho).2]
    exact ⟨rfl, hnone⟩
  | unstarted _ _ ho ht =>
    rw [(started_error hs _ ho ht).2]
    exact ⟨rfl, fun x hx => List.mem_singleton.1 hx ▸ rfl⟩
  | watched _ _ ho ht hw =>
    obtain ⟨n, hn⟩ := watched_of_watch hw
    obtain ⟨source, hst⟩ := hn.standing
    rw [hst, standing_begun, (started_ok hs _ ho ht).2]
    exact ⟨rfl, fun x hx => List.mem_singleton.1 hx ▸ rfl⟩

end Course

/-! ## What was found out -/

/-- The names of the receivers that were found. -/
def devicesDue (s : Session σ ι) : List String :=
  match s.found with
  | .error _ => []
  | .ok devices => devices.map (·.displayName)

/-- The format that the source reported, if it was opened. -/
def formatDue (s : Session σ ι) : Option AudioFormat :=
  if s.passes then s.opening.result.toOption else none

/-- The name of the device, if it was opened. -/
def sourceDeviceDue (s : Session σ ι) : Option String :=
  s.formatDue.bind fun _ => CaptureSource.deviceName s.opening.source

theorem Course.findings {polls : Nat} {r : Except Fault Outcome} {fs : Findings} {sd : Session σ ι}
    (hs : s.Fresh) (h : Course polls s r fs sd) :
    fs = { devices := s.devicesDue, format := s.formatDue, sourceDevice := s.sourceDeviceDue } := by
  unfold sourceDeviceDue formatDue devicesDue
  cases h with
  | undiscovered hf =>
    rw [passes_of_error hf, hf]
    rfl
  | aborted hf hp =>
    rw [hp, hf]
    rfl
  | unopened hf hp ho =>
    rw [if_pos hp, ho, hf]
    rfl
  | unstarted hf hp ho | watched hf hp ho =>
    rw [if_pos hp, ho, hf, Session.findings, deviceName_opened hs _ ho]
    rfl

/-- The session after its source reported some more. -/
def afterwards (s : Session σ ι) (signals : List Signal) : Session σ ι :=
  { s with pipeline := s.pipeline.receiveAll signals }

/-! ## Runs -/

section
variable {config : Configuration} {directory : Directory} {source : σ} {operator : ι}
  {stages : List Stage} {polls : Nat} {stamp : SessionStamp} {s s' : Session σ ι}
  {r : Except Fault Summary} (hs : prepare config directory source operator stages = .ok s)
  (h : s.run polls stamp = some (r, s'))
include hs h

/-- The pipeline of a session follows over a whole run, at whose end the gate is closed. -/
theorem follows_of_run :
    Follows false (Exchange.lived source (s.operations s'.journal.polls.length)) s'.pipeline := by
  have hf := fresh_of_prepare hs
  have hpipe := pipeline_of_prepare hs
  obtain ⟨r₀, fs, sd, hd, hc⟩ := run_eq hf h
  have hpolls : s'.journal.polls = sd.journal.polls := by
    obtain ⟨more, hj, hm⟩ := extends_conclude sd stamp fs r₀
    rw [hc] at hj
    rw [show s'.journal = sd.journal ++ more from hj, Journal.polls_append,
      (Asked.of_unasked hm).waits, List.append_nil]
  have hnew : Follows ({ source } : Exchange σ).isOpen ({ source } : Exchange σ) s.pipeline := by
    rw [hpipe]
    exact .new source (.meter true :: stages)
  have hwork := (drive_course hf hd).follows hf (by rw [hpipe]) hnew
  have hend := follows_conclude (follows_teardown hwork) stamp fs r₀
  rw [hc] at hend
  rw [Exchange.lived, operations, Exchange.performAll_append, hpolls]
  exact hend

/-- The stages of a session stay, and every delivery goes to all of them. -/
theorem laid_of_run :
    s'.pipeline.standing.stages = .meter true :: stages ∧
      ∀ x ∈ s'.pipeline.standing.handed, x.1 = s'.pipeline.standing.stages.length := by
  have hf := fresh_of_prepare hs
  obtain ⟨r₀, fs, sd, hd, hc⟩ := run_eq hf h
  obtain ⟨hstages, hhanded⟩ := (drive_course hf hd).laid hf
  have hstart : s.pipeline.standing.stages = .meter true :: stages := by
    rw [pipeline_of_prepare hs]
    exact (List.map_map ..).trans (List.map_id _)
  have hlaid : s'.pipeline.standing.stages = sd.pipeline.standing.stages ∧
      s'.pipeline.standing.handed = sd.pipeline.standing.handed := by
    have hend := standing_conclude sd.teardown stamp fs r₀
    rw [hc] at hend
    obtain ⟨hs₁, hh₁⟩ := Pipeline.laid_close sd.halted.pipeline
    obtain ⟨hs₂, hh₂⟩ := Pipeline.laid_stop (sd.enter .stopping).pipeline
    rw [standing_enter] at hs₂ hh₂
    rw [show s'.pipeline.standing = _ from hend.trans (standing_teardown sd), hs₁, hh₁,
      standing_halted]
    exact ⟨hs₂, hh₂⟩
  refine ⟨(hlaid.1.trans hstages).trans hstart, ?_⟩
  rw [hlaid.2, hlaid.1, hstages]
  exact hhanded

end

/-- **What a session reckons up agrees with what happened.** The report that is kept is the one that
is returned, or tells of the failure that is. It has the names of the receivers that were found, the
format and the device of the source if it was opened, and the counters of all that the source has
sent through the whole run, teardown included. Each delivered buffer passes the session's own meter
and then the further stages; it is shown once, and once more for every further meter that it passes;
the loudest of them is the one that is reported. What the source sends afterwards changes none of
it. -/
theorem summary_agrees_with_exchange {config : Configuration} {directory : Directory} {source : σ}
    {operator : ι} {stages : List Stage} {polls : Nat} {stamp : SessionStamp} {s s' : Session σ ι}
    {r : Except Fault Summary} (hs : prepare config directory source operator stages = .ok s)
    (h : s.run polls stamp = some (r, s')) :
    let x := Exchange.lived source (s.operations s'.journal.polls.length)
    ∃ summary, s'.summary = some summary ∧
      (∀ y, r = .ok y → y = summary) ∧
      (∀ f, r = .error f → summary.outcome = .failed f.message) ∧
      summary.devices = s.devicesDue ∧ summary.format = s.formatDue ∧
      summary.sourceDevice = s.sourceDeviceDue ∧
      s'.journal.signals = x.signals ∧
      summary.diagnostics = .ofIntakes x.intakes ∧
      s'.pipeline.stages = .meter true :: stages ∧
      (∀ k chain format, s'.pipeline.handout k = some (chain, format) →
        chain = .meter true :: stages) ∧
      s'.journal.processed = ways s'.pipeline.handout x.intakes ∧
      UInt64.ofNat s'.journal.levels.length =
        summary.diagnostics.buffersDelivered + UInt64.ofNat s'.pipeline.furtherLevels ∧
      ((∀ stage ∈ stages, stage.isMeter = false) → s'.pipeline.furtherLevels = 0) ∧
      Loudest ((delivered x.intakes).map measure) ⟨summary.maxPeak⟩ ∧
      ∀ signals, (s'.afterwards signals).summary = s'.summary ∧
        (s'.afterwards signals).pipeline.monitor = s'.pipeline.monitor ∧
        (s'.afterwards signals).journal.reports = s'.journal.reports := by
  intro x
  have hf := fresh_of_prepare hs
  obtain ⟨r₀, fs, sd, hd, hc⟩ := run_eq hf h
  obtain ⟨outcome, hkept, hok, herror⟩ := summary_conclude sd.teardown stamp fs r₀ hc
  have hfollows : Follows false x s'.pipeline := follows_of_run hs h
  have hacc : Accounted x.intakes s'.pipeline := hfollows.accounted
  obtain ⟨hstages, hlaid⟩ := laid_of_run hs h
  have hmetered : Metered s'.pipeline := metered_of_laid hstages hlaid
  have hfs := (drive_course hf hd).findings hf
  refine ⟨_, hkept, hok, herror, ?_, ?_, ?_, hfollows.signals, hacc.counted, hstages,
    fun _ _ _ hh => (chain_of_laid hlaid hh).trans hstages, hacc.taken, ?_, ?_,
    hacc.loudest hmetered, ?_⟩
  · rw [summarize, hfs]
  · rw [summarize, hfs]
  · rw [summarize, hfs]
  · have hcount : s'.pipeline.diagnostics.buffersDelivered =
        UInt64.ofNat (x.intakes.countP (·.isDelivered)) :=
      congrArg Diagnostics.buffersDelivered hacc.counted
    change _ = s'.pipeline.diagnostics.buffersDelivered + _
    rw [hcount, ← UInt64.ofNat_add, ← hacc.levels hmetered]
    rfl
  · intro hnone
    refine Pipeline.furtherLevels_eq_zero ?_
    rw [show s'.pipeline.stages = .meter true :: stages from hstages]
    exact hnone
  · intro signals
    have hmuted := Pipeline.receiveAll_muted hfollows.gate signals
    exact ⟨rfl, hmuted.monitor, hmuted.reports⟩

/-- A session with a further meter, whose source sends one buffer while it is polled. -/
def doublyMetered : Session Rehearsal ScriptedOperator where
  config := {}
  directory := fun _ _ => { answer := .ok [] }
  operator := { polls := [false, true] }
  pipeline :=
    { source := { traffic := [([.full [0, 0, 0, 0x3f]], [])] }
      stations := [{ stage := .meter true }, { stage := .meter false }] }

/-- Its summary: one buffer of four bytes, shown twice, and a peak of one half. -/
theorem summary_with_second_meter :
    ∃ r s' summary, doublyMetered.run 2 default = some (r, s') ∧ s'.summary = some summary ∧
      summary.format = some ⟨48000, 32, 2⟩ ∧ summary.diagnostics = ⟨1, 0, 0, 4⟩ ∧
      UInt64.ofNat s'.journal.levels.length = 2 ∧ summary.maxPeak = ⟨0x3f000000⟩ := by
  obtain ⟨⟨r, s'⟩, h⟩ :=
    Option.isSome_iff_exists.1 (show (doublyMetered.run 2 default).isSome = true by rfl)
  have hs : prepare doublyMetered.config doublyMetered.directory doublyMetered.pipeline.source
      doublyMetered.operator [.meter false] = .ok doublyMetered := rfl
  have hpolls : s'.journal.polls.length = 2 := by
    cases h
    rfl
  have hfurther : s'.pipeline.furtherLevels = 1 := by
    cases h
    decide +kernel
  obtain ⟨summary, hkept, -, -, -, hformat, -, -, hdiagnostics, -, -, -, hlevels, -, hloudest, -⟩ :=
    summary_agrees_with_exchange hs h
  rw [hpolls] at hdiagnostics hloudest
  have hcounters : summary.diagnostics = ⟨1, 0, 0, 4⟩ := hdiagnostics.trans (by decide +kernel)
  have hmeasured : (delivered (Exchange.lived doublyMetered.pipeline.source
      (doublyMetered.operations 2)).intakes).map measure = [⟨⟨0x3f000000⟩⟩] := by decide +kernel
  rw [hmeasured] at hloudest
  have hpeak : (⟨summary.maxPeak⟩ : LevelReading) = ⟨⟨0x3f000000⟩⟩ :=
    List.mem_singleton.1 (hloudest.mem (List.cons_ne_nil _ _))
  refine ⟨r, s', summary, h, hkept, hformat, hcounters, ?_, congrArg LevelReading.peak hpeak⟩
  rw [hlevels, hcounters, hfurther]
  rfl

/-- The one buffer that it delivers is shown twice. -/
theorem second_meter_shows_buffer_twice :
    ∃ r s', prepare doublyMetered.config doublyMetered.directory doublyMetered.pipeline.source
        doublyMetered.operator [.meter false] = .ok doublyMetered ∧
      doublyMetered.run 2 default = some (r, s') ∧
      s'.summary.map (·.diagnostics.buffersDelivered) = some 1 ∧
      UInt64.ofNat s'.journal.levels.length = 2 :=
  ⟨_, _, rfl, rfl, rfl, rfl⟩

end Session

end AirLoop
