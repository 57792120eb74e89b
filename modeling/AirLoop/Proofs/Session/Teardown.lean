import AirLoop.Proofs.Capture.Release
import AirLoop.Proofs.Session.Endings
import AirLoop.Proofs.Session.Watch
import AirLoop.Capture.Rehearsal

/-!
# Teardown

Whichever way a session goes, its teardown makes the calls that its pipeline still owes to the source
(`Phase.release`), so that the calls of a whole run are decided by how far it came
(`run_calls_eq_callsDue`). What the source answers to the last of them matters to nobody but the log:
pipelines that differ only in their journals stay so when they are stopped and released, whatever
the answers (`Alike`).
-/

namespace AirLoop

namespace Session

variable {σ ι : Type}

theorem standing_cleanUp (s : Session σ ι) (what : String)
    (call : Pipeline σ → Except Fault Unit × Pipeline σ) :
    (s.cleanUp what call).pipeline.standing = (call s.pipeline).2.standing := by
  unfold cleanUp
  dsimp only
  split
  · rfl
  · exact standing_note _ rfl

theorem standing_conclude (s : Session σ ι) (stamp : SessionStamp) (fs : Findings)
    (r : Except Fault Outcome) :
    (s.conclude stamp fs r).2.pipeline.standing = s.pipeline.standing := by
  cases r with
  | ok outcome => exact standing_note _ rfl
  | error f => exact (standing_note _ rfl).trans (standing_note _ rfl)

variable [CaptureSource σ]

/-- The session in the middle of its teardown: its pipeline was stopped. -/
def halted (s : Session σ ι) : Session σ ι :=
  (s.enter .stopping).cleanUp "Failed to stop capture" Pipeline.stop

theorem standing_halted (s : Session σ ι) :
    s.halted.pipeline.standing = (s.enter .stopping).pipeline.stop.2.standing :=
  standing_cleanUp ..

theorem standing_teardown (s : Session σ ι) :
    s.teardown.pipeline.standing = s.halted.pipeline.close.2.standing :=
  (standing_enter _ .stopped).trans (standing_cleanUp s.halted _ Pipeline.close)

/-- **Teardown makes the calls that are left**, and leaves a pipeline that is closed. -/
theorem called_teardown (s : Session σ ι) :
    s.teardown.pipeline.phase = .closed ∧
      s.teardown.pipeline.called = s.pipeline.called ++ s.pipeline.phase.release := by
  have hs := standing_enter s .stopping
  have hp : (s.enter .stopping).pipeline.phase = s.pipeline.phase := congrArg Standing.phase hs
  have hphase : s.halted.pipeline.phase = (s.enter .stopping).pipeline.stop.2.phase :=
    congrArg Standing.phase (standing_halted s)
  constructor
  · exact (congrArg Standing.phase (standing_teardown s)).trans (Pipeline.phase_close _)
  · rw [Pipeline.called_of_standing (standing_teardown s), Pipeline.called_close, hphase,
      Pipeline.called_of_standing (standing_halted s), Pipeline.called_stop, Pipeline.phase_stop,
      Pipeline.called_of_standing hs, hp]
    cases s.pipeline.phase <;> simp [Phase.release]

variable [Operator ι]

/-! ## The calls of a run -/

/-- The calls that a session owes to its source: none if it does not come to it, and else one to
open it, one to start it if it was opened, one to stop it if it was started, and one to release it. -/
def callsDue (s : Session σ ι) : List SourceCall :=
  if s.passes then
    match s.opening.result with
    | .error _ => [.openDevice, .closeDevice]
    | .ok _ =>
      match s.starting.result with
      | .error _ => [.openDevice, .start, .closeDevice]
      | .ok () => [.openDevice, .start, .stop, .closeDevice]
  else []

/-- What was called and what is left to call are all that is due. -/
theorem called_course {polls : Nat} {s : Session σ ι} (hs : s.Fresh) {r : Except Fault Outcome}
    {fs : Findings} {sd : Session σ ι} (h : Course polls s r fs sd) :
    sd.pipeline.called ++ sd.pipeline.phase.release = s.callsDue := by
  have hi : s.pipeline.standing.phase = .idle := hs.phase
  change sd.pipeline.standing.calls.map Prod.fst ++ sd.pipeline.standing.phase.release = _
  unfold callsDue
  cases h with
  | undiscovered hf =>
    have hst : s.lookedUp.pipeline.standing = s.pipeline.standing :=
      Pipeline.standing_noteAll _ (ofSession_preface s)
    rw [hst, hs.calls, hi, passes_of_error hf]
    rfl
  | aborted hf hp =>
    rw [standing_admitted, hs.calls, hi, hp]
    rfl
  | unopened hf hp ho =>
    rw [(opened_error hs _ ho).2, if_pos hp, ho]
    rfl
  | unstarted hf hp ho ht =>
    rw [(started_error hs _ ho ht).2, if_pos hp, ho]
    dsimp only
    rw [ht]
    rfl
  | watched hf hp ho ht hw =>
    obtain ⟨n, hn⟩ := watched_of_watch hw
    obtain ⟨source, hw⟩ := hn.standing
    rw [hw, standing_begun, (started_ok hs _ ho ht).2, if_pos hp, ho]
    dsimp only
    rw [ht]
    rfl

theorem run_eq {polls : Nat} {stamp : SessionStamp} {s s' : Session σ ι} (hs : s.Fresh)
    {r : Except Fault Summary} (h : s.run polls stamp = some (r, s')) :
    ∃ r₀ fs sd, s.drive polls = some (r₀, fs, sd) ∧ sd.teardown.conclude stamp fs r₀ = (r, s') := by
  unfold run at h
  rw [if_neg (not_not_intro hs.state)] at h
  obtain ⟨⟨r₀, fs, sd⟩, hd, hr⟩ := Option.map_eq_some_iff.1 h
  exact ⟨r₀, fs, sd, hd, hr⟩

/-- **A run calls its source for all that is due and for nothing else.** So the source is released
once if it was ever opened, and nothing follows; giving the session up adds no call; and what the
run comes to does not depend on the answers to being stopped and released. -/
theorem run_calls_eq_callsDue {config : Configuration} {directory : Directory} {source : σ}
    {operator : ι} {stages : List Stage} {polls : Nat} {stamp : SessionStamp} {s s' : Session σ ι}
    {r : Except Fault Summary} (hs : prepare config directory source operator stages = .ok s)
    (h : s.run polls stamp = some (r, s')) :
    s'.journal.calls.map Prod.fst = s.callsDue ∧
      (s'.journal.calls.map Prod.fst).count .closeDevice =
        (if .openDevice ∈ s'.journal.calls.map Prod.fst then 1 else 0) ∧
      .closeDevice ∉ (s'.journal.calls.map Prod.fst).dropLast ∧
      s'.drop.journal.calls = s'.journal.calls ∧
      ∀ onStop onClose : σ → Except Fault Unit,
        ∃ s'', @run σ ι (CaptureSource.withEndings onStop onClose) _ polls stamp s =
          some (r, s'') := by
  have hf := fresh_of_prepare hs
  obtain ⟨r₀, fs, sd, hd, hc⟩ := run_eq hf h
  obtain ⟨hp, hcalled⟩ := called_teardown sd
  have hst : s'.pipeline.standing = sd.teardown.pipeline.standing := by
    rw [← standing_conclude sd.teardown stamp fs r₀, hc]
  have hdue : s'.journal.calls.map Prod.fst = s.callsDue := by
    rw [called_course hf (drive_course hf hd)] at hcalled
    rw [← hcalled]
    exact congrArg (fun st : Standing σ => st.calls.map Prod.fst) hst
  have hclosed : s'.pipeline.phase = .closed := (congrArg Standing.phase hst).trans hp
  refine ⟨hdue, ?_, ?_, Pipeline.calls_drop_of_closed _ hclosed,
    fun onStop onClose => run_withEndings onStop onClose h⟩
  · rw [hdue]
    unfold callsDue
    split
    · split
      · rfl
      · split <;> rfl
    · rfl
  · rw [hdue]
    unfold callsDue
    split
    · split
      · decide
      · split <;> decide
    · decide

/-- A session without receivers over a source that fails to stop. -/
def stranded : Session Rehearsal ScriptedOperator where
  config := {}
  directory := fun _ _ => { answer := .ok [] }
  operator := { polls := [false, true] }
  pipeline :=
    { source := { stopFault := some (.captureFault "device lost") }
      stations := [{ stage := .meter true }] }

theorem run_calls_after_failed_stop :
    ∃ r s', stranded.run 2 default = some (r, s') ∧
      s'.journal.calls.map Prod.fst = [.openDevice, .start, .stop, .closeDevice] := by
  obtain ⟨⟨r, s'⟩, h⟩ := Option.isSome_iff_exists.1 (show (stranded.run 2 default).isSome = true by rfl)
  have hs : prepare stranded.config stranded.directory stranded.pipeline.source stranded.operator [] =
      .ok stranded := rfl
  exact ⟨r, s', h, (run_calls_eq_callsDue hs h).1⟩

end Session
end AirLoop
