import AirLoop.Proofs.Operator.Dialogue
import AirLoop.Proofs.Session.Outcome
import AirLoop.Session.Patience

/-!
# Sessions at a terminal

A session whose operator wants to quit sooner or later comes to an end (`run_isSome`). An operator at
a terminal does, since the end of the input is a signal that comes after whatever is typed; so every
session at a terminal ends, and the signals that come tell how (`terminal_heard_first_in_first_out`).
-/

namespace AirLoop

namespace Session

variable {σ ι : Type}

theorem operator_report (s : Session σ ι) (r : Report) : (s.report r).operator = s.operator := rfl

theorem operator_log (s : Session σ ι) (level : LogLevel) (text : String) :
    (s.log level text).operator = s.operator := rfl

theorem operator_enter (s : Session σ ι) (next : SessionState) :
    (s.enter next).operator = s.operator := rfl

theorem operator_cleanUp (s : Session σ ι) (what : String)
    (call : Pipeline σ → Except Fault Unit × Pipeline σ) :
    (s.cleanUp what call).operator = s.operator := by
  unfold cleanUp
  dsimp only
  split <;> rfl

variable [CaptureSource σ]

/-- The operator has no part in the end of a run. -/
theorem operator_conclude (s : Session σ ι) (stamp : SessionStamp) (fs : Findings)
    (r : Except Fault Outcome) : (s.teardown.conclude stamp fs r).2.operator = s.operator := by
  have ht : s.teardown.operator = s.operator := by
    simp only [teardown, operator_enter, operator_cleanUp]
  cases r with
  | error f => simp only [conclude, operator_report, operator_log, ht]
  | ok outcome => simp only [conclude, operator_log, ht]

variable [Operator ι] {s : Session σ ι}

/-! ## Runs that end -/

/-- A watch is over when the operator wants to quit. -/
theorem watch_isSome {n polls : Nat} (hn : n ≤ polls)
    (hq : Operator.quitsAt s.config.pollInterval n s.operator = true) :
    ∃ w, s.watch polls = some w := by
  induction n generalizing s polls with
  | zero => cases hq
  | succ n ih =>
    obtain ⟨m, rfl⟩ : ∃ m, polls = m + 1 := ⟨polls - 1, by omega⟩
    unfold watch
    cases s.pendingFault with
    | some f => exact ⟨_, rfl⟩
    | none =>
      dsimp only
      by_cases hp : s.poll.1 = true
      · exact ⟨_, if_pos hp⟩
      · rw [if_neg hp]
        have hanswer : (Operator.quitRequested s.config.pollInterval s.operator).answer = false :=
          Bool.eq_false_iff.2 hp
        rw [Operator.quitsAt_succ hanswer] at hq
        refine ih (s := s.poll.2) (by omega) ?_
        rw [Watched.config_poll, poll_eq]
        exact hq

theorem drive_isSome (hs : s.Fresh) {polls : Nat}
    (hw : ∀ devices format, s.found = .ok devices → s.passes = true →
      s.opening.result = .ok format → s.starting.result = .ok () →
      ∃ w, (s.begun devices format).watch polls = some w) : ∃ d, s.drive polls = some d := by
  unfold drive
  rw [lookUp_eq]
  cases hf : s.found with
  | error f => exact ⟨_, rfl⟩
  | ok devices =>
    dsimp only
    unfold capture
    rw [passGate_eq]
    dsimp only
    by_cases hg : devices ≠ [] ∨ (Operator.acknowledge s.operator).answer = .proceed
    · have hp : s.passes = true := (passes_iff hf).2 hg
      rw [decide_eq_true hg, if_neg (by decide)]
      cases ho : s.opening.result with
      | error f =>
        rw [(opened_error hs devices ho).1]
        exact ⟨_, rfl⟩
      | ok format =>
        rw [(opened_ok hs devices ho).1]
        dsimp only
        cases ht : s.starting.result with
        | error f =>
          rw [show (s.admitted devices).openCapture.2.startCapture.1 = .error f from
            (started_error hs devices ho ht).1]
          exact ⟨_, rfl⟩
        | ok u =>
          rw [show (s.admitted devices).openCapture.2.startCapture.1 = .ok () from
            (started_ok hs devices ho ht).1]
          obtain ⟨w, hw⟩ := hw devices format hf hp ho ht
          exact ⟨_, Option.map_eq_some_iff.2 ⟨w, hw, rfl⟩⟩
    · rw [decide_eq_false hg, if_pos (by decide)]
      exact ⟨_, rfl⟩

/-- **A run ends if its operator wants to quit by the last poll**, whatever else happens. -/
theorem run_isSome (hs : s.Fresh) {polls : Nat} (stamp : SessionStamp)
    (hq : ∀ devices, s.found = .ok devices → s.passes = true →
      ∃ n ≤ polls, Operator.quitsAt s.config.pollInterval n (s.acquainted devices) = true) :
    ∃ r s', s.run polls stamp = some (r, s') := by
  have hdrive : ∃ d, s.drive polls = some d := by
    refine drive_isSome hs ?_
    intro devices format hf hp _ _
    obtain ⟨n, hn, hq⟩ := hq devices hf hp
    exact watch_isSome (s := s.begun devices format) hn hq
  obtain ⟨d, hd⟩ := hdrive
  unfold run
  rw [if_neg (not_not_intro hs.state), hd]
  exact ⟨_, _, rfl⟩

theorem Watched.operator {sd : Session σ ι} {n : Nat} {r : Except Fault Outcome}
    (h : Watched s n r sd) : sd.operator = Operator.after s.config.pollInterval n s.operator := by
  induction h with
  | fault => rfl
  | quit => rw [poll_eq]; rfl
  | again _ _ _ ih =>
    rw [ih, config_poll, poll_eq]
    rfl

/-- There is only one time at which an operator wants to quit first. -/
theorem quitsAt_unique {wait : Duration} {o : ι} {n m : Nat}
    (hn : ∀ i < n, Operator.quitsAt wait i o = false) (hnq : Operator.quitsAt wait n o = true)
    (hm : ∀ i < m, Operator.quitsAt wait i o = false) (hmq : Operator.quitsAt wait m o = true) :
    n = m := by
  rcases Nat.lt_trichotomy n m with hlt | heq | hlt
  · rw [hm n hlt] at hnq
    cases hnq
  · exact heq
  · rw [hn m hlt] at hmq
    cases hmq

/-- A run is aborted by its operator only, where there are no receivers. -/
theorem aborted_of_run {config : Configuration} {directory : Directory} {source : σ}
    {operator : ι} {stages : List Stage} {polls : Nat} {stamp : SessionStamp} {s' : Session σ ι}
    {r : Except Fault Summary} (hs : prepare config directory source operator stages = .ok s)
    (h : s.run polls stamp = some (r, s')) :
    (∃ summary, r = .ok summary ∧ summary.outcome = .aborted) ↔
      s.found = .ok [] ∧ (Operator.acknowledge s.operator).answer = .abort := by
  have hfresh := fresh_of_prepare hs
  obtain ⟨r₀, fs, sd, hd, hc⟩ := run_eq hfresh h
  have hr := concluded sd.teardown stamp fs r₀
  rw [hc] at hr
  rw [hr.aborted_iff, (drive_course hfresh hd).aborted_iff hfresh]

/-- A run that captures watches until it ends, and the operator is left as he was then. -/
theorem watched_of_run {config : Configuration} {directory : Directory} {source : σ}
    {operator : ι} {stages : List Stage} {polls : Nat} {stamp : SessionStamp} {s' : Session σ ι}
    {r : Except Fault Summary} (hs : prepare config directory source operator stages = .ok s)
    (h : s.run polls stamp = some (r, s')) {devices : List Receiver} {format : AudioFormat}
    (hf : s.found = .ok devices) (hp : s.passes = true) (ho : s.opening.result = .ok format)
    (ht : s.starting.result = .ok ()) :
    ∃ r₀ sd, Watched (s.begun devices format) s'.journal.polls.length r₀ sd ∧
      Ended s.pipeline.stageNames s'.journal r₀ ∧ Concluded r₀ r ∧ s'.operator = sd.operator := by
  have hfresh := fresh_of_prepare hs
  obtain ⟨r₀, fs, sd, hd, hc⟩ := run_eq hfresh h
  obtain ⟨k, hw⟩ := (drive_course hfresh hd).of_started hf hp ho ht
  have hr := concluded sd.teardown stamp fs r₀
  obtain ⟨more, hj, hm⟩ := extends_conclude sd stamp fs r₀
  have hoperator := operator_conclude sd stamp fs r₀
  rw [hc] at hr hj hoperator
  have hj : s'.journal = sd.journal ++ more := hj
  have hend : Ended s.pipeline.stageNames s'.journal r₀ := by
    rw [hj]
    exact (hw.ended (vigil_begun hfresh devices ho ht)).append (Asked.of_unasked hm).waits
  have hlen : s'.journal.polls.length = k := by
    rw [hj, Journal.polls_append, (Asked.of_unasked hm).waits, List.append_nil,
      (hw.asked (asked_begun hfresh devices format)).waits, List.nil_append, List.length_replicate]
  exact ⟨r₀, sd, hlen ▸ hw, hend, hr, hoperator⟩

end Session

/-! ## Terminals -/

namespace Session

variable {σ : Type} {s : Session σ LineOperator} {first : OperatorSignal}
  {rest : List OperatorSignal}

/-- An operator who is asked whether to go on without receivers takes the first signal for it. -/
theorem coming_acquainted (h : s.operator.coming = first :: rest) (devices : List Receiver) :
    (s.acquainted devices).coming = if devices = [] then rest else first :: rest := by
  unfold acquainted
  split
  · have hc := s.operator.coming_asked .acknowledge
    rw [LineOperator.taking_acknowledge, h] at hc
    exact (List.cons.inj hc).2.symm
  · exact h

theorem patience_acquainted (devices : List Receiver) :
    (s.acquainted devices).patience ≤ s.operator.patience := by
  unfold acquainted
  split
  · exact s.operator.patience_acknowledge
  · exact Nat.le_refl _

/-- He goes on unless that signal means to quit. -/
theorem passes_of_first (h : s.operator.coming = first :: rest) (hf : s.found = .ok []) :
    s.passes = true ↔ first.quits = false := by
  rw [passes_iff hf, LineOperator.acknowledge_answer, LineOperator.taking_acknowledge, h]
  simp

/-- The end of the input is still to come when a session goes on to capture. -/
theorem hearsOut_acquainted (h : s.operator.coming = first :: rest)
    (hclosed : .closed ∈ s.operator.coming) {devices : List Receiver} (hf : s.found = .ok devices)
    (hp : s.passes = true) (wait : Duration) :
    ∃ ignored last unread,
      (if devices = [] then rest else first :: rest) = ignored ++ last :: unread ∧
      (∀ x ∈ ignored, x.quits = false) ∧ last.quits = true ∧
      ∃ n ≤ s.operator.patience,
        LineOperator.HearsOut wait (s.acquainted devices) n ignored last unread := by
  have hcoming := coming_acquainted h devices
  have hmem : .closed ∈ (s.acquainted devices).coming := by
    rw [hcoming]
    rw [h] at hclosed
    split
    · rename_i hd
      rw [hd] at hf
      refine (List.mem_cons.1 hclosed).resolve_left ?_
      rintro rfl
      cases (passes_of_first h hf).1 hp
    · exact hclosed
  obtain ⟨ignored, last, unread, hsplit, hi, hq⟩ := LineOperator.exists_first_quit hmem rfl
  have hears : ∃ n ≤ (s.acquainted devices).patience,
      LineOperator.HearsOut wait (s.acquainted devices) n ignored last unread :=
    LineOperator.hearsOut_of_coming hsplit hi hq
  obtain ⟨n, hn, hears⟩ := hears
  exact ⟨ignored, last, unread, hcoming.symm.trans hsplit, hi, hq, n,
    Nat.le_trans hn (patience_acquainted devices), hears⟩

variable [CaptureSource σ]

/-- **What every terminal makes of a session.** The signals that come are the script of what is
typed, with an interrupt for each that comes in between, and questions take them first in, first
out. A session always ends, since the end of the input is among them. Without receivers it is
aborted exactly if the first signal means to quit, and goes on if it does not; and if it captures,
and no fault comes up, it quits at the poll that takes the first of the remaining signals that means
to: those before are taken and ignored, those after stay. -/
theorem terminal_heard_first_in_first_out {config : Configuration} {directory : Directory} {source : σ}
    {before : List Arrival} {later : List (List Arrival)} {stages : List Stage}
    (hs : prepare config directory source (.ofArrivals before later) stages = .ok s)
    (hend : .endOfInput ∈ before ++ later.flatten) (stamp : SessionStamp) :
    (s.operator.coming.filter (· ≠ .interrupted) = script (typed (before ++ later.flatten)) ∧
      s.operator.coming.count .interrupted = (before ++ later.flatten).count .interrupt ∧
      s.operator.coming.count .closed = 1) ∧
    (∀ o : LineOperator, o.FirstInFirstOut) ∧
    ∃ first rest r s', s.operator.coming = first :: rest ∧
      (∀ polls ≥ s.operator.patience, s.run polls stamp = some (r, s')) ∧
      (s.found = .ok [] →
        ((∃ summary, r = .ok summary ∧ summary.outcome = .aborted) ↔ first.quits = true) ∧
          (s.passes = true ↔ first.quits = false)) ∧
      ∀ devices format, s.found = .ok devices → s.passes = true → s.opening.result = .ok format →
        s.starting.result = .ok () → s'.journal.raised s.pipeline.stageNames = [] →
        ∃ ignored last unread,
          (if devices = [] then rest else first :: rest) = ignored ++ last :: unread ∧
          (∀ x ∈ ignored, x.quits = false) ∧ last.quits = true ∧
          (∃ summary, r = .ok summary ∧ summary.outcome = .quit) ∧
          LineOperator.HearsOut s.config.pollInterval (s.acquainted devices)
            s'.journal.polls.length ignored last unread ∧
          s'.operator = (s.acquainted devices).askedAll
            (List.replicate s'.journal.polls.length (.poll s.config.pollInterval)) := by
  have hfresh := fresh_of_prepare hs
  have hcoming : s.operator.coming =
      (({} : LineOperator).arriveAll (before ++ later.flatten)).signals := by
    rw [operator_of_prepare hs, LineOperator.coming_ofArrivals]
  obtain ⟨htold, hinterrupts⟩ := LineOperator.told_of_arrivals hend
  rw [LineOperator.told, ← hcoming] at htold
  rw [LineOperator.interrupts, ← hcoming] at hinterrupts
  have hcount : s.operator.coming.count .closed = 1 := by
    rw [← List.count_filter (p := (· ≠ .interrupted)) (by decide), htold, count_closed_script]
  have hclosed : .closed ∈ s.operator.coming := by
    rw [← List.count_pos_iff, hcount]
    decide
  obtain ⟨first, rest, hfirst⟩ := List.exists_cons_of_ne_nil (List.ne_nil_of_mem hclosed)
  -- the run ends, since the operator hears out what comes
  have hends : ∃ r s', s.run s.operator.patience stamp = some (r, s') := by
    refine run_isSome hfresh stamp ?_
    intro devices hf hp
    obtain ⟨_, _, _, _, _, _, n, hn, hears⟩ :=
      hearsOut_acquainted hfirst hclosed hf hp s.config.pollInterval
    exact ⟨n, hn, hears.wants⟩
  obtain ⟨r, s', hrun⟩ := hends
  refine ⟨⟨htold, hinterrupts, hcount⟩, fun o => o.firstInFirstOut, first, rest, r, s', hfirst,
    fun polls hp => run_of_le hp hrun, ?_, ?_⟩
  · intro hf
    have hpass := passes_of_first hfirst hf
    refine ⟨?_, hpass⟩
    rw [aborted_of_run hs hrun, ← Bool.not_eq_false, ← hpass, passes_iff hf]
    cases (Operator.acknowledge s.operator).answer <;> simp [hf]
  · intro devices format hf hp ho ht hnone
    obtain ⟨r₀, sd, hw, hended, hr, hoperator⟩ := watched_of_run hs hrun hf hp ho ht
    obtain ⟨ignored, last, unread, hsplit, hi, hq, n, -, hears⟩ :=
      hearsOut_acquainted hfirst hclosed hf hp s.config.pollInterval
    cases r₀ with
    | error f =>
      obtain ⟨x, hx, -⟩ := hended
      rw [hnone] at hx
      cases hx
    | ok outcome =>
      obtain ⟨rfl, -⟩ := hended
      obtain ⟨hbefore, hwants⟩ := hw.quits
      have hn : n = s'.journal.polls.length :=
        quitsAt_unique hears.before hears.wants hbefore hwants
      subst hn
      refine ⟨ignored, last, unread, hsplit, hi, hq, hr, hears, ?_⟩
      rw [LineOperator.askedAll_polls]
      exact hoperator.trans hw.operator

/-- A session without receivers, at a terminal where an empty line comes in, then nothing for a
while, then the rest of a second line, and then an interrupt before a line that is not UTF-8. -/
def attended : Session Rehearsal LineOperator where
  config := {}
  directory := fun _ _ => { answer := .ok [] }
  operator := .ofArrivals [.bytes [0x0d, 0x0a, 0x48]]
    [[], [], [.bytes [0x69, 0x0a]], [.interrupt, .bytes [0xff, 0x0a, 0x71]], [.endOfInput]]
  pipeline := { source := {}, stations := [{ stage := .meter true }] }

theorem interrupt_quits_after_ignored_line :
    ∃ r s', attended.run 9 default = some (r, s') ∧
      (∃ summary, r = .ok summary ∧ summary.outcome = .quit) ∧
      ∃ ignored last unread,
        [.line "hi", .interrupted, .closed] = ignored ++ last :: unread ∧
        (∀ x ∈ ignored, x.quits = false) ∧ last.quits = true ∧ s'.operator.coming = unread := by
  have hs : prepare attended.config attended.directory attended.pipeline.source
      (.ofArrivals [.bytes [0x0d, 0x0a, 0x48]] [[], [], [.bytes [0x69, 0x0a]],
        [.interrupt, .bytes [0xff, 0x0a, 0x71]], [.endOfInput]]) [] = .ok attended := rfl
  have hcoming : attended.operator.coming = [.line "", .line "hi", .interrupted, .closed] := by
    decide +kernel
  have hnone : (attended.run 9 default).map
      (fun x => x.2.journal.raised attended.pipeline.stageNames) = some [] := by decide +kernel
  obtain ⟨-, -, first, rest, r, s', hfirst, hrun, hprompt, hcapture⟩ :=
    terminal_heard_first_in_first_out hs (by decide) default
  obtain ⟨rfl, rfl⟩ := List.cons.inj (hcoming.symm.trans hfirst)
  have h := hrun 9 (by decide +kernel)
  rw [h] at hnone
  obtain ⟨ignored, last, unread, hsplit, hi, hq, hquit, hears, hoperator⟩ :=
    hcapture [] ⟨48000, 32, 2⟩ rfl ((hprompt rfl).2.2 (by decide)) rfl rfl (Option.some.inj hnone)
  refine ⟨r, s', h, hquit, ignored, last, unread, hsplit, hi, hq, ?_⟩
  rw [hoperator]
  exact hears.unread

end Session
end AirLoop
