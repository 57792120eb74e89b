import AirLoop.Proofs.Capture.Silence
import AirLoop.Proofs.Console.Layout
import AirLoop.Proofs.Session.Candor
import AirLoop.Program

/-!
# The console after a session

When a session is over, the last thing that its console wrote is a status line: the end of a capture,
or the fault that it ended with, or, if it was aborted, one of the lines before (`closes_of_run`). So
what is printed next starts on a line of its own, and the end of a capture was told once if there was
one (`run_leaves_console_at_lineStart`).
-/

namespace AirLoop

/-! ## The line for the end -/

namespace Console

theorem ne_stoppedLine {line : String} {c : Char} (h : line.toList.head? = some c) (hc : c ≠ 'C') :
    stoppedLine ≠ line := by
  rintro rfl
  exact hc (Option.some.inj h.symm)

theorem stoppedLine_not_mem_deviceLines (devices : List Receiver) :
    stoppedLine ∉ deviceLines devices := by
  unfold deviceLines
  split
  · decide
  · rw [List.mem_cons, List.mem_map, not_or]
    refine ⟨ne_stoppedLine (c := 'F') (by simp [toString]) (by decide), ?_⟩
    rintro ⟨d, -, hd⟩
    exact ne_stoppedLine (c := ' ') (by simp) (by decide) hd.symm

theorem stoppedLine_ne_sourceLine (format : AudioFormat) (name : Option String) :
    stoppedLine ≠ sourceLine format name := by
  cases name <;> exact ne_stoppedLine (c := 'S') (by simp [sourceLine, toString]) (by decide)

/-- Only the end of a session is told with the line for it. -/
theorem eq_stopped_of_mem_calledFor {captured : Bool} {r : Report}
    (h : .status stoppedLine ∈ calledFor captured r) : r = .state .stopped := by
  cases r with
  | level reading => cases List.mem_singleton.1 h
  | state s =>
    cases s with
    | stopped => rfl
    | _ => cases h
  | discoveryStarted t =>
    refine absurd (Piece.status.inj (List.mem_singleton.1 h)) ?_
    exact ne_stoppedLine (c := '1') (by simp [toString]) (by decide)
  | devicesFound devices =>
    obtain ⟨line, hline, hl⟩ := List.mem_map.1 h
    obtain rfl := Piece.status.inj hl
    exact absurd hline (stoppedLine_not_mem_deviceLines devices)
  | acknowledgementRequired =>
    exact absurd (Piece.status.inj (List.mem_singleton.1 h)) (by decide)
  | captureStarted format name =>
    obtain ⟨line, hline, hl⟩ := List.mem_map.1 h
    obtain rfl := Piece.status.inj hl
    have hsource := stoppedLine_ne_sourceLine format name
    simp only [statusLines, List.mem_cons, hsource, List.not_mem_nil, or_false, false_or] at hline
    rcases hline with h | h | h | h <;> exact absurd h (by decide)
  | error f =>
    refine absurd (Piece.status.inj (List.mem_singleton.1 h)) ?_
    exact ne_stoppedLine (c := 'E') (by simp) (by decide)

end Console

/-! ## What reaches a console -/

theorem filter_of_no_levels {rs : List Report} (h : ∀ r ∈ rs, r.isLevel = false) :
    rs.filter (!·.isLevel) = rs := by
  refine List.filter_eq_self.2 ?_
  intro r hr
  rw [h r hr]
  rfl

/-- What reaches a console of some reports. While it prints, a level is left out. -/
structure Reaches (shown rs : List Report) : Prop where
  sublist : shown.Sublist rs
  told : shown.filter (!·.isLevel) = rs.filter (!·.isLevel)

namespace Reaches

theorem refl (rs : List Report) : Reaches rs rs := ⟨.refl rs, rfl⟩

variable {shown rs ending : List Report}

/-- What comes after the levels reaches the console as it is. -/
theorem append (h : Reaches shown (rs ++ ending)) (he : ∀ r ∈ ending, r.isLevel = false) :
    ∃ front, shown = front ++ ending ∧ Reaches front rs := by
  obtain ⟨front, back, rfl, hfront, hback⟩ := List.sublist_append_iff.1 h.sublist
  have htold := h.told
  rw [List.filter_append, List.filter_append, filter_of_no_levels he,
    filter_of_no_levels fun r hr => he r (hback.subset hr)] at htold
  -- neither part can have lost anything, since together they have not
  have hlength := congrArg List.length htold
  rw [List.length_append, List.length_append] at hlength
  have hle := (hfront.filter (!·.isLevel)).length_le
  have hle' := hback.length_le
  obtain rfl : back = ending := hback.eq_of_length (by omega)
  exact ⟨front, rfl, hfront, List.append_cancel_right htold⟩

theorem mem_iff (h : Reaches shown rs) {r : Report} (hr : r.isLevel = false) :
    r ∈ shown ↔ r ∈ rs := by
  have hmem : ∀ rs : List Report, r ∈ rs ↔ r ∈ rs.filter (!·.isLevel) := by
    intro rs
    simp [List.mem_filter, hr]
  rw [hmem shown, hmem rs, h.told]

end Reaches

namespace Session

variable {σ ι : Type}

/-! ## The reports at the end of a run -/

/-- What is told at the end of a run. -/
def ending (r : Except Fault Summary) : List Report :=
  [.state .stopping, .state .stopped] ++
    match r with
    | .ok _ => []
    | .error f => [.error f]

theorem isLevel_ending (r : Except Fault Summary) : ∀ x ∈ ending r, x.isLevel = false := by
  cases r <;> simp [ending, Report.isLevel]

theorem reports_log (s : Session σ ι) (level : LogLevel) (text : String) :
    (s.log level text).journal.reports = s.journal.reports :=
  (Journal.reports_append ..).trans (List.append_nil _)

theorem reports_report (s : Session σ ι) (r : Report) :
    (s.report r).journal.reports = s.journal.reports ++ [r] :=
  Journal.reports_append ..

theorem reports_enter (s : Session σ ι) (next : SessionState) :
    (s.enter next).journal.reports = s.journal.reports ++ [.state next] := by
  unfold enter
  rw [reports_report]
  exact congrArg (· ++ _) (reports_log ..)

/-- Nothing comes through to the meter while a session cleans up. -/
theorem reports_cleanUp (s : Session σ ι) (what : String)
    {call : Pipeline σ → Except Fault Unit × Pipeline σ}
    (hc : Muted s.pipeline (call s.pipeline).2) :
    (s.cleanUp what call).journal.reports = s.journal.reports := by
  unfold cleanUp
  dsimp only
  split
  · exact hc.reports
  · exact (hc.trans (.log ..)).reports

theorem reports_conclude (s : Session σ ι) (stamp : SessionStamp) (fs : Findings)
    (r₀ : Except Fault Outcome) :
    (s.conclude stamp fs r₀).2.journal.reports =
      s.journal.reports ++
        match (s.conclude stamp fs r₀).1 with
        | .ok _ => []
        | .error f => [.error f] := by
  cases r₀ with
  | ok outcome => exact (reports_log s ..).trans (List.append_nil _).symm
  | error f =>
    refine (reports_report (s.log ..) _).trans ?_
    rw [reports_log]
    rfl

variable [CaptureSource σ]

theorem reports_teardown (s : Session σ ι) :
    s.teardown.journal.reports = s.journal.reports ++ [.state .stopping, .state .stopped] := by
  unfold teardown
  dsimp only
  rw [reports_enter, reports_cleanUp _ _ (Pipeline.close_muted _),
    reports_cleanUp _ _ (Pipeline.stop_muted _), reports_enter, List.append_assoc]
  rfl

variable [Operator ι] {s s' : Session σ ι} {polls : Nat} {stamp : SessionStamp}
  {r : Except Fault Summary}

/-- **A run ends with the reports on its end**: no level comes between them or later. -/
theorem reports_of_run (hs : s.Fresh) (h : s.run polls stamp = some (r, s')) :
    ∃ r₀ fs sd, Course polls s r₀ fs sd ∧ Concluded r₀ r ∧
      s'.journal.reports = sd.journal.reports ++ ending r := by
  obtain ⟨r₀, fs, sd, hd, hc⟩ := run_eq hs h
  have hr := concluded sd.teardown stamp fs r₀
  have hreports := reports_conclude sd.teardown stamp fs r₀
  rw [hc] at hr hreports
  rw [reports_teardown, List.append_assoc] at hreports
  exact ⟨r₀, fs, sd, drive_course hs hd, hr, hreports⟩

/-- What reaches a console of a run ends with the reports on its end, and begins with what was due
before. -/
theorem front_of_run (hs : s.Fresh) (h : s.run polls stamp = some (r, s')) {shown : List Report}
    (hshown : Reaches shown s'.journal.reports) :
    ∃ r₀ fs sd front, Course polls s r₀ fs sd ∧ Concluded r₀ r ∧ shown = front ++ ending r ∧
      Reaches front sd.journal.reports ∧
      front.filter (!·.isLevel) = s.discoveryDue ++ s.gateDue ++ s.captureDue := by
  obtain ⟨r₀, fs, sd, hcourse, hr, hreports⟩ := reports_of_run hs h
  rw [hreports] at hshown
  obtain ⟨front, hfront, hreaches⟩ := hshown.append (isLevel_ending r)
  exact ⟨r₀, fs, sd, front, hcourse, hr, hfront, hreaches,
    hreaches.told.trans (hcourse.tells hs).1.told_eq⟩

/-- That a session is over is not told before its end. -/
theorem stopped_not_due (s : Session σ ι) :
    .state .stopped ∉ s.discoveryDue ++ s.gateDue ++ s.captureDue := by
  have hd : .state .stopped ∉ s.discoveryDue := by
    unfold discoveryDue
    cases s.found <;> simp
  have hg : .state .stopped ∉ s.gateDue := by
    unfold gateDue
    cases s.found with
    | error f => simp
    | ok devices => by_cases h : devices = [] <;> simp [h]
  have hc : .state .stopped ∉ s.captureDue := by
    unfold captureDue
    cases s.passes with
    | false => simp
    | true => cases s.opening.result <;> cases s.starting.result <;> simp
  simp [hd, hg, hc]

theorem capturing_not_ending (r : Except Fault Summary) : .state .capturing ∉ ending r := by
  cases r <;> simp [ending]

/-- What the end of a run calls for. -/
theorem calledFor_ending (captured : Bool) (r : Except Fault Summary) :
    Console.allCalledFor captured (ending r) =
      (if captured then [.status Console.stoppedLine] else []) ++
        match r with
        | .ok _ => []
        | .error f => [.status ("Error: " ++ f.message)] := by
  cases captured <;> cases r <;> rfl

/-- An aborted session has told all that was due, and no levels. -/
theorem front_of_aborted (hs : s.Fresh) {front : List Report}
    (hfront : Reaches front (s.admitted []).journal.reports) (hf : s.found = .ok [])
    (hp : s.passes = false)
    (htold : front.filter (!·.isLevel) = s.discoveryDue ++ s.gateDue ++ s.captureDue) :
    front = [.state .discovering, .discoveryStarted s.config.serviceType, .devicesFound [],
      .state .awaitingOperator, .acknowledgementRequired] := by
  have hnone : ∀ x ∈ front, x.isLevel = false := by
    intro x hx
    have hmem := hfront.sublist.subset hx
    obtain ⟨o, ho, hox⟩ := List.mem_filterMap.1 hmem
    have ho : o ∈ s.preface ++ s.lookedUp.gateNotes [] := by
      have hj : (s.admitted []).journal = s.preface ++ s.lookedUp.gateNotes [] := by
        change s.pipeline.journal ++ (s.preface ++ s.lookedUp.gateNotes []) = _
        rw [hs.journal, List.nil_append]
      exact hj ▸ ho
    have ha := aside_approach s [] o ho
    cases o with
    | reported y =>
      cases hox
      cases x with
      | level reading => cases ha
      | _ => rfl
    | _ => cases hox
  rw [← filter_of_no_levels hnone, htold]
  simp [discoveryDue, gateDue, captureDue, hf, hp]

/-- **The last thing that a run calls for is a status line.** -/
theorem closes_of_run (hs : s.Fresh) (h : s.run polls stamp = some (r, s')) {shown : List Report}
    (hshown : Reaches shown s'.journal.reports) :
    ∃ line, (Console.allCalledFor false shown).getLast? = some (.status line) := by
  obtain ⟨r₀, fs, sd, front, hcourse, hr, rfl, hreaches, htold⟩ := front_of_run hs h hshown
  rw [Console.allCalledFor_append, calledFor_ending, Bool.false_or]
  cases r with
  | error f => exact ⟨"Error: " ++ f.message, by simp⟩
  | ok summary =>
    by_cases hcaptured : .state .capturing ∈ front
    · exact ⟨Console.stoppedLine, by simp [hcaptured]⟩
    · cases hcourse with
      | undiscovered | unopened | unstarted => cases hr
      | aborted hf hp =>
        obtain rfl := front_of_aborted hs hreaches hf hp htold
        exact ⟨_, rfl⟩
      | watched hf hp ho ht hw =>
        refine absurd (List.mem_of_mem_filter (p := (!·.isLevel)) ?_) hcaptured
        rw [htold, captureDue, if_pos hp, ho, ht]
        simp

/-- **The end of a capture is told once**, and if there was none, not at all. -/
theorem count_stoppedLine (hs : s.Fresh) (h : s.run polls stamp = some (r, s'))
    {shown : List Report} (hshown : Reaches shown s'.journal.reports) :
    (Console.layout shown).count (.status Console.stoppedLine) =
      if .capturing ∈ s'.journal.states then 1 else 0 := by
  have hcapturing : .state .capturing ∈ shown ↔ .capturing ∈ s'.journal.states := by
    rw [hshown.mem_iff rfl, Journal.states, mem_filterMap_state]
    simp [Journal.told, Report.isLevel]
  obtain ⟨r₀, fs, sd, front, -, -, rfl, -, htold⟩ := front_of_run hs h hshown
  have hbefore : (Console.allCalledFor false front).count (.status Console.stoppedLine) = 0 := by
    refine List.count_eq_zero.2 fun hmem => ?_
    obtain ⟨x, hx, captured, hp⟩ := Console.mem_allCalledFor hmem
    obtain rfl := Console.eq_stopped_of_mem_calledFor hp
    refine stopped_not_due s ?_
    rw [← htold]
    exact List.mem_filter.2 ⟨hx, rfl⟩
  have hend : ∀ captured : Bool, (Console.allCalledFor captured (ending r)).count
      (.status Console.stoppedLine) = if captured then 1 else 0 := by
    intro captured
    have herror : ∀ f : Fault,
        Piece.status ("Error: " ++ f.message) ≠ .status Console.stoppedLine := by
      intro f he
      exact Console.ne_stoppedLine (c := 'E') (by simp) (by decide) (Piece.status.inj he).symm
    rw [calledFor_ending]
    cases captured <;> cases r <;> simp [herror]
  have hfront : .state .capturing ∈ front ↔ .capturing ∈ s'.journal.states := by
    rw [← hcapturing, List.mem_append, or_iff_left (capturing_not_ending r)]
  have hcount : (Console.layout (front ++ ending r)).count (.status Console.stoppedLine) =
      (Console.allCalledFor false (front ++ ending r)).count (.status Console.stoppedLine) := by
    rw [← Console.filter_separated false Console.ne_lineEnd_of_calledFor, Console.layout,
      List.count_filter (by decide)]
  rw [hcount, Console.allCalledFor_append, List.count_append, hbefore, hend, Nat.zero_add]
  simp [hfront]

/-- **How every run leaves the console.** Whatever levels the console leaves out while it prints, the
cursor is at the start of a line in the end and behind no meter, and the end of a capture was told
once if there was one, and else not at all. So the summary that the program prints starts on a line
of its own. -/
theorem run_leaves_console_at_lineStart {config : Configuration} {directory : Directory} {source : σ}
    {operator : ι} {stages : List Stage}
    (hs : prepare config directory source operator stages = .ok s)
    (h : s.run polls stamp = some (r, s')) :
    (∀ width shown, Reaches shown s'.journal.reports →
      (({ width } : Console).reportAll shown).1.meterActive = false ∧
        (({ width } : Console).reportAll shown).2.toList.getLast? = some '\n' ∧
        (({ width } : Console).reportAll shown).2 = typeset width (Console.layout shown) ∧
        (Console.layout shown).count (.status Console.stoppedLine) =
          if .capturing ∈ s'.journal.states then 1 else 0) ∧
      ∀ l : CommandLine, ∃ text,
        (Program.sessionCompletion l r s').output = text ++ Program.summaryText l.summaryJson s' ∧
          text.toList.getLast? = some '\n' := by
  have hfresh := fresh_of_prepare hs
  have hcloses : ∀ width shown, Reaches shown s'.journal.reports →
      (({ width } : Console).reportAll shown).1.meterActive = false ∧
        (({ width } : Console).reportAll shown).2.toList.getLast? = some '\n' := by
    intro width shown hshown
    obtain ⟨line, hline⟩ := closes_of_run hfresh h hshown
    exact Console.closes_of_last width hline
  constructor
  · intro width shown hshown
    obtain ⟨hactive, hlast⟩ := hcloses width shown hshown
    exact ⟨hactive, hlast, Console.written_eq_layout width shown, count_stoppedLine hfresh h hshown⟩
  · intro l
    refine ⟨Program.banner ++ Program.screen s', rfl, ?_⟩
    obtain ⟨-, hlast⟩ := hcloses s'.config.meterWidth _ (.refl _)
    have hscreen : (Program.screen s').toList.getLast? = some '\n' := hlast
    rw [String.toList_append, List.getLast?_append, hscreen, Option.some_or]

/-- A session whose source sends a buffer while it is started, and then fails to start. -/
def unstartable : Session Rehearsal ScriptedOperator where
  config := {}
  directory := fun _ _ => { answer := .ok [] }
  operator := {}
  pipeline :=
    { source :=
        { startFault := some (.captureFault "device lost")
          startBuffers := [.full [0, 0, 0, 0x3f]] }
      stations := [{ stage := .meter true }] }

theorem failed_start_leaves_console_at_lineStart :
    ∃ s', unstartable.run 1 default = some (.error (.captureFault "device lost"), s') ∧
      s'.journal.reports.any (·.isLevel) = true ∧
      (({ width := 40 } : Console).reportAll s'.journal.reports).1.meterActive = false ∧
      (Console.layout s'.journal.reports).count (.status Console.stoppedLine) = 0 := by
  obtain ⟨⟨r, s'⟩, h⟩ :=
    Option.isSome_iff_exists.1 (show (unstartable.run 1 default).isSome = true by rfl)
  have hs : prepare unstartable.config unstartable.directory unstartable.pipeline.source
      unstartable.operator [] = .ok unstartable := rfl
  have hr : r = .error (.captureFault "device lost") ∧
      s'.journal.reports.any (·.isLevel) = true ∧
      .capturing ∉ s'.journal.states := by
    cases h
    exact ⟨rfl, rfl, by decide +kernel⟩
  obtain ⟨rfl, hlevels, hstates⟩ := hr
  obtain ⟨hclosing, -⟩ := run_leaves_console_at_lineStart hs h
  obtain ⟨hactive, -, -, hcount⟩ := hclosing 40 _ (.refl _)
  rw [if_neg hstates] at hcount
  exact ⟨s', h, hlevels, hactive, hcount⟩

end Session

end AirLoop
