import Mathlib.Data.List.Chain
import AirLoop.Proofs.Session.Outcome

/-!
# What the operator is told

A journal of a session tells its operator where the session is. Each change of state is logged as
what it is and is one that may be (`Trace`), so that no state comes twice. What is told besides the
levels is decided by the answers that decide the way of the session, and by what its run comes to
(`run_told_eq_traceDue`).
-/

namespace AirLoop

namespace SessionState

/-- Place of a state on the way of a session. -/
def place : SessionState → Nat
  | idle => 0
  | discovering => 1
  | awaitingOperator => 2
  | capturing => 3
  | stopping => 4
  | stopped => 5

/-- A session only goes forward. -/
theorem place_lt {a b : SessionState} (h : a.canFollow b = true) : a.place < b.place := by
  cases a <;> cases b <;> simp_all [canFollow, place]

end SessionState

/-- A level is shown. -/
def Report.isLevel : Report → Bool
  | .level _ => true
  | _ => false

/-- The state that a report is about. -/
def Report.state? : Report → Option SessionState
  | .state s => some s
  | _ => none

/-- What the operator is told, but for the levels. -/
def Journal.told (j : Journal) : List Report := j.reports.filter (!·.isLevel)

/-- The states that the operator is told of. -/
def Journal.states (j : Journal) : List SessionState := j.told.filterMap Report.state?

/-- Nothing is told, or a level. -/
def Occurrence.untold : Occurrence → Bool
  | .reported r => r.isLevel
  | _ => true

theorem Occurrence.untold_of_ofCapture (o : Occurrence) (h : o.ofCapture = true) :
    o.untold = true := by
  cases o with
  | reported r =>
    cases r with
    | level => rfl
    | _ => cases h
  | _ => rfl

theorem Journal.told_append (a b : Journal) : (a ++ b).told = a.told ++ b.told := by
  simp [told]

theorem Journal.told_cons_of_untold {o : Occurrence} (h : o.untold = true) (j : Journal) :
    Journal.told (o :: j) = j.told := by
  cases o with
  | reported r =>
    have hr : r.isLevel = true := h
    simp [told, reports, hr]
  | _ => rfl

theorem Journal.states_append (a b : Journal) : (a ++ b).states = a.states ++ b.states := by
  rw [states, told_append, List.filterMap_append, states, states]

/-- The state that was told last, or `st` if none was. -/
def Journal.lastState (st : SessionState) (j : Journal) : SessionState := j.states.getLast?.getD st

theorem Journal.lastState_append (st : SessionState) (a b : Journal) :
    (a ++ b).lastState st = b.lastState (a.lastState st) := by
  unfold lastState
  rw [states_append, List.getLast?_append]
  cases b.states.getLast? <;> rfl

/-! ## Traces -/

/-- The line that is logged when a session goes over from one state to another. -/
def transitionLine (st next : SessionState) : LogLine :=
  ⟨.info, s!"Session state: {st.name} -> {next.name}"⟩

/-- From a state on, a journal tells all this and leads to another state. A change of state is logged
before it is told, and may be. -/
inductive Trace : SessionState → Journal → List Report → SessionState → Prop where
  | nil {st : SessionState} : Trace st [] [] st
  | untold {st st' : SessionState} {o : Occurrence} {j : Journal} {rs : List Report} :
      o.untold = true → Trace st j rs st' → Trace st (o :: j) rs st'
  | tell {st st' : SessionState} {r : Report} {j : Journal} {rs : List Report} :
      r.isLevel = false → r.state? = none → Trace st j rs st' →
      Trace st (.reported r :: j) (r :: rs) st'
  | enter {st st' next : SessionState} {j : Journal} {rs : List Report} :
      st.canFollow next = true → Trace next j rs st' →
      Trace st (.logged (transitionLine st next) :: .reported (.state next) :: j)
        (.state next :: rs) st'

/-- After `before`, told from `st` on, a session goes over to a state: the log has just said so, and
the state may follow the one that was told last. -/
def Announced (st : SessionState) (before : Journal) (next : SessionState) : Prop :=
  before.getLast? = some (.logged (transitionLine (before.lastState st) next)) ∧
    (before.lastState st).canFollow next = true

/-- It does not matter what was noted earlier, but for the state that it leads to. -/
theorem Announced.behind {st mid next : SessionState} {earlier before : Journal}
    (hm : earlier.lastState st = mid) (h : Announced mid before next) :
    Announced st (earlier ++ before) next := by
  unfold Announced
  rw [Journal.lastState_append, hm, List.getLast?_append, h.1]
  exact ⟨rfl, h.2⟩

namespace Trace

variable {st st' : SessionState} {j : Journal} {rs : List Report}

theorem append {mid : SessionState} {j' : Journal} {rs' : List Report} (h : Trace st j rs mid)
    (h' : Trace mid j' rs' st') : Trace st (j ++ j') (rs ++ rs') st' := by
  induction h with
  | nil => exact h'
  | untold ho _ ih => exact .untold ho (ih h')
  | tell hl hs _ ih => exact .tell hl hs (ih h')
  | enter hc _ ih => exact .enter hc (ih h')

theorem of_untold (h : ∀ o ∈ j, o.untold = true) : Trace st j [] st := by
  induction j with
  | nil => exact .nil
  | cons o j ih =>
    exact .untold (h o List.mem_cons_self) (ih fun o ho => h o (List.mem_cons_of_mem _ ho))

theorem extended {σ : Type} {p q : Pipeline σ} (h : Trace st p.journal rs st')
    (he : Extends Occurrence.ofCapture p q) : Trace st q.journal rs st' := by
  obtain ⟨more, hj, hm⟩ := he
  have ht := h.append (of_untold fun o ho => o.untold_of_ofCapture (hm o ho))
  rwa [List.append_nil, ← hj] at ht

theorem told_eq (h : Trace st j rs st') : j.told = rs := by
  induction h with
  | nil => rfl
  | untold ho _ ih => exact (Journal.told_cons_of_untold ho _).trans ih
  | tell hl _ _ ih =>
    rw [← ih]
    simp [Journal.told, Journal.reports, hl]
  | enter _ _ ih =>
    rw [← ih]
    simp [Journal.told, Journal.reports, Report.isLevel]

theorem states_eq (h : Trace st j rs st') : j.states = rs.filterMap Report.state? := by
  rw [Journal.states, h.told_eq]

/-- **Every change of state may be.** -/
theorem isChain (h : Trace st j rs st') :
    (st :: rs.filterMap Report.state?).IsChain (fun a b => a.canFollow b = true) := by
  induction h with
  | nil => exact .singleton _
  | untold _ _ ih => exact ih
  | tell _ hs _ ih => rwa [List.filterMap_cons_none hs]
  | enter hc _ ih => exact .cons_cons hc ih

/-- No state comes twice. -/
theorem nodup (h : Trace st j rs st') : (st :: rs.filterMap Report.state?).Nodup := by
  have hlt : (st :: rs.filterMap Report.state?).IsChain (fun a b => a.place < b.place) :=
    h.isChain.imp fun a b => SessionState.place_lt
  have htrans : IsTrans SessionState (fun a b => a.place < b.place) :=
    ⟨fun _ _ _ => Nat.lt_trans⟩
  refine (List.isChain_iff_pairwise.1 hlt).imp ?_
  rintro a b hab rfl
  exact Nat.lt_irrefl _ hab

/-- A state that is told was gone over to from the one that was told before, as the log says. -/
theorem announced (h : Trace st j rs st') {before after : Journal} {next : SessionState}
    (hj : j = before ++ .reported (.state next) :: after) : Announced st before next := by
  induction h generalizing before with
  | nil => simp at hj
  | @untold st _ o _ _ ho _ ih =>
    cases before with
    | nil =>
      obtain ⟨rfl, -⟩ := List.cons.inj hj
      cases ho
    | cons o' before =>
      obtain ⟨rfl, htail⟩ := List.cons.inj hj
      have hm : Journal.lastState st [o] = st := by
        rw [Journal.lastState, Journal.states, Journal.told_cons_of_untold ho]
        rfl
      exact .behind hm (ih htail)
  | @tell st _ r _ _ hl hs _ ih =>
    cases before with
    | nil =>
      obtain ⟨hr, -⟩ := List.cons.inj hj
      cases hr
      cases hs
    | cons o' before =>
      obtain ⟨rfl, htail⟩ := List.cons.inj hj
      have hm : Journal.lastState st [.reported r] = st := by
        simp [Journal.lastState, Journal.states, Journal.told, Journal.reports, hl, hs]
      exact .behind hm (ih htail)
  | @enter st _ next' _ _ hc _ ih =>
    match before with
    | [] =>
      obtain ⟨hr, -⟩ := List.cons.inj hj
      cases hr
    | [o'] =>
      obtain ⟨ho, htail⟩ := List.cons.inj hj
      obtain ⟨hr, -⟩ := List.cons.inj htail
      cases ho
      cases hr
      exact ⟨rfl, hc⟩
    | o' :: o'' :: before =>
      obtain ⟨ho, htail⟩ := List.cons.inj hj
      obtain ⟨hr, hrest⟩ := List.cons.inj htail
      cases ho
      cases hr
      have hm : Journal.lastState st
          [.logged (transitionLine st next'), .reported (.state next')] = next' := rfl
      exact .behind hm (ih hrest)

end Trace

namespace Session

variable {σ ι : Type}

/-- So far a session has told all this, and it is in the state that it told last. -/
def Tells (s : Session σ ι) (rs : List Report) : Prop := Trace .idle s.journal rs s.state

namespace Tells

variable {s : Session σ ι} {rs : List Report}

theorem enter (h : s.Tells rs) (next : SessionState) (hc : s.state.canFollow next = true) :
    (s.enter next).Tells (rs ++ [.state next]) := by
  have he : Trace s.state (s.entering next) [.state next] next := .enter hc .nil
  rw [Tells, enter_eq]
  exact h.append he

theorem report (h : s.Tells rs) {r : Report} (hl : r.isLevel = false) (hs : r.state? = none) :
    (s.report r).Tells (rs ++ [r]) :=
  Trace.append h (.tell hl hs .nil)

theorem log (h : s.Tells rs) (level : LogLevel) (text : String) : (s.log level text).Tells rs :=
  Trace.extended h (.note s.pipeline rfl)

end Tells

/-! ## The end of a run -/

theorem tells_teardown [CaptureSource σ] {sd : Session σ ι} {rs : List Report} (h : sd.Tells rs)
    (hc : sd.state.canFollow .stopping = true) :
    sd.teardown.Tells (rs ++ [.state .stopping, .state .stopped]) := by
  have hclean {s : Session σ ι} {rs : List Report} (what : String)
      {call : Pipeline σ → Except Fault Unit × Pipeline σ} (hcall : ∀ p, Ticks p (call p).2)
      (h : s.Tells rs) : (s.cleanUp what call).Tells rs ∧ (s.cleanUp what call).state = s.state := by
    have hstate : (s.cleanUp what call).state = s.state := by
      unfold cleanUp
      dsimp only
      split <;> rfl
    refine ⟨?_, hstate⟩
    rw [Tells, hstate]
    exact Trace.extended h (extends_cleanUp s what hcall)
  obtain ⟨hstop, hs⟩ := hclean "Failed to stop capture" (fun p => p.stop_ticks) (h.enter .stopping hc)
  obtain ⟨hclose, hs'⟩ := hclean "Failed to close capture device" (fun p => p.close_ticks) hstop
  have hend := hclose.enter .stopped (by rw [hs', hs]; rfl)
  rw [List.append_assoc] at hend
  exact hend

theorem tells_conclude {s : Session σ ι} {rs : List Report} (h : s.Tells rs)
    (stamp : SessionStamp) (fs : Findings) (r₀ : Except Fault Outcome) :
    (s.conclude stamp fs r₀).2.state = s.state ∧
      (s.conclude stamp fs r₀).2.Tells (rs ++
        match (s.conclude stamp fs r₀).1 with
        | .ok _ => []
        | .error f => [.error f]) := by
  cases r₀ with
  | ok outcome =>
    refine ⟨rfl, ?_⟩
    have hl := h.log .info s!"Session {Summary.idText stamp.id} ended: {outcome.describe}"
    rw [← List.append_nil rs] at hl
    exact hl
  | error f =>
    refine ⟨rfl, ?_⟩
    have hl := h.log .error s!"Session {Summary.idText stamp.id} failed: {f.message}"
    exact hl.report (r := .error f) rfl rfl

/-! ## What is to be told -/

/-- What is told while receivers are looked for. -/
def discoveryDue (s : Session σ ι) : List Report :=
  [.state .discovering, .discoveryStarted s.config.serviceType] ++
    match s.found with
    | .error _ => []
    | .ok devices => [.devicesFound devices]

/-- What is told when the operator is to decide. -/
def gateDue (s : Session σ ι) : List Report :=
  match s.found with
  | .error _ => []
  | .ok devices => .state .awaitingOperator :: if devices = [] then [.acknowledgementRequired] else []

/-- What is told once the source delivers. -/
def captureDue [CaptureSource σ] [Operator ι] (s : Session σ ι) : List Report :=
  if s.passes then
    match s.opening.result, s.starting.result with
    | .ok format, .ok () =>
      [.state .capturing, .captureStarted format (CaptureSource.deviceName s.opening.source)]
    | _, _ => []
  else []

/-- All that is told in the course of a run, but for the levels. -/
def traceDue [CaptureSource σ] [Operator ι] (s : Session σ ι) (r : Except Fault Summary) :
    List Report :=
  s.discoveryDue ++ s.gateDue ++ s.captureDue ++ [.state .stopping, .state .stopped] ++
    match r with
    | .ok _ => []
    | .error f => [.error f]

theorem trace_preface {s : Session σ ι} (hs : s.Fresh) :
    Trace .idle s.preface s.discoveryDue .discovering := by
  have hlog : Trace .discovering
      ((s.directory s.config.serviceType s.config.discoveryTimeout).log.map .logged) []
      .discovering := .of_untold (List.forall_mem_map.2 fun _ _ => rfl)
  have hhead : Trace .idle (s.entering .discovering ++
      [.reported (.discoveryStarted s.config.serviceType),
        .queried s.config.serviceType s.config.discoveryTimeout])
      [.state .discovering, .discoveryStarted s.config.serviceType] .discovering := by
    rw [← hs.state]
    exact .enter (by rw [hs.state]; rfl) (.tell rfl rfl (.untold rfl .nil))
  have hstart := hhead.append hlog
  rw [List.append_nil] at hstart
  unfold preface discoveryDue
  refine hstart.append ?_
  cases s.found with
  | error f => exact .nil
  | ok devices => exact .untold rfl (.tell rfl rfl .nil)

theorem tells_lookedUp {s : Session σ ι} (hs : s.Fresh) : s.lookedUp.Tells s.discoveryDue := by
  change Trace .idle (s.pipeline.journal ++ s.preface) _ _
  rw [hs.journal, List.nil_append]
  exact trace_preface hs

variable [Operator ι] {s : Session σ ι} {devices : List Receiver}

theorem trace_gateNotes (hf : s.found = .ok devices) :
    Trace .discovering (s.lookedUp.gateNotes devices) s.gateDue .awaitingOperator := by
  have he : Trace .discovering (s.lookedUp.entering .awaitingOperator) [.state .awaitingOperator]
      .awaitingOperator := .enter rfl .nil
  have hg : s.gateDue = [.state .awaitingOperator] ++
      if devices = [] then [.acknowledgementRequired] else [] := by
    rw [gateDue, hf]
    rfl
  rw [hg, gateNotes]
  refine he.append ?_
  by_cases hd : devices = []
  · rw [if_pos hd, if_pos hd]
    refine .tell rfl rfl (.untold (o := .acknowledged) rfl (.of_untold ?_))
    exact List.forall_mem_map.2 fun _ _ => rfl
  · rw [if_neg hd, if_neg hd]
    exact .nil

theorem tells_admitted (hs : s.Fresh) (hf : s.found = .ok devices) :
    (s.admitted devices).Tells (s.discoveryDue ++ s.gateDue) := by
  change Trace .idle (s.pipeline.journal ++ (s.preface ++ s.lookedUp.gateNotes devices)) _ _
  rw [hs.journal, List.nil_append]
  exact (trace_preface hs).append (trace_gateNotes hf)

variable [CaptureSource σ]

theorem tells_opened (hs : s.Fresh) (hf : s.found = .ok devices) :
    (s.opened devices).Tells (s.discoveryDue ++ s.gateDue) :=
  Trace.extended (tells_admitted hs hf) (Pipeline.openDevice_ticks _).extends

theorem tells_started (hs : s.Fresh) (hf : s.found = .ok devices) :
    (s.started devices).Tells (s.discoveryDue ++ s.gateDue) :=
  Trace.extended (tells_opened hs hf) (Pipeline.start_ticks _).extends

theorem tells_begun (hs : s.Fresh) (hf : s.found = .ok devices) {format : AudioFormat}
    (ho : s.opening.result = .ok format) :
    (s.begun devices format).Tells (s.discoveryDue ++ s.gateDue ++
      [.state .capturing, .captureStarted format (CaptureSource.deviceName s.opening.source)]) := by
  have he := (tells_started hs hf).enter .capturing rfl
  have hr := he.report
    (r := .captureStarted format (s.opened devices).pipeline.deviceName) rfl rfl
  rw [deviceName_opened hs devices ho, List.append_assoc] at hr
  rw [begun, deviceName_opened hs devices ho]
  exact hr

/-- While it watches, a session tells nothing but levels. -/
theorem Watched.tells {sd : Session σ ι} {n : Nat} {r : Except Fault Outcome} {rs : List Report}
    (h : Watched s n r sd) (ht : s.Tells rs) : sd.Tells rs ∧ sd.state = s.state := by
  have hpoll {s : Session σ ι} (ht : s.Tells rs) : s.poll.2.Tells rs ∧ s.poll.2.state = s.state := by
    obtain ⟨more, hj, hm⟩ := journal_poll s
    have hstate : s.poll.2.state = s.state := by rw [poll_eq]
    refine ⟨?_, hstate⟩
    have hmore := Trace.append ht
      (.untold (o := .polled s.config.pollInterval) rfl
        (.of_untold fun o ho => o.untold_of_ofCapture (hm o ho)))
    rwa [List.append_nil, ← hj, ← hstate] at hmore
  induction h with
  | fault => exact ⟨ht, rfl⟩
  | quit => exact hpoll ht
  | again _ _ _ ih =>
    obtain ⟨hp, hs⟩ := hpoll ht
    obtain ⟨hw, hsd⟩ := ih hp
    exact ⟨hw, hsd.trans hs⟩

/-- Whichever way a session goes, it tells what is due, and it may stop then. -/
theorem Course.tells {polls : Nat} {r : Except Fault Outcome} {fs : Findings} {sd : Session σ ι}
    (hs : s.Fresh) (h : Course polls s r fs sd) :
    sd.Tells (s.discoveryDue ++ s.gateDue ++ s.captureDue) ∧ sd.state.canFollow .stopping = true := by
  cases h with
  | undiscovered hf =>
    have hg : s.gateDue = [] := by rw [gateDue, hf]
    have hc : s.captureDue = [] := by rw [captureDue, passes_of_error hf]; rfl
    rw [hg, hc, List.append_nil, List.append_nil]
    exact ⟨tells_lookedUp hs, rfl⟩
  | aborted hf hp =>
    have hc : s.captureDue = [] := by rw [captureDue, hp]; rfl
    rw [hc, List.append_nil]
    exact ⟨tells_admitted hs hf, rfl⟩
  | unopened hf hp ho =>
    have hc : s.captureDue = [] := by rw [captureDue, if_pos hp, ho]
    rw [hc, List.append_nil]
    exact ⟨tells_opened hs hf, rfl⟩
  | unstarted hf hp ho ht =>
    have hc : s.captureDue = [] := by rw [captureDue, if_pos hp, ho, ht]
    rw [hc, List.append_nil]
    exact ⟨tells_started hs hf, rfl⟩
  | @watched devices format _ _ hf hp ho ht hw =>
    have hc : s.captureDue = [.state .capturing,
        .captureStarted format (CaptureSource.deviceName s.opening.source)] := by
      rw [captureDue, if_pos hp, ho, ht]
    obtain ⟨n, hn⟩ := watched_of_watch hw
    obtain ⟨htells, hstate⟩ := hn.tells (tells_begun hs hf ho)
    rw [hc, hstate]
    exact ⟨htells, rfl⟩

/-! ## Runs -/

/-- **What a run tells its operator**, whatever the directory, the source and the operator answer.
The reports but for the levels are the ones that are due; each state may follow the one before, as
the log says, and none comes twice. The last one is the end: a session in that state refuses to run
and does nothing. -/
theorem run_told_eq_traceDue {config : Configuration} {directory : Directory} {source : σ}
    {operator : ι} {stages : List Stage} {polls : Nat} {stamp : SessionStamp} {s s' : Session σ ι}
    {r : Except Fault Summary} (hs : prepare config directory source operator stages = .ok s)
    (h : s.run polls stamp = some (r, s')) :
    s'.journal.told = s.traceDue r ∧
      (.idle :: s'.journal.states).IsChain (fun a b => a.canFollow b = true) ∧
      (.idle :: s'.journal.states).Nodup ∧
      (∀ (before after : Journal) next, s'.journal = before ++ .reported (.state next) :: after →
        Announced .idle before next) ∧
      s'.state = .stopped ∧
      ∀ (t : Session σ ι), t.state = s'.state → ∀ polls stamp,
        t.run polls stamp =
          some (.error (.invalidConfiguration "a controller runs exactly one session"), t) := by
  have hf := fresh_of_prepare hs
  obtain ⟨r₀, fs, sd, hd, hc⟩ := run_eq hf h
  obtain ⟨hcourse, hstop⟩ := (drive_course hf hd).tells hf
  obtain ⟨hstate, hend⟩ := tells_conclude (tells_teardown hcourse hstop) stamp fs r₀
  rw [hc] at hstate hend
  have hstopped : s'.state = .stopped := hstate
  have ht : Trace .idle s'.journal (s.traceDue r) s'.state := hend
  refine ⟨ht.told_eq, ?_, ?_, ?_, hstopped, ?_⟩
  · rw [ht.states_eq]
    exact ht.isChain
  · rw [ht.states_eq]
    exact ht.nodup
  · intro before after next hj
    exact ht.announced hj
  · intro t hstate polls stamp
    have hn : t.state ≠ .idle := by
      rw [hstate, hstopped]
      decide
    rw [run, if_pos hn]

theorem run_told_fault_while_capturing :
    ∃ s', interrupted.run 3 default = some (.error (.captureFault "device lost"), s') ∧
      s'.journal.told =
        [.state .discovering, .discoveryStarted "_raop._tcp.local.", .devicesFound [],
          .state .awaitingOperator, .acknowledgementRequired, .state .capturing,
          .captureStarted ⟨48000, 32, 2⟩ none, .state .stopping, .state .stopped,
          .error (.captureFault "device lost")] ∧
      s'.run 3 default =
        some (.error (.invalidConfiguration "a controller runs exactly one session"), s') := by
  obtain ⟨⟨r, s'⟩, h⟩ :=
    Option.isSome_iff_exists.1 (show (interrupted.run 3 default).isSome = true by rfl)
  have hs : prepare interrupted.config interrupted.directory interrupted.pipeline.source
      interrupted.operator [] = .ok interrupted := rfl
  obtain rfl : r = .error (.captureFault "device lost") := by
    cases h
    rfl
  obtain ⟨htold, -, -, -, -, hagain⟩ := run_told_eq_traceDue hs h
  exact ⟨s', h, htold, hagain s' rfl 3 default⟩

end Session

end AirLoop
