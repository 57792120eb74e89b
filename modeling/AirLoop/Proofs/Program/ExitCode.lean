import AirLoop.Capture.Unsupported
import AirLoop.Program
import AirLoop.Proofs.Loopback.Accord
import AirLoop.Proofs.Session.Candor

/-!
# What the exit code tells

The program takes its exit code from the kind of the fault that its session failed with. Both sources
that it comes with are candid (`candid_of_shipped`), and a network that cannot be asked fails with a
fault of the kind that comes before capture, so that the exit code tells how far the session came
(`exitCode_reflects_session`).
-/

namespace AirLoop

/-! ## The network -/

/-- A network fails with faults of the kind that comes before capture. -/
theorem Network.directory_error {n : Network} {serviceType : String} {timeout : Duration} {f : Fault}
    (h : (n.directory serviceType timeout).answer = .error f) : f.isPreCapture = true := by
  unfold directory at h
  dsimp only at h
  unfold discover at h
  dsimp only at h
  split at h
  · cases h
    rfl
  · split at h
    · cases h
      rfl
    · split at h
      · cases h
        rfl
      · cases h

/-! ## The sources -/

namespace LoopbackCapture

/-- The thread reports buffers, and failures of the device as faults of capture. -/
theorem timely_pump (c : LoopbackCapture) : ∀ s ∈ c.pump.1, s.timely = true := by
  unfold pump
  split
  · nofun
  · split
    · nofun
    · dsimp only
      split
      · exact List.forall_mem_map.2 fun _ _ => rfl
      · intro s hs
        rcases List.mem_append.1 hs with hs | hs
        · obtain ⟨b, -, rfl⟩ := List.mem_map.1 hs
          rfl
        · simp only [List.mem_cons, List.not_mem_nil, or_false] at hs
          rcases hs with rfl | rfl <;> rfl
      · exact List.forall_mem_map.2 fun _ _ => rfl

theorem timely_obey (c : LoopbackCapture) (t : CaptureThread) (command : Command) :
    ∀ s ∈ (c.obey t command).1, s.timely = true := by
  cases command with
  | start k =>
    have hp := timely_pump (c.beginDelivery t k).2
    unfold obey
    dsimp only
    split
    · exact List.forall_mem_cons.2 ⟨rfl, hp⟩
    · exact hp
  | stop => nofun
  | close => exact List.forall_mem_singleton.2 rfl

theorem timely_openDevice (c : LoopbackCapture) :
    ∀ s ∈ c.openDevice.signals, s.timely = true := by
  cases h : c.holdsSender with
  | true =>
    rw [openDevice_again h]
    nofun
  | false =>
    rcases openDevice_cases h with ⟨_, _, ho⟩ | ⟨_, _, _, ho⟩ <;> rw [ho]
    · nofun
    · exact List.forall_mem_singleton.2 rfl

theorem timely_start (k : Nat) (c : LoopbackCapture) :
    ∀ s ∈ (c.start k).signals, s.timely = true := by
  unfold start
  split
  · nofun
  · split
    · nofun
    · exact timely_obey { c with delivering := true } _ (.start k)

theorem timely_idle (c : LoopbackCapture) : ∀ s ∈ c.idle.1, s.timely = true := by
  unfold idle
  split <;> exact timely_pump _

/-- A capture is refused for want of a device, and once it is open it can be started. -/
theorem candid_new (device : AudioDevice) : Candid ({ device } : LoopbackCapture) := by
  have ho := openDevice_cases (c := { device }) rfl
  refine ⟨?_, ?_, timely_openDevice, timely_start, timely_idle⟩
  · intro f hf
    change (LoopbackCapture.openDevice { device }).result = _ at hf
    rcases ho with ⟨detail, _, ho⟩ | ⟨_, _, _, ho⟩ <;> rw [ho] at hf <;> cases hf
    rfl
  · intro format f hr hf
    change (LoopbackCapture.openDevice { device }).result = _ at hr
    change (LoopbackCapture.start 0 (LoopbackCapture.openDevice { device }).source).result = _ at hf
    rcases ho with ⟨_, _, ho⟩ | ⟨_, _, _, ho⟩
    · rw [ho] at hr
      cases hr
    · rw [ho] at hf
      cases hf

end LoopbackCapture

/-- A source of which no device can be opened is candid: that is for want of a device. -/
theorem UnsupportedSource.candid (source : UnsupportedSource) : Candid source where
  opening _ h := by
    cases h
    rfl
  starting _ _ h := nomatch h
  duringOpen _ := nofun
  duringStart _ _ := nofun
  meanwhile _ := nofun

/-- The sources that the program comes with: that of a host without a backend, and the loopback
capture of a device that may do anything. -/
inductive Shipped : {σ : Type} → [CaptureSource σ] → σ → Prop where
  | unsupported (source : UnsupportedSource) : Shipped source
  | loopback (device : AudioDevice) : Shipped ({ device } : LoopbackCapture)

theorem candid_of_shipped {σ : Type} [CaptureSource σ] {source : σ} (h : Shipped source) :
    Candid source := by
  cases h with
  | unsupported source => exact source.candid
  | loopback device => exact LoopbackCapture.candid_new device

/-! ## Sessions of the program -/

namespace Session

variable {σ ι : Type}

theorem prepare_nil (config : Configuration) (directory : Directory) (source : σ) (operator : ι) :
    prepare config directory source operator [] = Session.new config directory source operator := by
  unfold prepare
  cases Session.new config directory source operator <;> rfl

theorem new_error {config : Configuration} {p : ConfigurationProblem} (h : config.problem? = some p)
    (directory : Directory) (source : σ) (operator : ι) :
    Session.new config directory source operator = .error (.invalidConfiguration p.message) := by
  unfold Session.new
  rw [h]

/-- A new session has done nothing yet, and asks the directory and the source that it was given. -/
theorem new_ok {config : Configuration} (h : config.problem? = none) (directory : Directory)
    (source : σ) (operator : ι) :
    ∃ s, Session.new config directory source operator = .ok s ∧ s.Fresh ∧
      s.directory = directory ∧ s.pipeline.source = source := by
  have hn : ∃ s, Session.new config directory source operator = .ok s ∧ s.directory = directory ∧
      s.pipeline.source = source := by
    unfold Session.new
    rw [h]
    exact ⟨_, rfl, rfl, rfl⟩
  obtain ⟨s, hs, hd, hsource⟩ := hn
  exact ⟨s, hs, fresh_of_prepare ((prepare_nil ..).trans hs), hd, hsource⟩

end Session

/-! ## Printed summaries -/

/-- A summary stands at the end of the output. -/
def Completion.Prints (c : Completion) (summary : Summary) : Prop :=
  ∃ before, c.output = before ++ (summary.render ++ "\n")

theorem Summary.brace_mem_render (summary : Summary) : '\x7b' ∈ summary.render.toList := by
  simp [render, toJson, Json.renderLines, Json.pretty]

/-- The banner is no summary. -/
theorem Program.brace_not_mem_banner : '\x7b' ∉ Program.banner.toList := by decide

theorem Completion.not_prints_banner {c : Completion} (h : c.output = Program.banner)
    (summary : Summary) : ¬ c.Prints summary := by
  rintro ⟨before, hp⟩
  refine Program.brace_not_mem_banner ?_
  rw [← h, hp, String.toList_append, String.toList_append]
  exact List.mem_append_right _ (List.mem_append_left _ summary.brace_mem_render)

/-! ## Completions -/

namespace Program

variable {σ ι : Type} [CaptureSource σ] [Operator ι]

/-- The session that a command line asks for runs, comes to `r` and is left as `s'`. -/
def Ends (l : CommandLine) (network : Network) (source : σ) (operator : ι) (polls : Nat)
    (stamp : SessionStamp) (r : Except Fault Summary) (s' : Session σ ι) : Prop :=
  ∃ s, Session.new l.configuration network.directory source operator = .ok s ∧
    s.run polls stamp = some (r, s')

/-- A configuration with a problem is the end, whatever network, source and operator there are. -/
theorem runSession_rejected {l : CommandLine} {p : ConfigurationProblem}
    (h : l.configuration.problem? = some p) (network : Network) (source : σ) (operator : ι)
    (polls : Nat) (stamp : SessionStamp) :
    runSession l network source operator polls stamp =
      some
        { exitCode := failureCode
          output := banner
          errors := "Error: invalid session configuration: " ++
            (Fault.invalidConfiguration p.message).message ++ "\n" } := by
  unfold runSession
  rw [Session.new_error h]

/-- Else it is the end of the session. -/
theorem runSession_accepted {l : CommandLine} (h : l.configuration.problem? = none)
    {network : Network} {source : σ} {operator : ι} {polls : Nat} {stamp : SessionStamp}
    {c : Completion}
    (hn : (network.discover l.configuration.serviceType l.configuration.discoveryTimeout).ending ≠
      .deadlineOverflow)
    (hc : runSession l network source operator polls stamp = some c) :
    ∃ r s', Ends l network source operator polls stamp r s' ∧ c = sessionCompletion l r s' := by
  obtain ⟨s, hs, -⟩ := Session.new_ok h network.directory source operator
  unfold runSession at hc
  rw [hs] at hc
  dsimp only at hc
  rw [if_neg hn] at hc
  obtain ⟨⟨r, s'⟩, hrun, rfl⟩ := Option.map_eq_some_iff.1 hc
  exact ⟨r, s', ⟨s, hs, hrun⟩, rfl⟩

section
variable {l : CommandLine} {network : Network} {source : σ} {operator : ι} {polls : Nat}
  {stamp : SessionStamp} {r : Except Fault Summary} {s' : Session σ ι}

theorem Ends.unique {r' : Except Fault Summary} {s'' : Session σ ι}
    (h : Ends l network source operator polls stamp r s')
    (h' : Ends l network source operator polls stamp r' s'') : r = r' ∧ s' = s'' := by
  obtain ⟨s, hs, hr⟩ := h
  obtain ⟨s₁, hs₁, hr₁⟩ := h'
  cases hs.symm.trans hs₁
  cases hr.symm.trans hr₁
  exact ⟨rfl, rfl⟩

/-- A session ends only if its configuration is accepted. -/
theorem Ends.accepted (h : Ends l network source operator polls stamp r s') :
    l.configuration.problem? = none := by
  obtain ⟨s, hs, -⟩ := h
  cases hp : l.configuration.problem? with
  | none => rfl
  | some p =>
    rw [Session.new_error hp] at hs
    cases hs

/-- What ends is a session that had done nothing yet. -/
theorem Ends.run (h : Ends l network source operator polls stamp r s') :
    ∃ s : Session σ ι, s.Fresh ∧ s.directory = network.directory ∧ s.pipeline.source = source ∧
      s.run polls stamp = some (r, s') := by
  obtain ⟨s, hs, hf, hd, hsource⟩ := Session.new_ok h.accepted network.directory source operator
  obtain ⟨s₁, hs₁, hr⟩ := h
  cases hs.symm.trans hs₁
  exact ⟨s, hf, hd, hsource, hr⟩

theorem Ends.ok_iff {P : Summary → Prop} (h : Ends l network source operator polls stamp r s') :
    (∃ summary s'', Ends l network source operator polls stamp (.ok summary) s'' ∧ P summary) ↔
      ∃ summary, r = .ok summary ∧ P summary := by
  constructor
  · rintro ⟨summary, s'', h', hp⟩
    exact ⟨summary, (h.unique h').1, hp⟩
  · rintro ⟨summary, rfl, hp⟩
    exact ⟨summary, s', h, hp⟩

theorem Ends.error_iff {P : Session σ ι → Prop} (h : Ends l network source operator polls stamp r s') :
    (∃ f s'', Ends l network source operator polls stamp (.error f) s'' ∧ P s'') ↔
      ∃ f, r = .error f ∧ P s' := by
  constructor
  · rintro ⟨f, s'', h', hp⟩
    obtain ⟨hr, rfl⟩ := h.unique h'
    exact ⟨f, hr, hp⟩
  · rintro ⟨f, rfl, hp⟩
    exact ⟨f, s', h, hp⟩

/-- **A session fails with a fault of the kind that comes before capture exactly if it never
captured**, over a source that is candid. -/
theorem Ends.kind {f : Fault} (hc : Candid source)
    (h : Ends l network source operator polls stamp (.error f) s') :
    f.isPreCapture = true ↔ .capturing ∉ s'.journal.states := by
  obtain ⟨s, hf, hd, rfl, hr⟩ := h.run
  have hfound : s.found =
      (network.directory s.config.serviceType s.config.discoveryTimeout).answer := by
    rw [← hd]
    rfl
  exact Session.kind_of_run hf (fun f he => Network.directory_error (hfound.symm.trans he)) hc hr

theorem Ends.outcome {summary : Summary}
    (h : Ends l network source operator polls stamp (.ok summary) s') :
    summary.outcome = .quit ∨ summary.outcome = .aborted := by
  obtain ⟨s, hf, -, -, hr⟩ := h.run
  exact Session.outcome_of_ok hf hr

/-- The summary that a session has kept is printed if that is wanted. -/
theorem Ends.prints (h : Ends l network source operator polls stamp r s')
    (hj : l.summaryJson = true) :
    ∃ summary, s'.summary = some summary ∧ (sessionCompletion l r s').Prints summary := by
  obtain ⟨s, hf, -, -, hr⟩ := h.run
  obtain ⟨summary, hs⟩ := Session.summary_of_run hf hr
  refine ⟨summary, hs, banner ++ screen s', ?_⟩
  simp only [sessionCompletion, summaryText, hj, hs]

end

/-! ## Exit codes -/

section
variable {r : Except Fault Summary}

theorem exitCode_eq_zero : exitCode r = 0 ↔ ∃ summary, r = .ok summary := by
  cases r with
  | ok summary => exact iff_of_true rfl ⟨summary, rfl⟩
  | error f => cases h : f.isPreCapture <;> simp [exitCode, h, unavailableCode, failureCode]

theorem exitCode_eq_two : exitCode r = 2 ↔ ∃ f, r = .error f ∧ f.isPreCapture = true := by
  cases r with
  | ok summary => simp [exitCode, successCode]
  | error f => cases h : f.isPreCapture <;> simp [exitCode, h, unavailableCode, failureCode]

theorem exitCode_eq_one : exitCode r = 1 ↔ ∃ f, r = .error f ∧ ¬ f.isPreCapture = true := by
  cases r with
  | ok summary => simp [exitCode, successCode]
  | error f => cases h : f.isPreCapture <;> simp [exitCode, h, unavailableCode, failureCode]

end

/-- What the end of a program tells of the session that a command line asked for. -/
structure Reflects (c : Completion) (l : CommandLine)
    (ends : Except Fault Summary → Session σ ι → Prop) : Prop where
  /-- the session ended as it should -/
  success : c.exitCode = 0 ↔
    ∃ summary s', ends (.ok summary) s' ∧ (summary.outcome = .quit ∨ summary.outcome = .aborted)
  /-- it failed and never captured -/
  unavailable : c.exitCode = 2 ↔ ∃ f s', ends (.error f) s' ∧ .capturing ∉ s'.journal.states
  /-- its configuration was rejected, or it failed once it captured -/
  failure : c.exitCode = 1 ↔ l.configuration.problem? ≠ none ∨
    ∃ f s', ends (.error f) s' ∧ .capturing ∈ s'.journal.states
  /-- a summary is printed exactly if the configuration was accepted -/
  printed : l.summaryJson = true →
    ((∃ summary, c.Prints summary) ↔ l.configuration.problem? = none)
  /-- and it is that of the session -/
  kept : l.summaryJson = true → ∀ r s', ends r s' →
    ∃ summary, s'.summary = some summary ∧ c.Prints summary

theorem reflects_of_rejected {l : CommandLine} {p : ConfigurationProblem}
    (h : l.configuration.problem? = some p) {network : Network} {source : σ} {operator : ι}
    {polls : Nat} {stamp : SessionStamp} {c : Completion} (hcode : c.exitCode = failureCode)
    (hout : c.output = banner) : Reflects c l (Ends l network source operator polls stamp) := by
  have hproblem : l.configuration.problem? ≠ none := by
    rw [h]
    nofun
  have hends : ∀ {r s'}, ¬ Ends l network source operator polls stamp r s' :=
    fun he => hproblem he.accepted
  refine ⟨?_, ?_, ?_, ?_, ?_⟩
  · rw [hcode]
    exact iff_of_false (by decide) fun ⟨_, _, he, _⟩ => hends he
  · rw [hcode]
    exact iff_of_false (by decide) fun ⟨_, _, he, _⟩ => hends he
  · exact iff_of_true hcode (.inl hproblem)
  · intro _
    exact iff_of_false (fun ⟨summary, hp⟩ => Completion.not_prints_banner hout summary hp) hproblem
  · intro _ r s' he
    exact absurd he hends

theorem reflects_of_ends {l : CommandLine} {network : Network} {source : σ} (hc : Candid source)
    {operator : ι} {polls : Nat} {stamp : SessionStamp} {r : Except Fault Summary}
    {s' : Session σ ι} (h : Ends l network source operator polls stamp r s') :
    Reflects (sessionCompletion l r s') l (Ends l network source operator polls stamp) := by
  have hcode : (sessionCompletion l r s').exitCode = exitCode r := rfl
  refine ⟨?_, ?_, ?_, ?_, ?_⟩
  · rw [hcode, exitCode_eq_zero, h.ok_iff]
    constructor
    · rintro ⟨summary, rfl⟩
      exact ⟨summary, rfl, h.outcome⟩
    · rintro ⟨summary, rfl, -⟩
      exact ⟨summary, rfl⟩
  · rw [hcode, exitCode_eq_two, h.error_iff]
    constructor
    · rintro ⟨f, rfl, hf⟩
      exact ⟨f, rfl, (h.kind hc).1 hf⟩
    · rintro ⟨f, rfl, hn⟩
      exact ⟨f, rfl, (h.kind hc).2 hn⟩
  · rw [hcode, exitCode_eq_one, h.error_iff]
    constructor
    · rintro ⟨f, rfl, hf⟩
      have hcap : .capturing ∈ s'.journal.states := by
        by_contra hn
        exact hf ((h.kind hc).2 hn)
      exact .inr ⟨f, rfl, hcap⟩
    · rintro (hp | ⟨f, rfl, hcap⟩)
      · exact absurd h.accepted hp
      · exact ⟨f, rfl, fun hf => (h.kind hc).1 hf hcap⟩
  · intro hj
    obtain ⟨summary, -, hp⟩ := h.prints hj
    exact iff_of_true ⟨summary, hp⟩ h.accepted
  · intro hj r' s'' h'
    obtain ⟨-, rfl⟩ := h.unique h'
    exact h.prints hj

/-- **The exit code tells how far the session came**, for every command line that asks for one,
every network that can be swept, every operator and both sources that the program comes with: 0 if
it ended as it should, 2 if it failed and never captured, and 1 if it failed once it captured. It is
1 as well if the configuration is rejected, and then nobody is asked anything: the end is the same
with any other network, source and operator. -/
theorem exitCode_reflects_session {args : List String} {l : CommandLine} {network : Network}
    {source : σ} {operator : ι} {polls : Nat} {stamp : SessionStamp} {c : Completion}
    (hl : CommandLine.read args = .ok l) (hs : Shipped source)
    (hn : l.configuration.problem? = none →
      (network.discover l.configuration.serviceType l.configuration.discoveryTimeout).ending ≠
        .deadlineOverflow)
    (h : run args network source operator polls stamp = some c) :
    Reflects c l (Ends l network source operator polls stamp) ∧
      (l.configuration.problem? ≠ none → ∀ {σ' ι' : Type} [CaptureSource σ'] [Operator ι']
        (network' : Network) (source' : σ') (operator' : ι') (polls' : Nat) (stamp' : SessionStamp),
        run args network' source' operator' polls' stamp' = some c) := by
  have hsession : ∀ {σ' ι' : Type} [CaptureSource σ'] [Operator ι'] (network' : Network)
      (source' : σ') (operator' : ι') (polls' : Nat) (stamp' : SessionStamp),
      run args network' source' operator' polls' stamp' =
        runSession l network' source' operator' polls' stamp' := by
    intros
    unfold run
    rw [hl]
  rw [hsession] at h
  cases hp : l.configuration.problem? with
  | none =>
    obtain ⟨r, s', he, rfl⟩ := runSession_accepted hp (hn hp) h
    exact ⟨reflects_of_ends (candid_of_shipped hs) he, fun hne => absurd rfl hne⟩
  | some p =>
    have hc := h
    rw [runSession_rejected hp] at hc
    cases hc
    refine ⟨reflects_of_rejected hp rfl rfl, ?_⟩
    intros
    rw [hsession, runSession_rejected hp]

/-- The loopback capture of a device whose first packet cannot be fetched: it is told to start, and
that is when it fails. -/
theorem exitCode_one_of_fault_while_capturing :
    ∃ c, run ["--summary-json"] {} ({ device := Interplay.falteringDevice } : LoopbackCapture)
        ({} : ScriptedOperator) 1 default = some c ∧
      c.exitCode = 1 ∧
      (∃ f s', Ends { summaryJson := true } {}
          ({ device := Interplay.falteringDevice } : LoopbackCapture) ({} : ScriptedOperator) 1
          default (.error f) s' ∧ .capturing ∈ s'.journal.states) ∧
      ∃ summary, c.Prints summary := by
  have hl : CommandLine.read ["--summary-json"] = .ok { summaryJson := true } := by decide
  obtain ⟨c, hc⟩ := Option.isSome_iff_exists.1 (show (run ["--summary-json"] {}
    ({ device := Interplay.falteringDevice } : LoopbackCapture) ({} : ScriptedOperator) 1
    default).isSome = true by rfl)
  have hcode : c.exitCode = 1 := by
    cases hc
    rfl
  have hp : ({ summaryJson := true } : CommandLine).configuration.problem? = none := by decide
  obtain ⟨ht, -⟩ := exitCode_reflects_session hl (.loopback _) (fun _ => by decide) hc
  refine ⟨c, hc, hcode, ?_, (ht.printed rfl).2 hp⟩
  rcases ht.failure.1 hcode with hne | he
  · exact absurd hp hne
  · exact he

end Program

end AirLoop
