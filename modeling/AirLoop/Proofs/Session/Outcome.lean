import AirLoop.Proofs.Session.Teardown

/-!
# Outcomes

What a run comes to (`run_settled_by_first_fault_or_quit`). A failure to find receivers, to open the
source or to start it is passed on as it is; an operator who declines to go on without receivers
aborts the run; and a run that captures ends at the first poll at which its operator wants to quit,
or with the first fault if that came up before (`Settled`).
-/

namespace AirLoop

/-- How a run that captures is settled: by the first fault that came up if the operator had not
wanted to quit by then, and else by his first wish to quit. -/
structure Settled (first : Option Raised) (quits : Nat → Bool) (r : Except Fault Summary)
    (polls : Nat) : Prop where
  byFault : ∀ x, first = some x → (∀ i ≤ x.polls, quits i = false) →
    r = .error x.fault ∧ polls = x.polls
  byQuit : ∀ q, quits q = true → (∀ i < q, quits i = false) → (∀ x, first = some x → q ≤ x.polls) →
    (∃ summary, r = .ok summary ∧ summary.outcome = .quit) ∧ polls = q
  either : (∃ x, first = some x ∧ ∀ i ≤ x.polls, quits i = false) ∨
    ∃ q, quits q = true ∧ (∀ i < q, quits i = false) ∧ ∀ x, first = some x → q ≤ x.polls

namespace Session

variable {σ ι : Type}

/-! ## Steps of the session -/

theorem extends_enter (s : Session σ ι) (next : SessionState) :
    Extends Occurrence.unasked s.pipeline (s.enter next).pipeline := by
  rw [enter_eq]
  exact ⟨s.entering next, rfl, by simp [entering, Occurrence.unasked]⟩

theorem extends_cleanUp (s : Session σ ι) (what : String)
    {call : Pipeline σ → Except Fault Unit × Pipeline σ} (hc : ∀ p, Ticks p (call p).2) :
    Extends Occurrence.ofCapture s.pipeline (s.cleanUp what call).pipeline := by
  have he : Extends Occurrence.ofCapture s.pipeline (call s.pipeline).2 := (hc s.pipeline).extends
  unfold cleanUp
  dsimp only
  split
  · exact he
  · exact he.trans (.note _ rfl)

/-- The operator is not asked again once the work is over. -/
theorem extends_conclude [CaptureSource σ] (s : Session σ ι) (stamp : SessionStamp) (fs : Findings)
    (r : Except Fault Outcome) :
    Extends Occurrence.unasked s.pipeline (s.teardown.conclude stamp fs r).2.pipeline := by
  have hstop := extends_cleanUp (s.enter .stopping) "Failed to stop capture" fun p => p.stop_ticks
  have hclose := extends_cleanUp s.halted "Failed to close capture device" fun p => p.close_ticks
  have hclean := (hstop.trans hclose).mono Occurrence.unasked_of_ofCapture
  have ht : Extends Occurrence.unasked s.pipeline s.teardown.pipeline :=
    ((extends_enter s .stopping).trans hclean).trans (extends_enter _ .stopped)
  cases r with
  | ok outcome => exact ht.trans (.note _ rfl)
  | error f => exact (ht.trans (.note _ rfl)).trans (.note _ rfl)

/-- What a run returns for what its work came to: the fault, or a summary with the outcome. -/
def Concluded (r₀ : Except Fault Outcome) (r : Except Fault Summary) : Prop :=
  match r₀ with
  | .error f => r = .error f
  | .ok o => ∃ summary, r = .ok summary ∧ summary.outcome = o

theorem concluded (s : Session σ ι) (stamp : SessionStamp) (fs : Findings)
    (r₀ : Except Fault Outcome) : Concluded r₀ (s.conclude stamp fs r₀).1 := by
  cases r₀ with
  | error f => rfl
  | ok o => exact ⟨_, rfl, rfl⟩

theorem latched_of_fresh {s : Session σ ι} (hs : s.Fresh) (names : List String) :
    Latched names s.pipeline := by
  refine ⟨?_, ?_, ?_⟩
  · rw [hs.journal, hs.handed]
    rfl
  · rw [hs.journal]
    nofun
  · rw [hs.handed]
    nofun

theorem Concluded.aborted_iff {r₀ : Except Fault Outcome} {r : Except Fault Summary}
    (h : Concluded r₀ r) :
    (∃ summary, r = .ok summary ∧ summary.outcome = .aborted) ↔ r₀ = .ok .aborted := by
  cases r₀ with
  | error f =>
    refine iff_of_false ?_ nofun
    rintro ⟨summary, hr, -⟩
    cases hr.symm.trans h
  | ok o =>
    obtain ⟨summary, hr, ho⟩ := h
    constructor
    · rintro ⟨summary', hr', ho'⟩
      cases hr.symm.trans hr'
      rw [← ho, ho']
    · intro hab
      exact ⟨summary, hr, ho.trans (Except.ok.inj hab)⟩

/-! ## What the operator is asked on the way to the source -/

theorem asked_preface (s : Session σ ι) : Asked s.preface 0 [] := by
  refine .of_unasked ?_
  intro o ho
  unfold preface entering at ho
  cases hf : s.found with
  | error f =>
    simp only [hf, List.append_nil, List.mem_append, List.mem_cons, List.not_mem_nil, or_false,
      List.mem_map] at ho
    rcases ho with ((rfl | rfl) | (rfl | rfl)) | ⟨l, -, rfl⟩ <;> rfl
  | ok devices =>
    simp only [hf, List.mem_append, List.mem_cons, List.not_mem_nil, or_false, List.mem_map] at ho
    rcases ho with (((rfl | rfl) | (rfl | rfl)) | ⟨l, -, rfl⟩) | (rfl | rfl) <;> rfl

theorem asked_lookedUp {s : Session σ ι} (hs : s.Fresh) : Asked s.lookedUp.journal 0 [] := by
  have hj : s.lookedUp.journal = s.preface := by
    change s.pipeline.journal ++ s.preface = _
    rw [hs.journal, List.nil_append]
  rw [hj]
  exact asked_preface s

variable [Operator ι]

theorem asked_gateNotes (s : Session σ ι) (devices : List Receiver) :
    Asked (s.gateNotes devices) (if devices = [] then 1 else 0) [] := by
  have he : Asked (s.entering .awaitingOperator) 0 [] := .of_unasked (by
    simp [entering, Occurrence.unasked])
  unfold gateNotes
  split
  · have hq : Asked [.reported .acknowledgementRequired, .acknowledged] 1 [] := ⟨rfl, rfl⟩
    have hl : Asked ((Operator.acknowledge s.operator).log.map .logged) 0 [] := .of_unasked (by
      simp [Occurrence.unasked])
    exact he.append (hq.append hl)
  · rw [List.append_nil]
    exact he

/-- **The operator is asked whether to go on exactly if there are no receivers**, and then once. -/
theorem asked_admitted {s : Session σ ι} (hs : s.Fresh) (devices : List Receiver) :
    Asked (s.admitted devices).journal (if devices = [] then 1 else 0) [] := by
  have hj : (s.admitted devices).journal = s.preface ++ s.lookedUp.gateNotes devices := by
    change s.pipeline.journal ++ (s.preface ++ s.lookedUp.gateNotes devices) = _
    rw [hs.journal, List.nil_append]
  rw [hj, ← Nat.zero_add (if devices = [] then 1 else 0)]
  exact (asked_preface s).append (asked_gateNotes _ devices)

variable [CaptureSource σ] {s : Session σ ι}

theorem asked_opened (hs : s.Fresh) (devices : List Receiver) :
    Asked (s.opened devices).journal (if devices = [] then 1 else 0) [] :=
  (asked_admitted hs devices).ticks (Pipeline.openDevice_ticks _)

theorem asked_started (hs : s.Fresh) (devices : List Receiver) :
    Asked (s.started devices).journal (if devices = [] then 1 else 0) [] :=
  (asked_opened hs devices).ticks (Pipeline.start_ticks _)

theorem asked_begun (hs : s.Fresh) (devices : List Receiver) (format : AudioFormat) :
    Asked (s.begun devices format).journal (if devices = [] then 1 else 0) [] :=
  ((asked_started hs devices).extended (extends_enter _ .capturing)).extended (.note _ rfl)

/-! ## The watch -/

/-- The stages stay as they were prepared, and what came up was latched. -/
theorem latched_started (hs : s.Fresh) (devices : List Receiver) {format : AudioFormat}
    (ho : s.opening.result = .ok format) (ht : s.starting.result = .ok ()) :
    (s.started devices).pipeline.stageNames = s.pipeline.stageNames ∧
      Latched s.pipeline.stageNames (s.started devices).pipeline := by
  have hn : (s.started devices).pipeline.stageNames = s.pipeline.stageNames :=
    Pipeline.stageNames_of_stages (by rw [(started_ok hs devices ho ht).2])
  have hno : (s.opened devices).pipeline.stageNames = s.pipeline.stageNames :=
    Pipeline.stageNames_of_stages (by rw [(opened_ok hs devices ho).2])
  have hadmitted : Latched s.pipeline.stageNames (s.admitted devices).pipeline :=
    (latched_of_fresh hs _).noteAll (ofSession_approach s devices)
  have hopened : Latched s.pipeline.stageNames (s.opened devices).pipeline :=
    (Pipeline.openDevice_ticks _).latched (hno ▸ List.prefix_refl _) hadmitted
  exact ⟨hn, (Pipeline.start_ticks _).latched (hn ▸ List.prefix_refl _) hopened⟩

/-- A session begins to watch with nothing amiss but what came up while its source was started. -/
theorem vigil_begun (hs : s.Fresh) (devices : List Receiver) {format : AudioFormat}
    (ho : s.opening.result = .ok format) (ht : s.starting.result = .ok ()) :
    Vigil s.pipeline.stageNames (s.begun devices format) := by
  have hst := standing_begun s devices format
  obtain ⟨hn, hstarted⟩ := latched_started hs devices ho ht
  refine ⟨?_, ?_, ?_, ?_⟩
  · have he := hstarted.noteAll (ofSession_entering (s.started devices) .capturing)
    rw [begun, enter_eq]
    exact he.note (fun _ => rfl) fun _ => rfl
  · exact (Pipeline.stageNames_of_stages (by rw [hst])).trans hn
  · have hh := congrArg (fun st : Standing σ => st.handed.length)
      (hst.trans (started_ok hs devices ho ht).2)
    simpa only [Pipeline.standing, List.length_map, List.length_singleton] using hh
  · intro x hx
    obtain ⟨hlo, hhi⟩ := Journal.polls_raisedFrom hx
    have hp := Journal.polls_bookmark (s.begun devices format).journal
    rw [(asked_begun hs devices format).waits] at hp ⊢
    change x.polls ≤ (s.begun devices format).journal.bookmark.polls at hhi
    rw [hp] at hhi
    exact Nat.le_zero.1 hhi

theorem settled_of_watched {names : List String} {n : Nat} {s₀ sd : Session σ ι}
    {r₀ : Except Fault Outcome} (hw : Watched s₀ n r₀ sd) {j : Journal} (hj : Ended names j r₀)
    (hn : j.polls.length = n) {r : Except Fault Summary} (hr : Concluded r₀ r) :
    Settled (j.raised names).head?
      (fun i => Operator.quitsAt s₀.config.pollInterval i s₀.operator) r j.polls.length := by
  obtain ⟨hbefore, hlast⟩ := hw.quits
  rw [hn]
  cases r₀ with
  | error f =>
    obtain ⟨x, hx, rfl, hxn⟩ := hj
    rw [hn] at hxn
    have hnone : ∀ i ≤ x.polls, Operator.quitsAt s₀.config.pollInterval i s₀.operator = false := by
      intro i hi
      rcases Nat.lt_or_eq_of_le (hxn ▸ hi) with hlt | rfl
      · exact hbefore i hlt
      · exact hlast
    refine ⟨?_, ?_, .inl ⟨x, hx, hnone⟩⟩
    · intro y hy _
      obtain rfl : x = y := Option.some.inj (hx.symm.trans hy)
      exact ⟨hr, hxn.symm⟩
    · intro q hq _ hle
      have hf := hnone q (hle x hx)
      rw [hf] at hq
      cases hq
  | ok o =>
    obtain ⟨rfl, hall⟩ := hj
    rw [hn] at hall
    have hfirst : ∀ x, (j.raised names).head? = some x → n ≤ x.polls := by
      intro x hx
      have hn := hall x (List.mem_of_mem_head? hx)
      omega
    refine ⟨?_, ?_, .inr ⟨n, hlast, hbefore, hfirst⟩⟩
    · intro x hx hnone
      have hf := hnone n (hfirst x hx)
      rw [hf] at hlast
      cases hlast
    · intro q hq hfew _
      refine ⟨hr, ?_⟩
      rcases Nat.lt_trichotomy n q with hlt | heq | hlt
      · have hf := hfew n hlt
        rw [hf] at hlast
        cases hlast
      · exact heq
      · have hf := hbefore q hlt
        rw [hf] at hq
        cases hq

/-! ## The course of a session, from the answers -/

namespace Course

variable {polls : Nat} {r : Except Fault Outcome} {fs : Findings} {sd : Session σ ι}

theorem of_found_error (h : Course polls s r fs sd) {f : Fault} (hf : s.found = .error f) :
    r = .error f := by
  cases h with
  | undiscovered hf' => rw [hf] at hf'; cases hf'; rfl
  | aborted hf' | unopened hf' | unstarted hf' | watched hf' => rw [hf] at hf'; cases hf'

theorem of_opening_error (h : Course polls s r fs sd) (hp : s.passes = true) {f : Fault}
    (ho : s.opening.result = .error f) : r = .error f := by
  cases h with
  | undiscovered hf => rw [passes_of_error hf] at hp; cases hp
  | aborted _ hn => rw [hp] at hn; cases hn
  | unopened _ _ ho' => rw [ho] at ho'; cases ho'; rfl
  | unstarted _ _ ho' | watched _ _ ho' => rw [ho] at ho'; cases ho'

theorem of_starting_error (h : Course polls s r fs sd) (hp : s.passes = true) {format : AudioFormat}
    (ho : s.opening.result = .ok format) {f : Fault} (ht : s.starting.result = .error f) :
    r = .error f := by
  cases h with
  | undiscovered hf => rw [passes_of_error hf] at hp; cases hp
  | aborted _ hn => rw [hp] at hn; cases hn
  | unopened _ _ ho' => rw [ho] at ho'; cases ho'
  | unstarted _ _ _ ht' => rw [ht] at ht'; cases ht'; rfl
  | watched _ _ _ ht' => rw [ht] at ht'; cases ht'

theorem of_started (h : Course polls s r fs sd) {devices : List Receiver}
    (hd : s.found = .ok devices) (hp : s.passes = true) {format : AudioFormat}
    (ho : s.opening.result = .ok format) (ht : s.starting.result = .ok ()) :
    ∃ n, Watched (s.begun devices format) n r sd := by
  cases h with
  | undiscovered hf => rw [hd] at hf; cases hf
  | aborted _ hn => rw [hp] at hn; cases hn
  | unopened _ _ ho' => rw [ho] at ho'; cases ho'
  | unstarted _ _ _ ht' => rw [ht] at ht'; cases ht'
  | watched hd' _ ho' _ hw =>
    rw [hd] at hd'
    cases hd'
    rw [ho] at ho'
    cases ho'
    exact watched_of_watch hw

/-- A session is aborted by its operator only, and only where there are no receivers. -/
theorem aborted_iff (hs : s.Fresh) (h : Course polls s r fs sd) :
    r = .ok .aborted ↔
      s.found = .ok [] ∧ (Operator.acknowledge s.operator).answer = .abort := by
  have hpass : s.passes = true →
      ¬(s.found = .ok [] ∧ (Operator.acknowledge s.operator).answer = .abort) := by
    rintro hp ⟨hf, ha⟩
    rcases (passes_iff hf).1 hp with hg | hg
    · exact hg rfl
    · rw [ha] at hg
      cases hg
  cases h with
  | undiscovered hf => exact iff_of_false nofun fun hn => by rw [hf] at hn; cases hn.1
  | aborted hf hn =>
    refine iff_of_true rfl ⟨hf, ?_⟩
    cases ha : (Operator.acknowledge s.operator).answer with
    | abort => rfl
    | proceed =>
      rw [(passes_iff hf).2 (.inr ha)] at hn
      cases hn
  | unopened _ hp | unstarted _ hp => exact iff_of_false nofun (hpass hp)
  | watched _ hp ho ht hw =>
    refine iff_of_false ?_ (hpass hp)
    obtain ⟨n, hn⟩ := watched_of_watch hw
    have he := hn.ended (vigil_begun hs _ ho ht)
    rintro rfl
    cases he.1

theorem asked (hs : s.Fresh) (h : Course polls s r fs sd) :
    ∃ m n, Asked sd.journal m (List.replicate n s.config.pollInterval) ∧
      (s.found = .ok [] → m = 1) ∧ (s.found ≠ .ok [] → m = 0) := by
  have hm : ∀ {devices}, s.found = .ok devices →
      (s.found = .ok [] → (if devices = [] then 1 else 0) = 1) ∧
        (s.found ≠ .ok [] → (if devices = [] then 1 else 0) = 0) := by
    intro devices hf
    constructor
    · intro he
      rw [hf] at he
      cases he
      rfl
    · intro he
      refine if_neg fun hd => he ?_
      rw [hf, hd]
  cases h with
  | undiscovered hf =>
    refine ⟨0, 0, asked_lookedUp hs, ?_, fun _ => rfl⟩
    intro he
    rw [hf] at he
    cases he
  | aborted hf => exact ⟨_, 0, asked_admitted hs [], hm hf⟩
  | unopened hf => exact ⟨_, 0, asked_opened hs _, hm hf⟩
  | unstarted hf => exact ⟨_, 0, asked_started hs _, hm hf⟩
  | watched hf _ _ _ hw =>
    obtain ⟨n, hn⟩ := watched_of_watch hw
    exact ⟨_, n, hn.asked (asked_begun hs _ _), hm hf⟩

end Course

/-! ## The outcome of a run -/

/-- **What a run comes to.** A failure to find receivers, to open the source or to start it is its
own; a run that captures is settled between the first fault that came up and the operator's first
wish to quit. It is aborted exactly if there are no receivers and the operator, who is asked then,
once, and never else, declines to go on. Every poll is given the configured interval. -/
theorem run_settled_by_first_fault_or_quit {config : Configuration} {directory : Directory} {source : σ}
    {operator : ι} {stages : List Stage} {polls : Nat} {stamp : SessionStamp} {s s' : Session σ ι}
    {r : Except Fault Summary} (hs : prepare config directory source operator stages = .ok s)
    (h : s.run polls stamp = some (r, s')) :
    (∀ f, s.found = .error f → r = .error f) ∧
      (∀ f, s.passes = true → s.opening.result = .error f → r = .error f) ∧
      (∀ format f, s.passes = true → s.opening.result = .ok format →
        s.starting.result = .error f → r = .error f) ∧
      (∀ devices format, s.found = .ok devices → s.passes = true →
        s.opening.result = .ok format → s.starting.result = .ok () →
        Settled (s'.journal.raised s.pipeline.stageNames).head?
          (fun i => Operator.quitsAt s.config.pollInterval i (s.acquainted devices)) r
          s'.journal.polls.length) ∧
      ((∃ summary, r = .ok summary ∧ summary.outcome = .aborted) ↔
        s.found = .ok [] ∧ (Operator.acknowledge s.operator).answer = .abort) ∧
      (s.found = .ok [] → s'.journal.count .acknowledged = 1) ∧
      (s.found ≠ .ok [] → s'.journal.count .acknowledged = 0) ∧
      ∀ w ∈ s'.journal.polls, w = s.config.pollInterval := by
  have hf := fresh_of_prepare hs
  obtain ⟨r₀, fs, sd, hd, hc⟩ := run_eq hf h
  have hcourse := drive_course hf hd
  have hr : Concluded r₀ r := by
    have hcl := concluded sd.teardown stamp fs r₀
    rwa [hc] at hcl
  have hext : Extends Occurrence.unasked sd.pipeline s'.pipeline := by
    have hec := extends_conclude sd stamp fs r₀
    rwa [hc] at hec
  obtain ⟨m, n, hasked, hone, hzero⟩ := hcourse.asked hf
  have hasked' := hasked.extended hext
  refine ⟨?_, ?_, ?_, ?_, ?_, ?_, ?_, ?_⟩
  · intro f he
    rw [hcourse.of_found_error he] at hr
    exact hr
  · intro f hp ho
    rw [hcourse.of_opening_error hp ho] at hr
    exact hr
  · intro format f hp ho ht
    rw [hcourse.of_starting_error hp ho ht] at hr
    exact hr
  · intro devices format hfd hp ho ht
    obtain ⟨k, hw⟩ := hcourse.of_started hfd hp ho ht
    obtain ⟨more, hj, hm⟩ := hext
    have hend : Ended s.pipeline.stageNames s'.journal r₀ := by
      rw [show s'.journal = sd.journal ++ more from hj]
      exact (hw.ended (vigil_begun hf devices ho ht)).append (Asked.of_unasked hm).waits
    have hlen : s'.journal.polls.length = k := by
      have hwaits := ((hw.asked (asked_begun hf devices format)).extended ⟨more, hj, hm⟩).waits
      change s'.journal.polls = _ at hwaits
      rw [hwaits, List.nil_append, List.length_replicate]
    exact settled_of_watched hw hend hlen hr
  · rw [← hcourse.aborted_iff hf]
    exact hr.aborted_iff
  · intro he
    exact hasked'.acknowledgements.trans (hone he)
  · intro he
    exact hasked'.acknowledgements.trans (hzero he)
  · intro w hw
    have hwaits := hasked'.waits
    change s'.journal.polls = _ at hwaits
    rw [hwaits] at hw
    exact List.eq_of_mem_replicate hw

/-- A session whose source reports a fault while it is polled for the second time. -/
def interrupted : Session Rehearsal ScriptedOperator where
  config := {}
  directory := fun _ _ => { answer := .ok [] }
  operator := { polls := [false, false, true] }
  pipeline :=
    { source := { traffic := [([], []), ([], [.captureFault "device lost"])] }
      stations := [{ stage := .meter true }] }

theorem run_ends_with_fault_at_second_poll :
    ∃ s', interrupted.run 3 default = some (.error (.captureFault "device lost"), s') ∧
      s'.journal.polls.length = 2 ∧ s'.journal.count .acknowledged = 1 := by
  obtain ⟨⟨r, s'⟩, h⟩ :=
    Option.isSome_iff_exists.1 (show (interrupted.run 3 default).isSome = true by rfl)
  have hs : prepare interrupted.config interrupted.directory interrupted.pipeline.source
      interrupted.operator [] = .ok interrupted := rfl
  have hfirst : (s'.journal.raised interrupted.pipeline.stageNames).head? =
      some ⟨0, 2, .captureFault "device lost"⟩ := by
    cases h
    rfl
  obtain ⟨-, -, -, hsettled, -, hasked, -⟩ := run_settled_by_first_fault_or_quit hs h
  obtain ⟨rfl, hpolls⟩ := (hsettled [] ⟨48000, 32, 2⟩ rfl rfl rfl rfl).byFault _ hfirst (by decide)
  exact ⟨s', h, hpolls, hasked rfl⟩

end Session
end AirLoop
