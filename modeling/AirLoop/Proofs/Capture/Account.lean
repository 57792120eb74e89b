import AirLoop.Proofs.Capture.Exchange

/-!
# Accounts

No buffer is lost and none is counted twice, whatever the owner of a pipeline does and whenever the
source sends its buffers (`buffers_conserved`): the counters are those of what the source has sent,
and the stages took what the delivered buffers bring, each through the stages that there were when
its delivery was handed out.
-/

namespace AirLoop

/-! ## What was handed out -/

section
variable {σ : Type} {p q : Pipeline σ}

/-- Stages and deliveries are only added. -/
theorem Tick.grows (h : Tick p q) :
    p.standing.stages <+: q.standing.stages ∧ p.standing.handed <+: q.standing.handed := by
  cases h with
  | source | enter | closeGate | format | call | log =>
    exact ⟨List.prefix_refl _, List.prefix_refl _⟩
  | station stage => exact ⟨⟨[stage], by simp [Pipeline.standing]⟩, List.prefix_refl _⟩
  | hand source format failure =>
    exact ⟨List.prefix_refl _, ⟨[(p.stations.length, format)], by
      simp [Pipeline.standing, Pipeline.openGate, Pipeline.note]⟩⟩
  | receive s =>
    rw [p.standing_receive s]
    exact ⟨List.prefix_refl _, List.prefix_refl _⟩

theorem Ticks.grows (h : Ticks p q) :
    p.standing.stages <+: q.standing.stages ∧ p.standing.handed <+: q.standing.handed :=
  h.preserves
    (P := fun r =>
      p.standing.stages <+: r.standing.stages ∧ p.standing.handed <+: r.standing.handed)
    (fun _ _ ht h => ⟨h.1.trans ht.grows.1, h.2.trans ht.grows.2⟩)
    ⟨List.prefix_refl _, List.prefix_refl _⟩

theorem Ticks.length_deliveries_le (h : Ticks p q) : p.deliveries.length ≤ q.deliveries.length := by
  simpa [Pipeline.standing] using h.grows.2.length_le

/-- A delivery stays as it was handed out. -/
theorem Ticks.handout (h : Ticks p q) (hf : Faithful p) {k : Nat} (hk : k < p.deliveries.length) :
    q.handout k = p.handout k :=
  Standing.handout_of_prefix h.grows.1 h.grows.2 hf.bounded (by simpa [Pipeline.standing] using hk)

end

section
variable {σ : Type} {st st' : Standing σ}

theorem Move.grows (h : Move st st') : st.stages <+: st'.stages ∧ st.handed <+: st'.handed := by
  cases h with
  | pass | shut | bind | bindFails | stop | leave | release =>
    exact ⟨List.prefix_refl _, List.prefix_refl _⟩
  | addStage => exact ⟨List.prefix_append .., List.prefix_refl _⟩
  | start | startFails => exact ⟨List.prefix_refl _, List.prefix_append ..⟩

/-- All deliveries have the format that the source was opened with. -/
def FormatFits (st : Standing σ) : Prop := ∀ h ∈ st.handed, st.format = some h.2

theorem formatFits_of_move (hm : Move st st') (hc : CallsFit st) (h : FormatFits st) :
    FormatFits st' := by
  cases hm with
  | pass | addStage | shut | bindFails | stop | leave | release => exact h
  | bind source format hp =>
    -- nothing can have been handed out while the format was not known
    intro x hx
    have hf := h x hx
    rw [(hc.of_idle hp).1] at hf
    cases hf
  | start source format _ hf | startFails source format _ _ hf =>
    intro x hx
    rcases List.mem_append.1 hx with hx | hx
    · exact h x hx
    · rw [List.mem_singleton.1 hx]
      exact hf

/-- A format stays once the source was opened. -/
theorem format_of_move (hm : Move st st') {format : AudioFormat}
    (h : st.phase ≠ .idle ∧ st.format = some format) :
    st'.phase ≠ .idle ∧ st'.format = some format := by
  cases hm with
  | pass | addStage | shut | startFails => exact h
  | bind _ _ hp | bindFails _ _ hp | leave hp => exact absurd hp h.1
  | start | stop | release => exact ⟨nofun, h.2⟩

end

namespace Pipeline

variable {σ : Type} [CaptureSource σ] {p : Pipeline σ}

/-- A format that is known stays. -/
theorem format_performAll {format : AudioFormat} (hp : p.phase ≠ .idle) (hf : p.format = some format)
    (ops : List Operation) : (p.performAll ops).format = some format :=
  ((performAll_moves p ops).preserves (P := fun st => st.phase ≠ .idle ∧ st.format = some format)
    (fun _ _ hm => format_of_move hm) ⟨hp, hf⟩).2

theorem formatFits_lived (source : σ) (ops : List Operation) :
    FormatFits (lived source ops).standing :=
  (lived_induct (P := fun st => CallsFit st ∧ FormatFits st) (fun _ => ⟨⟨rfl, rfl⟩, nofun⟩)
    (fun _ _ hm h => ⟨callsFit_of_move hm h.1, formatFits_of_move hm h.1 h.2⟩) source ops).2

theorem follows_lived (source : σ) (ops : List Operation) :
    Follows (Exchange.lived source ops).isOpen (Exchange.lived source ops) (lived source ops) := by
  have hnew : Follows ({ source } : Exchange σ).isOpen ({ source } : Exchange σ) { source } :=
    .new source []
  exact hnew.performAll ops

theorem faithful_lived (source : σ) (ops : List Operation) : Faithful (lived source ops) :=
  (follows_lived source ops).accounted.faithful

theorem handout_performAll (hf : Faithful p) {k : Nat} (hk : k < p.deliveries.length)
    (ops : List Operation) : (p.performAll ops).handout k = p.handout k :=
  (performAll_ticks p ops).handout hf hk

/-- The format of a source that was opened is known. -/
theorem format_openDevice {format : AudioFormat} (h : p.openDevice.1 = .ok format) :
    p.openDevice.2.phase ≠ .idle ∧ p.openDevice.2.format = some format := by
  by_cases hp : p.phase = .idle
  · cases hr : (CaptureSource.openDevice p.source).result with
    | error f =>
      rw [(openDevice_error hp hr).1] at h
      cases h
    | ok format' =>
      obtain ⟨ho, hst⟩ := openDevice_ok hp hr
      rw [ho] at h
      cases h
      refine ⟨?_, congrArg Standing.format hst⟩
      rw [show p.openDevice.2.phase = .opened from congrArg Standing.phase hst]
      decide
  · rw [openDevice_again hp] at h
    cases h

/-- A start that reaches the source hands out the stages of now. -/
theorem handout_start {format : AudioFormat} (h : p.phase = .opened) (hf : p.format = some format) :
    p.start.2.handout p.deliveries.length = some (p.stages, format) ∧
      p.start.2.deliveries.length = p.deliveries.length + 1 := by
  have hh : p.start.2.standing.handed = p.standing.handed ++ [(p.standing.stages.length, format)] ∧
      p.start.2.standing.stages = p.standing.stages := by
    cases hr : (CaptureSource.start p.deliveries.length p.source).result with
    | ok u =>
      rw [(start_ok h hf hr).2]
      exact ⟨rfl, rfl⟩
    | error f =>
      rw [(start_error h hf hr).2]
      exact ⟨rfl, rfl⟩
  have hl : p.standing.handed.length = p.deliveries.length := by simp [standing]
  constructor
  · rw [handout, Standing.handout, hh.1, hh.2, ← hl]
    simp
    rfl
  · have hlen := congrArg List.length hh.1
    simpa [standing] using hlen

/-- What a start handed out stays what it is. -/
theorem handout_since_start (source : σ) (before after : List Operation) {format : AudioFormat}
    (hp : (lived source before).phase = .opened) (hf : (lived source before).format = some format) :
    (lived source (before ++ .start :: after)).handout (lived source before).deliveries.length =
      some ((lived source before).stages, format) := by
  obtain ⟨hh, hl⟩ := handout_start hp hf
  have hfaithful : Faithful (lived source (before ++ [.start])) := faithful_lived ..
  rw [lived_append] at hfaithful
  have hk : (lived source before).deliveries.length <
      ((lived source before).perform .start).deliveries.length := by
    rw [perform, hl]
    omega
  rw [← hh, lived_append, performAll_cons]
  exact handout_performAll hfaithful hk after

/-- The format that a source was opened with stays known. -/
theorem format_since_open (source : σ) (before after : List Operation) {format : AudioFormat}
    (hr : (lived source before).openDevice.1 = .ok format) :
    (lived source (before ++ .openDevice :: after)).format = some format := by
  obtain ⟨hphase, hformat⟩ := format_openDevice hr
  rw [lived_append, performAll_cons]
  exact format_performAll hphase hformat after

/-- **No buffer is lost, and none is counted twice**, over whatever source and in whatever order a
pipeline is used. It has all that the source sent from inside its calls, between them and at the end.
Its counters are those of the buffers that came through deliveries; and its stages took exactly what
the delivered ones bring, each on its way through the stages that there were when its delivery was
handed out, in the format that the source was opened with. -/
theorem buffers_conserved (source : σ) (ops : List Operation) :
    let p := lived source ops
    let x := Exchange.lived source ops
    p.journal.signals = x.signals ∧
      p.diagnostics = .ofIntakes x.intakes ∧
      p.diagnostics.buffersDelivered + p.diagnostics.emptyBuffers +
        p.diagnostics.buffersDroppedAfterStop = UInt64.ofNat x.intakes.length ∧
      p.journal.processed = ways p.handout x.intakes ∧
      (∀ before after format, ops = before ++ .start :: after →
        (lived source before).phase = .opened → (lived source before).format = some format →
        p.handout (lived source before).deliveries.length =
          some ((lived source before).stages, format)) ∧
      (∀ before after format, ops = before ++ .openDevice :: after →
        (lived source before).openDevice.1 = .ok format → p.format = some format) ∧
      (∀ a ∈ x.intakes, ∃ chain format, p.handout a.delivery = some (chain, format)) ∧
      ∀ k chain format, p.handout k = some (chain, format) → p.format = some format := by
  intro p x
  have hfollows := follows_lived source ops
  have hcounted : p.diagnostics = .ofIntakes x.intakes := hfollows.accounted.counted
  refine ⟨hfollows.signals, hcounted, ?_, hfollows.accounted.taken, ?_, ?_,
    fun _ => hfollows.accounted.handed_out, ?_⟩
  · rw [hcounted, ← Intake.countP_kinds x.intakes, UInt64.ofNat_add, UInt64.ofNat_add]
    rfl
  · rintro before after format rfl hp hf
    exact handout_since_start source before after hp hf
  · rintro before after format rfl hr
    exact format_since_open source before after hr
  · intro k chain format hh
    change (lived source ops).handout k = _ at hh
    rw [handout, Standing.handout] at hh
    obtain ⟨h, hmem, he⟩ := Option.map_eq_some_iff.1 hh
    cases he
    exact formatFits_lived source ops h (List.mem_of_getElem? hmem)

/-- A source that sends two buffers while it is started, the second one empty, another one between
the calls, and one each from inside a stop that fails and a release. -/
def chatty : Rehearsal :=
  { startBuffers := [.full [0, 0, 0, 0], .full []]
    traffic := [([.full [0, 0, 0, 0, 0, 0, 0, 0]], [])]
    stopBuffers := [.full [0, 0]]
    stopFault := some (.captureFault "device lost")
    closeBuffers := [.full [0, 0, 0, 0]] }

/-- A stage that fails on every buffer. -/
def jammed : Stage := ⟨"export", .handle fun _ => some (.captureFault "disk full")⟩

/-- Of the five buffers of a chatty source two are delivered, one is empty and two find the gate
closed; those that are delivered go no further than the stage that fails. -/
theorem buffers_conserved_with_failing_stage :
    let chain : List Operation := [.addStage (.meter true), .addStage jammed, .addStage (.meter false)]
    let p := lived chatty (chain ++ [.openDevice, .start, .wait, .stop, .close])
    p.journal.signals.length = 5 ∧ p.diagnostics = ⟨2, 1, 2, 12⟩ ∧
      p.diagnostics.buffersDelivered + p.diagnostics.emptyBuffers +
        p.diagnostics.buffersDroppedAfterStop = 5 ∧
      p.journal.processed.map (·.1) = [0, 1, 0, 1] ∧
      p.handout 0 = some ([.meter true, jammed, .meter false], ⟨48000, 32, 2⟩) ∧
      p.format = some ⟨48000, 32, 2⟩ := by
  intro chain p
  obtain ⟨hsignals, hcounted, hsum, htaken, hstart, hopen, -⟩ := buffers_conserved chatty
    (chain ++ [.openDevice, .start, .wait, .stop, .close])
  refine ⟨?_, hcounted.trans (by decide +kernel), hsum.trans (by decide +kernel), ?_, ?_, ?_⟩
  · rw [hsignals]
    rfl
  · rw [htaken]
    decide +kernel
  · exact hstart (chain ++ [.openDevice]) [.wait, .stop, .close]
      ⟨48000, 32, 2⟩ rfl rfl rfl
  · exact hopen chain [.start, .wait, .stop, .close]
      ⟨48000, 32, 2⟩ rfl rfl

end Pipeline

end AirLoop
