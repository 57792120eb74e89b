import AirLoop.Proofs.Capture.Life

/-!
# What a source is called for

A pipeline keeps to the contract with its source in whatever order it is used: the calls that it
has made, with their results, are a `Conversation` at every moment of every life, and each of them
was `Admissible` after those before it (`source_calls_orderly`). The phase and the format tell which
part of a conversation they are (`CallsFit`), and a move adds to them what that part allows.
-/

namespace AirLoop

/-- Starts that failed, one after another. -/
def failedStarts (fs : List Fault) : Calls := fs.map fun f => (.start, some f)

/-- The calls after which a device may be released: it could not be bound, or it was never started,
or it was stopped. -/
inductive Halted : Calls → Prop where
  | unbound (f : Fault) : Halted [(.openDevice, some f)]
  | unstarted (fs : List Fault) : Halted ((.openDevice, none) :: failedStarts fs)
  | stopped (fs : List Fault) (r : Option Fault) :
      Halted ((.openDevice, none) :: failedStarts fs ++ [(.start, none), (.stop, r)])

/-- The calls that the contract with a source allows. -/
inductive Conversation : Calls → Prop where
  | silent : Conversation []
  | halted {cs : Calls} : Halted cs → Conversation cs
  | running (fs : List Fault) :
      Conversation ((.openDevice, none) :: failedStarts fs ++ [(.start, none)])
  | released {cs : Calls} (r : Option Fault) : Halted cs → Conversation (cs ++ [(.closeDevice, r)])

/-- What must have come before a call, and what must not. -/
structure Admissible (before : Calls) (c : SourceCall) : Prop where
  unreleased : ∀ x ∈ before, x.1 ≠ .closeDevice
  first : c = .openDevice → before = []
  bound : c = .start → (.openDevice, none) ∈ before
  started : c = .stop → (.start, none) ∈ before ∧ ∀ x ∈ before, x.1 ≠ .stop
  opened : c = .closeDevice → ∃ r, (.openDevice, r) ∈ before

/-- Every call was admissible when it was made. -/
def Orderly (cs : Calls) : Prop :=
  ∀ before c r after, cs = before ++ (c, r) :: after → Admissible before c

theorem orderly_nil : Orderly [] := by
  intro before c r after h
  simp at h

theorem Orderly.snoc {cs : Calls} {c : SourceCall} (h : Orderly cs) (r : Option Fault)
    (hc : Admissible cs c) : Orderly (cs ++ [(c, r)]) := by
  intro before c' r' after hs
  rcases List.eq_nil_or_concat after with rfl | ⟨after, last, rfl⟩
  · obtain ⟨rfl, hl⟩ := List.append_inj' hs rfl
    cases hl
    exact hc
  · rw [List.concat_eq_append, ← List.cons_append, ← List.append_assoc] at hs
    exact h before c' r' after (List.append_inj' hs rfl).1

/-! ## The calls of a standing -/

variable {σ : Type}

/-- Which part of a conversation a pipeline has had in each phase. -/
def CallsFit (st : Standing σ) : Prop :=
  match st.phase with
  | .idle => st.format = none ∧ st.calls = []
  | .opened =>
    (st.format = none ∧ ∃ f, st.calls = [(.openDevice, some f)]) ∨
      ∃ fs, st.calls = (.openDevice, none) :: failedStarts fs
  | .delivering => ∃ fs, st.calls = (.openDevice, none) :: failedStarts fs ++ [(.start, none)]
  | .stopped =>
    ∃ fs r, st.calls = (.openDevice, none) :: failedStarts fs ++ [(.start, none), (.stop, r)]
  | .closed => st.calls = [] ∨ ∃ cs r, Halted cs ∧ st.calls = cs ++ [(.closeDevice, r)]

theorem mem_failedStarts {fs : List Fault} {c : SourceCall × Option Fault} :
    c ∈ failedStarts fs ↔ ∃ f ∈ fs, (.start, some f) = c :=
  List.mem_map

theorem failedStarts_snoc (fs : List Fault) (f : Fault) :
    failedStarts (fs ++ [f]) = failedStarts fs ++ [(.start, some f)] := by
  simp only [failedStarts, List.map_append, List.map_cons, List.map_nil]

theorem not_closeDevice_of_halted {cs : Calls} (h : Halted cs) :
    ∀ x ∈ cs, x.1 ≠ .closeDevice := by
  cases h with
  | unbound f => simp
  | unstarted fs =>
    simp only [List.mem_cons, mem_failedStarts]
    rintro x (rfl | ⟨f, -, rfl⟩) <;> simp
  | stopped fs r =>
    simp only [List.cons_append, List.mem_cons, List.mem_append, mem_failedStarts]
    rintro x (rfl | ⟨f, -, rfl⟩ | rfl | rfl | h)
    · simp
    · simp
    · simp
    · simp
    · cases h

theorem openDevice_mem_of_halted {cs : Calls} (h : Halted cs) : ∃ r, (.openDevice, r) ∈ cs := by
  cases h with
  | unbound f => exact ⟨some f, by simp⟩
  | unstarted fs => exact ⟨none, by simp⟩
  | stopped fs r => exact ⟨none, by simp⟩

namespace CallsFit

variable {st : Standing σ}

theorem of_idle (h : CallsFit st) (hp : st.phase = .idle) : st.format = none ∧ st.calls = [] := by
  unfold CallsFit at h; rwa [hp] at h

theorem of_opened (h : CallsFit st) (hp : st.phase = .opened) {format : AudioFormat}
    (hf : st.format = some format) : ∃ fs, st.calls = (.openDevice, none) :: failedStarts fs := by
  unfold CallsFit at h
  rw [hp] at h
  rcases h with ⟨hn, -⟩ | h
  · rw [hf] at hn; cases hn
  · exact h

theorem of_delivering (h : CallsFit st) (hp : st.phase = .delivering) :
    ∃ fs, st.calls = (.openDevice, none) :: failedStarts fs ++ [(.start, none)] := by
  unfold CallsFit at h; rwa [hp] at h

theorem of_halted (h : CallsFit st) (hp : st.phase = .opened ∨ st.phase = .stopped) :
    Halted st.calls := by
  unfold CallsFit at h
  rcases hp with hp | hp <;> rw [hp] at h
  · rcases h with ⟨-, f, h⟩ | ⟨fs, h⟩
    · rw [h]; exact .unbound f
    · rw [h]; exact .unstarted fs
  · obtain ⟨fs, r, h⟩ := h
    rw [h]; exact .stopped fs r

theorem of_closed (h : CallsFit st) (hp : st.phase = .closed) :
    st.calls = [] ∨ ∃ cs r, Halted cs ∧ st.calls = cs ++ [(.closeDevice, r)] := by
  unfold CallsFit at h; rwa [hp] at h

theorem conversation (h : CallsFit st) : Conversation st.calls := by
  cases hp : st.phase with
  | idle => rw [(h.of_idle hp).2]; exact .silent
  | opened => exact .halted (h.of_halted (.inl hp))
  | delivering =>
    obtain ⟨fs, hc⟩ := h.of_delivering hp
    rw [hc]; exact .running fs
  | stopped => exact .halted (h.of_halted (.inr hp))
  | closed =>
    rcases h.of_closed hp with hc | ⟨cs, r, hh, hc⟩
    · rw [hc]; exact .silent
    · rw [hc]; exact .released r hh

/-- A pipeline whose start succeeded is delivering, or it was before. -/
theorem delivering_le (h : CallsFit st) (hs : (.start, none) ∈ st.calls) :
    Phase.delivering ≤ st.phase := by
  cases hp : st.phase with
  | idle => rw [(h.of_idle hp).2] at hs; cases hs
  | opened =>
    unfold CallsFit at h
    rw [hp] at h
    rcases h with ⟨-, f, h⟩ | ⟨fs, h⟩
    · rw [h] at hs; simp at hs
    · rw [h] at hs; simp [mem_failedStarts] at hs
  | delivering | stopped | closed => simp [Phase.le_iff, Phase.place]

theorem count_closeDevice (h : CallsFit st) (hp : st.phase = .closed) :
    (st.calls.map Prod.fst).count SourceCall.closeDevice =
      if .openDevice ∈ st.calls.map Prod.fst then 1 else 0 := by
  rcases h.of_closed hp with hc | ⟨cs, r, hh, hc⟩
  · rw [hc]; rfl
  · have hn : (cs.map Prod.fst).count SourceCall.closeDevice = 0 := by
      rw [List.count_eq_zero]
      intro hm
      obtain ⟨x, hx, hxc⟩ := List.mem_map.1 hm
      exact not_closeDevice_of_halted hh x hx hxc
    obtain ⟨r', ho⟩ := openDevice_mem_of_halted hh
    have hm : SourceCall.openDevice ∈ (cs ++ [(SourceCall.closeDevice, r)]).map Prod.fst :=
      List.mem_map.2 ⟨_, List.mem_append_left _ ho, rfl⟩
    rw [hc, if_pos hm, List.map_append, List.count_append, hn]
    rfl

end CallsFit

/-! ## Moves -/

/-- A move adds to the calls what the phase allows. -/
theorem callsFit_of_move {st st' : Standing σ} (hm : Move st st') (h : CallsFit st) :
    CallsFit st' := by
  cases hm with
  | pass | addStage | shut => exact h
  | bind source format hp =>
    exact .inr ⟨[], by rw [(h.of_idle hp).2]; rfl⟩
  | bindFails source f hp =>
    exact .inl ⟨(h.of_idle hp).1, f, by rw [(h.of_idle hp).2]; rfl⟩
  | start source format hp hf =>
    obtain ⟨fs, hc⟩ := h.of_opened hp hf
    exact ⟨fs, by rw [hc]⟩
  | startFails source format f hp hf =>
    obtain ⟨fs, hc⟩ := h.of_opened hp hf
    unfold CallsFit
    dsimp only
    rw [hp, hc]
    exact .inr ⟨fs ++ [f], by rw [failedStarts_snoc]; rfl⟩
  | stop source failure hp =>
    obtain ⟨fs, hc⟩ := h.of_delivering hp
    exact ⟨fs, failure, by rw [hc]; simp⟩
  | leave hp => exact .inl (h.of_idle hp).2
  | release source failure hp => exact .inr ⟨_, failure, h.of_halted hp, rfl⟩

/-- A move makes a call only when it is admissible. -/
theorem orderly_of_move {st st' : Standing σ} (hm : Move st st') (h : CallsFit st)
    (ho : Orderly st.calls) : Orderly st'.calls := by
  cases hm with
  | pass | addStage | shut | leave => exact ho
  | bind source format hp =>
    rw [(h.of_idle hp).2] at ho ⊢
    exact ho.snoc none ⟨by simp, by simp, by simp, by simp, by simp⟩
  | bindFails source f hp =>
    rw [(h.of_idle hp).2] at ho ⊢
    exact ho.snoc (some f) ⟨by simp, by simp, by simp, by simp, by simp⟩
  | start source format hp hf =>
    obtain ⟨fs, hc⟩ := h.of_opened hp hf
    have hn := not_closeDevice_of_halted (.unstarted fs)
    rw [← hc] at hn
    exact ho.snoc none ⟨hn, by simp, by simp [hc], by simp, by simp⟩
  | startFails source format f hp hf =>
    obtain ⟨fs, hc⟩ := h.of_opened hp hf
    have hn := not_closeDevice_of_halted (.unstarted fs)
    rw [← hc] at hn
    exact ho.snoc (some f) ⟨hn, by simp, by simp [hc], by simp, by simp⟩
  | stop source failure hp =>
    obtain ⟨fs, hc⟩ := h.of_delivering hp
    have hk : ∀ x ∈ st.calls, x.1 = .openDevice ∨ x.1 = .start := by
      rw [hc]
      simp only [List.cons_append, List.mem_cons, List.mem_append, mem_failedStarts]
      rintro x (rfl | ⟨f, -, rfl⟩ | rfl | h)
      · exact .inl rfl
      · exact .inr rfl
      · exact .inr rfl
      · cases h
    refine ho.snoc failure ⟨?_, by simp, by simp, fun _ => ⟨by simp [hc], ?_⟩, by simp⟩
    · intro x hx
      rcases hk x hx with h | h <;> rw [h] <;> decide
    · intro x hx
      rcases hk x hx with h | h <;> rw [h] <;> decide
  | release source failure hp =>
    have hh := h.of_halted hp
    exact ho.snoc failure
      ⟨not_closeDevice_of_halted hh, by simp, by simp, by simp, fun _ => openDevice_mem_of_halted hh⟩

namespace Pipeline

variable [CaptureSource σ]

theorem callsFit_lived (source : σ) (ops : List Operation) :
    CallsFit (lived source ops).standing :=
  lived_induct (fun _ => ⟨rfl, rfl⟩) (fun _ _ => callsFit_of_move) source ops

theorem orderly_lived (source : σ) (ops : List Operation) :
    Orderly (lived source ops).journal.calls :=
  (lived_induct (P := fun st => CallsFit st ∧ Orderly st.calls)
    (fun _ => ⟨⟨rfl, rfl⟩, orderly_nil⟩)
    (fun _ _ hm h => ⟨callsFit_of_move hm h.1, orderly_of_move hm h.1 h.2⟩) source ops).2

/-- A pipeline that was dropped is closed, whatever came before and after. -/
theorem phase_of_dropped {source : σ} {ops : List Operation} (h : .drop ∈ ops) :
    (lived source ops).phase = .closed := by
  obtain ⟨before, after, rfl⟩ := List.append_of_mem h
  rw [lived_append, performAll_cons]
  exact phase_performAll_of_closed _ (phase_drop _) after

/-- **A source is called as its contract says**, over whatever source and in whatever order a
pipeline is used: its calls with their results are a conversation, each was admissible when it was
made, and once the pipeline is dropped the device has been released once if it was ever asked for,
and else not at all. -/
theorem source_calls_orderly (source : σ) (ops : List Operation) :
    Conversation (lived source ops).journal.calls ∧
      Orderly (lived source ops).journal.calls ∧
      (.drop ∈ ops →
        ((lived source ops).journal.calls.map Prod.fst).count SourceCall.closeDevice =
          if .openDevice ∈ (lived source ops).journal.calls.map Prod.fst then 1 else 0) :=
  ⟨(callsFit_lived source ops).conversation, orderly_lived source ops, fun h =>
    (callsFit_lived source ops).count_closeDevice (phase_of_dropped h)⟩

end Pipeline
end AirLoop
