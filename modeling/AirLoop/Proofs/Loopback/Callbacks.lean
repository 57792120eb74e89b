import AirLoop.Proofs.Loopback.Settlement

/-!
# Who is called back, and when

Only the delivery of the latest start is ever called back, and none from the return of a halt to the
next start. A delivery has at most one fault, which is the failure of the device that struck it, and
is not called back after it. And the stream runs exactly as long as the thread holds a delivery
(`callbacks_disciplined`).
-/

namespace AirLoop

open LoopbackHistory

/-- The rules that every callback keeps to. -/
structure Disciplined (h : LoopbackHistory) : Prop where
  /-- from the return of a halt to the next start nobody is called back -/
  silent : ∀ a call f b e c k, h = a ++ .returned call f :: (b ++ e :: c) → call.halts = true →
    e.callback? = some k → .sent (.start k) ∈ b
  /-- whoever is called back is the delivery of the latest start -/
  latest : ∀ a e b k, h = a ++ e :: b → e.callback? = some k →
    ∃ c d, a = c ++ .sent (.start k) :: d ∧ ∀ j, .sent (.start j) ∉ d
  /-- nobody is called back after a fault -/
  last : ∀ a k f b, h = a ++ .signalled (.fault k f) :: b → ∀ e ∈ b, e.callback? ≠ some k
  /-- nobody has two faults -/
  once : ∀ k, (faults k h).length ≤ 1
  /-- a fault is the failure of the device that struck the delivery -/
  justified : ∀ k, faults k h <+: failures k h

theorem fault?_eq {e : LoopbackEvent} {k : Nat} {f : Fault} (h : e.fault? k = some f) :
    e = .signalled (.fault k f) := by
  cases e with
  | signalled s =>
    cases s with
    | fault j g =>
      by_cases hj : j = k
      · obtain rfl : g = f := by simpa [LoopbackEvent.fault?, hj] using h
        rw [hj]
      · simp [LoopbackEvent.fault?, hj] at h
    | buffer | log => cases h
  | sent | asked | fetched | returned => cases h

namespace Interplay

variable {x : Interplay}

/-- Whoever is called back has the word. -/
theorem Chronicle.word (h : Chronicle x) {a b : LoopbackHistory} {e : LoopbackEvent} {k : Nat}
    (hh : x.history = a ++ e :: b) (he : e.callback? = some k) :
    LoopbackHistory.voice none a = some k := by
  have hs := h.spoken
  rw [hh, List.append_assoc, spoken_append] at hs
  exact hs.2.1 k he

theorem sent_of_voice {h : LoopbackHistory} {k : Nat}
    (hv : LoopbackHistory.voice none h = some k) : .sent (.start k) ∈ h := by
  obtain ⟨a, b, rfl, -⟩ := voice_some hv
  exact List.mem_append_right _ (List.mem_cons_self ..)

/-- A delivery that was called back after its fault would have been started twice. -/
theorem silent_after_fault (hc : Chronicle x) (hl : Ledger x) {a b : LoopbackHistory} {k : Nat}
    {f : Fault} (hh : x.history = a ++ .signalled (.fault k f) :: b) {e : LoopbackEvent}
    (hmem : e ∈ b) : e.callback? ≠ some k := by
  intro he
  obtain ⟨c, d, rfl⟩ := List.append_of_mem hmem
  have hsplit : x.history = (a ++ .signalled (.fault k f) :: c) ++ e :: d := by simp [hh]
  have hbefore : k ∈ started a := mem_started.2 (sent_of_voice (hc.word hh rfl))
  have hafter : k ∈ started c := by
    have hw := hc.word hsplit he
    rw [voice_append] at hw
    exact mem_started.2 (sent_of_voice hw)
  have hn := hl.numbered
  rw [hh, started_append, List.pairwise_append] at hn
  refine Nat.lt_irrefl k (hn.2.2 k hbefore k ?_)
  rw [mem_started] at hafter ⊢
  simp [hafter]

theorem fault_once (hc : Chronicle x) (hl : Ledger x) (k : Nat) :
    (faults k x.history).length ≤ 1 := by
  cases hf : faults k x.history with
  | nil => exact Nat.zero_le _
  | cons f fs =>
    obtain ⟨a, e, b, hh, -, he, rfl⟩ := List.filterMap_eq_cons_iff.1 hf
    obtain rfl := fault?_eq he
    have hnone : b.filterMap (LoopbackEvent.fault? k) = [] := by
      refine List.filterMap_eq_nil_iff.2 fun d hd => Option.eq_none_iff_forall_ne_some.2 ?_
      intro g hg
      exact silent_after_fault hc hl hh hd (by rw [fault?_eq hg]; rfl)
    rw [hnone]
    exact Nat.le_refl _

/-- **Every callback keeps to the rules.** -/
theorem disciplined_of_possible {device : AudioDevice} (h : Possible device x) :
    Disciplined x.history := by
  have hc := chronicle_of_possible h
  have hl := ledger_of_possible h
  refine ⟨?_, ?_, fun a k f b hh e hmem => silent_after_fault hc hl hh hmem, fault_once hc hl, ?_⟩
  · intro a call f b e c k hh hhalt he
    have hsplit : x.history = (a ++ .returned call f :: b) ++ e :: c := by simp [hh]
    have hv : (LoopbackEvent.returned call f).voice (LoopbackHistory.voice none a) = none :=
      if_pos hhalt
    have hw := hc.word hsplit he
    rw [voice_append, voice_cons, hv] at hw
    exact sent_of_voice hw
  · intro a e b k hh he
    obtain ⟨c, d, hcd, hd⟩ := voice_some (hc.word hh he)
    exact ⟨c, d, hcd, fun j hj => nomatch (hd _ hj).1⟩
  · intro k
    have := hc.justified k [] List.nil_prefix
    simpa using this

/-- **The stream runs exactly as long as a delivery is held.** -/
theorem running_iff_held {device : AudioDevice} (h : Possible device x) {t : CaptureThread}
    (ht : x.capture.thread = some t) :
    Running x.capture.device.log ↔ t.delivery.isSome = true := by
  have hk := kept_of_possible h
  rw [Kept, LoopbackCapture.holdings_of_thread ht] at hk
  exact hk.count.2.symm

/-- **The discipline of callbacks**, whatever the two sides do, in whatever order, and whatever the
device has and refuses: every callback keeps to the rules; a start that returned is one that was
sent unless it failed; once all is reported, each delivery has had a fault exactly if the device
refused to start the stream for it or fetching its packets failed; and whenever the thread is between
two rounds, the stream runs exactly if a delivery is held. -/
theorem callbacks_disciplined {device : AudioDevice} {x : Interplay}
    (h : Possible device x) :
    Disciplined x.history ∧
      (∀ k f, .returned (.start k) f ∈ x.history → (f = none ↔ .sent (.start k) ∈ x.history)) ∧
      (∀ k, faults k (x.history ++ x.pending) = failures k (x.history ++ x.pending)) ∧
      ∀ t, x.capture.thread = some t →
        (Running x.capture.device.log ↔ t.delivery.isSome = true) := by
  have hl := ledger_of_possible h
  refine ⟨disciplined_of_possible h, fun k f hr => ?_, (chronicle_of_possible h).faults,
    fun _ => running_iff_held h⟩
  cases f with
  | none => exact iff_of_true rfl (mem_started.1 (hl.accepted k hr))
  | some f => exact iff_of_false nofun fun hs => (hl.refused k f hr).2.1 (mem_started.2 hs)

/-- The callbacks of a capture whose delivery had a fault, which is the only one. -/
theorem fetch_failure_faults_once :
    faltering.history.filterMap LoopbackEvent.callback? = [0] ∧ Disciplined faltering.history ∧
      faults 0 (faltering.history ++ faltering.pending) = [.captureFault "GetBuffer failed: gone"] ∧
      ¬ Running faltering.capture.device.log := by
  obtain ⟨hdisciplined, -, hfaults, hrunning⟩ := callbacks_disciplined possible_faltering
  refine ⟨rfl, hdisciplined, (hfaults 0).trans rfl, fun hr => ?_⟩
  exact nomatch (hrunning ⟨falteringStream, none⟩ rfl).1 hr

end Interplay

end AirLoop
