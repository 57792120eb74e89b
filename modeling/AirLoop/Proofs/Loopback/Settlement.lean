import AirLoop.Proofs.Loopback.Custody
import AirLoop.Proofs.Loopback.Return

/-!
# Everything is given back

Whatever the caller and the thread do, what a loopback capture took from its device is in order, and
it is balanced as soon as there is no thread: after an opening that failed, after a close, and when
the capture was discarded (`loans_given_back`).
-/

namespace AirLoop

namespace Interplay

variable {x y : Interplay}

/-- The holdings of the capture are what its device has lent. -/
def Kept (x : Interplay) : Prop := Held x.capture.device.log x.capture.holdings

theorem kept_of_callerStep (hs : Situation x) (h : Kept x) (step : x.CallerStep y) : Kept y := by
  cases step with
  | openDevice hi => exact (LoopbackCapture.leads_openDevice (hs.sender_eq hi.1)).held h
  | refuseStart | sendStart | finishStart | sendStop | failStop | joined => exact h
  | skipStop | halted =>
    unfold halted
    split <;> exact h

theorem kept_of_threadStep (h : Kept x) (step : x.ThreadStep y) : Kept y := by
  cases step with
  | report => exact h
  | receive _ ht | disconnected _ ht => exact (LoopbackCapture.leads_obey ht _).held h
  | tick => exact (LoopbackCapture.leads_pump x.capture).held h

theorem kept_of_possible {device : AudioDevice} (h : Possible device x) : Kept x := by
  induction h with
  | refl => exact rfl
  | tail hx hs ih =>
    cases hs with
    | caller hs => exact kept_of_callerStep (accord_of_possible hx).situation ih hs
    | thread hs => exact kept_of_threadStep ih hs
    | supply queue arrivals => exact ih

/-! ## Giving up -/

theorem discarded_of_step (hd : x.discarded = true) (step : x.Step y) : y.discarded = true := by
  cases step with
  | caller hs =>
    cases hs with
    | openDevice hi | refuseStart hi | sendStart hi | skipStop hi | sendStop hi | failStop hi =>
      exact absurd (hd.symm.trans hi.2) nofun
    | finishStart | joined => exact hd
    | halted =>
      unfold halted
      split <;> exact hd
  | thread hs => cases hs <;> exact hd
  | supply => exact hd

/-- What is left of a capture that was discarded. -/
def Gone (x : Interplay) : Prop :=
  x.errand = .free ∧ x.capture.thread = none ∧ Balanced x.capture.device.log

theorem balanced_of_possible {device : AudioDevice} (h : Possible device x)
    (ht : x.capture.thread = none) : Balanced x.capture.device.log := by
  have hk := kept_of_possible h
  rw [Kept, LoopbackCapture.holdings, ht] at hk
  exact balanced_of_held hk

theorem gone_of_free {device : AudioDevice} (h : Possible device x) (hd : x.discarded = true)
    (he : x.errand = .free) : Gone x := by
  have ht : x.capture.thread = none := by
    rcases (accord_of_possible h).situation.of_discarded hd with ⟨-, ht⟩ | hw
    · exact ht
    · rcases hw with hw | hw <;> exact absurd (he.symm.trans hw) nofun
  exact ⟨he, ht, balanced_of_possible h ht⟩

/-- **A capture that is discarded gives back everything.** -/
theorem gone_of_discarded {device : AudioDevice} (h : Possible device x)
    (hd : x.discarded = true) : Inevitable Gone x := by
  have ha := accord_of_possible h
  rcases ha.situation.of_discarded hd with ⟨he, -⟩ | hw
  · exact .now (gone_of_free h hd he)
  · refine (comes_back ha hw).imp (I := fun x => Possible device x ∧ x.discarded = true)
      (fun x y hx hs => ⟨hx.1.tail hs, discarded_of_step hx.2 hs⟩)
      (fun x hx hr => gone_of_free hx.1 hx.2 hr.1) ⟨h, hd⟩

/-! ## The custody -/

/-- An opening that fails leaves nothing behind but the calls that were made. -/
theorem failed_opening {device : AudioDevice} (h : Possible device x) (hi : x.idle)
    (hs : x.capture.holdsSender = false) {f : Fault}
    (hf : x.capture.openDevice.result = .error f) :
    let c := x.capture.openDevice.source
    c = { x.capture with device := c.device } ∧ c.holdsSender = false ∧ c.thread = none ∧
      InOrder c.device.log ∧ Balanced c.device.log ∧
      ∃ rest, c.openDevice.source.device.calls = c.device.calls ++ .joinApartment :: rest := by
  intro c
  have hopen : Possible device x.openDevice := h.tail (.caller (.openDevice hi))
  have hnone : x.capture.thread = none := by
    have := (accord_of_possible h).situation.sender_eq hi.1
    rw [hs] at this
    simpa using this.symm
  have hc : c = { x.capture with device := c.device } := by
    rcases LoopbackCapture.openDevice_cases hs with ⟨detail, d, ho⟩ | ⟨s, d, line, ho⟩
    · obtain hd : c = { x.capture with device := d } := congrArg Reply.source ho
      rw [hd]
    · rw [ho] at hf
      cases hf
  have hsender : c.holdsSender = false := by
    rw [hc]
    exact hs
  have hthread : c.thread = none := by
    rw [hc]
    exact hnone
  exact ⟨hc, hsender, hthread, inOrder_of_held (kept_of_possible hopen),
    balanced_of_possible hopen hthread, LoopbackCapture.openDevice_joins hsender⟩

/-- **What is taken from the device is given back**, whatever the device refuses: always in its
order; all of it when there is no thread; inevitably so once the capture is discarded; and at once
if an opening fails, after which the capture is as before and the next opening starts anew. -/
theorem loans_given_back {device : AudioDevice} {x : Interplay}
    (h : Possible device x) :
    InOrder x.capture.device.log ∧
      (x.capture.thread = none → Balanced x.capture.device.log) ∧
      (x.discarded = true → Inevitable Gone x) ∧
      (x.idle → x.capture.holdsSender = false → ∀ f, x.capture.openDevice.result = .error f →
        let c := x.capture.openDevice.source
        c = { x.capture with device := c.device } ∧ c.holdsSender = false ∧ c.thread = none ∧
          InOrder c.device.log ∧ Balanced c.device.log ∧
          ∃ rest, c.openDevice.source.device.calls = c.device.calls ++ .joinApartment :: rest) :=
  ⟨inOrder_of_held (kept_of_possible h), balanced_of_possible h, gone_of_discarded h,
    fun hi hs _ hf => failed_opening h hi hs hf⟩

/-- The custody of a capture that was opened, had a fault and was discarded. -/
theorem loans_given_back_on_discard :
    discardedFaltering.discarded = true ∧ discardedFaltering.capture.thread = none ∧
      InOrder discardedFaltering.capture.device.log ∧
      Balanced discardedFaltering.capture.device.log ∧ Inevitable Gone discardedFaltering := by
  obtain ⟨hin, hbalanced, hgone, -⟩ := loans_given_back possible_discardedFaltering
  exact ⟨rfl, rfl, hin, hbalanced rfl, hgone rfl⟩

end Interplay

end AirLoop
