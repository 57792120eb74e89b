import AirLoop.Proofs.Loopback.Agreement

/-!
# One call after another

A loopback capture that is called step by step is one of the ways in which the caller and the thread
can go on: each of its calls, and each time between two calls, is some steps of the two sides from
one state at rest to the next (`serial_of_call`, `serial_of_idle`). So what holds of all of them holds
of the calls.
-/

namespace AirLoop

/-! ## What a call answers -/

/-- A call's failure, what was reported meanwhile, and the capture afterwards. -/
structure CallOutcome where
  failure : Option Fault
  signals : List Signal
  capture : LoopbackCapture

/-- A reply, without the value. -/
def Reply.outcome {α : Type} (r : Reply LoopbackCapture α) : CallOutcome :=
  ⟨r.failure, r.signals, r.source⟩

/-- What becomes of a call. -/
def LoopbackCapture.call (c : LoopbackCapture) : LoopbackCall → CallOutcome
  | .openDevice => c.openDevice.outcome
  | .start k => (c.start k).outcome
  | .stop => c.stop.outcome
  | .closeDevice => c.closeDevice.outcome
  | .discard => ⟨none, c.discard.1, c.discard.2⟩

/-- What was reported in a history. -/
def LoopbackHistory.signals (h : LoopbackHistory) : List Signal :=
  h.filterMap fun
    | .signalled s => some s
    | _ => none

@[simp] theorem LoopbackHistory.signals_append (a b : LoopbackHistory) :
    LoopbackHistory.signals (a ++ b) = LoopbackHistory.signals a ++ LoopbackHistory.signals b :=
  List.filterMap_append

@[simp] theorem LoopbackHistory.signals_signalled (signals : List Signal) :
    LoopbackHistory.signals (signals.map .signalled) = signals := by
  induction signals with
  | nil => rfl
  | cons s signals ih => exact congrArg (s :: ·) ih

namespace Interplay

open LoopbackHistory

variable {x y : Interplay}

/-- Nothing is under way. -/
structure Rests (x : Interplay) : Prop where
  errand : x.errand = .free
  commands : x.commands = []
  pending : x.pending = []
  acknowledged : x.acknowledged = false

theorem startRefusal_some {c : LoopbackCapture} {f : Fault} (h : c.startRefusal = some f) (k : Nat) :
    c.start k = c.refuse f := by
  unfold LoopbackCapture.startRefusal at h
  unfold LoopbackCapture.start
  by_cases hd : c.delivering = true
  · rw [if_pos hd] at h ⊢
    cases h
    rfl
  · rw [if_neg hd] at h ⊢
    cases hr : c.recipient with
    | error g =>
      rw [hr] at h
      cases h
      rfl
    | ok t =>
      rw [hr] at h
      cases h

/-! ## Calls -/

/-- What a call is as steps: from rest to rest, with the same outcome. -/
structure Serial (x : Interplay) (call : LoopbackCall) (o : CallOutcome) (y : Interplay) : Prop where
  steps : Steps x y
  rests : Rests y
  capture : y.capture = o.capture
  history : ∃ events, y.history = x.history ++ events ++ [.returned call o.failure] ∧
    signals events = o.signals
  discarded : y.discarded = decide (call = .discard)

theorem serial_openDevice (hr : x.Rests) (hd : x.discarded = false) :
    Serial x .openDevice x.capture.openDevice.outcome x.openDevice where
  steps := .single (.caller (.openDevice ⟨hr.errand, hd⟩))
  rests := ⟨hr.errand, hr.commands, hr.pending, hr.acknowledged⟩
  capture := rfl
  history := ⟨_, (List.append_assoc ..).symm, signals_signalled _⟩
  discarded := hd

theorem serial_refuseStart (hr : x.Rests) (hd : x.discarded = false) {f : Fault}
    (hf : x.capture.startRefusal = some f) :
    Serial x (.start x.starts) (x.capture.start x.starts).outcome (x.refuseStart f) := by
  rw [startRefusal_some hf]
  exact
    { steps := .single (.caller (.refuseStart ⟨hr.errand, hd⟩ hf))
      rests := ⟨hr.errand, hr.commands, hr.pending, hr.acknowledged⟩
      capture := rfl
      history := ⟨[], by rw [List.append_nil]; rfl, rfl⟩
      discarded := hd }

theorem signals_fetching (c : LoopbackCapture) : signals c.fetching = [] := by
  unfold LoopbackCapture.fetching
  split <;> rfl

/-- A round reports what the thread signals. -/
theorem signals_round (c : LoopbackCapture) (t : CaptureThread) (command : Command) :
    signals (c.round t command).1 = (c.obey t command).1 := by
  unfold LoopbackCapture.round
  rw [signals_append, signals_signalled]
  cases command with
  | start k => exact congrArg (· ++ _) (signals_fetching (c.beginDelivery t k).2)
  | stop | close => rfl

theorem start_accepted {c : LoopbackCapture} {t : CaptureThread} (hd : c.delivering = false)
    (hr : c.recipient = .ok t) (k : Nat) :
    (c.start k).outcome =
      let told := ({ c with delivering := true } : LoopbackCapture).obey t (.start k)
      ⟨none, told.1, told.2⟩ := by
  simp only [LoopbackCapture.start, hd, hr]
  rfl

theorem serial_sendStart (hr : x.Rests) (hd : x.discarded = false)
    (hf : x.capture.startRefusal = none) :
    ∃ y, Serial x (.start x.starts) (x.capture.start x.starts).outcome y := by
  obtain ⟨hdel, t, hrec⟩ := LoopbackCapture.startRefusal_none hf
  have ht := LoopbackCapture.thread_of_recipient hrec
  have hsent : Steps x x.sendStart := .single (.caller (.sendStart ⟨hr.errand, hd⟩ hf))
  have hreceived : Steps x.sendStart (x.sendStart.receive t (.start x.starts) []) := by
    refine .single (.thread (.receive hr.pending ht ?_))
    simp [sendStart, hr.commands]
  let told : LoopbackCapture := { x.capture with delivering := true }
  rw [start_accepted hdel hrec]
  refine ⟨((x.sendStart.receive t (.start x.starts) []).reportAll).finishStart x.starts,
    ((hsent.trans hreceived).trans (steps_reportAll _)).tail (.caller (.finishStart rfl)),
    ⟨rfl, rfl, rfl, rfl⟩, rfl,
    ⟨.sent (.start x.starts) :: (told.round t (.start x.starts)).1, ?_,
      signals_round told t (.start x.starts)⟩, hd⟩
  show x.history ++ [.sent (.start x.starts)] ++ (told.round t (.start x.starts)).1 ++
    [.returned (.start x.starts) none] = _
  simp

theorem stop_sent {c : LoopbackCapture} {t : CaptureThread} (hd : c.delivering = true)
    (hr : c.recipient = .ok t) :
    c.stop =
      let told := ({ c with delivering := false } : LoopbackCapture).obey t .stop
      { result := .ok (), signals := told.1, source := told.2 } := by
  have hr : ({ c with delivering := false } : LoopbackCapture).recipient = .ok t := hr
  simp only [LoopbackCapture.stop, hd, hr]
  rfl

/-- Nothing is delivered any more, and a call that halts goes on from there. -/
structure Halted (x : Interplay) (call : LoopbackCall) (z : Interplay) : Prop where
  steps : Steps x (z.halted call)
  commands : z.commands = []
  pending : z.pending = []
  acknowledged : z.acknowledged = false
  capture : z.capture = x.capture.stop.source
  history : ∃ events, z.history = x.history ++ events ∧ signals events = x.capture.stop.signals
  sender : z.capture.holdsSender = z.capture.thread.isSome
  handle : z.capture.holdsThread = z.capture.thread.isSome
  discarded : z.discarded = decide (call = .discard)

theorem halted_of_call (h : Accord x) (hr : x.Rests) (hd : x.discarded = false)
    (call : LoopbackCall) (hc : call.halts = true) :
    x.capture.stop.result = .ok () ∧ ∃ z, Halted x call z := by
  have hidle : x.idle := ⟨hr.errand, hd⟩
  have hsender := h.situation.sender_eq hr.errand
  have hhandle := h.situation.handle_eq hr.errand
  by_cases hdel : x.capture.delivering = true
  · obtain ⟨t, hrec⟩ := h.situation.recipient_of_delivering hr.errand hdel
    have ht := LoopbackCapture.thread_of_recipient hrec
    let told : LoopbackCapture := { x.capture with delivering := false }
    have hsent : Steps x ((x.enter call).sendStop call) :=
      .single (.caller (.sendStop hidle hc hdel hrec))
    let z := ((x.enter call).sendStop call).receive t .stop []
    have hreceived : Steps ((x.enter call).sendStop call) z := by
      refine .single (.thread (.receive hr.pending ht ?_))
      simp [enter, sendStop, hr.commands]
    rw [stop_sent hdel hrec]
    refine ⟨rfl, { z with acknowledged := false },
      (hsent.trans hreceived).tail (.caller (.halted rfl (.inl rfl))), rfl, rfl, rfl, ?_,
      ⟨[.sent .stop], rfl, ?_⟩, ?_, ?_, rfl⟩
    · rw [stop_sent hdel hrec]
      rfl
    · rw [stop_sent hdel hrec]
      rfl
    · exact hsender.trans (by rw [ht]; rfl)
    · exact hhandle.trans (by rw [ht]; rfl)
  · have hdel : x.capture.delivering = false := by simpa using hdel
    have hstop : x.capture.stop = { result := .ok (), source := x.capture } := by
      simp [LoopbackCapture.stop, hdel]
    rw [hstop]
    refine ⟨rfl, x.enter call, .single (.caller (.skipStop hidle hc hdel)), hr.commands, hr.pending,
      hr.acknowledged, ?_, ⟨[], (List.append_nil _).symm, ?_⟩, hsender, hhandle, rfl⟩
    · rw [hstop]
      rfl
    · rw [hstop]
      rfl

theorem serial_stop (h : Accord x) (hr : x.Rests) (hd : x.discarded = false) :
    ∃ y, Serial x .stop x.capture.stop.outcome y := by
  obtain ⟨hok, z, hz⟩ := halted_of_call h hr hd .stop rfl
  obtain ⟨events, hh, hsignals⟩ := hz.history
  have hfailure : x.capture.stop.outcome.failure = none := by
    rw [Reply.outcome, Reply.failure, hok]
  refine ⟨z.halted .stop, hz.steps, ⟨rfl, hz.commands, hz.pending, hz.acknowledged⟩, hz.capture,
    ⟨events, ?_, hsignals⟩, hz.discarded⟩
  rw [hfailure, ← hh]
  rfl

theorem closeDevice_serving {c : LoopbackCapture} (hok : c.stop.result = .ok ())
    {t : CaptureThread} (ht : c.stop.source.thread = some t) :
    c.closeDevice.outcome =
      let told := c.stop.source.obey t .close
      ⟨none, c.stop.signals ++ told.1,
        { told.2 with holdsSender := false, holdsThread := false }⟩ := by
  simp only [LoopbackCapture.closeDevice, hok, ht]
  rfl

theorem closeDevice_gone {c : LoopbackCapture} (hok : c.stop.result = .ok ())
    (ht : c.stop.source.thread = none) (hh : c.stop.source.holdsThread = false) :
    c.closeDevice.outcome =
      ⟨none, c.stop.signals, { c.stop.source with holdsSender := false, holdsThread := false }⟩ := by
  simp only [LoopbackCapture.closeDevice, hok, ht, hh]
  exact congrArg (CallOutcome.mk none · _) (List.append_nil _)

theorem serial_ends (h : Accord x) (hr : x.Rests) (hd : x.discarded = false)
    {call : LoopbackCall} (hc : call.halts = true) (he : call.ends = true) :
    ∃ y, Serial x call x.capture.closeDevice.outcome y := by
  obtain ⟨hok, z, hz⟩ := halted_of_call h hr hd call hc
  obtain ⟨events, hh, hsignals⟩ := hz.history
  have hsteps : Steps x (z.halted call) := hz.steps
  cases ht : z.capture.thread with
  | some t =>
    have hfarewell : z.capture.farewell = [.close] := by
      have := hz.sender
      rw [ht] at this
      simp [LoopbackCapture.farewell, ht, this]
    rw [closeDevice_serving hok (hz.capture ▸ ht)]
    let told : LoopbackCapture := { z.capture with holdsSender := false }
    let sent : Interplay :=
      { z.record [.sent .close] with
        capture := told, commands := [.close], errand := .joining call }
    have hsent : z.halted call = sent := by
      rw [halted, if_pos he, hfarewell, hz.commands]
      rfl
    rw [hsent] at hsteps
    have hreceived : Steps x (sent.receive t .close []) :=
      hsteps.tail (.thread (.receive hz.pending ht rfl))
    refine ⟨(sent.receive t .close []).reportAll.joined call,
      (hreceived.trans (steps_reportAll _)).tail (.caller (.joined rfl rfl rfl)),
      ⟨rfl, rfl, rfl, rfl⟩, ?_, ⟨events ++ .sent .close :: (told.round t .close).1, ?_, ?_⟩,
      hz.discarded⟩
    · rw [← hz.capture]
      rfl
    · show z.history ++ [.sent .close] ++ (told.round t .close).1 ++ [.returned call none] = _
      simp [hh]
    · rw [signals_append, hsignals, ← hz.capture]
      exact congrArg (_ ++ ·) (signals_round told t .close)
  | none =>
    have hfarewell : z.capture.farewell = [] := by simp [LoopbackCapture.farewell, ht]
    have hsent : z.halted call =
        { z with capture := { z.capture with holdsSender := false }, errand := .joining call } := by
      rw [halted, if_pos he, hfarewell, hz.commands]
      simp [record, hz.commands]
    rw [hsent] at hsteps
    have hhandle : z.capture.holdsThread = false := by
      rw [hz.handle, ht]
      rfl
    rw [closeDevice_gone hok (hz.capture ▸ ht) (hz.capture ▸ hhandle)]
    refine ⟨_, hsteps.tail (.caller (.joined rfl ht hz.pending)),
      ⟨rfl, hz.commands, hz.pending, hz.acknowledged⟩, ?_, ⟨events, ?_, hsignals⟩, hz.discarded⟩
    · rw [← hz.capture]
      rfl
    · rw [← hh]
      rfl

/-- **Each call is a way for the two sides to go on**, with the same outcome. -/
theorem serial_of_call (h : Accord x) (hr : x.Rests) (hd : x.discarded = false)
    (call : LoopbackCall) (hk : ∀ k, call = .start k → k = x.starts) :
    ∃ y, Serial x call (x.capture.call call) y := by
  cases call with
  | openDevice => exact ⟨_, serial_openDevice hr hd⟩
  | start k =>
    obtain rfl := hk k rfl
    cases hf : x.capture.startRefusal with
    | some f => exact ⟨_, serial_refuseStart hr hd hf⟩
    | none => exact serial_sendStart hr hd hf
  | stop => exact serial_stop h hr hd
  | closeDevice => exact serial_ends h hr hd rfl rfl
  | discard =>
    have hok := LoopbackCapture.closeDevice_ok (halted_of_call h hr hd .discard rfl).1
    have ho : x.capture.call .discard = x.capture.closeDevice.outcome := by
      simp only [Reply.outcome, Reply.failure, hok]
      rfl
    rw [ho]
    exact serial_ends h hr hd rfl rfl

/-! ## Between calls -/

theorem idle_eq (c : LoopbackCapture) :
    ∃ queue arrivals,
      c.idle = ({ c with device := { c.device with queue, arrivals } } : LoopbackCapture).pump := by
  unfold LoopbackCapture.idle
  cases ha : c.device.arrivals with
  | nil => exact ⟨c.device.queue, c.device.arrivals, rfl⟩
  | cons packets later => exact ⟨c.device.queue ++ packets, later, rfl⟩

/-- **The time between two calls** is a way for the device and the thread to go on. -/
theorem serial_of_idle (hr : x.Rests) :
    ∃ y events, Steps x y ∧ Rests y ∧ y.capture = x.capture.idle.2 ∧
      y.history = x.history ++ events ∧ signals events = x.capture.idle.1 ∧
      y.discarded = x.discarded := by
  obtain ⟨queue, arrivals, hidle⟩ := idle_eq x.capture
  let z := x.supply queue arrivals
  have hsupplied : Steps x z := .single (.supply queue arrivals)
  rw [hidle]
  by_cases hrun : ∃ t, z.capture.thread = some t ∧ t.delivery.isSome = true
  · obtain ⟨t, ht, hdel⟩ := hrun
    have hticked : Steps x z.tick := hsupplied.tail (.thread (.tick hr.pending ht hdel hr.commands))
    refine ⟨z.tick.reportAll, z.capture.idleRound.1, hticked.trans (steps_reportAll _),
      ⟨hr.errand, hr.commands, rfl, hr.acknowledged⟩, rfl, rfl, ?_, rfl⟩
    rw [LoopbackCapture.idleRound, signals_append, signals_signalled, signals_fetching]
    rfl
  · have hpump : z.capture.pump = ([], z.capture) := by
      unfold LoopbackCapture.pump
      split
      · rfl
      · next t ht =>
        split
        · rfl
        · next k hk => exact absurd ⟨t, ht, by rw [hk]; rfl⟩ hrun
    refine ⟨z, [], hsupplied, ⟨hr.errand, hr.commands, hr.pending, hr.acknowledged⟩, ?_,
      (List.append_nil _).symm, ?_, rfl⟩
    · exact (congrArg Prod.snd hpump).symm
    · exact (congrArg Prod.fst hpump).symm

end Interplay

end AirLoop
