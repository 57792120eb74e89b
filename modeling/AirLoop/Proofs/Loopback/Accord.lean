import AirLoop.Proofs.Loopback.Situation

/-!
# How the caller and the thread stand to each other

Whatever the two sides do and in whatever order, they never lose each other: every step of the
caller, of the thread and of the device keeps them in one of their situations
(`accord_of_possible`).
-/

namespace AirLoop

open LoopbackHistory

/-! ## Opening -/

namespace AudioDevice

theorem configureStream_refused {d : AudioDevice} {name : Option String} {f : Fault}
    (h : (d.configureStream name).1 = .refused f) : ∃ detail, f = .deviceUnavailable detail := by
  unfold configureStream at h
  split at h
  · cases h
    exact ⟨_, rfl⟩
  · dsimp only at h
    split at h
    · cases h
      exact ⟨_, rfl⟩
    · split at h
      · cases h
        exact ⟨_, rfl⟩
      · cases h

/-- Whatever binding is refused for, there is no device to capture from. -/
theorem bindLoopback_refused {d : AudioDevice} {f : Fault} (h : d.bindLoopback.1 = .refused f) :
    ∃ detail, f = .deviceUnavailable detail := by
  unfold bindLoopback at h
  split at h
  · cases h
    exact ⟨_, rfl⟩
  · split at h
    · cases h
      exact ⟨_, rfl⟩
    · dsimp only at h
      split at h
      · cases h
      · split at h
        · cases h
          exact ⟨_, rfl⟩
        · exact configureStream_refused h

end AudioDevice

namespace LoopbackCapture

theorem openDevice_again {c : LoopbackCapture} (h : c.holdsSender = true) :
    c.openDevice = c.refuse alreadyOpen := by
  unfold openDevice
  rw [if_pos h]

/-- A capture that is not open is refused by its device, or else it gets a thread that rests. -/
theorem openDevice_cases {c : LoopbackCapture} (h : c.holdsSender = false) :
    (∃ detail device,
        c.openDevice = ({ c with device } : LoopbackCapture).refuse (.deviceUnavailable detail)) ∨
      ∃ s device line,
        c.openDevice =
          { result := .ok s.format
            signals := [.log line]
            source :=
              { c with
                device, deviceName := s.deviceName, holdsSender := true, holdsThread := true
                thread := some { stream := s } } } := by
  unfold openDevice
  rw [if_neg (by simp [h])]
  split
  · exact .inl ⟨_, _, rfl⟩
  · next device _ =>
    rcases hb : device.bindLoopback with ⟨binding, bound⟩
    cases binding with
    | refused f =>
      obtain ⟨detail, rfl⟩ := AudioDevice.bindLoopback_refused (d := device) (by rw [hb])
      exact .inl ⟨detail, bound.note .leaveApartment, rfl⟩
    | crashed => exact .inl ⟨_, bound.note .leaveApartment, rfl⟩
    | bound s => exact .inr ⟨s, bound, _, rfl⟩

/-- What opening is to the caller's side. -/
theorem openDevice_caller (c : LoopbackCapture) :
    c.openDevice.source.listenerCrashes = c.listenerCrashes ∧
      c.openDevice.source.delivering = c.delivering ∧
      c.openDevice.source.holdsSender = (c.holdsSender || c.openDevice.failure.isNone) := by
  by_cases h : c.holdsSender = true
  · rw [openDevice_again h]
    exact ⟨rfl, rfl, by rw [refuse, h]; rfl⟩
  · have h : c.holdsSender = false := by simpa using h
    rcases openDevice_cases h with ⟨_, _, ho⟩ | ⟨_, _, _, ho⟩
    · rw [ho]
      exact ⟨rfl, rfl, by rw [h]; rfl⟩
    · rw [ho]
      exact ⟨rfl, rfl, by rw [h]; rfl⟩

/-! ## Listeners -/

theorem pump_calm {c : LoopbackCapture} (h : c.listenerCrashes = false) :
    c.pump.2.listenerCrashes = false := by
  unfold pump
  split
  · exact h
  · split
    · exact h
    · dsimp only
      split
      · exact h
      · exact h
      · rfl

/-- The thread does not make a listener crash. -/
theorem obey_calm {c : LoopbackCapture} (h : c.listenerCrashes = false) (t : CaptureThread)
    (command : Command) : (c.obey t command).2.listenerCrashes = false := by
  cases command with
  | start k =>
    have hb : (c.beginDelivery t k).2.listenerCrashes = false := by
      unfold beginDelivery
      split <;> exact h
    unfold obey
    dsimp only
    split <;> exact pump_calm hb
  | stop | close => exact h

end LoopbackCapture

namespace Interplay

variable {x y : Interplay}

/-! ## Steps -/

/-! ### What a step makes of the posture -/

theorem posture_sendStart (x : Interplay) :
    x.sendStart.posture =
      { x.posture with
        errand := .starting x.starts, delivering := true
        commands := x.posture.commands ++ [.start x.starts] } :=
  rfl

theorem posture_finishStart (x : Interplay) (k : Nat) :
    (x.finishStart k).posture = { x.posture with errand := .free } :=
  rfl

theorem posture_sendStop (x : Interplay) (call : LoopbackCall) :
    ((x.enter call).sendStop call).posture =
      { x.posture with
        errand := .halting call, delivering := false
        commands := x.posture.commands ++ [.stop]
        discarded := decide (call = .discard) } :=
  rfl

theorem posture_halted (x : Interplay) {call : LoopbackCall} (he : ¬ call.ends) :
    ({ x with acknowledged := false }.halted call).posture =
      { x.posture with errand := .free, acknowledged := false } := by
  rw [halted, if_neg he]
  rfl

theorem posture_halted_ends (x : Interplay) {call : LoopbackCall} (he : call.ends = true) :
    ({ x with acknowledged := false }.halted call).posture =
      { x.posture with
        errand := .joining call, acknowledged := false, sender := false
        commands := x.posture.commands ++
          if x.posture.sender ∧ x.posture.thread.isSome then [.close] else [] } := by
  rw [halted, if_pos he]
  rfl

theorem posture_joined (x : Interplay) (call : LoopbackCall) :
    (x.joined call).posture = { x.posture with errand := .free, handle := false } :=
  rfl

/-! ### What a step makes of the word -/

theorem voice_of_neutral {events : LoopbackHistory} (hn : Neutral events)
    (hh : y.history = x.history ++ events) (hp : y.pending = x.pending) : y.voice = x.voice := by
  simp only [voice, hh, hp, voice_append, hn.voice]

theorem voice_of_returned {call : LoopbackCall} {f : Option Fault} (hc : call.halts = true)
    (hh : y.history = x.history ++ [.returned call f]) (hp : y.pending = []) : y.voice = none := by
  simp only [voice, hh, hp, voice_append, voice_cons, voice_nil, LoopbackEvent.voice, hc, if_true]

theorem voice_of_round (hp : x.pending = []) (hh : y.history = x.history) :
    y.voice = LoopbackHistory.voice x.voice y.pending := by
  simp only [voice, hh, hp, List.append_nil, voice_append]

theorem situation_openDevice (h : Situation x) (hi : x.idle) : Situation x.openDevice := by
  by_cases hs : x.capture.holdsSender = true
  · have ho : x.openDevice =
        x.record [.returned .openDevice (some LoopbackCapture.alreadyOpen)] := by
      rw [openDevice, LoopbackCapture.openDevice_again hs]
      rfl
    rw [ho]
    exact h.congr rfl (voice_of_neutral (.returned rfl _) rfl rfl) id
  · have hs : x.capture.holdsSender = false := by simpa using hs
    obtain ⟨hp, hn, hv⟩ := h.shut_of_no_sender hi.1 hs
    rcases LoopbackCapture.openDevice_cases hs with
      ⟨detail, device, ho⟩ | ⟨s, device, line, ho⟩
    · have hx : x.openDevice =
          { x.record [.returned .openDevice (some (.deviceUnavailable detail))] with
            capture := { x.capture with device } } := by
        rw [openDevice, ho]
        rfl
      rw [hx]
      exact h.congr rfl (voice_of_neutral (.returned rfl _) rfl rfl) id
    · have hx : x.openDevice =
          { x.record [.signalled (.log line), .returned .openDevice none] with
            capture :=
              { x.capture with
                device, deviceName := s.deviceName, holdsSender := true, holdsThread := true
                thread := some { stream := s } } } := by
        rw [openDevice, ho]
        rfl
      have hneutral : Neutral [.signalled (.log line), .returned .openDevice none] :=
        (Neutral.logged line).append (.returned rfl none)
      have hvoice : x.openDevice.voice = x.voice := by
        rw [hx]
        exact voice_of_neutral (x := x) hneutral rfl rfl
      have hposture : x.openDevice.posture =
          { x.posture with thread := some { stream := s }, sender := true, handle := true } := by
        rw [hx]
        rfl
      refine .ready s ?_ (by rw [hx]; exact hn) (hvoice.trans hv)
      rw [hposture, hp, hi.2]

theorem situation_refuseStart (h : Situation x) (f : Fault) : Situation (x.refuseStart f) :=
  h.congr rfl (voice_of_neutral (.returned rfl _) rfl rfl) id

/-- A start is sent to a thread that rests. -/
theorem ready_of_accepted (h : Situation x) (hi : x.idle) (hr : x.capture.startRefusal = none) :
    (∃ s, x.posture = { thread := some ⟨s, none⟩ }) ∧ x.pending = [] := by
  obtain ⟨hd, t, ht⟩ := LoopbackCapture.startRefusal_none hr
  obtain ⟨hn, -, -, hs | hp⟩ := h.resting_cases hi.1 hd
  · exact ⟨hs, hn⟩
  · cases (LoopbackCapture.thread_of_recipient ht).symm.trans (congrArg Posture.thread hp)

theorem situation_sendStart (h : Situation x) (hi : x.idle)
    (hs : x.capture.startRefusal = none) : Situation x.sendStart := by
  obtain ⟨⟨s, hp⟩, hn⟩ := ready_of_accepted h hi hs
  refine .sent (.starting x.starts) s x.starts (.inr rfl) ?_ hn ?_
  · rw [posture_sendStart, hp]
    rfl
  · simp [voice, sendStart, record, hn, LoopbackEvent.voice]

theorem situation_finishStart (h : Situation x) {k : Nat} (he : x.errand = .starting k) :
    Situation (x.finishStart k) := by
  have hv : (x.finishStart k).voice = x.voice := voice_of_neutral (.returned rfl none) rfl rfl
  rcases h.starting_cases he with ⟨s, j, hp, hn, hw⟩ | ⟨s, hp⟩
  · exact .sent .free s j (.inl rfl) (by rw [posture_finishStart, hp]) hn (hv.trans hw)
  · exact .running .free s (.inl rfl) (by rw [posture_finishStart, hp, hv])

/-- A stop that is over returns, and other halts go on to end the thread, if there is one. -/
theorem situation_halted (errand : Errand) (acknowledged : Bool) (hn : x.pending = [])
    {call : LoopbackCall} (hc : call.halts = true) {discarded : Bool}
    (hd : discarded = decide (call = .discard))
    (hp : (∃ s, x.posture = { errand, thread := some ⟨s, none⟩, acknowledged, discarded }) ∨
      x.posture =
        { errand, thread := none, sender := false, handle := false, acknowledged, discarded }) :
    Situation ({ x with acknowledged := false }.halted call) := by
  by_cases he : call.ends = true
  · have hpending : ({ x with acknowledged := false }.halted call).pending = [] := by
      rw [halted, if_pos he]
      exact hn
    rcases hp with ⟨s, hp⟩ | hp
    · exact .leaving call s hc (by rw [posture_halted_ends x he, hp, hd]; rfl) hpending
    · exact .left call false hc (by rw [posture_halted_ends x he, hp, hd]; rfl)
  · have hpending : ({ x with acknowledged := false }.halted call).pending = [] := by
      rw [halted, if_neg he]
      exact hn
    have hv : ({ x with acknowledged := false }.halted call).voice = none := by
      rw [halted, if_neg he]
      exact voice_of_returned (x := x) hc rfl hn
    have hk : call ≠ .discard := by
      rintro rfl
      exact he rfl
    rw [decide_eq_false hk] at hd
    rcases hp with ⟨s, hp⟩ | hp
    · exact .ready s (by rw [posture_halted x he, hp, hd]) hpending hv
    · exact .shut false (by rw [posture_halted x he, hp, hd]) hpending hv

theorem situation_skipStop (h : Situation x) (hi : x.idle) {call : LoopbackCall}
    (hc : call.halts = true) (hd : x.capture.delivering = false) :
    Situation ((x.enter call).halted call) := by
  obtain ⟨hn, -, -, hrest⟩ := h.resting_cases hi.1 hd
  have henter : (x.enter call).posture =
      { x.posture with discarded := decide (call = .discard) } := rfl
  have hacknowledged : x.acknowledged = false := by
    rcases hrest with ⟨_, hp⟩ | hp <;> exact congrArg Posture.acknowledged hp
  have ha : x.enter call = { x.enter call with acknowledged := false } := by
    rw [← hacknowledged]
    rfl
  rw [ha]
  refine situation_halted (x := x.enter call) .free false hn hc rfl ?_
  rw [henter]
  rcases hrest with ⟨s, hp⟩ | hp
  · exact .inl ⟨s, by rw [hp]⟩
  · exact .inr (by rw [hp])

theorem situation_sendStop (h : Situation x) (hi : x.idle) {call : LoopbackCall}
    (hc : call.halts = true) (hd : x.capture.delivering = true) :
    Situation ((x.enter call).sendStop call) := by
  have hneutral : Neutral [.sent .stop] := .sent nofun
  have hv : ((x.enter call).sendStop call).voice = x.voice := voice_of_neutral hneutral rfl rfl
  rcases h.delivering_cases hi.1 hd with ⟨s, k, hp, hn, hw⟩ | ⟨s, hp⟩
  · exact .recalled call s k hc (by rw [posture_sendStop, hp]; rfl) hn (hv.trans hw)
  · exact .stopping call s hc (by rw [posture_sendStop, hp, hv]; rfl)

theorem situation_joined (h : Situation x) {call : LoopbackCall} (he : x.errand = .joining call)
    (ht : x.capture.thread = none) (hn : x.pending = []) : Situation (x.joined call) := by
  obtain ⟨hc, handle, hp⟩ := h.left_of_over he ht
  exact .shut (decide (call = .discard)) (by rw [posture_joined, hp]) hn
    (voice_of_returned (x := x) hc rfl hn)

/-- **Every step of the caller keeps the two in step.** -/
theorem situation_of_callerStep (h : Situation x) (hs : x.CallerStep y) : Situation y := by
  cases hs with
  | openDevice hi => exact situation_openDevice h hi
  | refuseStart => exact situation_refuseStart h _
  | sendStart hi hr => exact situation_sendStart h hi hr
  | finishStart he => exact situation_finishStart h he
  | skipStop hi hc hd => exact situation_skipStop h hi hc hd
  | sendStop hi hc hd _ => exact situation_sendStop h hi hc hd
  | failStop hi _ hd hf =>
    obtain ⟨t, ht⟩ := h.recipient_of_delivering hi.1 hd
    cases ht.symm.trans hf
  | halted he hd =>
    obtain ⟨hc, hn, s, hp⟩ := h.stopped_of_over he hd
    exact situation_halted (.halting _) true hn hc rfl (.inl ⟨s, hp⟩)
  | joined he ht hn => exact situation_joined h he ht hn

/-- A start that is received is obeyed by a thread that rests, in the word of its delivery. -/
theorem round_of_start (hc : x.capture.listenerCrashes = false) {s : LoopbackStream} {k : Nat}
    (hn : x.pending = []) (ht : x.capture.thread = some ⟨s, none⟩) (hw : x.voice = some k)
    (rest : List Command) :
    let y := x.receive ⟨s, none⟩ (.start k) rest
    y.posture =
      { x.posture with thread := some ⟨s, y.voice⟩, commands := rest, acknowledged := false } := by
  have hv := voice_of_round (y := x.receive ⟨s, none⟩ (.start k) rest) hn rfl
  have hthread := (LoopbackCapture.round_start (k := k) hc ht).2
  have hsides := LoopbackCapture.obey_sides x.capture ⟨s, none⟩ (.start k)
  intro y
  have hy : y.voice = LoopbackHistory.voice (some k) (x.capture.round ⟨s, none⟩ (.start k)).1 := by
    rw [hv, hw]
    rfl
  grind [posture, receive, LoopbackCapture.round]

theorem situation_receive (h : Situation x) (hc : x.capture.listenerCrashes = false)
    {t : CaptureThread} {command : Command} {rest : List Command} (hn : x.pending = [])
    (ht : x.capture.thread = some t) (hq : x.commands = command :: rest) :
    Situation (x.receive t command rest) := by
  rcases h.received_cases hq with ⟨errand, s, k, he, rfl, rfl, hw, hp⟩ |
    ⟨call, s, k, hcall, rfl, rfl, hw, hp⟩ | ⟨call, s, hcall, rfl, rfl, hp⟩ |
    ⟨call, s, hcall, rfl, rfl, hp⟩ <;>
  obtain rfl := Option.some.inj (ht.symm.trans (congrArg Posture.thread hp))
  · refine .running errand s (he.imp_right fun h => ⟨k, h⟩) ?_
    rw [round_of_start hc hn ht hw, hp]
  · refine .stopping call s hcall ?_
    rw [round_of_start hc hn ht hw, hp]
  · refine .stopped call s hcall ?_ rfl
    have hy : (x.receive ⟨s, x.voice⟩ .stop []).posture =
        { x.posture with thread := some ⟨s, none⟩, commands := [], acknowledged := true } := rfl
    rw [hy, hp]
  · refine .left call true hcall ?_
    have hy : (x.receive ⟨s, none⟩ .close []).posture =
        { x.posture with thread := none, commands := [], acknowledged := false } := rfl
    rw [hy, hp]

theorem situation_tick (h : Situation x) (hc : x.capture.listenerCrashes = false)
    {t : CaptureThread} (hn : x.pending = []) (ht : x.capture.thread = some t)
    (hd : t.delivery.isSome = true) (hq : x.commands = []) : Situation x.tick := by
  obtain ⟨errand, s, k, he, hw, rfl, hp⟩ := h.ticking_cases ht hd hq
  have hv := voice_of_round (y := x.tick) hn rfl
  rw [hw] at hv
  have hthread := (LoopbackCapture.round_idle hc ht).2
  have hsides := LoopbackCapture.pump_sides x.capture
  have hy : x.tick.posture = { x.posture with thread := some ⟨s, x.tick.voice⟩ } := by
    grind [posture, tick, LoopbackCapture.idleRound]
  exact .running errand s he (by rw [hy, hp])

/-- **Every step of the thread keeps the two in step.** -/
theorem situation_of_threadStep (h : Situation x) (hc : x.capture.listenerCrashes = false)
    (hs : x.ThreadStep y) : Situation y := by
  cases hs with
  | @report e rest he =>
    refine h.congr rfl ?_ fun hn => absurd (he.symm.trans hn) (List.cons_ne_nil e rest)
    simp [voice, report, record, he]
  | receive hn ht hq => exact situation_receive h hc hn ht hq
  | tick hn ht hd hq => exact situation_tick h hc hn ht hd hq
  | disconnected _ ht hq hs => exact absurd (h.sender_of_thread ht hq) (by simp [hs])

theorem halted_listener (x : Interplay) (call : LoopbackCall) :
    (x.halted call).capture.listenerCrashes = x.capture.listenerCrashes := by
  unfold halted
  split <;> rfl

/-! ## The accord -/

/-- The two sides are in one of their situations, and no listener is going to crash. -/
structure Accord (x : Interplay) : Prop where
  calm : x.capture.listenerCrashes = false
  situation : Situation x

theorem calm_of_callerStep (h : x.capture.listenerCrashes = false) (hs : x.CallerStep y) :
    y.capture.listenerCrashes = false := by
  cases hs with
  | openDevice => exact (LoopbackCapture.openDevice_caller x.capture).1.trans h
  | halted | skipStop => exact (halted_listener _ _).trans h
  | refuseStart | sendStart | finishStart | sendStop | failStop | joined => exact h

theorem calm_of_threadStep (h : x.capture.listenerCrashes = false) (hs : x.ThreadStep y) :
    y.capture.listenerCrashes = false := by
  cases hs with
  | report => exact h
  | receive | disconnected => exact LoopbackCapture.obey_calm h _ _
  | tick => exact LoopbackCapture.pump_calm h

theorem accord_of_step (h : Accord x) (hs : x.Step y) : Accord y := by
  cases hs with
  | caller hs => exact ⟨calm_of_callerStep h.calm hs, situation_of_callerStep h.situation hs⟩
  | thread hs => exact ⟨calm_of_threadStep h.calm hs, situation_of_threadStep h.situation h.calm hs⟩
  | supply queue arrivals => exact ⟨h.calm, h.situation.congr rfl rfl id⟩

/-- **The two never lose each other**, in whatever order they take their steps. -/
theorem accord_of_possible {device : AudioDevice} (h : Possible device x) : Accord x := by
  induction h with
  | refl => exact ⟨rfl, .shut false rfl rfl rfl⟩
  | tail _ hs ih => exact accord_of_step ih hs

end Interplay

end AirLoop
