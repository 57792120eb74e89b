import AirLoop.Proofs.Loopback.Custody
import AirLoop.Proofs.Loopback.Return

/-!
# The caller and the thread agree

Whenever no call is under way, what the caller holds tells what the thread is doing
(`Interplay.Agreement`), and so each call is answered as the capture documents it
(`LoopbackCapture.Answers`). Both hold whatever the two sides do and in whatever order
(`caller_agrees_with_thread`).
-/

namespace AirLoop

open LoopbackHistory

/-! ## Answers -/

namespace LoopbackCapture

variable {c : LoopbackCapture}

/-- How the calls of a capture are answered. -/
structure Answers (c : LoopbackCapture) : Prop where
  stop : c.stop.result = .ok ()
  close : c.closeDevice.result = .ok ()
  /-- a start fails for what the caller did and nothing else, and then changes nothing -/
  start : ∀ k,
    (c.delivering = true ∧ c.start k = c.refuse alreadyRunning) ∨
      (c.delivering = false ∧ c.holdsSender = false ∧ c.start k = c.refuse notOpen) ∨
      (c.delivering = false ∧ c.holdsSender = true ∧ (c.start k).result = .ok ())
  /-- opening what is open changes nothing -/
  openAgain : c.holdsSender = true → c.openDevice = c.refuse alreadyOpen
  /-- opening what is not asks the device, and if it has one gives a thread that rests -/
  openAnew : c.holdsSender = false →
    (∃ rest, c.openDevice.source.device.calls = c.device.calls ++ .joinApartment :: rest) ∧
      ((∃ detail device, c.openDevice =
          ({ c with device } : LoopbackCapture).refuse (.deviceUnavailable detail)) ∨
        ∃ s, c.openDevice.result = .ok s.format ∧
          c.openDevice.source.thread = some { stream := s } ∧
          c.openDevice.source.holdsSender = true ∧ c.openDevice.source.holdsThread = true ∧
          c.openDevice.source.delivering = c.delivering)

theorem stop_ok (hd : c.delivering = true → ∃ t, c.recipient = .ok t) :
    c.stop.result = .ok () := by
  unfold stop
  split
  · rfl
  · next h =>
    obtain ⟨t, ht⟩ := hd (by simpa using h)
    have hr : ({ c with delivering := false } : LoopbackCapture).recipient = .ok t := ht
    simp only [hr]

theorem closeDevice_ok (hs : c.stop.result = .ok ()) : c.closeDevice.result = .ok () := by
  unfold closeDevice
  simp only [hs]

/-- **A capture answers its calls** if it holds a sender as long as a thread serves, and delivers
only with one. -/
theorem answers_of_sides (hs : c.holdsSender = c.thread.isSome)
    (hd : c.delivering = true → c.holdsSender = true) : Answers c := by
  have hrecipient (h : c.holdsSender = true) : ∃ t, c.recipient = .ok t := by
    obtain ⟨t, ht⟩ := Option.isSome_iff_exists.1 (hs ▸ h)
    exact ⟨t, recipient_of_sender h ht⟩
  have hstop : c.stop.result = .ok () := stop_ok fun h => hrecipient (hd h)
  refine ⟨hstop, closeDevice_ok hstop, fun k => ?_, openDevice_again,
    fun h => ⟨openDevice_joins h, ?_⟩⟩
  · by_cases hdel : c.delivering = true
    · exact .inl ⟨hdel, by rw [start, if_pos hdel]⟩
    · have hdel : c.delivering = false := by simpa using hdel
      by_cases hsend : c.holdsSender = true
      · obtain ⟨t, ht⟩ := hrecipient hsend
        exact .inr (.inr ⟨hdel, hsend, by simp [start, hdel, ht]⟩)
      · have hsend : c.holdsSender = false := by simpa using hsend
        exact .inr (.inl ⟨hdel, hsend, by simp [start, hdel, recipient_of_no_sender hsend]⟩)
  · rcases openDevice_cases h with ho | ⟨s, device, line, ho⟩
    · exact .inl ho
    · exact .inr ⟨s, by rw [ho], by rw [ho], by rw [ho], by rw [ho], by rw [ho]⟩

end LoopbackCapture

namespace Interplay

variable {x : Interplay}

/-! ## Agreement -/

/-- What the caller holds tells what the thread is doing. -/
structure Agreement (x : Interplay) : Prop where
  sender_iff_handle : x.capture.holdsSender = true ↔ x.capture.holdsThread = true
  handle_iff_serving : x.capture.holdsThread = true ↔ ∃ t, x.capture.thread = some t
  sender_of_delivering : x.capture.delivering = true → x.capture.holdsSender = true
  /-- a delivery that is held is that of the latest start, without a fault, a halt since -/
  delivering_of_held : ∀ t k, x.capture.thread = some t → t.delivery = some k →
    x.capture.delivering = true ∧
      ∃ a b, x.history ++ x.pending = a ++ .sent (.start k) :: b ∧
        ∀ e ∈ b, e.started? = none ∧ e.halt = false ∧ e.isFault = false
  /-- the delivery that was started is held, unless it had a fault since -/
  held_of_delivering : x.capture.delivering = true → x.commands = [] →
    ∃ t k a b, x.capture.thread = some t ∧ x.history = a ++ .sent (.start k) :: b ∧
      (∀ e ∈ b, e.started? = none ∧ e.halt = false) ∧
      (t.delivery = some k ∨ t.delivery = none ∧ ∃ f, .signalled (.fault k f) ∈ b ++ x.pending)
  /-- nothing but a start can be under way, to a thread that rests -/
  underway : x.commands ≠ [] → ∃ k s, x.commands = [.start k] ∧ x.capture.delivering = true ∧
    x.capture.thread = some ⟨s, none⟩

theorem agreement_of_free {device : AudioDevice} (h : Possible device x)
    (he : x.errand = .free) : Agreement x := by
  have hs := (accord_of_possible h).situation
  have hsender := hs.sender_eq he
  have hhandle := hs.handle_eq he
  refine ⟨by rw [hsender, hhandle], by rw [hhandle, Option.isSome_iff_exists], fun hdel => ?_,
    fun t k ht hk => ?_, fun hdel hc => ?_, hs.start_of_commands he⟩
  · obtain ⟨t, ht⟩ := hs.thread_of_delivering he hdel
    rw [hsender, ht]
    rfl
  · obtain ⟨hdel, hvoice⟩ := hs.voice_of_held he ht hk
    exact ⟨hdel, voice_some hvoice⟩
  · obtain ⟨t, ht, hd⟩ := hs.held_of_delivering he hdel hc
    obtain ⟨k, a, b, hh, hb⟩ := (ledger_of_possible h).delivering hdel
    have hchron := chronicle_of_possible h
    have hsplit : x.history ++ x.pending = (a ++ [.sent (.start k)]) ++ (b ++ x.pending) := by
      simp [hh]
    have hspoken := hchron.spoken
    have hsent : LoopbackHistory.voice none (a ++ [.sent (.start k)]) = some k := voice_append ..
    have hvoice : x.voice = LoopbackHistory.voice (some k) (b ++ x.pending) := by
      rw [Interplay.voice, hsplit, voice_append none (a ++ _), hsent]
    rw [hsplit, spoken_append, hsent] at hspoken
    have hquiet : ∀ e ∈ b ++ x.pending, e.started? = none ∧ e.halt = false :=
      List.forall_mem_append.2 ⟨hb, fun e he => quiet_of_ofThread (hchron.ofThread e he)⟩
    refine ⟨t, k, a, b, ht, hh, hb, ?_⟩
    rw [hd, hvoice]
    exact voice_since hspoken.2 hquiet

/-- **Each call is answered as documented** whenever none is under way. -/
theorem answers_of_free {device : AudioDevice} (h : Possible device x) (he : x.errand = .free) :
    LoopbackCapture.Answers x.capture := by
  have ha := agreement_of_free h he
  refine LoopbackCapture.answers_of_sides ?_ ha.sender_of_delivering
  rw [Bool.eq_iff_iff, ha.sender_iff_handle, ha.handle_iff_serving, Option.isSome_iff_exists]

/-! ## After a close -/

/-- A capture that was closed is not open until an opening is granted. -/
theorem shut_of_closed {device : AudioDevice} (h : Possible device x) (he : x.errand = .free)
    {a b : LoopbackHistory} {call : LoopbackCall} {f : Option Fault} (hc : call.ends = true)
    (hh : x.history = a ++ .returned call f :: b) (hb : .returned .openDevice none ∉ b) :
    x.capture.holdsSender = false ∧ x.capture.thread = none ∧ x.commands = [] := by
  have hopened : opened x.history = false := by
    rw [hh]
    exact opened_of_closed hc hb
  have hs := (ledger_of_possible h).sender (by simp [he])
  rw [hopened] at hs
  obtain ⟨hp, -⟩ := (accord_of_possible h).situation.shut_of_no_sender he hs
  exact ⟨hs, congrArg Posture.thread hp, congrArg Posture.commands hp⟩

/-! ## The agreement -/

/-- **The two sides agree**, whatever they do and in whatever order. When no call is under way they
stand to each other as the caller believes, and each call is answered as documented. A command under
way is received, since every step of the thread brings it there; a call that waits comes back, and a
start does not wait. No halt ever failed, and a start only for what the caller did, without being
sent. What was closed is shut, and nothing of it is left for the next session. -/
theorem caller_agrees_with_thread {device : AudioDevice} {x : Interplay}
    (h : Possible device x) :
    (x.errand = .free → x.Agreement ∧ LoopbackCapture.Answers x.capture) ∧
      (∀ command rest, x.commands = command :: rest →
        (∃ y, x.ThreadStep y) ∧ ∀ y, x.ThreadStep y →
          y.errand = x.errand ∧
            (y.commands = rest ∨
              y.commands = x.commands ∧ y.pending.length < x.pending.length)) ∧
      (∀ call, x.Waits call → Inevitable (Returned call) x) ∧
      (∀ k, x.errand = .starting k → x.CallerStep (x.finishStart k)) ∧
      (∀ call f, .returned call f ∈ x.history → call.halts = true → f = none) ∧
      (∀ k f, .returned (.start k) (some f) ∈ x.history →
        (f = LoopbackCapture.alreadyRunning ∨ f = LoopbackCapture.notOpen) ∧
          .sent (.start k) ∉ x.history) ∧
      ∀ a b call f, x.errand = .free → x.history = a ++ .returned call f :: b →
        call.ends = true → .returned .openDevice none ∉ b →
        x.capture.holdsSender = false ∧ x.capture.thread = none ∧ x.commands = [] := by
  have ha := accord_of_possible h
  have hl := ledger_of_possible h
  refine ⟨fun he => ⟨agreement_of_free h he, answers_of_free h he⟩,
    fun _ _ => nearer_of_threadStep ha.situation, fun _ => comes_back ha, fun _ => .finishStart,
    hl.halts, fun k f hr => ?_, fun _ _ _ _ he hh hc => shut_of_closed h he hc hh⟩
  obtain ⟨hf, hk, -⟩ := hl.refused k f hr
  exact ⟨hf, fun hs => hk (mem_started.2 hs)⟩

/-- The agreement of a capture whose delivery had a fault: the caller still delivers, the thread
rests. -/
theorem caller_agrees_after_fault :
    faltering.capture.delivering = true ∧
      faltering.capture.thread = some ⟨falteringStream, none⟩ ∧
      faltering.Agreement ∧ LoopbackCapture.Answers faltering.capture :=
  ⟨rfl, rfl, (caller_agrees_with_thread possible_faltering).1 rfl⟩

end Interplay

end AirLoop
