import AirLoop.Proofs.Loopback.Round
import Mathlib.Data.Bool.Basic

/-!
# Where the caller and the thread stand

The caller knows of the thread only what it was told, and the thread of the caller only the commands
that it received. As far as their protocol goes, the two are in one of nine situations
(`Interplay.Situation`), each told by what the sides hold and by what is under way (`Posture`). What
the call that is under way leaves of them is `free_cases`, `halting_cases` and `joining_cases`, and
what a step of the thread leaves of them `received_cases` and `ticking_cases`. The rest reads off
what one side can tell of the other.
-/

namespace AirLoop

/-! ## Who a command goes to -/

namespace LoopbackCapture

variable {c : LoopbackCapture}

theorem recipient_of_sender (hs : c.holdsSender = true) {t : CaptureThread}
    (ht : c.thread = some t) : c.recipient = .ok t := by
  simp [recipient, hs, ht]

theorem recipient_of_no_sender (hs : c.holdsSender = false) : c.recipient = .error notOpen := by
  simp [recipient, hs]

theorem startRefusal_none (h : c.startRefusal = none) :
    c.delivering = false ∧ ∃ t, c.recipient = .ok t := by
  unfold startRefusal at h
  split at h
  · cases h
  · next hd =>
    refine ⟨by simpa using hd, ?_⟩
    cases hr : c.recipient with
    | ok t => exact ⟨t, rfl⟩
    | error f => simp [hr] at h

theorem thread_of_recipient {t : CaptureThread} (h : c.recipient = .ok t) :
    c.thread = some t := by
  unfold recipient at h
  split at h
  · cases h
  · split at h
    · cases h
    · next ht =>
      cases h
      exact ht

end LoopbackCapture

/-! ## Situations -/

/-- Where the two sides stand, as far as their protocol goes. -/
structure Posture where
  errand : Errand := .free
  thread : Option CaptureThread
  /-- the caller can send commands -/
  sender : Bool := true
  /-- the caller has a thread to wait for -/
  handle : Bool := true
  delivering : Bool := false
  commands : List Command := []
  acknowledged : Bool := false
  discarded : Bool := false

namespace Interplay

variable {x y : Interplay}

/-- Where the two sides stand. -/
def posture (x : Interplay) : Posture where
  errand := x.errand
  thread := x.capture.thread
  sender := x.capture.holdsSender
  handle := x.capture.holdsThread
  delivering := x.capture.delivering
  commands := x.commands
  acknowledged := x.acknowledged
  discarded := x.discarded

/-- The delivery that has the word once the thread's round is over. -/
def voice (x : Interplay) : Option Nat := LoopbackHistory.voice none (x.history ++ x.pending)

/-- The situations of the caller and the thread. -/
inductive Situation (x : Interplay) : Prop where
  /-- nothing is open -/
  | shut (discarded : Bool) :
      x.posture = { thread := none, sender := false, handle := false, discarded } →
      x.pending = [] → x.voice = none → Situation x
  /-- the thread waits to be told to start -/
  | ready (s : LoopbackStream) :
      x.posture = { thread := some ⟨s, none⟩ } → x.pending = [] → x.voice = none → Situation x
  /-- a start is on its way -/
  | sent (errand : Errand) (s : LoopbackStream) (k : Nat) : errand = .free ∨ errand = .starting k →
      x.posture =
        { errand, thread := some ⟨s, none⟩, delivering := true, commands := [.start k] } →
      x.pending = [] → x.voice = some k → Situation x
  /-- the thread was told to start; its delivery is running unless it had a fault -/
  | running (errand : Errand) (s : LoopbackStream) :
      errand = .free ∨ (∃ k, errand = .starting k) →
      x.posture = { errand, thread := some ⟨s, x.voice⟩, delivering := true } → Situation x
  /-- a stop follows a start -/
  | recalled (call : LoopbackCall) (s : LoopbackStream) (k : Nat) : call.halts = true →
      x.posture =
        { errand := .halting call, thread := some ⟨s, none⟩, commands := [.start k, .stop]
          discarded := decide (call = .discard) } →
      x.pending = [] → x.voice = some k → Situation x
  /-- a stop is on its way -/
  | stopping (call : LoopbackCall) (s : LoopbackStream) : call.halts = true →
      x.posture =
        { errand := .halting call, thread := some ⟨s, x.voice⟩, commands := [.stop]
          discarded := decide (call = .discard) } → Situation x
  /-- the thread has stopped, and says so -/
  | stopped (call : LoopbackCall) (s : LoopbackStream) : call.halts = true →
      x.posture =
        { errand := .halting call, thread := some ⟨s, none⟩, acknowledged := true
          discarded := decide (call = .discard) } →
      x.pending = [] → Situation x
  /-- the thread is told to end -/
  | leaving (call : LoopbackCall) (s : LoopbackStream) : call.halts = true →
      x.posture =
        { errand := .joining call, thread := some ⟨s, none⟩, sender := false, commands := [.close]
          discarded := decide (call = .discard) } →
      x.pending = [] → Situation x
  /-- the thread has ended -/
  | left (call : LoopbackCall) (handle : Bool) : call.halts = true →
      x.posture =
        { errand := .joining call, thread := none, sender := false, handle
          discarded := decide (call = .discard) } → Situation x

/-! ### What a situation is told by -/

/-- A situation is told by the posture, by whose word it is and by whether anything is still to be
reported. -/
theorem Situation.congr (h : Situation x) (hp : y.posture = x.posture) (hv : y.voice = x.voice)
    (hpend : x.pending = [] → y.pending = []) : Situation y := by
  cases h with
  | shut _ h hn hw => exact .shut _ (hp.trans h) (hpend hn) (hv.trans hw)
  | ready _ h hn hw => exact .ready _ (hp.trans h) (hpend hn) (hv.trans hw)
  | sent _ _ _ he h hn hw => exact .sent _ _ _ he (hp.trans h) (hpend hn) (hv.trans hw)
  | running _ _ he h => exact .running _ _ he (by rw [hv]; exact hp.trans h)
  | recalled _ _ _ hc h hn hw => exact .recalled _ _ _ hc (hp.trans h) (hpend hn) (hv.trans hw)
  | stopping _ _ hc h => exact .stopping _ _ hc (by rw [hv]; exact hp.trans h)
  | stopped _ _ hc h hn => exact .stopped _ _ hc (hp.trans h) (hpend hn)
  | leaving _ _ hc h hn => exact .leaving _ _ hc (hp.trans h) (hpend hn)
  | left _ _ hc h => exact .left _ _ hc (hp.trans h)

/-! ### The call that is under way -/

theorem Situation.free_cases (h : Situation x) (he : x.errand = .free) :
    (∃ discarded, x.posture = { thread := none, sender := false, handle := false, discarded } ∧
        x.pending = [] ∧ x.voice = none) ∨
      (∃ s, x.posture = { thread := some ⟨s, none⟩ } ∧ x.pending = [] ∧ x.voice = none) ∨
      (∃ s k, x.posture =
          { thread := some ⟨s, none⟩, delivering := true, commands := [.start k] } ∧
        x.pending = [] ∧ x.voice = some k) ∨
      ∃ s, x.posture = { thread := some ⟨s, x.voice⟩, delivering := true } := by
  cases h with
  | shut discarded hp hn hv => exact .inl ⟨discarded, hp, hn, hv⟩
  | ready s hp hn hv => exact .inr (.inl ⟨s, hp, hn, hv⟩)
  | sent errand s k _ hp hn hv =>
    obtain rfl : errand = .free := (congrArg Posture.errand hp).symm.trans he
    exact .inr (.inr (.inl ⟨s, k, hp, hn, hv⟩))
  | running errand s _ hp =>
    obtain rfl : errand = .free := (congrArg Posture.errand hp).symm.trans he
    exact .inr (.inr (.inr ⟨s, hp⟩))
  | recalled _ _ _ _ hp | stopping _ _ _ hp | stopped _ _ _ hp | leaving _ _ _ hp
  | left _ _ _ hp => exact absurd ((congrArg Posture.errand hp).symm.trans he) nofun

theorem Situation.starting_cases (h : Situation x) {k : Nat} (he : x.errand = .starting k) :
    (∃ s j, x.posture =
          { errand := .starting k, thread := some ⟨s, none⟩, delivering := true
            commands := [.start j] } ∧
        x.pending = [] ∧ x.voice = some j) ∨
      ∃ s, x.posture =
        { errand := .starting k, thread := some ⟨s, x.voice⟩, delivering := true } := by
  cases h with
  | sent errand s j _ hp hn hv =>
    obtain rfl : errand = .starting k := (congrArg Posture.errand hp).symm.trans he
    exact .inl ⟨s, j, hp, hn, hv⟩
  | running errand s _ hp =>
    obtain rfl : errand = .starting k := (congrArg Posture.errand hp).symm.trans he
    exact .inr ⟨s, hp⟩
  | shut _ hp | ready _ hp | recalled _ _ _ _ hp | stopping _ _ _ hp | stopped _ _ _ hp
  | leaving _ _ _ hp | left _ _ _ hp =>
    exact absurd ((congrArg Posture.errand hp).symm.trans he) nofun

theorem Situation.halting_cases (h : Situation x) {call : LoopbackCall}
    (he : x.errand = .halting call) :
    call.halts = true ∧
      ((∃ s, x.pending = [] ∧ x.posture =
          { errand := .halting call, thread := some ⟨s, none⟩, acknowledged := true
            discarded := decide (call = .discard) }) ∨
        x.commands ≠ [] ∧ x.acknowledged = false ∧ x.capture.thread ≠ none) := by
  cases h with
  | recalled c _ _ hc hp | stopping c _ hc hp =>
    obtain rfl : c = call := by simpa using (congrArg Posture.errand hp).symm.trans he
    refine ⟨hc, .inr ⟨fun h => ?_, congrArg Posture.acknowledged hp, fun h => ?_⟩⟩
    · cases h.symm.trans (congrArg Posture.commands hp)
    · cases h.symm.trans (congrArg Posture.thread hp)
  | stopped c s hc hp hn =>
    obtain rfl : c = call := by simpa using (congrArg Posture.errand hp).symm.trans he
    exact ⟨hc, .inl ⟨s, hn, hp⟩⟩
  | sent _ _ _ hfree hp =>
    rcases hfree with rfl | rfl <;> cases (congrArg Posture.errand hp).symm.trans he
  | running _ _ hfree hp =>
    rcases hfree with rfl | ⟨_, rfl⟩ <;> cases (congrArg Posture.errand hp).symm.trans he
  | shut _ hp | ready _ hp | leaving _ _ _ hp | left _ _ _ hp =>
    exact absurd ((congrArg Posture.errand hp).symm.trans he) nofun

/-- A call that waited for the thread to stop is over. -/
theorem Situation.stopped_of_over (h : Situation x) {call : LoopbackCall}
    (he : x.errand = .halting call) (hd : x.acknowledged = true ∨ x.capture.thread = none) :
    call.halts = true ∧ x.pending = [] ∧ ∃ s,
      x.posture =
        { errand := .halting call, thread := some ⟨s, none⟩, acknowledged := true
          discarded := decide (call = .discard) } := by
  obtain ⟨hc, ⟨s, hn, hp⟩ | ⟨-, hacknowledged, hthread⟩⟩ := h.halting_cases he
  · exact ⟨hc, hn, s, hp⟩
  · rcases hd with ha | ht
    · cases ha.symm.trans hacknowledged
    · exact absurd ht hthread

theorem Situation.joining_cases (h : Situation x) {call : LoopbackCall}
    (he : x.errand = .joining call) :
    call.halts = true ∧
      ((∃ handle, x.posture =
          { errand := .joining call, thread := none, sender := false, handle
            discarded := decide (call = .discard) }) ∨
        x.commands ≠ [] ∧ x.capture.thread ≠ none) := by
  cases h with
  | leaving c _ hc hp =>
    obtain rfl : c = call := by simpa using (congrArg Posture.errand hp).symm.trans he
    refine ⟨hc, .inr ⟨fun h => ?_, fun h => ?_⟩⟩
    · cases h.symm.trans (congrArg Posture.commands hp)
    · cases h.symm.trans (congrArg Posture.thread hp)
  | left c handle hc hp =>
    obtain rfl : c = call := by simpa using (congrArg Posture.errand hp).symm.trans he
    exact ⟨hc, .inl ⟨handle, hp⟩⟩
  | sent _ _ _ hfree hp =>
    rcases hfree with rfl | rfl <;> cases (congrArg Posture.errand hp).symm.trans he
  | running _ _ hfree hp =>
    rcases hfree with rfl | ⟨_, rfl⟩ <;> cases (congrArg Posture.errand hp).symm.trans he
  | shut _ hp | ready _ hp | recalled _ _ _ _ hp | stopping _ _ _ hp | stopped _ _ _ hp =>
    exact absurd ((congrArg Posture.errand hp).symm.trans he) nofun

/-- A call that waited for the thread to end is over. -/
theorem Situation.left_of_over (h : Situation x) {call : LoopbackCall}
    (he : x.errand = .joining call) (ht : x.capture.thread = none) :
    call.halts = true ∧ ∃ handle,
      x.posture =
        { errand := .joining call, thread := none, sender := false, handle
          discarded := decide (call = .discard) } := by
  obtain ⟨hc, hleft | ⟨-, hthread⟩⟩ := h.joining_cases he
  · exact ⟨hc, hleft⟩
  · exact absurd ht hthread

/-! ### The step of the thread that comes next -/

/-- A command that is received in its situation. -/
theorem Situation.received_cases (h : Situation x) {command : Command} {rest : List Command}
    (hc : x.commands = command :: rest) :
    (∃ errand s k, (errand = .free ∨ errand = .starting k) ∧ command = .start k ∧ rest = [] ∧
        x.voice = some k ∧
        x.posture =
          { errand, thread := some ⟨s, none⟩, delivering := true, commands := [.start k] }) ∨
      (∃ call s k, call.halts = true ∧ command = .start k ∧ rest = [.stop] ∧ x.voice = some k ∧
        x.posture =
          { errand := .halting call, thread := some ⟨s, none⟩, commands := [.start k, .stop]
            discarded := decide (call = .discard) }) ∨
      (∃ call s, call.halts = true ∧ command = .stop ∧ rest = [] ∧
        x.posture =
          { errand := .halting call, thread := some ⟨s, x.voice⟩, commands := [.stop]
            discarded := decide (call = .discard) }) ∨
      ∃ call s, call.halts = true ∧ command = .close ∧ rest = [] ∧
        x.posture =
          { errand := .joining call, thread := some ⟨s, none⟩, sender := false, commands := [.close]
            discarded := decide (call = .discard) } := by
  cases h with
  | sent errand s k he hp _ hv =>
    obtain ⟨rfl, rfl⟩ := List.cons.inj (hc.symm.trans (congrArg Posture.commands hp))
    exact .inl ⟨errand, s, k, he, rfl, rfl, hv, hp⟩
  | recalled call s k hcall hp _ hv =>
    obtain ⟨rfl, rfl⟩ := List.cons.inj (hc.symm.trans (congrArg Posture.commands hp))
    exact .inr (.inl ⟨call, s, k, hcall, rfl, rfl, hv, hp⟩)
  | stopping call s hcall hp =>
    obtain ⟨rfl, rfl⟩ := List.cons.inj (hc.symm.trans (congrArg Posture.commands hp))
    exact .inr (.inr (.inl ⟨call, s, hcall, rfl, rfl, hp⟩))
  | leaving call s hcall hp =>
    obtain ⟨rfl, rfl⟩ := List.cons.inj (hc.symm.trans (congrArg Posture.commands hp))
    exact .inr (.inr (.inr ⟨call, s, hcall, rfl, rfl, hp⟩))
  | shut _ hp | ready _ hp | running _ _ _ hp | stopped _ _ _ hp | left _ _ _ hp =>
    cases hc.symm.trans (congrArg Posture.commands hp)

/-- The thread waits with a limit only after it was told to start. -/
theorem Situation.ticking_cases (h : Situation x) {t : CaptureThread}
    (ht : x.capture.thread = some t) (hd : t.delivery.isSome = true) (hc : x.commands = []) :
    ∃ errand s k, (errand = .free ∨ ∃ k, errand = .starting k) ∧ x.voice = some k ∧
      t = ⟨s, some k⟩ ∧
      x.posture = { errand, thread := some ⟨s, some k⟩, delivering := true } := by
  cases h with
  | running errand s he hp =>
    obtain rfl : t = ⟨s, x.voice⟩ := by
      simpa using ht.symm.trans (congrArg Posture.thread hp)
    obtain ⟨k, hk⟩ := Option.isSome_iff_exists.1 hd
    have hk : x.voice = some k := hk
    rw [hk] at hp
    exact ⟨errand, s, k, he, hk, by rw [hk], hp⟩
  | ready s hp | stopped _ s _ hp =>
    obtain rfl : t = ⟨s, none⟩ := by
      simpa using ht.symm.trans (congrArg Posture.thread hp)
    cases hd
  | shut _ hp | left _ _ _ hp => cases ht.symm.trans (congrArg Posture.thread hp)
  | sent _ _ _ _ hp | recalled _ _ _ _ hp | stopping _ _ _ hp | leaving _ _ _ hp =>
    cases hc.symm.trans (congrArg Posture.commands hp)

/-! ### What the thread can tell -/

/-- A command under way has somebody to receive it. -/
theorem Situation.thread_of_commands (h : Situation x) (hc : x.commands ≠ []) :
    ∃ t, x.capture.thread = some t := by
  obtain ⟨command, rest, hc⟩ := List.exists_cons_of_ne_nil hc
  rcases h.received_cases hc with ⟨_, _, _, _, _, _, _, hp⟩ | ⟨_, _, _, _, _, _, _, hp⟩ |
    ⟨_, _, _, _, _, hp⟩ | ⟨_, _, _, _, _, hp⟩ <;>
  exact ⟨_, congrArg Posture.thread hp⟩

/-- A start is received by a thread that rests, in the word of its delivery. -/
theorem Situation.resting_of_start (h : Situation x) {t : CaptureThread} {k : Nat}
    {rest : List Command} (hc : x.commands = .start k :: rest) (ht : x.capture.thread = some t) :
    t = ⟨t.stream, none⟩ ∧ x.voice = some k := by
  rcases h.received_cases hc with ⟨_, s, j, _, hk, _, hv, hp⟩ | ⟨_, s, j, _, hk, _, hv, hp⟩ |
    ⟨_, _, _, hk, _⟩ | ⟨_, _, _, hk, _⟩
  case inr.inr.inl | inr.inr.inr => cases hk
  all_goals
    obtain rfl : t = ⟨s, none⟩ := by
      simpa using ht.symm.trans (congrArg Posture.thread hp)
    cases hk
    exact ⟨rfl, hv⟩

/-- A thread that is served by nobody was told to end. -/
theorem Situation.sender_of_thread (h : Situation x) {t : CaptureThread}
    (ht : x.capture.thread = some t) (hc : x.commands = []) : x.capture.holdsSender = true := by
  cases h with
  | shut _ hp | left _ _ _ hp => cases ht.symm.trans (congrArg Posture.thread hp)
  | leaving _ _ _ hp => cases hc.symm.trans (congrArg Posture.commands hp)
  | ready _ hp | sent _ _ _ _ hp | running _ _ _ hp | recalled _ _ _ _ hp | stopping _ _ _ hp
  | stopped _ _ _ hp => exact congrArg Posture.sender hp

/-! ### What the caller can tell when no call is under way -/

/-- The caller holds a sender exactly as long as a thread serves. -/
theorem Situation.sender_eq (h : Situation x) (he : x.errand = .free) :
    x.capture.holdsSender = x.capture.thread.isSome := by
  show x.posture.sender = x.posture.thread.isSome
  rcases h.free_cases he with ⟨_, hp, _⟩ | ⟨_, hp, _⟩ | ⟨_, _, hp, _⟩ | ⟨_, hp⟩ <;> rw [hp] <;> rfl

/-- The caller holds a handle exactly as long as a thread serves. -/
theorem Situation.handle_eq (h : Situation x) (he : x.errand = .free) :
    x.capture.holdsThread = x.capture.thread.isSome := by
  show x.posture.handle = x.posture.thread.isSome
  rcases h.free_cases he with ⟨_, hp, _⟩ | ⟨_, hp, _⟩ | ⟨_, _, hp, _⟩ | ⟨_, hp⟩ <;> rw [hp] <;> rfl

/-- Whoever did not start has a thread that rests, or nothing is open. -/
theorem Situation.resting_cases (h : Situation x) (he : x.errand = .free)
    (hd : x.capture.delivering = false) :
    x.pending = [] ∧ x.voice = none ∧ x.commands = [] ∧
      ((∃ s, x.posture = { thread := some ⟨s, none⟩ }) ∨
        x.posture =
          { thread := none, sender := false, handle := false, discarded := x.discarded }) := by
  rcases h.free_cases he with ⟨discarded, hp, hn, hv⟩ | ⟨s, hp, hn, hv⟩ | ⟨_, _, hp, _⟩ | ⟨_, hp⟩
  · obtain rfl : x.discarded = discarded := congrArg Posture.discarded hp
    exact ⟨hn, hv, congrArg Posture.commands hp, .inr hp⟩
  · exact ⟨hn, hv, congrArg Posture.commands hp, .inl ⟨s, hp⟩⟩
  all_goals cases hd.symm.trans (congrArg Posture.delivering hp)

/-- Whoever started has a start under way, or a thread that was told. -/
theorem Situation.delivering_cases (h : Situation x) (he : x.errand = .free)
    (hd : x.capture.delivering = true) :
    (∃ s k, x.posture =
          { thread := some ⟨s, none⟩, delivering := true, commands := [.start k] } ∧
        x.pending = [] ∧ x.voice = some k) ∨
      ∃ s, x.posture = { thread := some ⟨s, x.voice⟩, delivering := true } := by
  rcases h.free_cases he with ⟨_, hp, _⟩ | ⟨_, hp, _⟩ | hsent | hrunning
  case inr.inr.inl => exact .inl hsent
  case inr.inr.inr => exact .inr hrunning
  all_goals cases hd.symm.trans (congrArg Posture.delivering hp)

/-- Whoever delivers has a thread, and a sender to it. -/
theorem Situation.thread_of_delivering (h : Situation x) (he : x.errand = .free)
    (hd : x.capture.delivering = true) : ∃ t, x.capture.thread = some t := by
  rcases h.delivering_cases he hd with ⟨_, _, hp, _⟩ | ⟨_, hp⟩ <;>
    exact ⟨_, congrArg Posture.thread hp⟩

/-- Whoever is delivering has somebody to send a stop to. -/
theorem Situation.recipient_of_delivering (h : Situation x) (he : x.errand = .free)
    (hd : x.capture.delivering = true) : ∃ t, x.capture.recipient = .ok t := by
  obtain ⟨t, ht⟩ := h.thread_of_delivering he hd
  have hs : x.capture.holdsSender = true := by rw [h.sender_eq he, ht]; rfl
  exact ⟨t, LoopbackCapture.recipient_of_sender hs ht⟩

/-- A delivery that the thread holds was started, and has the word. -/
theorem Situation.voice_of_held (h : Situation x) (he : x.errand = .free) {t : CaptureThread}
    {k : Nat} (ht : x.capture.thread = some t) (hk : t.delivery = some k) :
    x.capture.delivering = true ∧ x.voice = some k := by
  have hheld : x.posture.thread = some ⟨t.stream, some k⟩ := by rw [← hk]; exact ht
  rcases h.free_cases he with ⟨_, hp, _⟩ | ⟨_, hp, _⟩ | ⟨_, _, hp, _⟩ | ⟨s, hp⟩
  case inr.inr.inr =>
    have hthread := (congrArg Posture.thread hp).symm.trans hheld
    exact ⟨congrArg Posture.delivering hp, congrArg CaptureThread.delivery (Option.some.inj hthread)⟩
  all_goals cases (congrArg Posture.thread hp).symm.trans hheld

/-- Who delivers, with nothing under way, has a thread whose delivery has the word. -/
theorem Situation.held_of_delivering (h : Situation x) (he : x.errand = .free)
    (hd : x.capture.delivering = true) (hc : x.commands = []) :
    ∃ t, x.capture.thread = some t ∧ t.delivery = x.voice := by
  rcases h.delivering_cases he hd with ⟨_, _, hp, _⟩ | ⟨s, hp⟩
  · cases hc.symm.trans (congrArg Posture.commands hp)
  · exact ⟨⟨s, x.voice⟩, congrArg Posture.thread hp, rfl⟩

/-- Nothing but a start can be under way, to a thread that rests. -/
theorem Situation.start_of_commands (h : Situation x) (he : x.errand = .free)
    (hc : x.commands ≠ []) :
    ∃ k s, x.commands = [.start k] ∧ x.capture.delivering = true ∧
      x.capture.thread = some ⟨s, none⟩ := by
  rcases h.free_cases he with ⟨_, hp, _⟩ | ⟨_, hp, _⟩ | ⟨s, k, hp, _⟩ | ⟨_, hp⟩
  case inr.inr.inl =>
    exact ⟨k, s, congrArg Posture.commands hp, congrArg Posture.delivering hp,
      congrArg Posture.thread hp⟩
  all_goals exact absurd (congrArg Posture.commands hp) hc

/-- Without a sender nothing is open. -/
theorem Situation.shut_of_no_sender (h : Situation x) (he : x.errand = .free)
    (hs : x.capture.holdsSender = false) :
    x.posture = { thread := none, sender := false, handle := false, discarded := x.discarded } ∧
      x.pending = [] ∧ x.voice = none := by
  have hd : x.capture.delivering = false := by
    refine Bool.eq_false_iff.2 fun hd => ?_
    obtain ⟨t, ht⟩ := h.thread_of_delivering he hd
    have hserving := (hs.symm.trans (h.sender_eq he)).trans (congrArg Option.isSome ht)
    cases hserving
  obtain ⟨hn, hv, -, ⟨s, hp⟩ | hp⟩ := h.resting_cases he hd
  · cases hs.symm.trans (congrArg Posture.sender hp)
  · exact ⟨hp, hn, hv⟩

/-- A capture that was given up is at its end, or on its way there. -/
theorem Situation.of_discarded (h : Situation x) (hd : x.discarded = true) :
    x.errand = .free ∧ x.capture.thread = none ∨
      x.errand = .halting .discard ∨ x.errand = .joining .discard := by
  cases h with
  | shut _ hp => exact .inl ⟨congrArg Posture.errand hp, congrArg Posture.thread hp⟩
  | ready _ hp | sent _ _ _ _ hp | running _ _ _ hp =>
    cases hd.symm.trans (congrArg Posture.discarded hp)
  | recalled call _ _ _ hp | stopping call _ _ hp | stopped call _ _ hp =>
    obtain rfl : call = .discard :=
      of_decide_eq_true ((congrArg Posture.discarded hp).symm.trans hd)
    exact .inr (.inl (congrArg Posture.errand hp))
  | leaving call _ _ hp | left call _ _ hp =>
    obtain rfl : call = .discard :=
      of_decide_eq_true ((congrArg Posture.discarded hp).symm.trans hd)
    exact .inr (.inr (congrArg Posture.errand hp))

end Interplay

end AirLoop
