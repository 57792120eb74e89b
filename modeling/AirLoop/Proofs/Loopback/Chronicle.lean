import AirLoop.Proofs.Loopback.Accord
import Mathlib.Data.List.Induction

/-!
# What is written down

The history of a loopback capture, as it comes about step by step (`Written`). Whoever is called
back has the word (`Chronicle.spoken`), and has it since the start that was sent for it: there was no
other start since, no halt has returned, and it had no fault (`voice_some`).
-/

namespace AirLoop

open LoopbackHistory

/-! ## Since when a delivery has the word -/

namespace LoopbackEvent

/-- The delivery that a start was sent for, if that is what happened. -/
def started? : LoopbackEvent → Option Nat
  | .sent (.start k) => some k
  | _ => none

/-- A halt has returned. -/
def halt : LoopbackEvent → Bool
  | .returned call _ => call.halts
  | _ => false

/-- A delivery was given a fault. -/
def isFault : LoopbackEvent → Bool
  | .signalled (.fault _ _) => true
  | _ => false

theorem voice_eq (e : LoopbackEvent) (v : Option Nat) :
    e.voice v =
      if e.halt ∨ e.isFault then none else e.started?.or v := by
  cases e with
  | sent command => cases command <;> rfl
  | asked | fetched => rfl
  | signalled s => cases s <;> rfl
  | returned call failure => cases h : call.halts <;> simp [voice, halt, isFault, started?, h]

end LoopbackEvent

namespace LoopbackHistory

/-- The deliveries that starts were sent for. -/
def started (h : LoopbackHistory) : List Nat := h.filterMap LoopbackEvent.started?

@[simp] theorem started_append (a b : LoopbackHistory) : started (a ++ b) = started a ++ started b :=
  List.filterMap_append

theorem mem_started {h : LoopbackHistory} {k : Nat} :
    k ∈ started h ↔ .sent (.start k) ∈ h := by
  refine List.mem_filterMap.trans ⟨?_, fun hk => ⟨_, hk, rfl⟩⟩
  rintro ⟨e, he, hs⟩
  cases e with
  | sent command =>
    cases command with
    | start j =>
      obtain rfl : j = k := Option.some.inj hs
      exact he
    | stop | close => cases hs
  | asked | fetched | signalled | returned => cases hs

/-- **Who has the word**: the delivery of the latest start, if no halt returned and no fault was
given since. -/
theorem voice_some {h : LoopbackHistory} {k : Nat} (hv : voice none h = some k) :
    ∃ a b, h = a ++ .sent (.start k) :: b ∧
      ∀ e ∈ b, e.started? = none ∧ e.halt = false ∧ e.isFault = false := by
  induction h using List.reverseRecOn with
  | nil => cases hv
  | append_singleton h e ih =>
    rw [voice_append, voice_cons, voice_nil, LoopbackEvent.voice_eq] at hv
    by_cases hq : e.halt ∨ e.isFault
    · simp [hq] at hv
    · rw [if_neg hq] at hv
      cases hs : e.started? with
      | some j =>
        obtain rfl : j = k := by simpa [hs] using hv
        obtain rfl : e = .sent (.start j) := by
          cases e with
          | sent command => cases command <;> simp_all [LoopbackEvent.started?]
          | asked | fetched | signalled | returned => cases hs
        exact ⟨h, [], rfl, nofun⟩
      | none =>
        obtain ⟨a, b, rfl, hb⟩ := ih (by simpa [hs] using hv)
        refine ⟨a, b ++ [e], by simp, ?_⟩
        intro d hd
        rcases List.mem_append.1 hd with hd | hd
        · exact hb d hd
        · obtain rfl := List.mem_singleton.1 hd
          exact ⟨hs, by simpa using hq⟩

/-- Nobody gets the word without a start. -/
theorem voice_none {b : LoopbackHistory} (hb : ∀ e ∈ b, e.started? = none) :
    voice none b = none := by
  induction b with
  | nil => rfl
  | cons e b ih =>
    obtain ⟨hstart, hb⟩ := List.forall_mem_cons.1 hb
    have hv : e.voice none = none := by
      rw [LoopbackEvent.voice_eq, hstart]
      exact ite_self _
    rw [voice_cons, hv]
    exact ih hb

/-- A delivery keeps the word until its fault, another start, or a halt that returns. -/
theorem voice_since {b : LoopbackHistory} {k : Nat} (hs : Spoken (some k) b)
    (hb : ∀ e ∈ b, e.started? = none ∧ e.halt = false) :
    voice (some k) b = some k ∨ voice (some k) b = none ∧ ∃ f, .signalled (.fault k f) ∈ b := by
  induction b with
  | nil => exact .inl rfl
  | cons e b ih =>
    obtain ⟨⟨hstart, hhalt⟩, hrest⟩ := List.forall_mem_cons.1 hb
    by_cases hf : e.isFault = true
    · cases e with
      | signalled s =>
        cases s with
        | fault j f =>
          obtain rfl : k = j := by simpa using hs.1 j rfl
          exact .inr ⟨voice_none fun e he => (hrest e he).1, f, List.mem_cons_self ..⟩
        | buffer | log => cases hf
      | sent | asked | fetched | returned => cases hf
    · have hv : e.voice (some k) = some k := by
        rw [LoopbackEvent.voice_eq, if_neg (by simp [hhalt, hf]), hstart]
        rfl
      have hs := hs.2
      rw [hv] at hs
      rw [voice_cons, hv]
      exact (ih hs hrest).imp_right fun ⟨h, f, hmem⟩ => ⟨h, f, List.mem_cons_of_mem _ hmem⟩

end LoopbackHistory

namespace Interplay

variable {x y : Interplay}

/-! ## What one step writes down -/

/-- What one step adds to what has happened and to what is still to be reported. -/
inductive Written (x y : Interplay) : Prop where
  /-- something that gives the word to nobody and takes it from nobody -/
  | aside (events : LoopbackHistory) : Neutral events → y.history = x.history ++ events →
      y.pending = x.pending → Written x y
  /-- a start is sent -/
  | started (k : Nat) : x.pending = [] → y.history = x.history ++ [.sent (.start k)] →
      y.pending = [] → Written x y
  /-- a halt returns -/
  | halted (call : LoopbackCall) (failure : Option Fault) : call.halts = true → x.pending = [] →
      y.history = x.history ++ [.returned call failure] → y.pending = [] → Written x y
  /-- what was pending is reported -/
  | reported (e : LoopbackEvent) : x.pending = e :: y.pending → y.history = x.history ++ [e] →
      Written x y
  /-- the thread goes a round -/
  | round : x.pending = [] → y.history = x.history → LoopbackCapture.Round x.voice y.pending →
      Written x y

/-- What opening reports is for the log. -/
theorem openDevice_neutral (c : LoopbackCapture) :
    Neutral (c.openDevice.signals.map .signalled) := by
  by_cases hs : c.holdsSender = true
  · rw [LoopbackCapture.openDevice_again hs]
    exact .nil
  · rcases LoopbackCapture.openDevice_cases (by simpa using hs) with ⟨_, _, ho⟩ | ⟨_, _, line, ho⟩
    · rw [ho]
      exact .nil
    · rw [ho]
      exact .logged line

theorem farewell_neutral (c : LoopbackCapture) : Neutral (c.farewell.map .sent) := by
  unfold LoopbackCapture.farewell
  split
  · exact .sent nofun
  · exact .nil

theorem written_of_halted {z : Interplay} {call : LoopbackCall} (hc : call.halts = true)
    (hn : x.pending = []) (hp : z.pending = x.pending) (hh : z.history = x.history) :
    Written x (z.halted call) := by
  unfold halted
  split
  · exact .aside _ (farewell_neutral z.capture) (congrArg (· ++ _) hh) hp
  · exact .halted call none hc hn (congrArg (· ++ _) hh) (hp.trans hn)

theorem written_of_callerStep (h : Situation x) (hs : x.CallerStep y) : Written x y := by
  cases hs with
  | openDevice =>
    exact .aside _ ((openDevice_neutral x.capture).append (.returned rfl _)) rfl rfl
  | refuseStart => exact .aside _ (.returned rfl _) rfl rfl
  | sendStart hi hr =>
    obtain ⟨-, hn⟩ := ready_of_accepted h hi hr
    exact .started x.starts hn rfl hn
  | finishStart => exact .aside _ (.returned rfl _) rfl rfl
  | @skipStop call hi hc hd =>
    obtain ⟨hn, -⟩ := h.resting_cases hi.1 hd
    exact written_of_halted hc hn rfl rfl
  | sendStop => exact .aside [.sent .stop] (.sent nofun) rfl rfl
  | failStop hi _ hd hf =>
    obtain ⟨t, ht⟩ := h.recipient_of_delivering hi.1 hd
    cases ht.symm.trans hf
  | @halted call he hd =>
    obtain ⟨hc, hn, -⟩ := h.stopped_of_over he hd
    exact written_of_halted hc hn rfl rfl
  | @joined call he ht hn => exact .halted call none (h.joining_cases he).1 hn rfl hn

theorem written_of_threadStep (h : Accord x) (hs : x.ThreadStep y) : Written x y := by
  cases hs with
  | report he => exact .reported _ he rfl
  | @receive t command rest hn ht hq =>
    refine .round hn rfl ?_
    cases command with
    | start k =>
      obtain ⟨hts, hw⟩ := h.situation.resting_of_start hq ht
      rw [hts] at ht ⊢
      rw [hw]
      exact (LoopbackCapture.round_start h.calm ht).1
    | stop => exact LoopbackCapture.round_stop _ _ _
    | close => exact LoopbackCapture.round_close _ _ _
  | @tick t hn ht hd hq =>
    refine .round hn rfl ?_
    obtain ⟨_, s, k, -, hw, rfl, -⟩ := h.situation.ticking_cases ht hd hq
    rw [hw]
    exact (LoopbackCapture.round_idle h.calm ht).1
  | disconnected _ ht hq hs => exact absurd (h.situation.sender_of_thread ht hq) (by simp [hs])

theorem written_of_step (h : Accord x) (hs : x.Step y) : Written x y := by
  cases hs with
  | caller hs => exact written_of_callerStep h.situation hs
  | thread hs => exact written_of_threadStep h hs
  | supply queue arrivals => exact .aside [] .nil (List.append_nil _).symm rfl

/-! ## What can be told of all that is written down -/

/-- What holds of a history and of what is still to be reported. -/
structure Chronicle (x : Interplay) : Prop where
  ofThread : ∀ e ∈ x.pending, e.ofThread = true
  /-- only deliveries that have the word are called back -/
  spoken : Spoken none (x.history ++ x.pending)
  /-- once all is reported, each delivery had the faults of its failures -/
  faults : ∀ k, faults k (x.history ++ x.pending) = failures k (x.history ++ x.pending)
  /-- nothing is a fault before its failure -/
  justified : ∀ k p, p <+: x.pending →
    LoopbackHistory.faults k (x.history ++ p) <+: failures k (x.history ++ p)

/-- A chronicle stays one if no callback and no failure is added. -/
theorem Chronicle.insert (h : Chronicle x) {events : LoopbackHistory}
    (hh : y.history = x.history ++ events) (hp : y.pending = x.pending)
    (hs : Spoken none (y.history ++ y.pending))
    (hf : ∀ k, LoopbackHistory.faults k events = [] ∧ failures k events = []) : Chronicle y where
  ofThread := hp ▸ h.ofThread
  spoken := hs
  faults k := by
    have := h.faults k
    simp only [faults_append, failures_append] at this
    simp only [hh, hp, faults_append, failures_append, (hf k).1, (hf k).2, List.append_nil]
    exact this
  justified k p hpre := by
    rw [hp] at hpre
    have := h.justified k p hpre
    simp only [faults_append, failures_append] at this
    simp only [hh, faults_append, failures_append, (hf k).1, (hf k).2, List.append_nil]
    exact this

theorem chronicle_of_written (h : Chronicle x) (hw : Written x y) : Chronicle y := by
  cases hw with
  | aside events hn hh hp =>
    refine h.insert hh hp ?_ fun k => ⟨hn.faults k, hn.failures k⟩
    obtain ⟨hx, hrest⟩ := spoken_append.1 h.spoken
    rw [hh, hp, List.append_assoc]
    refine spoken_append.2 ⟨hx, spoken_append.2 ⟨hn.spoken _, ?_⟩⟩
    rw [hn.voice]
    exact hrest
  | started k hn hh hp =>
    refine h.insert hh (hp.trans hn.symm) ?_ fun _ => ⟨rfl, rfl⟩
    have hx := (spoken_append.1 h.spoken).1
    rw [hh, hp, List.append_nil]
    exact spoken_append.2 ⟨hx, nofun, trivial⟩
  | halted call failure _ hn hh hp =>
    refine h.insert hh (hp.trans hn.symm) ?_ fun _ => ⟨rfl, rfl⟩
    have hx := (spoken_append.1 h.spoken).1
    rw [hh, hp, List.append_nil]
    exact spoken_append.2 ⟨hx, nofun, trivial⟩
  | reported e hp hh =>
    have hsame : y.history ++ y.pending = x.history ++ x.pending := by
      rw [hh, hp, List.append_assoc]
      rfl
    refine ⟨fun d hd => h.ofThread d (hp ▸ List.mem_cons_of_mem _ hd), hsame ▸ h.spoken,
      hsame ▸ h.faults, fun k p hpre => ?_⟩
    have := h.justified k (e :: p) (hp ▸ List.cons_prefix_cons.2 ⟨rfl, hpre⟩)
    rw [hh, List.append_assoc]
    exact this
  | round hn hh hr =>
    have hv : x.voice = LoopbackHistory.voice none x.history := by
      rw [voice, hn, List.append_nil]
    have hs := h.spoken
    have hf := h.faults
    rw [hn, List.append_nil] at hs hf
    refine ⟨hr.ofThread, ?_, fun k => ?_, fun k p hpre => ?_⟩
    · rw [hh]
      exact spoken_append.2 ⟨hs, hv ▸ hr.spoken⟩
    · rw [hh, faults_append, failures_append, hf, hr.faults]
    · rw [hh, faults_append, failures_append, hf]
      exact (List.prefix_append_right_inj _).2 (hr.justified k p hpre)

theorem chronicle_of_possible {device : AudioDevice} (h : Possible device x) : Chronicle x := by
  induction h with
  | refl =>
    refine ⟨nofun, trivial, fun _ => rfl, fun _ p hp => ?_⟩
    obtain rfl := List.prefix_nil.1 hp
    exact List.prefix_rfl
  | tail hx hs ih => exact chronicle_of_written ih (written_of_step (accord_of_possible hx) hs)

end Interplay

end AirLoop
