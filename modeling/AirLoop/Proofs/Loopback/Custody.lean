import Mathlib.Data.List.Induction
import AirLoop.Loopback.Capture

/-!
# What is taken from the device and given back

An audio device lends three things: the apartment, the mix format and the name property, and a stream
that was started has to be stopped. `Holdings` is what is in hand after some calls, where a call that
gives back what is not in hand, or takes what is, has no place (`Holdings.after`). So a log that has
one is in order (`inOrder_of_held`), and balanced if nothing is in hand at its end
(`balanced_of_held`). The functions of a capture are told of by where they lead from which holdings
(`AudioDevice.Leads`).
-/

namespace AirLoop

/-- A call with the failure that it was answered with, if any. -/
abbrev AnsweredCall := AudioCall × Option String

/-! ## Logs -/

namespace AudioDevice

/-- Calls as they are answered after those before them. -/
def answers (refusal : List AudioCall → AudioCall → Option String) :
    List AudioCall → List AudioCall → List AnsweredCall
  | _, [] => []
  | before, c :: rest => (c, refusal before c) :: answers refusal (before ++ [c]) rest

/-- All calls of a device, as they were answered. -/
def log (d : AudioDevice) : List AnsweredCall := answers d.refusal [] d.calls

theorem answers_append (refusal : List AudioCall → AudioCall → Option String)
    (before a b : List AudioCall) :
    answers refusal before (a ++ b) =
      answers refusal before a ++ answers refusal (before ++ a) b := by
  induction a generalizing before with
  | nil => rw [List.append_nil]; rfl
  | cons c a ih => rw [List.cons_append, answers, answers, ih, List.append_assoc]; rfl

end AudioDevice

/-- What a device lends. -/
inductive Loan where
  | apartment | mixFormat | name
  deriving DecidableEq

namespace Loan

/-- The call that takes it. -/
def taker : Loan → AudioCall
  | apartment => .joinApartment
  | mixFormat => .mixFormat
  | name => .readName

/-- The call that gives it back. -/
def giver : Loan → AudioCall
  | apartment => .leaveApartment
  | mixFormat => .freeMixFormat
  | name => .clearName

/-- How often it was taken. -/
def taken (l : Loan) (log : List AnsweredCall) : Nat := log.count (l.taker, none)

/-- How often it was given back. -/
def given (l : Loan) (log : List AnsweredCall) : Nat := (log.map Prod.fst).count l.giver

end Loan

/-- The stream was started and not stopped since. -/
def Running (log : List AnsweredCall) : Prop :=
  ∃ a b, log = a ++ (.startStream, none) :: b ∧ ∀ r, (.stopStream, r) ∉ b

/-- Everything in its order. -/
structure InOrder (log : List AnsweredCall) : Prop where
  /-- nothing is given back that was not taken, and nothing taken twice -/
  paired : ∀ (l : Loan) p, p <+: log → l.given p ≤ l.taken p ∧ l.taken p ≤ l.given p + 1
  /-- mix formats are taken in the apartment -/
  inside : ∀ p, p ++ [(.mixFormat, none)] <+: log →
    Loan.apartment.taken p = Loan.apartment.given p + 1
  /-- nobody leaves the apartment with a mix format or a name in hand -/
  nested : ∀ p r, p ++ [(.leaveApartment, r)] <+: log →
    Loan.mixFormat.given p = Loan.mixFormat.taken p ∧ Loan.name.given p = Loan.name.taken p
  /-- a stream is stopped before the mix format of its session is freed -/
  stopped : ∀ p r, p ++ [(.freeMixFormat, r)] <+: log → ¬ Running p

/-- Everything was given back, and the stream stopped. -/
def Balanced (log : List AnsweredCall) : Prop :=
  (∀ l : Loan, l.given log = l.taken log) ∧ ¬ Running log

/-! ## Holdings -/

/-- What is in hand. -/
structure Holdings where
  apartment : Bool := false
  mixFormat : Bool := false
  name : Bool := false
  /-- the stream was started and not stopped -/
  running : Bool := false
  deriving DecidableEq

namespace Holdings

/-- What is in hand after a call, if the call has a place there. -/
def after (h : Holdings) : AnsweredCall → Option Holdings
  | (.joinApartment, none) => if h.apartment then none else some { h with apartment := true }
  | (.mixFormat, none) =>
    if h.apartment ∧ h.mixFormat = false then some { h with mixFormat := true } else none
  | (.readName, none) => if h.name then none else some { h with name := true }
  | (.startStream, none) => some { h with running := true }
  | (.stopStream, _) => some { h with running := false }
  | (.clearName, _) => if h.name then some { h with name := false } else none
  | (.freeMixFormat, _) =>
    if h.mixFormat ∧ h.running = false then some { h with mixFormat := false } else none
  | (.leaveApartment, _) => if h = { apartment := true } then some {} else none
  | _ => some h

/-- What is in hand after some calls. -/
def afterAll (h : Holdings) (log : List AnsweredCall) : Option Holdings := log.foldlM after h

/-- Whether this is in hand. -/
def has (h : Holdings) : Loan → Bool
  | .apartment => h.apartment
  | .mixFormat => h.mixFormat
  | .name => h.name

theorem afterAll_append (h : Holdings) (a b : List AnsweredCall) :
    h.afterAll (a ++ b) = (h.afterAll a).bind fun h => h.afterAll b :=
  List.foldlM_append ..

/-- Each loan is taken and given back in turn. -/
theorem given_after {h h' : Holdings} {e : AnsweredCall} (hs : h.after e = some h') (l : Loan) :
    l.given [e] + (h'.has l).toNat = l.taken [e] + (h.has l).toNat := by
  obtain ⟨c, r⟩ := e
  -- a table of all calls, of their answers and of the loans
  cases c <;> cases r <;> cases l <;>
    simp only [after] at hs <;> grind [Loan.given, Loan.taken, Loan.giver, Loan.taker, has]

/-- The stream runs from a start to a stop. -/
theorem running_after {h h' : Holdings} {e : AnsweredCall} (hs : h.after e = some h') :
    h'.running = true ↔ e = (.startStream, none) ∨ h.running = true ∧ e.1 ≠ .stopStream := by
  obtain ⟨c, r⟩ := e
  cases c <;> cases r <;> simp only [after] at hs <;> grind

end Holdings

theorem running_append_singleton {log : List AnsweredCall} {e : AnsweredCall} :
    Running (log ++ [e]) ↔ e = (.startStream, none) ∨ Running log ∧ e.1 ≠ .stopStream := by
  constructor
  · rintro ⟨a, b, hab, hb⟩
    rcases List.eq_nil_or_concat b with rfl | ⟨b, d, rfl⟩
    · exact .inl (List.singleton_inj.1 (List.append_inj' hab rfl).2)
    · rw [List.concat_eq_append, ← List.cons_append, ← List.append_assoc] at hab
      obtain ⟨rfl, hd⟩ := List.append_inj' hab rfl
      obtain rfl : e = d := by simpa using hd
      refine .inr ⟨⟨a, b, rfl, fun r hr => hb r (by simp [hr])⟩, fun he => hb e.2 ?_⟩
      rw [← he]
      simp
  · rintro (rfl | ⟨⟨a, b, rfl, hb⟩, he⟩)
    · exact ⟨log, [], rfl, nofun⟩
    · refine ⟨a, b ++ [e], by simp, fun r hr => ?_⟩
      rcases List.mem_append.1 hr with hr | hr
      · exact hb r hr
      · exact he (List.mem_singleton.1 hr ▸ rfl)

/-! ## Logs that have their holdings -/

/-- These holdings are in hand after the log. -/
def Held (log : List AnsweredCall) (h : Holdings) : Prop := Holdings.afterAll {} log = some h

theorem Held.append_singleton {log : List AnsweredCall} {e : AnsweredCall} {h : Holdings} :
    Held (log ++ [e]) h ↔ ∃ before, Held log before ∧ before.after e = some h := by
  unfold Held
  rw [Holdings.afterAll_append]
  cases Holdings.afterAll {} log with
  | none => simp
  | some before => simp [Holdings.afterAll]

/-- **The holdings are what was taken and not given back.** -/
theorem Held.count {log : List AnsweredCall} {h : Holdings} (hh : Held log h) :
    (∀ l : Loan, l.given log + (h.has l).toNat = l.taken log) ∧
      (h.running = true ↔ Running log) := by
  induction log using List.reverseRecOn generalizing h with
  | nil =>
    cases hh
    refine ⟨fun l => by cases l <;> rfl, nofun, ?_⟩
    rintro ⟨a, b, hab, -⟩
    cases a <;> cases hab
  | append_singleton log e ih =>
    obtain ⟨before, hb, he⟩ := Held.append_singleton.1 hh
    obtain ⟨hcount, hrun⟩ := ih hb
    refine ⟨fun l => ?_, ?_⟩
    · have h1 := hcount l
      have h2 := Holdings.given_after he l
      simp only [Loan.given, Loan.taken, List.map_append, List.count_append, List.map_cons,
        List.map_nil] at h1 h2 ⊢
      omega
    · rw [Holdings.running_after he, running_append_singleton, hrun]

/-- Whatever comes later, each beginning of a log has its holdings. -/
theorem Held.of_prefix {log p : List AnsweredCall} {h : Holdings} (hh : Held log h)
    (hp : p <+: log) : ∃ before, Held p before := by
  obtain ⟨q, rfl⟩ := hp
  unfold Held at hh
  rw [Holdings.afterAll_append] at hh
  obtain ⟨before, hb, -⟩ := Option.bind_eq_some_iff.1 hh
  exact ⟨before, hb⟩

theorem inOrder_of_held {log : List AnsweredCall} {h : Holdings} (hh : Held log h) :
    InOrder log where
  paired l p hp := by
    obtain ⟨before, hb⟩ := hh.of_prefix hp
    have hcount := hb.count.1 l
    have hle := Bool.toNat_le (before.has l)
    omega
  inside p hp := by
    obtain ⟨later, hl⟩ := hh.of_prefix hp
    obtain ⟨before, hb, he⟩ := Held.append_singleton.1 hl
    have hcount := hb.count.1 .apartment
    have : before.apartment = true := by grind [Holdings.after]
    simp only [Holdings.has, this, Bool.toNat_true] at hcount
    exact hcount.symm
  nested p r hp := by
    obtain ⟨later, hl⟩ := hh.of_prefix hp
    obtain ⟨before, hb, he⟩ := Held.append_singleton.1 hl
    have hbefore : before = { apartment := true } := by grind [Holdings.after]
    exact ⟨by simpa [hbefore, Holdings.has] using hb.count.1 .mixFormat,
      by simpa [hbefore, Holdings.has] using hb.count.1 .name⟩
  stopped p r hp := by
    obtain ⟨later, hl⟩ := hh.of_prefix hp
    obtain ⟨before, hb, he⟩ := Held.append_singleton.1 hl
    have : before.running = false := by grind [Holdings.after]
    rw [← hb.count.2]
    simp [this]

theorem balanced_of_held {log : List AnsweredCall} (hh : Held log {}) : Balanced log := by
  refine ⟨fun l => ?_, fun hr => nomatch hh.count.2.2 hr⟩
  have hcount := hh.count.1 l
  have hnone : (({} : Holdings).has l).toNat = 0 := by cases l <;> rfl
  rwa [hnone, Nat.add_zero] at hcount

/-! ## Where the functions of a capture lead -/

namespace AudioDevice

variable {d d' d'' : AudioDevice} {h h' h'' : Holdings}

/-- From these holdings to those, by more calls. -/
structure Leads (d d' : AudioDevice) (h h' : Holdings) : Prop where
  refusal : d'.refusal = d.refusal
  calls : ∃ more, d'.calls = d.calls ++ more ∧
    h.afterAll (answers d.refusal d.calls more) = some h'

theorem Leads.refl (d : AudioDevice) (h : Holdings) : Leads d d h h :=
  ⟨rfl, [], (List.append_nil _).symm, rfl⟩

theorem Leads.trans (h1 : Leads d d' h h') (h2 : Leads d' d'' h' h'') : Leads d d'' h h'' := by
  obtain ⟨hr1, a, ha, hf1⟩ := h1
  obtain ⟨hr2, b, hb, hf2⟩ := h2
  refine ⟨hr2.trans hr1, a ++ b, by rw [hb, ha, List.append_assoc], ?_⟩
  rw [hr1, ha] at hf2
  rw [answers_append, Holdings.afterAll_append, hf1]
  exact hf2

/-- One call that has its place. -/
theorem leads_note {c : AudioCall} (ha : h.after (c, d.refusal d.calls c) = some h') :
    Leads d (d.note c) h h' := by
  refine ⟨rfl, [c], rfl, ?_⟩
  rw [answers, answers, Holdings.afterAll]
  simp [ha]

/-- One call and its answer. -/
theorem leads_ask {c : AudioCall} {r : Option String} (hd : d.ask c = (r, d'))
    (ha : h.after (c, r) = some h') : Leads d d' h h' := by
  cases hd
  exact leads_note ha

theorem Leads.held (hl : Leads d d' h h') (hh : Held d.log h) : Held d'.log h' := by
  obtain ⟨hr, more, hc, hf⟩ := hl
  rw [log, hr, hc, answers_append, Held, Holdings.afterAll_append]
  rw [Held, log] at hh
  rw [hh]
  exact hf

/-- The name is read and given back. -/
theorem leads_friendlyName (hn : h.name = false) : Leads d d.friendlyName.2 h h := by
  unfold friendlyName
  split
  · next d1 h1 => exact leads_ask h1 rfl
  · next d1 h1 =>
    have l1 : Leads d d1 h h := leads_ask h1 rfl
    split
    · next d2 h2 => exact l1.trans (leads_ask h2 rfl)
    · next d2 h2 =>
      have l2 : Leads d1 d2 h { h with name := true } :=
        leads_ask h2 (by simp [Holdings.after, hn])
      refine (l1.trans l2).trans (leads_note ?_)
      simp [Holdings.after, ← hn]

/-- What is in hand of a session that was bound or not. -/
def bindingHoldings : Binding → Holdings
  | .bound _ => { apartment := true, mixFormat := true }
  | .refused _ | .crashed => { apartment := true }

theorem leads_configureStream (d : AudioDevice) (name : Option String) :
    Leads d (d.configureStream name).2 { apartment := true }
      (bindingHoldings (d.configureStream name).1) := by
  unfold configureStream
  split
  · next d1 h1 => exact leads_ask h1 rfl
  · next d1 h1 =>
    have l1 : Leads d d1 { apartment := true } { apartment := true, mixFormat := true } :=
      leads_ask h1 rfl
    dsimp only
    split
    · next d2 h2 => exact (l1.trans (leads_ask h2 rfl)).trans (leads_note rfl)
    · next d2 h2 =>
      have l2 := l1.trans (leads_ask h2 rfl)
      split
      · next d3 h3 => exact (l2.trans (leads_ask h3 rfl)).trans (leads_note rfl)
      · next d3 h3 => exact l2.trans (leads_ask h3 rfl)

/-- **Binding keeps the mix format of a session that was bound, and nothing else.** -/
theorem leads_bindLoopback (d : AudioDevice) :
    Leads d d.bindLoopback.2 { apartment := true } (bindingHoldings d.bindLoopback.1) := by
  unfold bindLoopback
  split
  · next d1 h1 => exact leads_ask h1 rfl
  · next d1 h1 =>
    have l1 : Leads d d1 { apartment := true } { apartment := true } := leads_ask h1 rfl
    split
    · next d2 h2 => exact l1.trans (leads_ask h2 rfl)
    · next d2 h2 =>
      have l2 := (l1.trans (leads_ask h2 rfl)).trans (leads_friendlyName rfl)
      dsimp only
      split
      · exact l2
      · split
        · next d3 h3 => exact l2.trans (leads_ask h3 rfl)
        · next d3 h3 => exact (l2.trans (leads_ask h3 rfl)).trans (leads_configureStream ..)

/-- **Letting go gives back everything.** -/
theorem leads_release (d : AudioDevice) (running : Bool) :
    Leads d d.release { apartment := true, mixFormat := true, running } {} :=
  ((leads_note rfl).trans (leads_note rfl)).trans (leads_note rfl)

end AudioDevice

namespace LoopbackCapture

open AudioDevice

/-- What is in hand of a capture: nothing, or what its thread keeps. -/
def holdings (c : LoopbackCapture) : Holdings :=
  match c.thread with
  | none => {}
  | some t => { apartment := true, mixFormat := true, running := t.delivery.isSome }

theorem holdings_of_thread {c : LoopbackCapture} {t : CaptureThread} (ht : c.thread = some t) :
    c.holdings = { apartment := true, mixFormat := true, running := t.delivery.isSome } := by
  rw [holdings, ht]

/-- Fetching packets takes nothing and gives nothing back. -/
theorem drain_calls (blockAlign : UInt16) (listenerCrashes : Bool) (queue : List Packet) :
    ∀ c ∈ (drain blockAlign listenerCrashes queue).calls,
      ∀ (h : Holdings) (r : Option String), h.after (c, r) = some h := by
  induction queue with
  | nil => simp [drain, Holdings.after]
  | cons p rest ih =>
    rw [drain]
    cases p.sizeFailure with
    | some e => simp [Holdings.after]
    | none =>
      dsimp only
      split
      · simp [Holdings.after]
      · cases p.bufferFailure with
        | some e => simp [Holdings.after]
        | none =>
          dsimp only
          split
          · simp [Holdings.after]
          · cases p.releaseFailure with
            | some e => simp [Holdings.after]
            | none =>
              simp only [Drained.after]
              exact List.forall_mem_append.2 ⟨by simp [Holdings.after], ih⟩

theorem leads_fetch (d : AudioDevice) (h : Holdings) (blockAlign : UInt16)
    (listenerCrashes : Bool) (queue : List Packet) :
    let r := drain blockAlign listenerCrashes queue
    Leads d { d with queue := r.queue, calls := d.calls ++ r.calls } h h := by
  intro r
  refine ⟨rfl, r.calls, rfl, ?_⟩
  have hc : ∀ c ∈ r.calls, ∀ (h : Holdings) (e : Option String), h.after (c, e) = some h :=
    drain_calls blockAlign listenerCrashes queue
  generalize r.calls = calls at hc
  generalize d.calls = before
  induction calls generalizing before with
  | nil => rfl
  | cons c calls ih =>
    obtain ⟨hcall, hrest⟩ := List.forall_mem_cons.1 hc
    rw [answers, Holdings.afterAll, List.foldlM_cons, hcall]
    exact ih hrest _

theorem leads_pump (c : LoopbackCapture) :
    Leads c.device c.pump.2.device c.holdings c.pump.2.holdings := by
  unfold pump
  split
  · exact .refl ..
  · next t ht =>
    split
    · exact .refl ..
    · next k hk =>
      have hx : c.holdings = { apartment := true, mixFormat := true, running := true } := by
        rw [holdings_of_thread ht, hk]
        rfl
      have hfetch := leads_fetch c.device c.holdings t.stream.blockAlign c.listenerCrashes
        c.device.queue
      dsimp only
      split
      · exact hfetch
      · rw [hx] at hfetch ⊢
        exact hfetch.trans (leads_note rfl)
      · rw [hx] at hfetch ⊢
        exact hfetch.trans (leads_release _ true)

theorem leads_beginDelivery {c : LoopbackCapture} {t : CaptureThread} (ht : c.thread = some t)
    (k : Nat) :
    Leads c.device (c.beginDelivery t k).2.device c.holdings (c.beginDelivery t k).2.holdings := by
  have hx := holdings_of_thread ht
  have hpriority : Leads c.device (c.device.note .raisePriority) c.holdings c.holdings :=
    leads_note rfl
  unfold beginDelivery
  split
  · next e device h => exact hpriority.trans (leads_ask h rfl)
  · next device h =>
    rw [hx] at hpriority ⊢
    exact hpriority.trans (leads_ask h rfl)

/-- **The thread keeps what it needs, and at its end gives back everything.** -/
theorem leads_obey {c : LoopbackCapture} {t : CaptureThread} (ht : c.thread = some t)
    (command : Command) :
    Leads c.device (c.obey t command).2.device c.holdings (c.obey t command).2.holdings := by
  have hx := holdings_of_thread ht
  cases command with
  | start k =>
    have hp := (leads_beginDelivery ht k).trans (leads_pump (c.beginDelivery t k).2)
    unfold obey
    dsimp only
    split <;> exact hp
  | stop =>
    rw [hx]
    unfold obey
    cases t.delivery with
    | none => exact .refl ..
    | some k => exact leads_note rfl
  | close =>
    rw [hx]
    exact leads_release ..

/-- **An opening that fails gives back everything; one that does not keeps a session.** -/
theorem leads_openDevice {c : LoopbackCapture} (hs : c.holdsSender = c.thread.isSome) :
    Leads c.device c.openDevice.source.device c.holdings c.openDevice.source.holdings := by
  unfold openDevice
  split
  · exact .refl ..
  · next h =>
    have ht : c.thread = none := by
      rw [hs] at h
      simpa using h
    have hx (device : AudioDevice) : ({ c with device } : LoopbackCapture).holdings = {} := by
      rw [holdings, ht]
    rw [show c.holdings = {} from hx c.device]
    split
    · next e device hj =>
      rw [refuse, hx]
      exact leads_ask hj rfl
    · next device hj =>
      have hbind := leads_bindLoopback device
      have hjoin : Leads c.device device {} { apartment := true } := leads_ask hj rfl
      split
      · next f bound hb =>
        rw [hb] at hbind
        rw [refuse, hx]
        exact (hjoin.trans hbind).trans (leads_note rfl)
      · next bound hb =>
        rw [hb] at hbind
        rw [refuse, hx]
        exact (hjoin.trans hbind).trans (leads_note rfl)
      · next s bound hb =>
        rw [hb] at hbind
        exact hjoin.trans hbind

/-- Whoever is not open asks the device anew, from the apartment on. -/
theorem openDevice_joins {c : LoopbackCapture} (h : c.holdsSender = false) :
    ∃ rest, c.openDevice.source.device.calls = c.device.calls ++ .joinApartment :: rest := by
  unfold openDevice
  rw [if_neg (by simp [h])]
  split
  · next e device hj =>
    obtain rfl : c.device.note .joinApartment = device := congrArg Prod.snd hj
    exact ⟨[], rfl⟩
  · next device hj =>
    obtain rfl : c.device.note .joinApartment = device := congrArg Prod.snd hj
    obtain ⟨-, more, hmore, -⟩ := leads_bindLoopback (c.device.note .joinApartment)
    split
    · next f bound hb => exact ⟨more ++ [.leaveApartment], by simp_all [refuse, note]⟩
    · next bound hb => exact ⟨more ++ [.leaveApartment], by simp_all [refuse, note]⟩
    · next s bound hb => exact ⟨more, by simp_all [note]⟩

end LoopbackCapture

end AirLoop
