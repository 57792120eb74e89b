import AirLoop.Proofs.Loopback.Chronicle

/-!
# What the caller was told

The caller's own account of a loopback capture: how its starts are numbered, what its calls returned,
whether the capture is open, and since when it is delivering (`ledger_of_possible`). The thread has no
part in it.
-/

namespace AirLoop

open LoopbackHistory

namespace LoopbackHistory

/-- Whether the capture is open after an event, if it was before. -/
def openAfter (o : Bool) : LoopbackEvent → Bool
  | .returned .openDevice none => true
  | .returned call _ => if call.ends then false else o
  | _ => o

/-- The latest opening that was granted has not been followed by a close. -/
def opened (h : LoopbackHistory) : Bool := h.foldl openAfter false

/-- The latest start was sent, and no halt has returned since. -/
def Underway (h : LoopbackHistory) : Prop :=
  ∃ k a b, h = a ++ .sent (.start k) :: b ∧ ∀ e ∈ b, e.started? = none ∧ e.halt = false

theorem Underway.append {h events : LoopbackHistory} (hu : Underway h)
    (he : ∀ e ∈ events, e.started? = none ∧ e.halt = false) : Underway (h ++ events) := by
  obtain ⟨k, a, b, rfl, hb⟩ := hu
  exact ⟨k, a, b ++ events, by simp, List.forall_mem_append.2 ⟨hb, he⟩⟩

theorem opened_append (a b : LoopbackHistory) : opened (a ++ b) = b.foldl openAfter (opened a) :=
  List.foldl_append ..

/-- The caller's events alone open and close. -/
theorem opened_append_ofThread (a : LoopbackHistory) {b : LoopbackHistory}
    (hb : ∀ e ∈ b, e.ofThread = true) : opened (a ++ b) = opened a := by
  rw [opened_append]
  induction b with
  | nil => rfl
  | cons e b ih =>
    obtain ⟨he, hb⟩ := List.forall_mem_cons.1 hb
    have hsame : openAfter (opened a) e = opened a := by
      cases e with
      | asked | fetched | signalled => rfl
      | sent | returned => cases he
    rw [List.foldl_cons, hsame]
    exact ih hb

/-- What was closed stays so until an opening is granted. -/
theorem opened_of_closed {a b : LoopbackHistory} {call : LoopbackCall} {f : Option Fault}
    (hc : call.ends = true) (hb : .returned .openDevice none ∉ b) :
    opened (a ++ .returned call f :: b) = false := by
  have hclosed : openAfter (opened a) (.returned call f) = false := by
    cases call with
    | openDevice | start | stop => cases hc
    | closeDevice | discard => rfl
  rw [opened_append, List.foldl_cons, hclosed]
  clear hclosed
  induction b with
  | nil => rfl
  | cons e b ih =>
    obtain ⟨he, hb⟩ := List.ne_and_not_mem_of_not_mem_cons hb
    have hsame : openAfter false e = false := by
      cases e with
      | returned call f =>
        cases call <;> cases f <;> first | rfl | exact absurd rfl he
      | sent | asked | fetched | signalled => rfl
    rw [List.foldl_cons, hsame]
    exact ih hb

/-- The thread neither starts nor halts. -/
theorem quiet_of_ofThread {e : LoopbackEvent} (he : e.ofThread = true) :
    e.started? = none ∧ e.halt = false := by
  cases e with
  | asked | fetched | signalled => exact ⟨rfl, rfl⟩
  | sent | returned => cases he

theorem started_ofThread {b : LoopbackHistory} (hb : ∀ e ∈ b, e.ofThread = true) :
    started b = [] :=
  List.filterMap_eq_nil_iff.2 fun e he => (quiet_of_ofThread (hb e he)).1

end LoopbackHistory

namespace Interplay

variable {x y : Interplay}

/-- What the caller knows. -/
structure Ledger (x : Interplay) : Prop where
  /-- starts are sent in the order of their numbers -/
  numbered : (started x.history).Pairwise (· < ·)
  bounded : ∀ k ∈ started x.history, k < x.starts
  /-- a start under way was sent -/
  starting : ∀ k, x.errand = .starting k → k ∈ started x.history
  /-- the sender is gone while the caller waits for the thread to end -/
  joining : ∀ call, x.errand = .joining call → call.ends = true ∧ x.capture.holdsSender = false
  /-- halts do not fail -/
  halts : ∀ call f, .returned call f ∈ x.history → call.halts = true → f = none
  /-- a start that failed was not sent -/
  refused : ∀ k f, .returned (.start k) (some f) ∈ x.history →
    (f = LoopbackCapture.alreadyRunning ∨ f = LoopbackCapture.notOpen) ∧
      k ∉ started x.history ∧ k < x.starts
  accepted : ∀ k, .returned (.start k) none ∈ x.history → k ∈ started x.history
  /-- the sender is held from an opening to a close -/
  sender : (∀ call, x.errand ≠ .joining call) → x.capture.holdsSender = opened x.history
  /-- delivering since a start -/
  delivering : x.capture.delivering = true → Underway x.history

/-- The thread and the device have no part in the ledger. -/
theorem Ledger.congr (h : Ledger x) (events : LoopbackHistory)
    (he : ∀ e ∈ events, e.ofThread = true) (hh : y.history = x.history ++ events)
    (herr : y.errand = x.errand) (hk : y.starts = x.starts)
    (hs : y.capture.holdsSender = x.capture.holdsSender)
    (hd : y.capture.delivering = x.capture.delivering) : Ledger y := by
  have hstarted : started y.history = started x.history := by
    rw [hh, started_append, started_ofThread he, List.append_nil]
  have hreturned (call : LoopbackCall) (f : Option Fault) :
      .returned call f ∈ y.history ↔ .returned call f ∈ x.history := by
    rw [hh, List.mem_append, or_iff_left]
    intro hmem
    cases he _ hmem
  have hevents : ∀ e ∈ events, e.started? = none ∧ e.halt = false :=
    fun e hmem => quiet_of_ofThread (he e hmem)
  constructor
  · rw [hstarted]
    exact h.numbered
  · rw [hstarted, hk]
    exact h.bounded
  · rw [herr, hstarted]
    exact h.starting
  · rw [herr, hs]
    exact h.joining
  · simp only [hreturned]
    exact h.halts
  · simp only [hreturned, hstarted, hk]
    exact h.refused
  · simp only [hreturned, hstarted]
    exact h.accepted
  · rw [herr, hs, hh, opened_append_ofThread _ he]
    exact h.sender
  · rw [hd, hh]
    exact fun hd => (h.delivering hd).append hevents

/-- A call returns. -/
theorem Ledger.returned (h : Ledger x) (call : LoopbackCall) (f : Option Fault)
    (hh : y.history = x.history ++ [.returned call f]) (herr : y.errand = .free)
    (hk : x.starts ≤ y.starts) (hhalts : call.halts = true → f = none)
    (hrefused : ∀ k e, call = .start k → f = some e →
      (e = LoopbackCapture.alreadyRunning ∨ e = LoopbackCapture.notOpen) ∧
        k ∉ started x.history ∧ k < y.starts)
    (haccepted : ∀ k, call = .start k → f = none → k ∈ started x.history)
    (hs : y.capture.holdsSender = openAfter (opened x.history) (.returned call f))
    (hd : y.capture.delivering = true → x.capture.delivering = true ∧ call.halts = false) :
    Ledger y := by
  have hstarted : started y.history = started x.history := by
    rw [hh, started_append]
    exact List.append_nil _
  constructor
  · rw [hstarted]
    exact h.numbered
  · rw [hstarted]
    exact fun k hmem => Nat.lt_of_lt_of_le (h.bounded k hmem) hk
  · simp [herr]
  · simp [herr]
  · intro c e hmem hc
    rw [hh] at hmem
    rcases List.mem_append.1 hmem with hmem | hlast
    · exact h.halts c e hmem hc
    · cases List.mem_singleton.1 hlast
      exact hhalts hc
  · intro k e hmem
    rw [hh] at hmem
    rw [hstarted]
    rcases List.mem_append.1 hmem with hmem | hlast
    · obtain ⟨he, hstart, hlt⟩ := h.refused k e hmem
      exact ⟨he, hstart, Nat.lt_of_lt_of_le hlt hk⟩
    · cases List.mem_singleton.1 hlast
      exact hrefused k e rfl rfl
  · intro k hmem
    rw [hh] at hmem
    rw [hstarted]
    rcases List.mem_append.1 hmem with hmem | hlast
    · exact h.accepted k hmem
    · cases List.mem_singleton.1 hlast
      exact haccepted k rfl rfl
  · rw [hs, hh, opened_append]
    exact fun _ => rfl
  · intro hy
    obtain ⟨hx, hc⟩ := hd hy
    rw [hh]
    exact (h.delivering hx).append (by simpa [LoopbackEvent.started?, LoopbackEvent.halt] using hc)

/-- Commands are sent, other than to start. -/
theorem Ledger.sent (h : Ledger x) (commands : List Command) (hc : ∀ k, .start k ∉ commands)
    (hh : y.history = x.history ++ commands.map .sent) (hk : y.starts = x.starts)
    (hfree : ∀ k, y.errand ≠ .starting k) (herr : ∀ call, x.errand ≠ .joining call)
    (hj : ∀ call, y.errand = .joining call → call.ends = true ∧ y.capture.holdsSender = false)
    (hs : (∀ call, y.errand ≠ .joining call) → y.capture.holdsSender = x.capture.holdsSender)
    (hd : y.capture.delivering = false) : Ledger y := by
  have hstarted : started y.history = started x.history := by
    have : started (commands.map .sent) = [] := by
      refine List.filterMap_eq_nil_iff.2 fun e he => ?_
      obtain ⟨command, hmem, rfl⟩ := List.mem_map.1 he
      cases command with
      | start k => exact absurd hmem (hc k)
      | stop | close => rfl
    rw [hh, started_append, this, List.append_nil]
  have hreturned (call : LoopbackCall) (f : Option Fault) :
      .returned call f ∈ y.history ↔ .returned call f ∈ x.history := by
    simp [hh]
  have hopened : opened y.history = opened x.history := by
    rw [hh, opened_append]
    generalize opened x.history = o
    clear hh hstarted hc
    induction commands with
    | nil => rfl
    | cons command commands ih => exact ih
  constructor
  · rw [hstarted]
    exact h.numbered
  · rw [hstarted, hk]
    exact h.bounded
  · exact fun k he => absurd he (hfree k)
  · exact hj
  · simp only [hreturned]
    exact h.halts
  · simp only [hreturned, hstarted, hk]
    exact h.refused
  · simp only [hreturned, hstarted]
    exact h.accepted
  · intro hy
    rw [hs hy, hopened]
    exact h.sender herr
  · simp [hd]

theorem ledger_of_sendStart (h : Ledger x) (hi : x.idle) : Ledger x.sendStart := by
  have hstarted : started x.sendStart.history = started x.history ++ [x.starts] :=
    started_append ..
  have hreturned (call : LoopbackCall) (f : Option Fault) :
      .returned call f ∈ x.sendStart.history ↔ .returned call f ∈ x.history := by
    simp [sendStart, record]
  have hfree : ∀ call, x.errand ≠ .joining call := by simp [hi.1]
  constructor
  · rw [hstarted, List.pairwise_append]
    exact ⟨h.numbered, List.pairwise_singleton .., by simpa using h.bounded⟩
  · rw [hstarted]
    simp only [List.mem_append, List.mem_singleton]
    rintro k (hk | rfl)
    · exact Nat.lt_succ_of_lt (h.bounded k hk)
    · exact Nat.lt_succ_self _
  · rintro k ⟨⟩
    simp [hstarted]
  · rintro _ ⟨⟩
  · simpa only [hreturned] using h.halts
  · intro k f hmem
    obtain ⟨hf, hk, hlt⟩ := h.refused k f ((hreturned _ _).1 hmem)
    refine ⟨hf, ?_, Nat.lt_succ_of_lt hlt⟩
    rw [hstarted]
    simpa [hk] using Nat.ne_of_lt hlt
  · intro k hmem
    rw [hstarted]
    exact List.mem_append_left _ (h.accepted k ((hreturned _ _).1 hmem))
  · intro _
    refine (h.sender hfree).trans ?_
    exact (opened_append x.history [.sent (.start x.starts)]).symm
  · exact fun _ => ⟨x.starts, x.history, [], rfl, List.forall_mem_nil _⟩

theorem ledger_of_openDevice (h : Ledger x) (hi : x.idle) : Ledger x.openDevice := by
  obtain ⟨-, hd, hs⟩ := LoopbackCapture.openDevice_caller x.capture
  have hx := h.sender (by simp [hi.1])
  have hsignals : Ledger (x.record (x.capture.openDevice.signals.map .signalled)) :=
    h.congr _ (LoopbackCapture.ofThread_signalled _) rfl rfl rfl rfl rfl
  refine hsignals.returned .openDevice x.capture.openDevice.failure ?_ hi.1 (Nat.le_refl _)
    nofun nofun nofun ?_ fun hy => ⟨hd.symm.trans hy, rfl⟩
  · exact (List.append_assoc ..).symm
  · have ho := opened_append_ofThread x.history
      (LoopbackCapture.ofThread_signalled x.capture.openDevice.signals)
    refine hs.trans ?_
    rw [hx, record, ho]
    cases x.capture.openDevice.failure with
    | none => exact Bool.or_true _
    | some f => exact Bool.or_false _

theorem ledger_of_refuseStart (hs : Situation x) (h : Ledger x) (hi : x.idle) {f : Fault}
    (hr : x.capture.startRefusal = some f) : Ledger (x.refuseStart f) := by
  have hf : f = LoopbackCapture.alreadyRunning ∨ f = LoopbackCapture.notOpen := by
    unfold LoopbackCapture.startRefusal at hr
    split at hr
    · cases hr
      exact .inl rfl
    · by_cases hsender : x.capture.holdsSender = true
      · obtain ⟨t, ht⟩ := Option.isSome_iff_exists.1 ((hs.sender_eq hi.1).symm.trans hsender)
        rw [LoopbackCapture.recipient_of_sender hsender ht] at hr
        cases hr
      · rw [LoopbackCapture.recipient_of_no_sender (by simpa using hsender)] at hr
        cases hr
        exact .inr rfl
  refine h.returned _ _ rfl hi.1 (Nat.le_succ _) (by rintro ⟨⟩) ?_ (by rintro _ _ ⟨⟩)
    (h.sender (by simp [hi.1])) fun hd => ⟨hd, rfl⟩
  rintro k e ⟨⟩ ⟨⟩
  exact ⟨hf, fun hmem => Nat.lt_irrefl _ (h.bounded _ hmem), Nat.lt_succ_self _⟩

theorem ledger_of_halted {z : Interplay} (h : Ledger z) {call : LoopbackCall}
    (hc : call.halts = true) (herr : ∀ call, z.errand ≠ .joining call)
    (hd : z.capture.delivering = false) : Ledger (z.halted call) := by
  unfold halted
  split
  · next he =>
    refine h.sent z.capture.farewell ?_ rfl rfl nofun herr ?_ (by simp) hd
    · unfold LoopbackCapture.farewell
      split <;> simp
    · rintro _ ⟨⟩
      exact ⟨he, rfl⟩
  · next he =>
    refine h.returned call none rfl rfl (Nat.le_refl _) (fun _ => rfl) nofun ?_ ?_
      fun hy => absurd (hd.symm.trans hy) nofun
    · rintro k rfl
      cases hc
    · refine (h.sender herr).trans ?_
      cases call with
      | stop => rfl
      | openDevice | start => cases hc
      | closeDevice | discard => exact absurd rfl he

theorem ledger_of_callerStep (hs : Situation x) (h : Ledger x) (step : x.CallerStep y) :
    Ledger y := by
  cases step with
  | openDevice hi => exact ledger_of_openDevice h hi
  | refuseStart hi hr => exact ledger_of_refuseStart hs h hi hr
  | sendStart hi _ => exact ledger_of_sendStart h hi
  | @finishStart k he =>
    refine h.returned _ _ rfl rfl (Nat.le_refl _) (by rintro ⟨⟩) (by rintro _ _ _ ⟨⟩) ?_
      (h.sender (by simp [he])) fun hd => ⟨hd, rfl⟩
    rintro j ⟨⟩ -
    exact h.starting k he
  | @skipStop call hi hc hd =>
    have hz : Ledger (x.enter call) :=
      h.congr [] (List.forall_mem_nil _) (List.append_nil _).symm rfl rfl rfl rfl
    exact ledger_of_halted hz hc (by simp [enter, hi.1]) hd
  | sendStop hi hc hd _ =>
    exact h.sent [.stop] (by simp) rfl rfl (by rintro _ ⟨⟩) (by simp [hi.1]) (by rintro _ ⟨⟩)
      (fun _ => rfl) rfl
  | failStop hi _ hd hf =>
    obtain ⟨t, ht⟩ := hs.recipient_of_delivering hi.1 hd
    cases ht.symm.trans hf
  | @halted call he hd =>
    obtain ⟨hc, hn, s, hp⟩ := hs.stopped_of_over he hd
    have hz : Ledger { x with acknowledged := false } :=
      h.congr [] (List.forall_mem_nil _) (List.append_nil _).symm rfl rfl rfl rfl
    exact ledger_of_halted hz hc (by simp [he]) (congrArg Posture.delivering hp)
  | @joined call he ht hn =>
    obtain ⟨hc, handle, hp⟩ := hs.left_of_over he ht
    obtain ⟨hends, hsender⟩ := h.joining call he
    have hd : x.capture.delivering = false := congrArg Posture.delivering hp
    refine h.returned _ _ rfl rfl (Nat.le_refl _) (fun _ => rfl) (by rintro _ _ _ ⟨⟩) ?_ ?_
      fun hy => absurd (hd.symm.trans hy) Bool.false_ne_true
    · rintro k rfl
      cases hc
    · refine hsender.trans ?_
      cases call <;> first | rfl | cases hends

theorem ledger_of_threadStep (hc : Chronicle x) (h : Ledger x) (step : x.ThreadStep y) :
    Ledger y := by
  cases step with
  | @report e rest he =>
    refine h.congr [e] ?_ rfl rfl rfl rfl rfl
    simpa using hc.ofThread e (he ▸ List.mem_cons_self ..)
  | @receive t command rest =>
    obtain ⟨hs, -, hd⟩ := LoopbackCapture.obey_sides x.capture t command
    exact h.congr [] (List.forall_mem_nil _) (List.append_nil _).symm rfl rfl hs hd
  | @disconnected t =>
    obtain ⟨hs, -, hd⟩ := LoopbackCapture.obey_sides x.capture t .close
    exact h.congr [] (List.forall_mem_nil _) (List.append_nil _).symm rfl rfl hs hd
  | tick =>
    obtain ⟨hs, -, hd⟩ := LoopbackCapture.pump_sides x.capture
    exact h.congr [] (List.forall_mem_nil _) (List.append_nil _).symm rfl rfl hs hd

theorem ledger_of_possible {device : AudioDevice} (h : Possible device x) : Ledger x := by
  induction h with
  | refl =>
    refine ⟨.nil, nofun, nofun, nofun, nofun, nofun, nofun, fun _ => rfl, nofun⟩
  | tail hx hs ih =>
    have ha := accord_of_possible hx
    cases hs with
    | caller hs => exact ledger_of_callerStep ha.situation ih hs
    | thread hs => exact ledger_of_threadStep (chronicle_of_possible hx) ih hs
    | supply queue arrivals =>
      exact ih.congr [] (List.forall_mem_nil _) (List.append_nil _).symm rfl rfl rfl rfl

end Interplay

end AirLoop
