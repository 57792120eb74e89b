import AirLoop.Proofs.Loopback.Ledger

/-!
# Calls come back

A halt waits for the thread. Whatever the packets are and whichever side goes first, it comes back
without a failure (`comes_back`), and as long as a command is under way the thread is there to
receive it (`nearer_of_threadStep`).
-/

namespace AirLoop

namespace Interplay

variable {x y : Interplay}

/-- Either side takes a step. -/
def Move (x y : Interplay) : Prop := x.CallerStep y ∨ x.ThreadStep y

/-- However the two sides go on, and whatever packets the device has by then, they come to this. -/
inductive Inevitable (P : Interplay → Prop) : Interplay → Prop
  | now {x : Interplay} : P x → Inevitable P x
  | later {x : Interplay} : (∃ y, x.Move y) →
      (∀ queue arrivals y, (x.supply queue arrivals).Move y → Inevitable P y) → Inevitable P x

/-- What is inevitable has all that every step keeps. -/
theorem Inevitable.imp {I P Q : Interplay → Prop} (hkeep : ∀ x y, I x → x.Step y → I y)
    (hpq : ∀ x, I x → P x → Q x) (hi : I x) (h : Inevitable P x) : Inevitable Q x := by
  induction h with
  | now hp => exact .now (hpq _ hi hp)
  | later hm _ ih =>
    refine .later hm fun queue arrivals y hy => ih queue arrivals y hy ?_
    exact hkeep _ _ (hkeep _ _ hi (.supply queue arrivals)) (hy.elim .caller .thread)

/-- The caller waits for the thread in this call. -/
def Waits (x : Interplay) (call : LoopbackCall) : Prop :=
  x.errand = .halting call ∨ x.errand = .joining call

/-- This call has just returned, without a failure. -/
def Returned (call : LoopbackCall) (x : Interplay) : Prop :=
  x.errand = .free ∧ ∃ h, x.history = h ++ [.returned call none]

/-- What is left of a call: its stages, each with the commands under way, and what is still to be
reported. -/
def toGo (x : Interplay) : Nat × Nat :=
  (match x.errand with
    | .free | .starting _ => 0
    | .joining _ => 1 + x.commands.length
    | .halting _ => 3 + x.commands.length,
    x.pending.length)

/-! ## The thread receives -/

/-- **A command under way is received**: the thread is there to take a step, and every step of it
is a report of its round or receives the first command. -/
theorem nearer_of_threadStep (h : Situation x) {command : Command} {rest : List Command}
    (hc : x.commands = command :: rest) :
    (∃ y, x.ThreadStep y) ∧ ∀ y, x.ThreadStep y →
      y.errand = x.errand ∧
        (y.commands = rest ∨ y.commands = x.commands ∧ y.pending.length < x.pending.length) := by
  obtain ⟨t, ht⟩ := h.thread_of_commands (hc ▸ List.cons_ne_nil _ _)
  refine ⟨?_, fun y hs => ?_⟩
  · cases hp : x.pending with
    | nil => exact ⟨_, .receive hp ht hc⟩
    | cons e rest => exact ⟨_, .report hp⟩
  · cases hs with
    | report he => exact ⟨rfl, .inr ⟨rfl, he ▸ Nat.lt_succ_self _⟩⟩
    | receive _ _ hq =>
      rw [hc] at hq
      cases hq
      exact ⟨rfl, .inl rfl⟩
    | tick _ _ _ hq => exact absurd (hc.symm.trans hq) (List.cons_ne_nil _ _)
    | disconnected _ _ hq => exact absurd (hc.symm.trans hq) (List.cons_ne_nil _ _)

/-! ## Halts come back -/

/-- Nobody waits for ever: one of the two can go on. -/
theorem move_of_waits (h : Situation x) {call : LoopbackCall} (hw : x.Waits call) :
    ∃ y, x.Move y := by
  cases hc : x.commands with
  | cons command rest =>
    obtain ⟨y, hy⟩ := (nearer_of_threadStep h hc).1
    exact ⟨y, .inr hy⟩
  | nil =>
    cases hp : x.pending with
    | cons e rest => exact ⟨_, .inr (.report hp)⟩
    | nil =>
      rcases hw with he | he
      · obtain ⟨-, ⟨_, -, hs⟩ | ⟨hcommands, -⟩⟩ := h.halting_cases he
        · exact ⟨_, .inl (.halted he (.inl (congrArg Posture.acknowledged hs)))⟩
        · exact absurd hc hcommands
      · obtain ⟨-, ⟨_, hs⟩ | ⟨hcommands, -⟩⟩ := h.joining_cases he
        · exact ⟨_, .inl (.joined he (congrArg Posture.thread hs) hp)⟩
        · exact absurd hc hcommands

theorem nearer_of_callerStep (h : Situation x) {call : LoopbackCall} (hw : x.Waits call)
    (hs : x.CallerStep y) :
    Returned call y ∨ y.Waits call ∧ Prod.Lex (· < ·) (· < ·) y.toGo x.toGo := by
  have hbusy : x.errand ≠ .free := by
    rcases hw with he | he <;> simp [he]
  cases hs with
  | openDevice hi | refuseStart hi | sendStart hi | skipStop hi | sendStop hi | failStop hi =>
    exact absurd hi.1 hbusy
  | finishStart he => rcases hw with hw | hw <;> cases he.symm.trans hw
  | @halted c he hd =>
    obtain rfl : c = call := by
      rcases hw with hw | hw <;> cases he.symm.trans hw
      rfl
    obtain ⟨-, -, s, hp⟩ := h.stopped_of_over he hd
    have hc : x.commands = [] := congrArg Posture.commands hp
    have hfarewell : x.capture.farewell.length ≤ 1 := by
      unfold LoopbackCapture.farewell
      split <;> simp
    by_cases hends : c.ends = true
    · rw [halted, if_pos hends]
      refine .inr ⟨.inr rfl, .left _ _ ?_⟩
      simp only [he, hc, List.nil_append, List.length_nil]
      exact Nat.lt_of_le_of_lt (Nat.add_le_add_left hfarewell 1) (by decide)
    · rw [halted, if_neg hends]
      exact .inl ⟨rfl, _, rfl⟩
  | @joined c he _ _ =>
    obtain rfl : c = call := by
      rcases hw with hw | hw <;> cases he.symm.trans hw
      rfl
    exact .inl ⟨rfl, _, rfl⟩

theorem nearer_of_waits (h : Situation x) {call : LoopbackCall} (hw : x.Waits call)
    (hs : x.ThreadStep y) : y.Waits call ∧ Prod.Lex (· < ·) (· < ·) y.toGo x.toGo := by
  have hwaits (he : y.errand = x.errand) : y.Waits call := by
    rw [Waits, he]
    exact hw
  cases hc : x.commands with
  | cons command rest =>
    obtain ⟨he, hcases⟩ := (nearer_of_threadStep h hc).2 y hs
    refine ⟨hwaits he, ?_⟩
    rcases hcases with hq | ⟨hq, hp⟩
    · refine Prod.lex_def.2 (.inl ?_)
      rcases hw with hw | hw <;> simp [toGo, he, hw, hc, hq]
    · refine Prod.lex_def.2 (.inr ⟨?_, hp⟩)
      simp only [toGo, he, hq]
  | nil =>
    cases hs with
    | @report e rest he =>
      refine ⟨hw, Prod.lex_def.2 (.inr ⟨rfl, ?_⟩)⟩
      show rest.length < x.pending.length
      rw [he]
      exact Nat.lt_succ_self _
    | receive _ _ hq => exact absurd (hc.symm.trans hq).symm (List.cons_ne_nil _ _)
    | tick _ ht hd hq =>
      obtain ⟨errand, s, k, he, -, -, hp⟩ := h.ticking_cases ht hd hq
      obtain rfl : x.errand = errand := congrArg Posture.errand hp
      rcases he with he | ⟨_, he⟩ <;> rcases hw with hw | hw <;> cases he.symm.trans hw
    | disconnected _ ht hq hs => exact absurd (h.sender_of_thread ht hq) (by simp [hs])

/-- Each move brings a call that waits nearer to its end. -/
theorem nearer_of_move (h : Situation x) {call : LoopbackCall} (hw : x.Waits call)
    (hm : x.Move y) :
    Returned call y ∨ y.Waits call ∧ Prod.Lex (· < ·) (· < ·) y.toGo x.toGo :=
  hm.elim (nearer_of_callerStep h hw) fun hs => .inr (nearer_of_waits h hw hs)

/-- **A halt comes back**, without a failure. -/
theorem comes_back {x : Interplay} (h : Accord x) {call : LoopbackCall} (hw : x.Waits call) :
    Inevitable (Returned call) x := by
  refine .later (move_of_waits h.situation hw) fun queue arrivals y hm => ?_
  have hx : Accord (x.supply queue arrivals) := accord_of_step h (.supply queue arrivals)
  have hy : Accord y := accord_of_step hx (hm.elim .caller .thread)
  rcases nearer_of_move hx.situation hw hm with hr | ⟨hwy, hlt⟩
  · exact .now hr
  · exact comes_back hy hwy
termination_by x.toGo
decreasing_by exact hlt

end Interplay

end AirLoop
