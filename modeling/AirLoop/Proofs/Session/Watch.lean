import AirLoop.Proofs.Capture.Latch
import AirLoop.Proofs.Session.Course

/-!
# Watching

A session that captures polls its operator until he wants to quit or a fault has come (`Watched`).
What it comes to can be told from the operator's answers, each a function of those before
(`Operator.quitsAt`), and from the first fault in its journal: it is that fault if it came up before
the operator wanted to quit, and else a quit (`Watched.ended`, `Watched.quits`).
-/

namespace AirLoop

/-! ## The operator's answers -/

namespace Operator

variable {ι : Type} [Operator ι]

/-- An operator after he was polled a few times. -/
def after (wait : Duration) : Nat → ι → ι
  | 0, o => o
  | n + 1, o => after wait n (Operator.quitRequested wait o).operator

/-- Whether he wants to quit when he is polled for the `n`th time, counted from one. -/
def quitsAt (wait : Duration) : Nat → ι → Bool
  | 0, _ => false
  | n + 1, o => (Operator.quitRequested wait (after wait n o)).answer

theorem quitsAt_succ {wait : Duration} {o : ι} (h : (Operator.quitRequested wait o).answer = false)
    (n : Nat) : quitsAt wait (n + 1) o = quitsAt wait n (Operator.quitRequested wait o).operator := by
  cases n with
  | zero => exact h
  | succ n => rfl

end Operator

/-! ## What is asked -/

/-- The operator is not asked for anything. -/
def Occurrence.unasked : Occurrence → Bool
  | .acknowledged | .polled _ => false
  | _ => true

theorem Occurrence.unasked_of_ofCapture (o : Occurrence) (h : o.ofCapture = true) :
    o.unasked = true := by
  cases o with
  | acknowledged | polled => cases h
  | _ => rfl

/-- The operator was asked that often whether to go on, and then whether to quit, with these times
to answer. -/
structure Asked (j : Journal) (acknowledgements : Nat) (waits : List Duration) : Prop where
  acknowledgements : j.count .acknowledged = acknowledgements
  waits : j.polls = waits

namespace Asked

variable {a b : Journal} {n m : Nat} {xs ys : List Duration}

theorem append (h : Asked a n xs) (h' : Asked b m ys) : Asked (a ++ b) (n + m) (xs ++ ys) where
  acknowledgements := by rw [List.count_append, h.acknowledgements, h'.acknowledgements]
  waits := by rw [Journal.polls_append, h.waits, h'.waits]

theorem of_unasked (h : ∀ o ∈ a, o.unasked = true) : Asked a 0 [] where
  acknowledgements := List.count_eq_zero.2 fun ha => Bool.false_ne_true (h _ ha)
  waits := by
    refine List.filterMap_eq_nil_iff.2 ?_
    intro o ho
    have hu := h o ho
    cases o with
    | polled => cases hu
    | _ => rfl

theorem extended {σ : Type} {p q : Pipeline σ} (h : Asked p.journal n xs)
    (he : Extends Occurrence.unasked p q) : Asked q.journal n xs := by
  obtain ⟨more, hj, hm⟩ := he
  have ha := h.append (of_unasked hm)
  rwa [Nat.add_zero, List.append_nil, ← hj] at ha

/-- Nothing that a pipeline does by itself asks the operator. -/
theorem ticks {σ : Type} {p q : Pipeline σ} (h : Asked p.journal n xs) (ht : Ticks p q) :
    Asked q.journal n xs :=
  h.extended (ht.extends.mono Occurrence.unasked_of_ofCapture)

end Asked

theorem Journal.polls_bookmark (j : Journal) : j.bookmark.polls = j.polls.length := by
  have hj : ∀ (j : Journal) (m : Bookmark),
      (j.foldl Bookmark.next m).polls = m.polls + j.polls.length := by
    intro j
    induction j with
    | nil =>
      intro m
      rfl
    | cons o j ih =>
      intro m
      have hn : (m.next o).polls = m.polls + (Journal.polls [o]).length := by
        cases o with
        | called c => cases c <;> rfl
        | signalled s => cases s <;> rfl
        | processed _ _ _ f => cases f <;> rfl
        | _ => rfl
      rw [List.foldl_cons, ih, hn, Nat.add_assoc, ← List.length_append, ← Journal.polls_append]
      rfl
  exact (hj j {}).trans (Nat.zero_add _)

theorem Journal.quiet_of_ofSession {os : Journal} (h : ∀ o ∈ os, o.ofSession = true)
    (names : List String) (m : Bookmark) :
    (os.foldl Bookmark.next m).handed = m.handed ∧ Journal.raisedFrom names m os = [] := by
  induction os generalizing m with
  | nil => exact ⟨rfl, rfl⟩
  | cons o os ih =>
    have ho : (m.next o).handed = m.handed ∧ m.raised names o = none := by
      have hs := h o List.mem_cons_self
      cases o with
      | called | signalled | processed | faulted => cases hs
      | _ => exact ⟨rfl, rfl⟩
    obtain ⟨hh, hr⟩ := ih (fun o ho => h o (List.mem_cons_of_mem _ ho)) (m.next o)
    rw [List.foldl_cons, Journal.raisedFrom, ho.2]
    exact ⟨hh.trans ho.1, hr⟩

theorem Latched.noteAll {σ : Type} {names : List String} {p : Pipeline σ} (h : Latched names p)
    {os : Journal} (ho : ∀ o ∈ os, o.ofSession = true) : Latched names (p.noteAll os) := by
  refine h.quiet rfl ?_ ?_
  · rw [Pipeline.noteAll, Journal.bookmark_append]
    exact (Journal.quiet_of_ofSession ho names _).1
  · rw [Pipeline.noteAll, Journal.raised_append, (Journal.quiet_of_ofSession ho names _).2,
      List.append_nil]

namespace Session

variable {σ ι : Type}

/-! ## The pending fault -/

/-- A session while it watches: there is one delivery, and a fault that came up did so after as many
polls as there were. -/
structure Vigil (names : List String) (s : Session σ ι) : Prop where
  latched : Latched names s.pipeline
  stages : s.pipeline.stageNames = names
  single : s.pipeline.deliveries.length = 1
  current : ∀ x ∈ s.journal.raised names, x.polls = s.journal.polls.length

namespace Vigil

variable {names : List String} {s : Session σ ι}

/-- The pending fault is the first that came up. -/
theorem pendingFault (h : Vigil names s) :
    s.pendingFault = (s.journal.raised names).head?.map (·.fault) := by
  obtain ⟨d, hd⟩ := List.length_eq_one_iff.1 h.single
  have hf : d.fault = firstFault 0 (s.journal.raised names) := h.latched.fault 0 d (by rw [hd]; rfl)
  unfold Session.pendingFault
  rw [hd]
  change d.fault = _
  rw [hf, firstFault]
  have hk := h.latched.known
  rw [h.single] at hk
  cases hx : s.journal.raised names with
  | nil => rfl
  | cons x xs =>
    have hlt := hk x (hx ▸ List.mem_cons_self)
    have h0 : x.delivery = 0 := by omega
    rw [List.find?_cons, decide_eq_true h0]
    rfl

theorem raised_eq_nil (h : Vigil names s) (hn : s.pendingFault = none) :
    s.journal.raised names = [] := by
  rw [h.pendingFault] at hn
  exact List.head?_eq_none_iff.1 (Option.map_eq_none_iff.1 hn)

end Vigil

/-! ## One poll -/

variable [CaptureSource σ] [Operator ι]

theorem poll_eq (s : Session σ ι) :
    s.poll.2 =
      { s with
        operator := (Operator.quitRequested s.config.pollInterval s.operator).operator
        pipeline := (s.pipeline.note (.polled s.config.pollInterval)).wait.noteAll
          ((Operator.quitRequested s.config.pollInterval s.operator).log.map .logged) } := by
  unfold poll
  dsimp only
  rw [logAll_eq]

theorem standing_poll (s : Session σ ι) :
    ∃ source, s.poll.2.pipeline.standing = { s.pipeline.standing with source } := by
  have hn := standing_note s (o := .polled s.config.pollInterval) rfl
  have hw := Pipeline.standing_attend (s.pipeline.note (.polled s.config.pollInterval))
    CaptureSource.idle
  rw [show (s.pipeline.note (.polled s.config.pollInterval)).standing = _ from hn] at hw
  rw [poll_eq]
  exact ⟨_, (Pipeline.standing_noteAll _ (ofSession_logged _)).trans hw⟩

/-- A poll notes that the operator was asked, and then what goes on in the pipeline and the log. -/
theorem journal_poll (s : Session σ ι) :
    ∃ more, s.poll.2.journal = s.journal ++ .polled s.config.pollInterval :: more ∧
      ∀ o ∈ more, o.ofCapture = true := by
  obtain ⟨more, hj, hm⟩ :=
    (Pipeline.attend_ticks (s.pipeline.note (.polled s.config.pollInterval)) CaptureSource.idle).extends
  refine ⟨more ++ (Operator.quitRequested s.config.pollInterval s.operator).log.map .logged, ?_, ?_⟩
  · rw [poll_eq]
    change Pipeline.journal (Pipeline.attend _ _) ++ _ = _
    rw [hj]
    simp only [Pipeline.note, journal, List.append_assoc, List.cons_append, List.nil_append]
  · intro o ho
    rcases List.mem_append.1 ho with ho | ho
    · exact hm o ho
    · obtain ⟨l, -, rfl⟩ := List.mem_map.1 ho
      rfl

theorem asked_poll {s : Session σ ι} {n : Nat} {waits : List Duration}
    (h : Asked s.journal n waits) : Asked s.poll.2.journal n (waits ++ [s.config.pollInterval]) := by
  obtain ⟨more, hj, hm⟩ := journal_poll s
  have hp : Asked [.polled s.config.pollInterval] 0 [s.config.pollInterval] := ⟨rfl, rfl⟩
  rw [hj]
  exact h.append (hp.append (.of_unasked fun o ho => o.unasked_of_ofCapture (hm o ho)))

theorem polls_poll (s : Session σ ι) :
    s.poll.2.journal.polls = s.journal.polls ++ [s.config.pollInterval] :=
  (asked_poll ⟨rfl, rfl⟩).waits

/-! ## Watches -/

/-- How watching goes on, over that many polls. -/
inductive Watched : Session σ ι → Nat → Except Fault Outcome → Session σ ι → Prop where
  | fault {s : Session σ ι} {f : Fault} : s.pendingFault = some f → Watched s 0 (.error f) s
  | quit {s : Session σ ι} : s.pendingFault = none → s.poll.1 = true →
      Watched s 1 (.ok .quit) s.poll.2
  | again {s sd : Session σ ι} {n : Nat} {r : Except Fault Outcome} : s.pendingFault = none →
      s.poll.1 = false → Watched s.poll.2 n r sd → Watched s (n + 1) r sd

theorem watched_of_watch {polls : Nat} {s sd : Session σ ι} {r : Except Fault Outcome}
    (h : s.watch polls = some (r, sd)) : ∃ n, Watched s n r sd := by
  induction polls generalizing s with
  | zero =>
    unfold watch at h
    split at h
    · rename_i f hf
      cases h
      exact ⟨0, .fault hf⟩
    · cases h
  | succ n ih =>
    unfold watch at h
    split at h
    · rename_i f hf
      cases h
      exact ⟨0, .fault hf⟩
    · rename_i hf
      dsimp only at h
      by_cases hq : s.poll.1 = true
      · rw [if_pos hq] at h
        cases h
        exact ⟨1, .quit hf hq⟩
      · rw [if_neg hq] at h
        obtain ⟨m, hm⟩ := ih h
        exact ⟨m + 1, .again hf (Bool.eq_false_iff.2 hq) hm⟩

namespace Watched

variable {s sd : Session σ ι} {n : Nat} {r : Except Fault Outcome}

theorem standing (h : Watched s n r sd) :
    ∃ source, sd.pipeline.standing = { s.pipeline.standing with source } := by
  induction h with
  | fault => exact ⟨_, rfl⟩
  | quit => exact standing_poll _
  | @again s _ _ _ _ _ _ ih =>
    obtain ⟨source, hp⟩ := standing_poll s
    obtain ⟨source', hw⟩ := ih
    rw [hp] at hw
    exact ⟨source', hw⟩

theorem config_poll (s : Session σ ι) : s.poll.2.config = s.config := by rw [poll_eq]

/-- The operator is polled that often, each time with the configured interval. -/
theorem asked (h : Watched s n r sd) {m : Nat} {waits : List Duration} (ha : Asked s.journal m waits) :
    Asked sd.journal m (waits ++ List.replicate n s.config.pollInterval) := by
  induction h generalizing waits with
  | fault =>
    rw [List.replicate_zero, List.append_nil]
    exact ha
  | quit => exact asked_poll ha
  | again _ _ _ ih =>
    have hp := ih (asked_poll ha)
    rwa [config_poll, List.append_assoc, List.singleton_append, ← List.replicate_succ] at hp

/-- Watching ends with a quit at the first poll at which the operator wants to, and with a fault
before. -/
theorem quits (h : Watched s n r sd) :
    (∀ i < n, Operator.quitsAt s.config.pollInterval i s.operator = false) ∧
      Operator.quitsAt s.config.pollInterval n s.operator = r.isOk := by
  induction h with
  | fault => exact ⟨nofun, rfl⟩
  | quit _ hq =>
    refine ⟨?_, hq⟩
    intro i hi
    obtain rfl : i = 0 := by omega
    rfl
  | @again s _ n _ _ hq _ ih =>
    have hnext : ∀ i, Operator.quitsAt s.config.pollInterval (i + 1) s.operator = _ :=
      Operator.quitsAt_succ hq
    have ho : s.poll.2.operator =
        (Operator.quitRequested s.config.pollInterval s.operator).operator := by rw [poll_eq]
    rw [config_poll, ho] at ih
    refine ⟨?_, (hnext n).trans ih.2⟩
    intro i hi
    cases i with
    | zero => rfl
    | succ i => exact (hnext i).trans (ih.1 i (by omega))

end Watched

/-! ## Faults that come up meanwhile -/

theorem Vigil.poll {names : List String} {s : Session σ ι} (h : Vigil names s)
    (hn : s.pendingFault = none) : Vigil names s.poll.2 := by
  obtain ⟨source, hst⟩ := standing_poll s
  have hnames : s.poll.2.pipeline.stageNames = names :=
    (Pipeline.stageNames_of_stages (by rw [hst])).trans h.stages
  refine ⟨?_, hnames, ?_, ?_⟩
  · have hp : Latched names (s.pipeline.note (.polled s.config.pollInterval)) :=
      h.latched.note (fun _ => rfl) fun _ => rfl
    have hw : (s.pipeline.note (.polled s.config.pollInterval)).wait.stageNames = names := by
      rw [← hnames, poll_eq]
      rfl
    rw [poll_eq]
    exact ((Pipeline.attend_ticks _ _).latched (hw ▸ List.prefix_refl _) hp).noteAll
      (ofSession_logged _)
  · have hl : s.poll.2.pipeline.deliveries.length = s.pipeline.deliveries.length := by
      have hh := congrArg (fun st : Standing σ => st.handed.length) hst
      simpa only [Pipeline.standing, List.length_map] using hh
    rw [hl, h.single]
  · obtain ⟨more, hj, hm⟩ := journal_poll s
    intro x hx
    -- nothing had come up, so that it was after the operator was asked
    rw [hj, Journal.raised_append, h.raised_eq_nil hn] at hx
    change x ∈ Journal.raisedFrom names
      (s.journal.bookmark.next (.polled s.config.pollInterval)) more at hx
    obtain ⟨hlo, hhi⟩ := Journal.polls_raisedFrom hx
    have hend : (more.foldl Bookmark.next
        (s.journal.bookmark.next (.polled s.config.pollInterval))).polls =
        s.poll.2.journal.polls.length := by
      rw [← Journal.polls_bookmark, hj, Journal.bookmark_append]
      rfl
    have hbegin : (s.journal.bookmark.next (.polled s.config.pollInterval)).polls =
        s.journal.polls.length + 1 :=
      congrArg (· + 1) (Journal.polls_bookmark s.journal)
    rw [hend] at hhi
    rw [hbegin] at hlo
    rw [polls_poll, List.length_append, List.length_singleton] at hhi ⊢
    omega

/-- What a watch comes to, told by the journal at its end: the first fault that came up, or, if none
came up before the last poll, a quit. -/
def Ended (names : List String) (j : Journal) : Except Fault Outcome → Prop
  | .error f => ∃ x, (j.raised names).head? = some x ∧ x.fault = f ∧ x.polls = j.polls.length
  | .ok o => o = .quit ∧ ∀ x ∈ j.raised names, x.polls = j.polls.length

theorem Watched.ended {names : List String} {s sd : Session σ ι} {n : Nat} {r : Except Fault Outcome}
    (h : Watched s n r sd) (hv : Vigil names s) : Ended names sd.journal r := by
  induction h with
  | fault hf =>
    rw [hv.pendingFault] at hf
    obtain ⟨x, hx, rfl⟩ := Option.map_eq_some_iff.1 hf
    exact ⟨x, hx, rfl, hv.current x (List.mem_of_mem_head? hx)⟩
  | quit hn _ => exact ⟨rfl, (hv.poll hn).current⟩
  | again hn _ _ ih => exact ih (hv.poll hn)

/-- Nothing that comes later makes a difference, unless the operator is polled again. -/
theorem Ended.append {names : List String} {j : Journal} {r : Except Fault Outcome}
    (h : Ended names j r) {more : Journal} (hm : more.polls = []) : Ended names (j ++ more) r := by
  have hp : (j ++ more).polls.length = j.polls.length := by
    rw [Journal.polls_append, hm, List.append_nil]
  cases r with
  | error f =>
    obtain ⟨x, hx, hf, hn⟩ := h
    refine ⟨x, ?_, hf, hn.trans hp.symm⟩
    rw [Journal.raised_append, List.head?_append, hx]
    rfl
  | ok o =>
    refine ⟨h.1, ?_⟩
    intro x hx
    rw [Journal.raised_append] at hx
    rcases List.mem_append.1 hx with hx | hx
    · exact (h.2 x hx).trans hp.symm
    · obtain ⟨hlo, hhi⟩ := Journal.polls_raisedFrom hx
      rw [← Journal.bookmark_append, Journal.polls_bookmark, hp] at hhi
      rw [Journal.polls_bookmark] at hlo
      omega

end Session
end AirLoop
