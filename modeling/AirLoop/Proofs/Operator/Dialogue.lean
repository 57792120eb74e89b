import AirLoop.Proofs.Operator.Script
import AirLoop.Proofs.Session.Watch

/-!
# Questions and signals

Whatever comes in at a terminal, and whenever, the questions that its operator is asked take the
signals in the order of their coming: each at most one, and none is lost or taken twice
(`coming_askedAll`). So an operator who is asked again and again whether to quit wants to at the
question that takes the first signal that means it (`hearsOut_of_coming`).
-/

namespace AirLoop

/-- A signal that means to quit. -/
def OperatorSignal.quits : OperatorSignal → Bool
  | line text => decide (text = quitKey)
  | closed | interrupted => true

namespace LineOperator

/-! ## Signals that wait already -/

/-- The operator with these signals in front, and this still to come. -/
def framed (o : LineOperator) (xs : List OperatorSignal) (later : List (List Arrival)) :
    LineOperator :=
  { o with signals := xs ++ o.signals, arrivals := later }

variable (o : LineOperator) (xs : List OperatorSignal) (later : List (List Arrival))

@[simp] theorem reading_framed : (o.framed xs later).reading = o.reading := rfl

@[simp] theorem listening_framed : (o.framed xs later).listening = o.listening := rfl

theorem queue_framed (s : OperatorSignal) (last : Bool) :
    (o.framed xs later).queue s last = (o.queue s last).framed xs later := by
  unfold queue
  rw [listening_framed]
  split
  · simp [framed]
  · rfl

theorem takeLine_framed (l : List UInt8) :
    (o.framed xs later).takeLine l = (o.takeLine l).framed xs later := by
  unfold takeLine
  cases lineSignal? l with
  | some s => exact queue_framed ..
  | none => exact queue_framed ..

theorem feedByte_framed (b : UInt8) :
    (o.framed xs later).feedByte b = (o.feedByte b).framed xs later := by
  by_cases hr : o.reading = true
  · have hr' : (o.framed xs later).reading = true := hr
    by_cases hb : b = lineEnd
    · rw [hb, feedByte_lineEnd hr, feedByte_lineEnd hr']
      exact takeLine_framed { o with pending := [] } xs later _
    · rw [feedByte_of_ne hr hb, feedByte_of_ne hr' hb]
      rfl
  · have hr := Bool.eq_false_iff.2 hr
    rw [show o.feedByte b = o from feed_of_not_reading o hr [b]]
    exact feed_of_not_reading (o.framed xs later) hr [b]

theorem feed_framed (bs : List UInt8) :
    (o.framed xs later).feed bs = (o.feed bs).framed xs later := by
  induction bs generalizing o with
  | nil => rfl
  | cons b bs ih =>
    change ((o.framed xs later).feedByte b).feed bs = _
    rw [feedByte_framed, ih]
    rfl

theorem close_framed : (o.framed xs later).close = o.close.framed xs later := by
  by_cases hr : o.reading = true
  · have hr' : (o.framed xs later).reading = true := hr
    by_cases hp : o.pending = []
    · rw [close_of_empty hr hp, close_of_empty hr' hp, queue_framed]
    · rw [close_of_line hr hp, close_of_line hr' hp]
      have hline := takeLine_framed { o with pending := [] } xs later o.pending
      change (let o' := ({ o with pending := [] }.framed xs later).takeLine o.pending
        if o'.reading then o'.queue .closed true else o') = _
      rw [hline]
      dsimp only
      rw [reading_framed]
      split
      · exact queue_framed ..
      · rfl
  · have hr := Bool.eq_false_iff.2 hr
    rw [close_of_not_reading hr]
    exact close_of_not_reading (o := o.framed xs later) hr

theorem interrupt_framed : (o.framed xs later).interrupt = o.interrupt.framed xs later := by
  unfold interrupt
  rw [listening_framed]
  split
  · simp [framed]
  · rfl

theorem arrive_framed (a : Arrival) :
    (o.framed xs later).arrive a = (o.arrive a).framed xs later := by
  cases a with
  | bytes bs => exact feed_framed o xs later bs
  | endOfInput => exact close_framed o xs later
  | interrupt => exact interrupt_framed o xs later

/-- What comes in joins the signals that wait, and has nothing to do with what is still to come. -/
theorem arriveAll_framed (as : List Arrival) :
    (o.framed xs later).arriveAll as = (o.arriveAll as).framed xs later := by
  induction as generalizing o with
  | nil => rfl
  | cons a as ih =>
    change ((o.framed xs later).arrive a).arriveAll as = _
    rw [arrive_framed, ih]
    rfl

theorem arriveAll_later (as : List Arrival) :
    { o with arrivals := later }.arriveAll as = { o.arriveAll as with arrivals := later } :=
  arriveAll_framed o [] later as

/-! ## The signals that come -/

theorem coming_ofArrivals (before : List Arrival) :
    (ofArrivals before later).coming =
      (({} : LineOperator).arriveAll (before ++ later.flatten)).signals := by
  rw [coming, ofArrivals, arriveAll_later, arriveAll_append]

theorem coming_eq_arriveAll (batch : List Arrival) :
    ({ o with arrivals := later }.arriveAll batch).coming =
      { o with arrivals := batch :: later }.coming := by
  simp only [coming, arriveAll_later, List.flatten_cons, arriveAll_append]

/-- That a batch comes in changes nothing about the signals that come. -/
theorem coming_attend : o.attend.coming = o.coming := by
  unfold attend
  cases h : o.arrivals with
  | nil => rfl
  | cons batch later =>
    dsimp only
    rw [coming_eq_arriveAll, ← h]

theorem coming_await (as : List (List Arrival)) :
    (o.await as).coming = { o with arrivals := as }.coming ∧
      ((o.await as).signals = [] → { o with arrivals := as }.coming = []) := by
  induction as generalizing o with
  | nil => exact ⟨rfl, id⟩
  | cons batch later ih =>
    unfold await
    dsimp only
    have hsame : { { o with arrivals := later }.arriveAll batch with arrivals := later } =
        { o with arrivals := later }.arriveAll batch := by rw [arriveAll_later]
    have hih := ih ({ o with arrivals := later }.arriveAll batch)
    rw [hsame, coming_eq_arriveAll] at hih
    split
    · exact hih
    · rename_i hne
      exact ⟨coming_eq_arriveAll .., fun he => absurd he hne⟩

/-- A signal that waits stays the first. -/
theorem head?_arriveAll {x : OperatorSignal} (h : o.signals.head? = some x) (as : List Arrival) :
    (o.arriveAll as).signals.head? = some x := by
  obtain ⟨rest, hs⟩ := List.head?_eq_some_iff.1 h
  have hframed : ({ o with signals := rest }.framed [x] o.arrivals) = o := by
    rw [framed, List.singleton_append, ← hs]
  rw [← hframed, arriveAll_framed]
  rfl

/-- The first signal that waits is the first that comes. -/
theorem coming_take : o.coming = o.take.1.toList ++ o.take.2.coming := by
  rcases o with ⟨_ | ⟨x, rest⟩, pending, reading, listening, arrivals⟩
  · rfl
  · exact congrArg signals
      (arriveAll_framed ⟨rest, pending, reading, listening, arrivals⟩ [x] arrivals arrivals.flatten)

/-! ## Questions -/

/-- A question to the operator. -/
inductive Question where
  /-- whether to go on -/
  | acknowledge
  /-- whether to quit -/
  | poll (wait : Duration)

/-- The signal that the answer takes, if any. -/
def taking : Question → Option OperatorSignal
  | .acknowledge => (o.await o.arrivals).take.1
  | .poll _ => o.attend.take.1

/-- The operator once he has answered. -/
def asked : Question → LineOperator
  | .acknowledge => (Operator.acknowledge o).operator
  | .poll wait => (Operator.quitRequested wait o).operator

/-- What the answers to some questions take. -/
def takings (o : LineOperator) : List Question → List (Option OperatorSignal)
  | [] => []
  | q :: qs => o.taking q :: (o.asked q).takings qs

/-- The operator once he has answered them. -/
def askedAll (o : LineOperator) (qs : List Question) : LineOperator := qs.foldl asked o

theorem asked_acknowledge : o.asked .acknowledge = (o.await o.arrivals).take.2 := by
  change (LineOperator.acknowledge o).operator = _
  unfold acknowledge
  rcases (o.await o.arrivals).take with ⟨_ | _ | _, o'⟩ <;> rfl

theorem asked_poll (wait : Duration) : o.asked (.poll wait) = o.attend.take.2 := by
  change (LineOperator.quitRequested wait o).operator = _
  unfold quitRequested
  rcases o.attend.take with ⟨_ | _ | _, o'⟩ <;> rfl

/-- The operator goes on for a line that does not mean to quit. -/
theorem acknowledge_answer :
    (Operator.acknowledge o).answer = .proceed ↔
      ∃ x, o.taking .acknowledge = some x ∧ x.quits = false := by
  change (LineOperator.acknowledge o).answer = .proceed ↔
    ∃ x, (o.await o.arrivals).take.1 = some x ∧ x.quits = false
  unfold acknowledge
  rcases (o.await o.arrivals).take with ⟨_ | text | _, o'⟩ <;> simp [OperatorSignal.quits]

/-- He quits for a signal that means it. -/
theorem quitRequested_answer (wait : Duration) :
    (Operator.quitRequested wait o).answer = (o.taking (.poll wait)).any (·.quits) := by
  change (LineOperator.quitRequested wait o).answer = o.attend.take.1.any (·.quits)
  unfold quitRequested
  rcases o.attend.take with ⟨_ | _ | _, o'⟩ <;> rfl

/-- **A question takes at most one signal, and that is the first.** -/
theorem coming_asked (q : Question) : o.coming = (o.taking q).toList ++ (o.asked q).coming := by
  cases q with
  | acknowledge =>
    rw [asked_acknowledge, taking, ← coming_take]
    exact (coming_await o o.arrivals).1.symm
  | poll wait => rw [asked_poll, taking, ← coming_take, coming_attend]

/-- **Nothing is lost or taken twice**: what the answers take is what comes, in its order. -/
theorem coming_askedAll (qs : List Question) :
    o.coming = (o.takings qs).filterMap id ++ (o.askedAll qs).coming := by
  induction qs generalizing o with
  | nil => rfl
  | cons q qs ih =>
    rw [coming_asked o q, ih (o.asked q)]
    cases h : o.taking q <;> simp [takings, askedAll, h]

/-- Whether to go on is answered by the first signal that comes, however long it takes to come. -/
theorem taking_acknowledge : o.taking .acknowledge = o.coming.head? := by
  have hc := coming_asked o .acknowledge
  obtain ⟨hsame, hnone⟩ := coming_await o o.arrivals
  cases h : o.taking .acknowledge with
  | some x =>
    rw [h] at hc
    rw [hc]
    rfl
  | none =>
    have hs : (o.await o.arrivals).signals = [] := List.head?_eq_none_iff.1 h
    rw [show o.coming = [] from hnone hs]
    rfl

/-- A signal that waits is taken at once. -/
theorem taking_of_waiting {x : OperatorSignal} (h : o.signals.head? = some x) (q : Question) :
    o.taking q = some x := by
  cases q with
  | acknowledge =>
    rw [taking_acknowledge]
    exact head?_arriveAll o h _
  | poll wait =>
    change o.attend.signals.head? = some x
    unfold attend
    split
    · exact h
    · rename_i batch later _
      exact head?_arriveAll { o with arrivals := later } h batch

theorem arrivals_await (as : List (List Arrival)) : (o.await as).arrivals.length ≤ as.length := by
  induction as generalizing o with
  | nil => exact Nat.le_refl _
  | cons batch later ih =>
    unfold await
    dsimp only
    split
    · exact Nat.le_succ_of_le (ih _)
    · rw [arriveAll_later]
      exact Nat.le_succ _

theorem patience_acknowledge : (o.asked .acknowledge).patience ≤ o.patience := by
  have harrivals : (o.asked .acknowledge).arrivals.length ≤ o.arrivals.length := by
    rw [asked_acknowledge]
    exact arrivals_await o o.arrivals
  have hcoming : (o.asked .acknowledge).coming.length ≤ o.coming.length := by
    rw [coming_asked o .acknowledge, List.length_append]
    exact Nat.le_add_left ..
  exact Nat.add_le_add harrivals hcoming

/-- Signals are taken first in, first out, one for each question, and they decide the answers. -/
structure FirstInFirstOut (o : LineOperator) : Prop where
  inOrder : ∀ qs, o.coming = (o.takings qs).filterMap id ++ (o.askedAll qs).coming
  atOnce : ∀ q x, o.signals.head? = some x → o.taking q = some x
  awaits : o.taking .acknowledge = o.coming.head?
  proceeds : (Operator.acknowledge o).answer = .proceed ↔
    ∃ x, o.taking .acknowledge = some x ∧ x.quits = false
  quits : ∀ wait, (Operator.quitRequested wait o).answer = (o.taking (.poll wait)).any (·.quits)

theorem firstInFirstOut : FirstInFirstOut o where
  inOrder := coming_askedAll o
  atOnce := fun q _ h => taking_of_waiting o h q
  awaits := taking_acknowledge o
  proceeds := acknowledge_answer o
  quits := quitRequested_answer o

/-! ## Asked again and again -/

/-- An operator who is asked whether to quit wants to when he is asked for the `n`th time, and not
before: the answers take some signals that do not mean it, and the last takes the first that does. -/
structure HearsOut (wait : Duration) (o : LineOperator) (n : Nat) (ignored : List OperatorSignal)
    (last : OperatorSignal) (unread : List OperatorSignal) : Prop where
  before : ∀ i < n, Operator.quitsAt wait i o = false
  wants : Operator.quitsAt wait n o = true
  taken : (o.takings (List.replicate n (.poll wait))).filterMap id = ignored ++ [last]
  atLast : (o.takings (List.replicate n (.poll wait))).getLast? = some (some last)
  unread : (o.askedAll (List.replicate n (.poll wait))).coming = unread

variable {o} {wait : Duration}

theorem hearsOut_one {x : OperatorSignal} (hx : o.taking (.poll wait) = some x)
    (hq : x.quits = true) : HearsOut wait o 1 [] x (o.asked (.poll wait)).coming where
  before := by
    intro i hi
    obtain rfl : i = 0 := by omega
    rfl
  wants := by
    change (Operator.quitRequested wait o).answer = true
    rw [quitRequested_answer, hx]
    exact hq
  taken := by simp [takings, hx]
  atLast := by simp [takings, hx]
  unread := rfl

theorem HearsOut.again {n : Nat} {ignored unread : List OperatorSignal} {last : OperatorSignal}
    (h : HearsOut wait (o.asked (.poll wait)) n ignored last unread)
    (hq : (o.taking (.poll wait)).any (·.quits) = false) :
    HearsOut wait o (n + 1) ((o.taking (.poll wait)).toList ++ ignored) last unread where
  before := by
    have hanswer := (quitRequested_answer o wait).trans hq
    intro i hi
    cases i with
    | zero => rfl
    | succ i =>
      rw [Operator.quitsAt_succ hanswer]
      exact h.before i (by omega)
  wants := by
    have hanswer := (quitRequested_answer o wait).trans hq
    rw [Operator.quitsAt_succ hanswer]
    exact h.wants
  taken := by
    rw [List.replicate_succ, takings, List.filterMap_cons, h.taken]
    cases o.taking (.poll wait) <;> rfl
  atLast := by
    rw [List.replicate_succ, takings, List.getLast?_cons, h.atLast]
    rfl
  unread := h.unread

theorem askedAll_polls (o : LineOperator) (wait : Duration) (n : Nat) :
    o.askedAll (List.replicate n (.poll wait)) = Operator.after wait n o := by
  induction n generalizing o with
  | zero => rfl
  | succ n ih => exact ih (o.asked (.poll wait))

theorem arrivals_asked_poll (o : LineOperator) (wait : Duration) :
    (o.asked (.poll wait)).arrivals = o.arrivals.tail := by
  rw [asked_poll]
  change o.attend.arrivals = _
  unfold attend
  cases h : o.arrivals with
  | nil => exact h
  | cons batch later =>
    dsimp only
    rw [arriveAll_later]
    rfl

/-- Without anything that is still to come a question finds what waits. -/
theorem arrivals_ne_nil (hx : o.taking (.poll wait) = none) (hc : o.coming ≠ []) :
    o.arrivals ≠ [] := by
  intro ha
  have hs : o.attend.signals = [] := List.head?_eq_none_iff.1 hx
  unfold attend at hs
  rw [ha] at hs
  refine hc ?_
  rw [coming, ha]
  exact hs

/-- The first signal that means to quit, if there is one. -/
theorem exists_first_quit {xs : List OperatorSignal} {x : OperatorSignal} (hx : x ∈ xs)
    (hq : x.quits = true) : ∃ ignored last unread, xs = ignored ++ last :: unread ∧
      (∀ y ∈ ignored, y.quits = false) ∧ last.quits = true := by
  have hsome : (xs.find? (·.quits)).isSome = true := List.find?_isSome.2 ⟨x, hx, hq⟩
  obtain ⟨last, hlast⟩ := Option.isSome_iff_exists.1 hsome
  obtain ⟨hl, ignored, unread, hxs, hi⟩ := List.find?_eq_some_iff_append.1 hlast
  refine ⟨ignored, last, unread, hxs, ?_, hl⟩
  intro y hy
  simpa using hi y hy

/-- **Asked again and again, an operator quits at the question that takes the first signal that
means it**, by induction on what is still to come and to be taken. -/
theorem hearsOut_of_coming {ignored unread : List OperatorSignal} {last : OperatorSignal}
    (hc : o.coming = ignored ++ last :: unread) (hi : ∀ x ∈ ignored, x.quits = false)
    (hq : last.quits = true) : ∃ n ≤ o.patience, HearsOut wait o n ignored last unread := by
  induction hk : o.patience using Nat.strongRecOn generalizing o ignored with
  | ind k ih =>
    subst hk
    have hstep := coming_asked o (.poll wait)
    have harrivals := arrivals_asked_poll o wait
    cases hx : o.taking (.poll wait) with
    | none =>
      rw [hx] at hstep
      have hne := arrivals_ne_nil hx (by rw [hc]; simp)
      have hlt : (o.asked (.poll wait)).patience < o.patience := by
        have hpos := List.length_pos_iff.2 hne
        rw [patience, patience, harrivals, hstep, List.length_tail]
        simp only [Option.toList_none, List.nil_append]
        omega
      obtain ⟨n, hn, h⟩ := ih _ hlt (hstep.symm.trans hc) hi rfl
      have hagain := h.again (by rw [hx]; rfl)
      rw [hx] at hagain
      exact ⟨n + 1, by omega, hagain⟩
    | some x =>
      rw [hx] at hstep
      have hlt : (o.asked (.poll wait)).patience < o.patience := by
        rw [patience, patience, harrivals, hstep, List.length_tail]
        simp only [Option.toList_some, List.length_append, List.length_singleton]
        omega
      cases ignored with
      | nil =>
        have hhead := hstep.symm.trans hc
        obtain ⟨rfl, rfl⟩ := List.cons.inj hhead
        exact ⟨1, by omega, hearsOut_one hx hq⟩
      | cons y ignored =>
        have hhead := hstep.symm.trans hc
        obtain ⟨rfl, hrest⟩ := List.cons.inj hhead
        have hy : x.quits = false := hi x List.mem_cons_self
        obtain ⟨n, hn, h⟩ :=
          ih _ hlt hrest (fun z hz => hi z (List.mem_cons_of_mem _ hz)) rfl
        have hagain := h.again (by rw [hx]; exact hy)
        rw [hx] at hagain
        exact ⟨n + 1, by omega, hagain⟩

end LineOperator

end AirLoop
