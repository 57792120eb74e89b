import AirLoop.Operator.Lines

/-!
# What a reader makes of its input

However the bytes of an input come in, and whatever interrupts come between them, a reader queues
the script of the input: a signal for each line up to the first that is not UTF-8, and then one that
no more are coming (`told_of_arrivals`). The proof follows what a reader still owes, which every
arrival turns into signals (`Follows`).
-/

namespace AirLoop

/-! ## Scripts -/

/-- The lines of an input, without their ends. One that the input breaks off counts if there is
anything of it, and keeps a carriage return. -/
def inputLines (bs : List UInt8) : List (List UInt8) :=
  let pieces := bs.splitOn lineEnd
  pieces.dropLast.map stripReturn ++ pieces.getLast?.toList.filter (· ≠ [])

/-- The signals of some lines, up to the first that is not UTF-8. -/
def lineSignals (lines : List (List UInt8)) : List OperatorSignal :=
  (lines.takeWhile fun l => (lineSignal? l).isSome).filterMap lineSignal?

/-- What an operator's input comes to. -/
def script (bs : List UInt8) : List OperatorSignal := lineSignals (inputLines bs) ++ [.closed]

/-- The input that comes in. What comes after its end does not belong to it. -/
def typed (as : List Arrival) : List UInt8 :=
  (as.takeWhile (· ≠ .endOfInput)).flatMap fun
    | .bytes bs => bs
    | .endOfInput | .interrupt => []

theorem inputLines_of_open {p : List UInt8} (h : lineEnd ∉ p) :
    inputLines p = [p].filter (· ≠ []) := by
  have hp : p.splitOn lineEnd = [p] := by
    refine List.splitOnP_eq_singleton ?_
    intro b hb
    exact beq_eq_false_iff_ne.2 fun he => h (he ▸ hb)
  rw [inputLines, hp]
  rfl

theorem inputLines_of_ended {p : List UInt8} (h : lineEnd ∉ p) (rest : List UInt8) :
    inputLines (p ++ lineEnd :: rest) = stripReturn p :: inputLines rest := by
  have hp : (p ++ lineEnd :: rest).splitOn lineEnd = p :: rest.splitOn lineEnd := by
    have hnone : ∀ b ∈ p, (b == lineEnd) = false := by
      intro b hb
      exact beq_eq_false_iff_ne.2 fun he => h (he ▸ hb)
    exact List.splitOnP_append_cons_of_forall_mem hnone lineEnd (beq_self_eq_true _) rest
  obtain ⟨q, qs, hq⟩ := List.exists_cons_of_ne_nil (List.splitOn_ne_nil lineEnd rest)
  simp only [inputLines, hp, hq, List.dropLast_cons_cons, List.map_cons, List.cons_append,
    List.getLast?_cons_cons]

theorem lineSignals_cons (l : List UInt8) (lines : List (List UInt8)) :
    lineSignals (l :: lines) =
      match lineSignal? l with
      | some s => s :: lineSignals lines
      | none => [] := by
  unfold lineSignals
  cases h : lineSignal? l with
  | none =>
    rw [List.takeWhile_cons_of_neg (by simp [h])]
    rfl
  | some s => rw [List.takeWhile_cons_of_pos (by simp [h]), List.filterMap_cons_some h]

theorem script_of_ended {p : List UInt8} (h : lineEnd ∉ p) (rest : List UInt8) :
    script (p ++ lineEnd :: rest) = lineSignals (stripReturn p :: inputLines rest) ++ [.closed] := by
  rw [script, inputLines_of_ended h]

theorem script_of_open {p : List UInt8} (h : lineEnd ∉ p) (hne : p ≠ []) :
    script p = lineSignals (p :: inputLines []) ++ [.closed] := by
  rw [script, inputLines_of_open h, List.filter_cons_of_pos (by simp [hne])]
  rfl

theorem typed_bytes (bs : List UInt8) (as : List Arrival) :
    typed (.bytes bs :: as) = bs ++ typed as := by
  simp [typed]

theorem typed_interrupt (as : List Arrival) : typed (.interrupt :: as) = typed as := by
  simp [typed]

/-- A line's signal is no interrupt. -/
theorem ne_interrupted_of_lineSignal? {l : List UInt8} {s : OperatorSignal}
    (h : lineSignal? l = some s) : s ≠ .interrupted := by
  obtain ⟨text, -, rfl⟩ := Option.map_eq_some_iff.1 h
  exact nofun

/-- A script tells once, at its end, that no more lines are coming. -/
theorem count_closed_script (bs : List UInt8) : (script bs).count .closed = 1 := by
  have hlines : .closed ∉ lineSignals (inputLines bs) := by
    intro h
    obtain ⟨l, -, hl⟩ := List.mem_filterMap.1 h
    obtain ⟨text, -, hs⟩ := Option.map_eq_some_iff.1 hl
    cases hs
  rw [script, List.count_append, List.count_eq_zero.2 hlines]
  rfl

/-! ## What a reader still owes -/

namespace LineOperator

/-- The reader's signals among those that wait. -/
def told (o : LineOperator) : List OperatorSignal := o.signals.filter (· ≠ .interrupted)

/-- How many interrupts wait. -/
def interrupts (o : LineOperator) : Nat := o.signals.count .interrupted

/-- What the reader will tell if this is what it still reads. -/
def owed (o : LineOperator) (rest : List UInt8) : List OperatorSignal :=
  if o.reading then script (o.pending ++ rest) else []

/-- Somebody listens to a reader in the middle of a line. It has told these signals once it has read
the rest, and that many interrupts have come. -/
structure Follows (all : List OperatorSignal) (n : Nat) (o : LineOperator) (rest : List UInt8) :
    Prop where
  listening : o.listening = true
  unfinished : lineEnd ∉ o.pending
  told : o.told ++ o.owed rest = all
  interrupts : o.interrupts = n

theorem owed_of_not_reading {o : LineOperator} (h : o.reading = false) (rest : List UInt8) :
    o.owed rest = [] := by
  simp [owed, h]

theorem pending_takeLine (o : LineOperator) (l : List UInt8) :
    (o.takeLine l).pending = o.pending := by
  unfold takeLine queue
  split <;> split <;> rfl

variable {all : List OperatorSignal} {n : Nat} {o : LineOperator} {rest : List UInt8}

theorem follows_queue {s : OperatorSignal} (hs : s ≠ .interrupted) {last : Bool}
    (hl : o.listening = true) (hr : o.reading = true) (hu : lineEnd ∉ o.pending)
    (ht : o.told ++ s :: (if last then [] else script (o.pending ++ rest)) = all)
    (hn : o.interrupts = n) : Follows all n (o.queue s last) rest := by
  have hq : o.queue s last = { o with signals := o.signals ++ [s], reading := !last } := by
    rw [queue, if_pos hl, hr, Bool.true_and]
  have htold : (o.queue s last).told = o.told ++ [s] := by simp [hq, LineOperator.told, hs]
  have howed : (o.queue s last).owed rest = if last then [] else script (o.pending ++ rest) := by
    cases last <;> simp [hq, owed]
  refine ⟨hq ▸ hl, hq ▸ hu, ?_, ?_⟩
  · rw [htold, howed, List.append_assoc, List.singleton_append]
    exact ht
  · rw [← hn]
    simp [hq, LineOperator.interrupts, List.count_append, hs]

/-- The bytes of a line become its signal, or end the reading. -/
theorem follows_takeLine {l : List UInt8} (hl : o.listening = true) (hr : o.reading = true)
    (ht : o.told ++ (lineSignals (l :: inputLines rest) ++ [.closed]) = all)
    (hn : o.interrupts = n) : Follows all n ({ o with pending := [] }.takeLine l) rest := by
  rw [lineSignals_cons] at ht
  unfold takeLine
  cases h : lineSignal? l with
  | some s =>
    rw [h] at ht
    exact follows_queue (ne_interrupted_of_lineSignal? h) hl hr List.not_mem_nil ht hn
  | none =>
    rw [h] at ht
    exact follows_queue (by decide) hl hr List.not_mem_nil ht hn

theorem feedByte_lineEnd (hr : o.reading = true) :
    o.feedByte lineEnd = { o with pending := [] }.takeLine (stripReturn o.pending) := by
  rw [LineOperator.feedByte, if_neg (by simp [hr]), if_pos rfl]

theorem feedByte_of_ne (hr : o.reading = true) {b : UInt8} (hb : b ≠ lineEnd) :
    o.feedByte b = { o with pending := o.pending ++ [b] } := by
  rw [LineOperator.feedByte, if_neg (by simp [hr]), if_neg hb]

theorem Follows.feedByte {b : UInt8} (h : Follows all n o (b :: rest)) :
    Follows all n (o.feedByte b) rest := by
  by_cases hr : o.reading = true
  · have ht := h.told
    rw [owed, if_pos hr] at ht
    by_cases hb : b = lineEnd
    · subst hb
      rw [script_of_ended h.unfinished] at ht
      rw [feedByte_lineEnd hr]
      exact follows_takeLine h.listening hr ht h.interrupts
    · rw [feedByte_of_ne hr hb]
      refine ⟨h.listening, ?_, ?_, h.interrupts⟩
      · simp [h.unfinished, Ne.symm hb]
      · rw [owed, if_pos (show _ = true from hr), List.append_assoc]
        exact ht
  · have hr := Bool.eq_false_iff.2 hr
    have ht := h.told
    rw [owed_of_not_reading hr] at ht
    rw [show o.feedByte b = o from feed_of_not_reading o hr [b]]
    exact ⟨h.listening, h.unfinished, (owed_of_not_reading hr rest).symm ▸ ht, h.interrupts⟩

theorem Follows.feed {bs : List UInt8} (h : Follows all n o (bs ++ rest)) :
    Follows all n (o.feed bs) rest := by
  induction bs generalizing o with
  | nil => exact h
  | cons b bs ih => exact ih h.feedByte

/-- With nothing left of a line, all that is owed is the end. -/
theorem Follows.closing (h : Follows all n o []) (hr : o.reading = true) (hp : o.pending = []) :
    Follows all n (o.queue .closed true) [] := by
  have ht := h.told
  rw [owed, if_pos hr, hp] at ht
  exact follows_queue (by decide) h.listening hr h.unfinished ht h.interrupts

theorem close_of_not_reading (hr : o.reading = false) : o.close = o := by
  rw [LineOperator.close, if_pos (by simp [hr])]

theorem close_of_empty (hr : o.reading = true) (hp : o.pending = []) :
    o.close = o.queue .closed true := by
  rw [LineOperator.close, if_neg (by simp [hr]), if_pos hp]
  exact if_pos hr

theorem close_of_line (hr : o.reading = true) (hp : o.pending ≠ []) :
    o.close =
      let o := { o with pending := [] }.takeLine o.pending
      if o.reading then o.queue .closed true else o := by
  rw [LineOperator.close, if_neg (by simp [hr]), if_neg hp]

theorem Follows.close (h : Follows all n o []) : Follows all n o.close [] := by
  by_cases hr : o.reading = true
  · by_cases hp : o.pending = []
    · rw [close_of_empty hr hp]
      exact h.closing hr hp
    · have ht := h.told
      rw [owed, if_pos hr, List.append_nil, script_of_open h.unfinished hp] at ht
      have hline : Follows all n ({ o with pending := [] }.takeLine o.pending) [] :=
        follows_takeLine h.listening hr ht h.interrupts
      rw [close_of_line hr hp]
      dsimp only
      split
      · exact hline.closing ‹_› (pending_takeLine ..)
      · exact hline
  · rw [close_of_not_reading (Bool.eq_false_iff.2 hr)]
    exact h

theorem Follows.interrupt (h : Follows all n o rest) : Follows all (n + 1) o.interrupt rest := by
  unfold LineOperator.interrupt
  rw [if_pos h.listening]
  refine ⟨h.listening, h.unfinished, ?_, ?_⟩
  · rw [← h.told]
    simp [LineOperator.told, owed]
  · rw [← h.interrupts]
    simp [LineOperator.interrupts, List.count_append]

/-! ## Readers at the end of their input -/

theorem reading_queue_last (o : LineOperator) (s : OperatorSignal) :
    (o.queue s true).reading = false := by
  unfold queue
  split <;> simp

theorem reading_close (o : LineOperator) : o.close.reading = false := by
  by_cases hr : o.reading = true
  · by_cases hp : o.pending = []
    · rw [close_of_empty hr hp]
      exact reading_queue_last ..
    · rw [close_of_line hr hp]
      dsimp only
      split
      · exact reading_queue_last ..
      · exact Bool.eq_false_iff.2 ‹_›
  · rw [close_of_not_reading (Bool.eq_false_iff.2 hr)]
    exact Bool.eq_false_iff.2 hr

/-- A reader that has ended does not begin again. -/
theorem reading_arriveAll (h : o.reading = false) (as : List Arrival) :
    (o.arriveAll as).reading = false := by
  induction as generalizing o with
  | nil => exact h
  | cons a as ih =>
    refine ih (o := o.arrive a) ?_
    cases a with
    | bytes bs =>
      rw [arrive, feed_of_not_reading o h]
      exact h
    | endOfInput => exact reading_close o
    | interrupt =>
      change o.interrupt.reading = false
      unfold LineOperator.interrupt
      split <;> exact h

theorem reading_of_endOfInput {as : List Arrival} (h : .endOfInput ∈ as) :
    (o.arriveAll as).reading = false := by
  obtain ⟨before, after, rfl⟩ := List.append_of_mem h
  rw [arriveAll_append]
  exact reading_arriveAll (reading_close _) after

/-! ## What comes in -/

/-- Whatever comes in, what the reader owes is told by and by. -/
theorem Follows.arrive {a : Arrival} {as : List Arrival} (h : Follows all n o (typed (a :: as))) :
    Follows all (n + [a].count .interrupt) (o.arrive a) (typed as) := by
  cases a with
  | bytes bs =>
    rw [typed_bytes] at h
    exact h.feed
  | endOfInput =>
    have hclose := Follows.close h
    have ht := hclose.told
    have hr := reading_close o
    rw [owed_of_not_reading hr, ← owed_of_not_reading hr (typed as)] at ht
    exact ⟨hclose.listening, hclose.unfinished, ht, hclose.interrupts⟩
  | interrupt =>
    rw [typed_interrupt] at h
    exact h.interrupt

theorem Follows.arriveAll {as : List Arrival} (h : Follows all n o (typed as)) :
    Follows all (n + as.count .interrupt) (o.arriveAll as) [] := by
  induction as generalizing o n with
  | nil => exact h
  | cons a as ih =>
    have hcount : n + (a :: as).count .interrupt =
        n + [a].count .interrupt + as.count .interrupt := by
      rw [← List.singleton_append, List.count_append, Nat.add_assoc]
    rw [hcount]
    exact ih h.arrive

/-- **What comes in of an input is its script**, and an interrupt for each that came. -/
theorem told_of_arrivals {as : List Arrival} (hend : .endOfInput ∈ as) :
    (({} : LineOperator).arriveAll as).told = script (typed as) ∧
      (({} : LineOperator).arriveAll as).interrupts = as.count .interrupt := by
  have hnew : Follows (script (typed as)) 0 {} (typed as) :=
    ⟨rfl, List.not_mem_nil, rfl, rfl⟩
  have h := hnew.arriveAll
  have ht := h.told
  rw [owed_of_not_reading (reading_of_endOfInput hend), List.append_nil] at ht
  exact ⟨ht, h.interrupts.trans (Nat.zero_add _)⟩

end LineOperator

end AirLoop
