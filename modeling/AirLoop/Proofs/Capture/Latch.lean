import AirLoop.Proofs.Capture.Tick

/-!
# First faults

The faults that come up in a pipeline can be read off its journal: what the source reports through
a delivery, and what a stage makes of a buffer (`Journal.raised`). A delivery keeps the first one
that comes up through it, and keeps it for good (`Ticks.latched`).
-/

namespace AirLoop

/-! ## Faults in a journal -/

/-- A fault that came up: through which delivery, after how many polls, and what it says. -/
structure Raised where
  delivery : Nat
  polls : Nat
  fault : Fault
  deriving DecidableEq

/-- What a reader of a journal keeps in mind. -/
structure Bookmark where
  /-- deliveries handed out so far -/
  handed : Nat := 0
  /-- delivery of the latest buffer -/
  through : Nat := 0
  polls : Nat := 0
  deriving DecidableEq

namespace Bookmark

/-- The bookmark after one more occurrence. -/
def next (m : Bookmark) : Occurrence → Bookmark
  | .called .start _ => { m with handed := m.handed + 1 }
  | .signalled (.buffer k _) => { m with through := k }
  | .polled _ => { m with polls := m.polls + 1 }
  | _ => m

/-- The fault that comes up with an occurrence, if any. One of a stage names the stage. -/
def raised (names : List String) (m : Bookmark) : Occurrence → Option Raised
  | .signalled (.fault k f) => if k < m.handed then some ⟨k, m.polls, f⟩ else none
  | .processed place _ _ (some f) =>
    some ⟨m.through, m.polls, .captureFault (names.getD place "" ++ ": " ++ f.message)⟩
  | _ => none

end Bookmark

namespace Journal

/-- Where a reader is at the end of a journal. -/
def bookmark (j : Journal) : Bookmark := j.foldl Bookmark.next {}

/-- The faults that come up from a bookmark on. -/
def raisedFrom (names : List String) : Bookmark → Journal → List Raised
  | _, [] => []
  | m, o :: rest => (m.raised names o).toList ++ raisedFrom names (m.next o) rest

/-- The faults that come up in a journal, over a chain of stages with these names. -/
def raised (names : List String) (j : Journal) : List Raised := raisedFrom names {} j

theorem bookmark_append (a b : Journal) : (a ++ b).bookmark = b.foldl Bookmark.next a.bookmark :=
  List.foldl_append ..

theorem raisedFrom_append (names : List String) (m : Bookmark) (a b : Journal) :
    raisedFrom names m (a ++ b) =
      raisedFrom names m a ++ raisedFrom names (a.foldl Bookmark.next m) b := by
  induction a generalizing m with
  | nil => rfl
  | cons o a ih => simp only [List.cons_append, raisedFrom, ih, List.append_assoc, List.foldl_cons]

theorem raised_append (names : List String) (a b : Journal) :
    raised names (a ++ b) = raised names a ++ raisedFrom names a.bookmark b :=
  raisedFrom_append ..

theorem raised_snoc (names : List String) (j : Journal) (o : Occurrence) :
    (j ++ [o]).raised names = j.raised names ++ (j.bookmark.raised names o).toList := by
  rw [raised_append]
  simp only [raisedFrom, List.append_nil]

theorem polls_next (m : Bookmark) (o : Occurrence) : m.polls ≤ (m.next o).polls := by
  unfold Bookmark.next
  split <;> simp

theorem polls_foldl (m : Bookmark) (j : Journal) : m.polls ≤ (j.foldl Bookmark.next m).polls := by
  induction j generalizing m with
  | nil => exact Nat.le_refl _
  | cons o j ih => exact Nat.le_trans (polls_next m o) (ih (m.next o))

theorem polls_raised {names : List String} {m : Bookmark} {o : Occurrence} {x : Raised}
    (hx : m.raised names o = some x) : x.polls = m.polls := by
  unfold Bookmark.raised at hx
  split at hx
  · split at hx
    · cases hx; rfl
    · cases hx
  · cases hx; rfl
  · cases hx

/-- A fault comes up no earlier than where the reader begins and no later than where he ends. -/
theorem polls_raisedFrom {names : List String} {m : Bookmark} {j : Journal} {x : Raised}
    (hx : x ∈ raisedFrom names m j) :
    m.polls ≤ x.polls ∧ x.polls ≤ (j.foldl Bookmark.next m).polls := by
  induction j generalizing m with
  | nil => cases hx
  | cons o j ih =>
    have hn := polls_next m o
    rcases List.mem_append.1 hx with hx | hx
    · have hp := polls_raised (Option.mem_toList.1 hx)
      have hj := polls_foldl (m.next o) j
      rw [List.foldl_cons]
      omega
    · have hj := ih hx
      rw [List.foldl_cons]
      omega

end Journal

/-- The first fault through a delivery. -/
def firstFault (k : Nat) (xs : List Raised) : Option Fault :=
  (xs.find? (·.delivery = k)).map (·.fault)

theorem firstFault_snoc (k : Nat) (xs : List Raised) (x : Raised) :
    firstFault k (xs ++ [x]) =
      (firstFault k xs).or (if x.delivery = k then some x.fault else none) := by
  unfold firstFault
  rw [List.find?_append, List.find?_singleton]
  cases xs.find? (·.delivery = k) with
  | some y => rfl
  | none => by_cases h : x.delivery = k <;> simp [h]

theorem firstFault_eq_none {k : Nat} {xs : List Raised} (h : ∀ x ∈ xs, x.delivery < k) :
    firstFault k xs = none := by
  have hf : xs.find? (·.delivery = k) = none := by
    refine List.find?_eq_none.2 ?_
    intro x hx he
    have hlt := h x hx
    have heq : x.delivery = k := of_decide_eq_true he
    omega
  rw [firstFault, hf]
  rfl

/-! ## Latched pipelines -/

/-- Every delivery holds the first fault that came up through it. -/
structure Latched {σ : Type} (names : List String) (p : Pipeline σ) : Prop where
  handed : p.journal.bookmark.handed = p.deliveries.length
  known : ∀ x ∈ p.journal.raised names, x.delivery < p.deliveries.length
  fault : ∀ k d, p.deliveries[k]? = some d → d.fault = firstFault k (p.journal.raised names)

namespace Pipeline

variable {σ : Type} (p : Pipeline σ)

theorem bookmark_note (o : Occurrence) : (p.note o).journal.bookmark = p.journal.bookmark.next o :=
  Journal.bookmark_append ..

theorem raised_note (names : List String) (o : Occurrence) :
    (p.note o).journal.raised names =
      p.journal.raised names ++ (p.journal.bookmark.raised names o).toList :=
  Journal.raised_snoc ..

variable (k : Nat) (f : Fault)

theorem length_deliveries_raise : (p.raise k f).deliveries.length = p.deliveries.length := by
  rcases p.raise_cases k f with h | ⟨d, _, _, h⟩
  · rw [h]
  · rw [h]; exact List.length_set ..

/-- The delivery keeps the fault that it has, and the others are as they were. -/
theorem deliveries_raise (i : Nat) :
    (p.raise k f).deliveries[i]? =
      p.deliveries[i]?.map fun d => if k = i then { d with fault := d.fault.or (some f) } else d := by
  unfold raise
  split
  · rename_i hd
    by_cases hi : k = i
    · rw [← hi, hd]; rfl
    · simp only [if_neg hi, Option.map_id']
  · rename_i d hd
    have hlt : k < p.deliveries.length := (List.getElem?_eq_some_iff.1 hd).1
    split
    · rename_i g hf
      by_cases hi : k = i
      · rw [← hi, hd, Option.map_some, if_pos rfl, hf, Option.some_or, ← hf]
      · simp only [if_neg hi, Option.map_id']
    · rename_i hf
      change (p.deliveries.set k { d with fault := some f })[i]? = _
      rw [List.getElem?_set]
      by_cases hi : k = i
      · rw [if_pos hi, if_pos hlt, ← hi, hd, Option.map_some, if_pos rfl, hf, Option.none_or]
      · simp only [if_neg hi, Option.map_id']

theorem journal_raise :
    (p.raise k f).journal = p.journal ∨ (p.raise k f).journal = (p.note (.faulted k f)).journal := by
  rcases p.raise_cases k f with h | ⟨d, _, _, h⟩
  · rw [h]; exact .inl rfl
  · rw [h]; exact .inr rfl

end Pipeline

namespace Latched

variable {σ : Type} {names : List String} {p q : Pipeline σ}

/-- What neither hands out a delivery nor raises a fault. -/
theorem quiet (h : Latched names p) (hd : q.deliveries = p.deliveries)
    (hb : q.journal.bookmark.handed = p.journal.bookmark.handed)
    (hr : q.journal.raised names = p.journal.raised names) : Latched names q where
  handed := by rw [hb, hd]; exact h.handed
  known := by rw [hr, hd]; exact h.known
  fault := by rw [hr, hd]; exact h.fault

/-- A fault came up through a delivery, and is raised there. -/
theorem raise (h : Latched names p) (hd : q.deliveries = p.deliveries)
    (hb : q.journal.bookmark.handed = p.journal.bookmark.handed) {x : Raised}
    (hx : x.delivery < p.deliveries.length)
    (hr : q.journal.raised names = p.journal.raised names ++ [x]) :
    Latched names (q.raise x.delivery x.fault) := by
  have hl : (q.raise x.delivery x.fault).deliveries.length = p.deliveries.length := by
    rw [Pipeline.length_deliveries_raise, hd]
  have hj : (q.raise x.delivery x.fault).journal.bookmark.handed = p.journal.bookmark.handed ∧
      (q.raise x.delivery x.fault).journal.raised names = p.journal.raised names ++ [x] := by
    rcases q.journal_raise x.delivery x.fault with hj | hj <;> rw [hj]
    · exact ⟨hb, hr⟩
    · rw [Pipeline.bookmark_note, Pipeline.raised_note]
      exact ⟨hb, by rw [hr]; exact List.append_nil _⟩
  refine ⟨?_, ?_, ?_⟩
  · rw [hj.1, hl]
    exact h.handed
  · rw [hj.2, hl]
    intro y hy
    rcases List.mem_append.1 hy with hy | hy
    · exact h.known y hy
    · rw [List.mem_singleton.1 hy]
      exact hx
  · intro k d hk
    rw [Pipeline.deliveries_raise, hd] at hk
    obtain ⟨d₀, hd₀, rfl⟩ := Option.map_eq_some_iff.1 hk
    rw [hj.2, firstFault_snoc, ← h.fault k d₀ hd₀]
    by_cases he : x.delivery = k
    · rw [if_pos he, if_pos he]
    · rw [if_neg he, if_neg he, Option.or_none]

/-- An occurrence that neither hands out a delivery nor raises a fault. -/
theorem note (h : Latched names p) {o : Occurrence}
    (hb : ∀ m : Bookmark, (m.next o).handed = m.handed)
    (hr : ∀ m : Bookmark, m.raised names o = none) : Latched names (p.note o) := by
  refine h.quiet rfl ?_ ?_
  · rw [Pipeline.bookmark_note]
    exact hb _
  · rw [Pipeline.raised_note, hr]
    exact List.append_nil _

/-- A start hands out a delivery, through which nothing came up yet. -/
theorem hand (h : Latched names p) (source : σ) (format : AudioFormat) (failure : Option Fault) :
    Latched names ({ p.openGate format with source }.note (.called .start failure)) := by
  have hr : ({ p.openGate format with source }.note (.called .start failure)).journal.raised names =
      p.journal.raised names := by
    rw [Pipeline.raised_note]
    exact List.append_nil _
  have hl : (p.openGate format).deliveries.length = p.deliveries.length + 1 := by
    simp only [Pipeline.openGate, List.length_append, List.length_singleton]
  refine ⟨?_, ?_, ?_⟩
  · rw [Pipeline.bookmark_note]
    change p.journal.bookmark.handed + 1 = (p.openGate format).deliveries.length
    rw [hl, h.handed]
  · rw [hr]
    intro x hx
    have hlt := h.known x hx
    change x.delivery < (p.openGate format).deliveries.length
    omega
  · rw [hr]
    intro k d hk
    change (p.deliveries ++ [_])[k]? = some d at hk
    by_cases hlt : k < p.deliveries.length
    · rw [List.getElem?_append_left hlt] at hk
      exact h.fault k d hk
    · have hle : p.deliveries.length ≤ k := by omega
      rw [List.getElem?_append_right hle, List.getElem?_singleton] at hk
      split at hk
      · cases hk
        refine (firstFault_eq_none ?_).symm
        intro x hx
        have hlt := h.known x hx
        omega
      · cases hk

end Latched

/-! ## Buffers on their way -/

/-- What comes up on the way of a buffer is the failure of the last stage that it reached. -/
theorem raisedFrom_transit (names : List String) (m : Bookmark) (passage : Passage) (place : Nat)
    (monitor : LevelMonitor) (ss : List Station)
    (hn : ∀ i s, ss[i]? = some s → names.getD (place + i) "" = s.stage.name) :
    (transit passage place monitor ss).journal.foldl Bookmark.next m = m ∧
      Journal.raisedFrom names m (transit passage place monitor ss).journal =
        match (transit passage place monitor ss).failure with
        | none => []
        | some (name, f) => [⟨m.through, m.polls, .captureFault (name ++ ": " ++ f.message)⟩] := by
  induction ss generalizing place monitor with
  | nil => exact ⟨rfl, rfl⟩
  | cons s rest ih =>
    have hs : (s.take monitor passage).reports.foldl Bookmark.next m = m ∧
        Journal.raisedFrom names m (s.take monitor passage).reports = [] := by
      unfold Station.take
      dsimp only
      split <;> exact ⟨rfl, rfl⟩
    have hrest := ih (place + 1) (s.take monitor passage).monitor fun i t ht => by
      rw [Nat.add_right_comm]
      exact hn (i + 1) t ht
    have hname : names.getD place "" = s.stage.name := hn 0 s rfl
    simp only [transit]
    cases hf : (s.take monitor passage).failure with
    | some f =>
      simp only [List.foldl_cons, Journal.raisedFrom, Bookmark.next, Bookmark.raised, hs, hname,
        Option.toList_some, List.append_nil, and_self]
    | none =>
      simp only [List.cons_append, List.foldl_cons, List.foldl_append, Journal.raisedFrom,
        Journal.raisedFrom_append, Bookmark.next, Bookmark.raised, hs, hrest, Option.toList_none,
        List.nil_append, and_self]

/-! ## The names of the stages -/

theorem Pipeline.stageNames_of_stages {σ : Type} {p q : Pipeline σ}
    (h : q.standing.stages = p.standing.stages) : q.stageNames = p.stageNames := by
  have hs : ∀ p : Pipeline σ, p.stageNames = p.standing.stages.map (·.name) := fun p => by
    simp only [stageNames, standing, List.map_map, Function.comp_def]
  rw [hs, hs, h]

/-- Names are only added, at the end. -/
theorem Tick.stageNames {σ : Type} {p q : Pipeline σ} (h : Tick p q) :
    p.stageNames <+: q.stageNames := by
  cases h with
  | source | enter | closeGate | format | hand | call | log => exact List.prefix_refl _
  | station stage =>
    simp only [Pipeline.stageNames, List.map_append]
    exact List.prefix_append ..
  | receive s =>
    have hs := congrArg Standing.stages (Pipeline.standing_receive p s)
    exact ⟨[], by rw [Pipeline.stageNames_of_stages hs, List.append_nil]⟩

theorem Pipeline.getD_of_stageNames {σ : Type} {p : Pipeline σ} {names : List String}
    (hn : p.stageNames <+: names) {i : Nat} {s : Station} (hs : p.stations[i]? = some s) :
    names.getD i "" = s.stage.name := by
  have hi : p.stageNames[i]? = some s.stage.name := by
    rw [stageNames, List.getElem?_map, hs]
    rfl
  obtain ⟨hlt, hname⟩ := List.getElem?_eq_some_iff.1 hi
  rw [List.getD_eq_getElem?_getD, List.prefix_iff_getElem?.1 hn i hlt, hname]
  rfl

/-- A buffer that is passed on brings up the failure of a stage at most. -/
theorem Pipeline.raised_passed {σ : Type} {p : Pipeline σ} {names : List String}
    (hn : p.stageNames <+: names) (d : Delivery) (b : AudioBuffer) :
    (p.passed d b).journal.bookmark = p.journal.bookmark ∧
      (p.passed d b).journal.raised names = p.journal.raised names ++
        match (p.transitOf d b).failure with
        | none => []
        | some (name, f) =>
          [⟨p.journal.bookmark.through, p.journal.bookmark.polls,
            .captureFault (name ++ ": " ++ f.message)⟩] := by
  obtain ⟨hb, hr⟩ := raisedFrom_transit names p.journal.bookmark ⟨b, d.format⟩ 0 p.monitor
    (p.stations.take d.stages) (by
      intro i s hs
      rw [List.getElem?_take] at hs
      split at hs
      · rw [Nat.zero_add]
        exact getD_of_stageNames hn hs
      · cases hs)
  constructor
  · rw [passed, Journal.bookmark_append]
    exact hb
  · rw [passed, Journal.raised_append]
    exact congrArg _ hr

/-! ## Ticks -/

namespace Latched

variable {σ : Type} {names : List String} {p q : Pipeline σ}

theorem forward (h : Latched names p) (hn : p.stageNames <+: names) {k : Nat} {d : Delivery}
    (hd : p.deliveries[k]? = some d) (hk : p.journal.bookmark.through = k) (b : AudioBuffer) :
    Latched names (p.forward k d b) := by
  obtain ⟨hpb, hpr⟩ := Pipeline.raised_passed hn d b
  rw [hk] at hpr
  cases hf : (p.transitOf d b).failure with
  | none =>
    rw [hf, List.append_nil] at hpr
    rw [Pipeline.forward_passed k hf]
    exact h.quiet rfl (congrArg _ hpb) hpr
  | some x =>
    obtain ⟨name, f⟩ := x
    rw [hf] at hpr
    rw [Pipeline.forward_failed k hf]
    have hlt : k < p.deliveries.length := (List.getElem?_eq_some_iff.1 hd).1
    refine h.raise (q := (p.passed d b).log .error s!"Stage '{name}' failed: {f.message}")
      (x := ⟨k, p.journal.bookmark.polls, .captureFault (name ++ ": " ++ f.message)⟩) rfl ?_ hlt ?_
    · rw [Pipeline.log, Pipeline.bookmark_note, hpb]
      rfl
    · rw [Pipeline.log, Pipeline.raised_note, hpr]
      exact List.append_nil _

theorem receive (h : Latched names p) (hn : p.stageNames <+: names) (s : Signal) :
    Latched names (p.receive s) := by
  cases s with
  | buffer k b =>
    have hs : Latched names (p.note (.signalled (.buffer k b))) :=
      h.note (fun _ => rfl) fun _ => rfl
    have hb : (p.note (.signalled (.buffer k b))).journal.bookmark.through = k := by
      rw [Pipeline.bookmark_note]
      rfl
    change Latched names ((p.note (.signalled (.buffer k b))).receiveBuffer k b)
    rcases Pipeline.receiveBuffer_cases (p.note (.signalled (.buffer k b))) k b with
      hc | hc | hc | ⟨d, hd, hc⟩ <;> rw [hc]
    · exact hs
    · exact hs.quiet rfl rfl rfl
    · exact hs.quiet rfl rfl rfl
    · exact hs.forward hn hd hb b
  | fault k f =>
    have hb : (p.note (.signalled (.fault k f))).journal.bookmark = p.journal.bookmark := by
      rw [Pipeline.bookmark_note]
      rfl
    change Latched names ((p.note (.signalled (.fault k f))).raise k f)
    by_cases hk : k < p.deliveries.length
    · refine h.raise (q := p.note (.signalled (.fault k f)))
        (x := ⟨k, p.journal.bookmark.polls, f⟩) rfl (congrArg _ hb) hk ?_
      rw [Pipeline.raised_note]
      simp only [Bookmark.raised, h.handed, if_pos hk, Option.toList_some]
    · have hu : (p.note (.signalled (.fault k f))).raise k f = p.note (.signalled (.fault k f)) := by
        have hnone : (p.note (.signalled (.fault k f))).deliveries[k]? = none :=
          List.getElem?_eq_none (Nat.le_of_not_lt hk)
        unfold Pipeline.raise
        rw [hnone]
      rw [hu]
      refine h.quiet rfl (congrArg _ hb) ?_
      rw [Pipeline.raised_note]
      simp only [Bookmark.raised, h.handed, if_neg hk, Option.toList_none, List.append_nil]
  | log l =>
    have hs : Latched names (p.note (.signalled (.log l))) := h.note (fun _ => rfl) fun _ => rfl
    exact hs.note (fun _ => rfl) fun _ => rfl

theorem of_tick (ht : Tick p q) (hn : q.stageNames <+: names) (h : Latched names p) :
    Latched names q := by
  cases ht with
  | source | enter | closeGate | format | station => exact h.quiet rfl rfl rfl
  | hand source format failure => exact h.hand source format failure
  | call c failure hc =>
    refine h.note ?_ fun _ => rfl
    intro m
    cases c with
    | start => exact absurd rfl hc
    | openDevice | stop | closeDevice => rfl
  | log => exact h.note (fun _ => rfl) fun _ => rfl
  | receive s =>
    refine h.receive ?_ s
    have hs := congrArg Standing.stages (Pipeline.standing_receive p s)
    rwa [Pipeline.stageNames_of_stages hs] at hn

end Latched

/-- **Each delivery holds the first fault that came up through it**, whatever a pipeline does. -/
theorem Ticks.latched {σ : Type} {names : List String} {p q : Pipeline σ} (h : Ticks p q)
    (hn : q.stageNames <+: names) (hp : Latched names p) : Latched names q := by
  induction h with
  | refl => exact hp
  | tail _ ht ih => exact .of_tick ht hn (ih (ht.stageNames.trans hn))

end AirLoop
