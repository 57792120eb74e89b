import AirLoop.Proofs.Capture.Tick

/-!
# Routes of buffers

Which way a buffer goes through a chain of stages is decided by the stages and by what they took
before: it passes them in their order, up to the first that fails (`route`). A pipeline is `Faithful`
to what its journal says was taken: each stage was given that and nothing else, and the levels that
were shown and the monitor come from it. Every tick keeps it so (`Ticks.faithful`).
-/

namespace AirLoop

/-- A buffer that a stage took: the place of the stage, the buffer, its format and how the stage
failed. -/
abbrev Taken := Nat × AudioBuffer × AudioFormat × Option Fault

namespace Stage

/-- How a stage fails on the last of some passages. A meter never does. -/
def verdict (s : Stage) (given : List Passage) : Option Fault :=
  match s.work with
  | .meter _ => none
  | .handle v | .transmit _ v => v given

/-- The stage shows levels. -/
def isMeter (s : Stage) : Bool :=
  match s.work with
  | .meter _ => true
  | _ => false

/-- The stage shows levels and hands them to the monitor. -/
def isWatched (s : Stage) : Bool :=
  match s.work with
  | .meter watched => watched
  | _ => false

end Stage

/-- The levels that were shown. -/
def Journal.levels (j : Journal) : List LevelReading :=
  j.filterMap fun
    | .reported (.level r) => some r
    | _ => none

@[simp] theorem Journal.levels_append (a b : Journal) : levels (a ++ b) = levels a ++ levels b :=
  List.filterMap_append

/-! ## The way of a buffer -/

/-- The passages that the stage at a place was given. -/
def givenAt (taken : List Taken) (place : Nat) : List Passage :=
  (taken.filter (·.1 = place)).map fun x => ⟨x.2.1, x.2.2.1⟩

/-- The way of a passage through a chain, from a place on, after all that was taken before. -/
def route (before : List Taken) (passage : Passage) : Nat → List Stage → List Taken
  | _, [] => []
  | place, s :: rest =>
    let failure := s.verdict (givenAt before place ++ [passage])
    (place, passage.buffer, passage.format, failure) ::
      if failure.isSome then [] else route before passage (place + 1) rest

theorem givenAt_append (xs ys : List Taken) (place : Nat) :
    givenAt (xs ++ ys) place = givenAt xs place ++ givenAt ys place := by
  simp [givenAt]

/-- Nothing was given to a stage where nothing was taken. -/
theorem givenAt_eq_nil {taken : List Taken} {place : Nat} (h : ∀ x ∈ taken, x.1 ≠ place) :
    givenAt taken place = [] := by
  simpa [givenAt] using h

/-- All of a way lies in the chain, and it is one buffer that goes it. -/
theorem mem_route {before : List Taken} {passage : Passage} {place : Nat} {chain : List Stage}
    {x : Taken} (h : x ∈ route before passage place chain) :
    place ≤ x.1 ∧ x.1 < place + chain.length ∧ x.2.1 = passage.buffer := by
  induction chain generalizing place with
  | nil => simp [route] at h
  | cons s rest ih =>
    simp only [route, List.mem_cons] at h
    rcases h with rfl | h
    · simp
    · split at h
      · cases h
      · have hx := ih h
        simp only [List.length_cons]
        exact ⟨by omega, by omega, hx.2.2⟩

/-- Levels of the buffers that were taken by stages of a kind. -/
def readings (kind : Stage → Bool) (stages : List Stage) (taken : List Taken) : List LevelReading :=
  (taken.filter fun x => stages[x.1]?.any kind).map fun x => measure x.2.1

theorem readings_append (kind : Stage → Bool) (stages : List Stage) (xs ys : List Taken) :
    readings kind stages (xs ++ ys) = readings kind stages xs ++ readings kind stages ys := by
  simp [readings]

theorem readings_cons {kind : Stage → Bool} {stages : List Stage} {s : Stage} {x : Taken}
    (h : stages[x.1]? = some s) (xs : List Taken) :
    readings kind stages (x :: xs) =
      (if kind s then [measure x.2.1] else []) ++ readings kind stages xs := by
  by_cases hk : kind s = true <;> simp [readings, h, hk]

/-- More stages make no difference to what was taken before they were there. -/
theorem readings_of_prefix {kind : Stage → Bool} {stages more : List Stage} {taken : List Taken}
    (h : ∀ x ∈ taken, x.1 < stages.length) :
    readings kind (stages ++ more) taken = readings kind stages taken := by
  unfold readings
  congr 1
  refine List.filter_congr ?_
  intro x hx
  rw [List.getElem?_append_left (h x hx)]

/-! ## One stage -/

namespace Station

variable (s : Station) (monitor : LevelMonitor) (passage : Passage)

theorem station_take :
    (s.take monitor passage).station = { s with given := s.given ++ [passage] } := by
  unfold take
  dsimp only
  split <;> rfl

theorem failure_take :
    (s.take monitor passage).failure = s.stage.verdict (s.given ++ [passage]) := by
  unfold take Stage.verdict
  dsimp only
  split <;> simp_all

theorem monitor_take :
    (s.take monitor passage).monitor =
      if s.stage.isWatched then monitor.record (measure passage.buffer) else monitor := by
  unfold take Stage.isWatched
  dsimp only
  split <;> simp_all

theorem levels_take :
    Journal.levels (s.take monitor passage).reports =
      if s.stage.isMeter then [measure passage.buffer] else [] := by
  unfold take Stage.isMeter
  dsimp only
  split <;> simp_all [Journal.levels]

theorem processed_take : Journal.processed (s.take monitor passage).reports = [] := by
  unfold take
  dsimp only
  split <;> rfl

end Station

/-! ## A chain of them -/

/-- What a stage leaves of a passage: the stages behind it go on with it if it did not fail. -/
theorem transit_cons (passage : Passage) (place : Nat) (monitor : LevelMonitor) (s : Station)
    (rest : List Station) :
    let h := s.take monitor passage
    let seen := .processed place passage.buffer passage.format h.failure :: h.reports
    let t := transit passage (place + 1) h.monitor rest
    transit passage place monitor (s :: rest) =
      match h.failure with
      | some f => ⟨h.station :: rest, h.monitor, seen, some (s.stage.name, f)⟩
      | none => { t with stations := h.station :: t.stations, journal := seen ++ t.journal } := rfl

/-- What a chain leaves of a passage is told by the way that it goes. -/
theorem transit_route {before : List Taken} {stages : List Stage} (passage : Passage) {place : Nat}
    {ss : List Station} (hg : ∀ i s, ss[i]? = some s → s.given = givenAt before (place + i))
    (hs : ∀ i s, ss[i]? = some s → stages[place + i]? = some s.stage) (monitor : LevelMonitor) :
    let t := transit passage place monitor ss
    let xs := route before passage place (ss.map (·.stage))
    t.journal.processed = xs ∧
      t.journal.levels = readings Stage.isMeter stages xs ∧
      t.monitor = (readings Stage.isWatched stages xs).foldl LevelMonitor.record monitor ∧
      ∀ i s, t.stations[i]? = some s → s.given = givenAt (before ++ xs) (place + i) := by
  induction ss generalizing place monitor with
  | nil => simp [transit, route, readings, Journal.processed, Journal.levels]
  | cons s rest ih =>
    have hgiven : s.given = givenAt before place := hg 0 s rfl
    have hstage : stages[place]? = some s.stage := hs 0 s rfl
    have hrest : ∀ i t, rest[i]? = some t → t.given = givenAt before (place + 1 + i) := by
      intro i t ht
      rw [Nat.add_right_comm]
      exact hg (i + 1) t ht
    have hnext : ∀ i t, rest[i]? = some t → stages[place + 1 + i]? = some t.stage := by
      intro i t ht
      rw [Nat.add_right_comm]
      exact hs (i + 1) t ht
    obtain ⟨hp, hl, hm, hr⟩ := ih hrest hnext (s.take monitor passage).monitor
    -- what the stage itself takes and shows
    have hhead (f : Option Fault) (xs : List Taken) (hx : ∀ x ∈ xs, x.1 ≠ place) :
        givenAt (before ++ (place, passage.buffer, passage.format, f) :: xs) place =
          s.given ++ [passage] := by
      rw [givenAt_append, hgiven]
      simpa [givenAt] using hx
    have hother (f : Option Fault) (xs : List Taken) (i : Nat) :
        givenAt (before ++ (place, passage.buffer, passage.format, f) :: xs) (place + 1 + i) =
          givenAt (before ++ xs) (place + 1 + i) := by
      have hne : ¬place = place + 1 + i := by omega
      simp [givenAt, hne]
    have hseen := s.processed_take monitor passage
    have hshown := s.levels_take monitor passage
    have hwatched := s.monitor_take monitor passage
    rw [transit_cons]
    simp only [List.map_cons, route, ← hgiven, ← s.failure_take monitor passage]
    cases hf : (s.take monitor passage).failure with
    | some f =>
      simp only [Option.isSome_some, if_true]
      refine ⟨?_, ?_, ?_, ?_⟩
      · simpa [Journal.processed] using hseen
      · rw [readings_cons hstage]
        simpa [Journal.levels, readings] using hshown
      · rw [readings_cons hstage, hwatched]
        cases s.stage.isWatched <;> simp [readings]
      · intro i t ht
        cases i with
        | zero =>
          obtain rfl : _ = t := Option.some.inj ht
          rw [s.station_take]
          exact (hhead _ [] (List.forall_mem_nil _)).symm
        | succ i =>
          rw [show place + (i + 1) = place + 1 + i by omega, hother, List.append_nil]
          exact hrest i t ht
    | none =>
      simp only [Option.isSome_none, Bool.false_eq_true, if_false]
      refine ⟨?_, ?_, ?_, ?_⟩
      · rw [Journal.processed_append, hp]
        simpa [Journal.processed] using hseen
      · rw [Journal.levels_append, hl, readings_cons hstage]
        simpa [Journal.levels] using hshown
      · rw [hm, readings_cons hstage, hwatched]
        cases s.stage.isWatched <;> simp
      · intro i t ht
        cases i with
        | zero =>
          obtain rfl : _ = t := Option.some.inj ht
          rw [s.station_take]
          refine (hhead _ _ ?_).symm
          intro x hx
          have hle := (mem_route hx).1
          omega
        | succ i =>
          rw [show place + (i + 1) = place + 1 + i by omega, hother]
          exact hr i t ht

/-! ## Pipelines that do as their journals say -/

/-- The stages and the format that a delivery was handed out with. -/
def Standing.handout {σ : Type} (st : Standing σ) (k : Nat) : Option (List Stage × AudioFormat) :=
  st.handed[k]?.map fun h => (st.stages.take h.1, h.2)

/-- More stages and more deliveries leave a delivery as it was handed out. -/
theorem Standing.handout_of_prefix {σ : Type} {st st' : Standing σ} (hs : st.stages <+: st'.stages)
    (hh : st.handed <+: st'.handed) (hb : ∀ h ∈ st.handed, h.1 ≤ st.stages.length) {k : Nat}
    (hk : k < st.handed.length) : st'.handout k = st.handout k := by
  obtain ⟨more, hs⟩ := hs
  obtain ⟨later, hh⟩ := hh
  have hle := hb _ (List.getElem_mem hk)
  simp only [handout, ← hs, ← hh, List.getElem?_append_left hk, List.getElem?_eq_getElem hk,
    Option.map_some, List.take_append_of_le_length hle]

namespace Pipeline

variable {σ : Type}

/-- The stages, in their order. -/
def stages (p : Pipeline σ) : List Stage := p.stations.map (·.stage)

/-- The stages and the format that a delivery was handed out with. -/
def handout (p : Pipeline σ) : Nat → Option (List Stage × AudioFormat) := p.standing.handout

theorem handout_of_delivery {p : Pipeline σ} {k : Nat} {d : Delivery}
    (h : p.deliveries[k]? = some d) : p.handout k = some (p.stages.take d.stages, d.format) := by
  simp [handout, Standing.handout, standing, stages, h]

theorem handout_of_standing {p q : Pipeline σ} (h : q.standing = p.standing) :
    q.handout = p.handout := congrArg Standing.handout h

theorem processed_raise (p : Pipeline σ) (k : Nat) (f : Fault) :
    (p.raise k f).journal.processed = p.journal.processed := by
  rcases p.raise_cases k f with h | ⟨d, _, _, h⟩
  · rw [h]
  · rw [h, note, Journal.processed_append]
    exact List.append_nil _

end Pipeline

/-- What was taken, as the journal has it, is what the stages were given; the levels that were shown
and the monitor come from it, and no delivery has more stages than there are. -/
structure Faithful {σ : Type} (p : Pipeline σ) : Prop where
  given : ∀ i s, p.stations[i]? = some s → s.given = givenAt p.journal.processed i
  placed : ∀ x ∈ p.journal.processed, x.1 < p.stages.length
  bounded : ∀ h ∈ p.standing.handed, h.1 ≤ p.stages.length
  levels : p.journal.levels = readings Stage.isMeter p.stages p.journal.processed
  monitor : p.monitor =
    (readings Stage.isWatched p.stages p.journal.processed).foldl LevelMonitor.record {}

namespace Faithful

variable {σ : Type} {p q : Pipeline σ}

/-- Stages that were given nothing yet. -/
theorem new (source : σ) (stages : List Stage) :
    Faithful ({ source, stations := stages.map ({ stage := · }) } : Pipeline σ) := by
  refine ⟨?_, nofun, nofun, rfl, rfl⟩
  intro i s hs
  rw [List.getElem?_map] at hs
  obtain ⟨stage, -, rfl⟩ := Option.map_eq_some_iff.1 hs
  rfl

/-- What lets no stage take anything, and hands out nothing. -/
theorem quiet (h : Faithful p) (hs : q.stations = p.stations)
    (hh : q.standing.handed = p.standing.handed) (hm : q.monitor = p.monitor)
    (hp : q.journal.processed = p.journal.processed) (hl : q.journal.levels = p.journal.levels) :
    Faithful q := by
  have hst : q.stages = p.stages := by rw [Pipeline.stages, hs, Pipeline.stages]
  refine ⟨?_, ?_, ?_, ?_, ?_⟩
  · rw [hs, hp]; exact h.given
  · rw [hst, hp]; exact h.placed
  · rw [hst, hh]; exact h.bounded
  · rw [hst, hp, hl]; exact h.levels
  · rw [hst, hp, hm]; exact h.monitor

theorem note (h : Faithful p) {o : Occurrence} (hp : Journal.processed [o] = [])
    (hl : Journal.levels [o] = []) : Faithful (p.note o) := by
  refine h.quiet rfl rfl rfl ?_ ?_
  · rw [Pipeline.note, Journal.processed_append, hp, List.append_nil]
  · rw [Pipeline.note, Journal.levels_append, hl, List.append_nil]

theorem raise (h : Faithful p) (k : Nat) (f : Fault) : Faithful (p.raise k f) := by
  have hh := congrArg Standing.handed (p.standing_raise k f)
  have hp := p.processed_raise k f
  rcases p.raise_cases k f with hr | ⟨d, _, _, hr⟩
  · rwa [hr]
  · rw [hr] at hh hp ⊢
    refine h.quiet rfl hh rfl hp ?_
    rw [Pipeline.note, Journal.levels_append]
    exact List.append_nil _

/-- A new stage was given nothing, for nothing was taken in its place. -/
theorem station (h : Faithful p) (stage : Stage) :
    Faithful { p with stations := p.stations ++ [{ stage }] } := by
  have hst : ({ p with stations := p.stations ++ [{ stage }] } : Pipeline σ).stages =
      p.stages ++ [stage] := by
    simp [Pipeline.stages]
  refine ⟨?_, ?_, ?_, ?_, ?_⟩
  · intro i s hs
    change (p.stations ++ [_])[i]? = some s at hs
    by_cases hi : i < p.stations.length
    · rw [List.getElem?_append_left hi] at hs
      exact h.given i s hs
    · rw [List.getElem?_append_right (by omega), List.getElem?_singleton] at hs
      split at hs
      · cases hs
        refine (givenAt_eq_nil ?_).symm
        intro x hx
        have hlt := h.placed x hx
        simp only [Pipeline.stages, List.length_map] at hlt
        omega
      · cases hs
  · intro x hx
    have hlt := h.placed x hx
    rw [hst, List.length_append]
    omega
  · intro x hx
    have hle := h.bounded x hx
    rw [hst, List.length_append]
    omega
  · rw [hst, readings_of_prefix h.placed]
    exact h.levels
  · rw [hst, readings_of_prefix h.placed]
    exact h.monitor

/-- A delivery is handed out with the stages that there are. -/
theorem openGate (h : Faithful p) (format : AudioFormat) : Faithful (p.openGate format) := by
  refine ⟨h.given, h.placed, ?_, h.levels, h.monitor⟩
  intro x hx
  rw [p.standing_openGate format] at hx
  rcases List.mem_append.1 hx with hx | hx
  · exact h.bounded x hx
  · rw [List.mem_singleton.1 hx]
    exact Nat.le_refl _

theorem hand (h : Faithful p) (source : σ) (format : AudioFormat) (failure : Option Fault) :
    Faithful ({ p.openGate format with source }.note (.called .start failure)) := by
  have ho : Faithful { p.openGate format with source } :=
    (h.openGate format).quiet rfl rfl rfl rfl rfl
  exact ho.note rfl rfl

/-! ### Buffers that are forwarded -/

theorem routed (h : Faithful p) (d : Delivery) (b : AudioBuffer) :
    let t := p.transitOf d b
    let xs := route p.journal.processed ⟨b, d.format⟩ 0 (p.stages.take d.stages)
    t.journal.processed = xs ∧
      t.journal.levels = readings Stage.isMeter p.stages xs ∧
      t.monitor = (readings Stage.isWatched p.stages xs).foldl LevelMonitor.record p.monitor ∧
      ∀ i s, t.stations[i]? = some s → s.given = givenAt (p.journal.processed ++ xs) i := by
  have hss : ∀ (i : Nat) (s : Station), (p.stations.take d.stages)[i]? = some s →
      p.stations[i]? = some s := by
    intro i s hs
    rw [List.getElem?_take] at hs
    split at hs
    · exact hs
    · cases hs
  have hgiven : ∀ i s, (p.stations.take d.stages)[i]? = some s →
      s.given = givenAt p.journal.processed (0 + i) := by
    intro i s hs
    rw [Nat.zero_add]
    exact h.given i s (hss i s hs)
  have hstage : ∀ i s, (p.stations.take d.stages)[i]? = some s →
      p.stages[0 + i]? = some s.stage := by
    intro i s hs
    rw [Nat.zero_add, Pipeline.stages, List.getElem?_map, hss i s hs]
    rfl
  have ht := transit_route ⟨b, d.format⟩ hgiven hstage p.monitor
  simp only [Nat.zero_add, List.map_take] at ht
  exact ht

/-- What the stages of a delivery take of a buffer. -/
theorem taken (h : Faithful p) (d : Delivery) (b : AudioBuffer) :
    (p.passed d b).journal.processed = p.journal.processed ++
      route p.journal.processed ⟨b, d.format⟩ 0 (p.stages.take d.stages) := by
  obtain ⟨hp, -⟩ := h.routed d b
  rw [Pipeline.passed, Journal.processed_append, hp]

theorem passed (h : Faithful p) {d : Delivery} (hd : d.stages ≤ p.stages.length) (b : AudioBuffer) :
    Faithful (p.passed d b) := by
  obtain ⟨hp, hl, hm, hr⟩ := h.routed d b
  have htaken := h.taken d b
  have hst : (p.passed d b).stages = p.stages := congrArg Standing.stages (p.standing_passed d b)
  have hlt : ∀ x ∈ route p.journal.processed ⟨b, d.format⟩ 0 (p.stages.take d.stages),
      x.1 < d.stages := by
    intro x hx
    have hx := (mem_route hx).2.1
    rw [List.length_take] at hx
    omega
  have hlen : (p.transitOf d b).stations.length = d.stages := by
    rw [Pipeline.stages, List.length_map] at hd
    rw [Pipeline.transitOf, length_transit, List.length_take]
    omega
  refine ⟨?_, ?_, ?_, ?_, ?_⟩
  · intro i s hs
    rw [htaken]
    change ((p.transitOf d b).stations ++ p.stations.drop d.stages)[i]? = some s at hs
    by_cases hi : i < d.stages
    · rw [List.getElem?_append_left (by omega)] at hs
      exact hr i s hs
    · -- the stages behind those of the delivery are given nothing
      rw [List.getElem?_append_right (by omega), hlen, List.getElem?_drop,
        show d.stages + (i - d.stages) = i by omega] at hs
      rw [givenAt_append, ← h.given i s hs, givenAt_eq_nil, List.append_nil]
      intro x hx
      have hx := hlt x hx
      omega
  · rw [htaken, hst]
    intro x hx
    rcases List.mem_append.1 hx with hx | hx
    · exact h.placed x hx
    · have hx := hlt x hx
      omega
  · rw [hst, p.standing_passed]
    exact h.bounded
  · rw [hst, htaken, readings_append, ← h.levels, ← hl]
    exact Journal.levels_append ..
  · rw [hst, htaken, readings_append, List.foldl_append, ← h.monitor, ← hm]
    rfl

theorem forward (h : Faithful p) {k : Nat} {d : Delivery} (hd : p.deliveries[k]? = some d)
    (b : AudioBuffer) :
    Faithful (p.forward k d b) ∧ (p.forward k d b).journal.processed = p.journal.processed ++
      route p.journal.processed ⟨b, d.format⟩ 0 (p.stages.take d.stages) := by
  have hle : d.stages ≤ p.stages.length :=
    h.bounded _ (List.mem_map.2 ⟨d, List.mem_of_getElem? hd, rfl⟩)
  have hp := h.passed hle b
  have htaken := h.taken d b
  cases hf : (p.transitOf d b).failure with
  | none =>
    rw [Pipeline.forward_passed k hf]
    exact ⟨hp, htaken⟩
  | some x =>
    have hlog := hp.note (o := .logged ⟨.error, s!"Stage '{x.1}' failed: {x.2.message}"⟩) rfl rfl
    rw [Pipeline.forward_failed k hf]
    refine ⟨hlog.raise k _, ?_⟩
    rw [Pipeline.processed_raise, Pipeline.log, Pipeline.note, Journal.processed_append, htaken]
    exact List.append_nil _

/-! ### Ticks -/

theorem receive (h : Faithful p) (s : Signal) : Faithful (p.receive s) := by
  have hs : Faithful (p.note (.signalled s)) := h.note rfl rfl
  cases s with
  | buffer k b =>
    change Faithful ((p.note (.signalled (.buffer k b))).receiveBuffer k b)
    rcases (p.note (.signalled (.buffer k b))).receiveBuffer_cases k b with
      hc | hc | hc | ⟨d, hd, hc⟩ <;> rw [hc]
    · exact hs
    · exact hs.quiet rfl rfl rfl rfl rfl
    · exact hs.quiet rfl rfl rfl rfl rfl
    · exact (hs.forward hd b).1
  | fault k f => exact hs.raise k f
  | log l => exact hs.note rfl rfl

theorem of_tick (ht : Tick p q) (h : Faithful p) : Faithful q := by
  cases ht with
  | source | enter | closeGate | format => exact h.quiet rfl rfl rfl rfl rfl
  | station stage => exact h.station stage
  | hand source format failure => exact h.hand source format failure
  | call c failure => exact h.note rfl rfl
  | log => exact h.note rfl rfl
  | receive s => exact h.receive s

end Faithful

/-- **A pipeline is faithful whatever it does.** -/
theorem Ticks.faithful {σ : Type} {p q : Pipeline σ} (h : Ticks p q) (hp : Faithful p) :
    Faithful q :=
  h.preserves (fun _ _ => .of_tick) hp

end AirLoop
