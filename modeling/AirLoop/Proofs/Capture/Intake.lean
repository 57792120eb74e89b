import AirLoop.Proofs.Capture.Route
import AirLoop.Proofs.Capture.Silence

/-!
# Intakes

Every buffer that comes through a delivery is an intake: it finds the gate closed, or it is empty, or
it is delivered. The counters of a pipeline count its intakes, and what its stages took is what the
delivered ones among them bring (`Accounted`), for so much comes of each of them
(`Pipeline.receive_of_intake`).
-/

namespace AirLoop

-- the zero of an empty sum, whatever else is imported
attribute [local instance (high)] Zero.ofOfNat0

/-- A buffer that came through a delivery, and whether it found the gate open. -/
structure Intake where
  delivery : Nat
  buffer : AudioBuffer
  admitted : Bool
  deriving DecidableEq

namespace Intake

/-- It found the gate closed. -/
def isDropped (a : Intake) : Bool := !a.admitted

/-- It was let in, but there was no audio in it. -/
def isEmpty (a : Intake) : Bool := a.admitted && a.buffer.isEmpty

/-- It went on to the stages. -/
def isDelivered (a : Intake) : Bool := a.admitted && !a.buffer.isEmpty

/-- Every intake is of one of the three kinds. -/
theorem countP_kinds (as : List Intake) :
    as.countP isDelivered + as.countP isEmpty + as.countP isDropped = as.length := by
  induction as with
  | nil => rfl
  | cons a as ih =>
    simp only [List.countP_cons, List.length_cons]
    by_cases ha : a.admitted = true <;> by_cases he : a.buffer.isEmpty = true <;>
      simp [isDelivered, isEmpty, isDropped, ha, he] at ih ⊢ <;> omega

end Intake

/-- The buffers that were delivered. -/
def delivered (as : List Intake) : List AudioBuffer := (as.filter (·.isDelivered)).map (·.buffer)

/-- The counters after some intakes. -/
def Diagnostics.ofIntakes (as : List Intake) : Diagnostics where
  buffersDelivered := UInt64.ofNat (as.countP (·.isDelivered))
  emptyBuffers := UInt64.ofNat (as.countP (·.isEmpty))
  buffersDroppedAfterStop := UInt64.ofNat (as.countP (·.isDropped))
  bytesDelivered := UInt64.ofNat ((delivered as).map (·.valid)).sum

/-! ## What the delivered buffers bring -/

/-- The way of an intake through the stages of its delivery. -/
def way (handout : Nat → Option (List Stage × AudioFormat)) (taken : List Taken) (a : Intake) :
    List Taken :=
  match handout a.delivery with
  | some (chain, format) => if a.isDelivered then route taken ⟨a.buffer, format⟩ 0 chain else []
  | none => []

/-- All that is taken of some intakes, one after another. -/
def ways (handout : Nat → Option (List Stage × AudioFormat)) (as : List Intake) : List Taken :=
  as.foldl (fun taken a => taken ++ way handout taken a) []

theorem ways_snoc (handout : Nat → Option (List Stage × AudioFormat)) (as : List Intake)
    (a : Intake) : ways handout (as ++ [a]) = ways handout as ++ way handout (ways handout as) a := by
  simp [ways]

theorem ways_congr {handout handout' : Nat → Option (List Stage × AudioFormat)} {as : List Intake}
    (h : ∀ a ∈ as, handout a.delivery = handout' a.delivery) : ways handout as = ways handout' as := by
  have hall (taken : List Taken) : as.foldl (fun taken a => taken ++ way handout taken a) taken =
      as.foldl (fun taken a => taken ++ way handout' taken a) taken := by
    induction as generalizing taken with
    | nil => rfl
    | cons a as ih =>
      have ha : way handout taken a = way handout' taken a := by
        unfold way
        rw [h a List.mem_cons_self]
      rw [List.foldl_cons, List.foldl_cons, ha]
      exact ih (fun b hb => h b (List.mem_cons_of_mem _ hb)) _
  exact hall []

/-! ## The way in -/

/-- The way into a pipeline: whether the gate is open, and how many deliveries there are. -/
structure Doorway where
  gateOpen : Bool := false
  handed : Nat := 0
  deriving DecidableEq

/-- A buffer through one of the deliveries that were handed out is an intake. -/
def Doorway.intake (w : Doorway) : Signal → Option Intake
  | .buffer k b => if k < w.handed then some ⟨k, b, w.gateOpen⟩ else none
  | _ => none

/-! ## Accounts -/

namespace Pipeline

variable {σ : Type} (p : Pipeline σ)

/-- The way into a pipeline as it is. -/
def doorway : Doorway := ⟨p.gateOpen, p.deliveries.length⟩

theorem deliveries_of_standing {p q : Pipeline σ} (h : q.standing = p.standing) :
    q.deliveries.length = p.deliveries.length := by
  simpa only [standing, List.length_map] using congrArg (fun st : Standing σ => st.handed.length) h

end Pipeline

/-- A pipeline with these intakes and no others: its counters count them, and its stages took what
they bring. -/
structure Accounted {σ : Type} (as : List Intake) (p : Pipeline σ) : Prop where
  faithful : Faithful p
  known : ∀ a ∈ as, a.delivery < p.deliveries.length
  counted : p.diagnostics = .ofIntakes as
  taken : p.journal.processed = ways p.handout as

theorem Diagnostics.ofIntakes_append (as : List Intake) (a : Intake) :
    ofIntakes (as ++ [a]) =
      if a.isDelivered then Pipeline.countDelivered (ofIntakes as) a.buffer
      else if a.isEmpty then Pipeline.countEmpty (ofIntakes as)
      else Pipeline.countDropped (ofIntakes as) := by
  by_cases ha : a.admitted = true <;> by_cases he : a.buffer.isEmpty = true <;>
    simp [ofIntakes, delivered, Pipeline.countDelivered, Pipeline.countEmpty,
      Pipeline.countDropped, Intake.isDelivered, Intake.isEmpty, Intake.isDropped, ha, he,
      UInt64.ofNat_add]

namespace Accounted

variable {σ : Type} {as : List Intake} {p q : Pipeline σ}

theorem known_handed (h : Accounted as p) : ∀ a ∈ as, a.delivery < p.standing.handed.length := by
  intro a ha
  simpa [Pipeline.standing] using h.known a ha

/-- An intake came through a delivery that was handed out. -/
theorem handed_out (h : Accounted as p) {a : Intake} (ha : a ∈ as) :
    ∃ chain format, p.handout a.delivery = some (chain, format) := by
  rw [Pipeline.handout, Standing.handout, List.getElem?_eq_getElem (h.known_handed a ha)]
  exact ⟨_, _, rfl⟩

/-- What neither counts nor takes anything. Stages and deliveries may have been added. -/
theorem quiet (h : Accounted as p) (hf : Faithful q)
    (hs : p.standing.stages <+: q.standing.stages) (hh : p.standing.handed <+: q.standing.handed)
    (hd : q.diagnostics = p.diagnostics) (hp : q.journal.processed = p.journal.processed) :
    Accounted as q := by
  refine ⟨hf, ?_, ?_, ?_⟩
  · intro a ha
    have hlt := h.known_handed a ha
    have hle := hh.length_le
    simp only [Pipeline.standing, List.length_map] at hlt hle
    omega
  · rw [hd]; exact h.counted
  · rw [hp, h.taken]
    refine ways_congr ?_
    intro a ha
    exact (Standing.handout_of_prefix hs hh h.faithful.bounded (h.known_handed a ha)).symm

/-- The same standing, in particular. -/
theorem still (h : Accounted as p) (hf : Faithful q) (hst : q.standing = p.standing)
    (hd : q.diagnostics = p.diagnostics) (hp : q.journal.processed = p.journal.processed) :
    Accounted as q := by
  exact h.quiet hf (hst ▸ List.prefix_refl _) (hst ▸ List.prefix_refl _) hd hp

/-- What leaves the stages, the deliveries and the counters alone. -/
theorem untouched (h : Accounted as p) (hs : q.stations = p.stations)
    (hh : q.deliveries = p.deliveries) (hm : q.monitor = p.monitor)
    (hd : q.diagnostics = p.diagnostics) (hp : q.journal.processed = p.journal.processed)
    (hl : q.journal.levels = p.journal.levels) : Accounted as q := by
  have hstages : q.standing.stages = p.standing.stages := by simp only [Pipeline.standing, hs]
  have hhanded : q.standing.handed = p.standing.handed := by simp only [Pipeline.standing, hh]
  have hf : Faithful q := h.faithful.quiet hs hhanded hm hp hl
  exact h.quiet hf (hstages ▸ List.prefix_refl _) (hhanded ▸ List.prefix_refl _) hd hp

/-- One more intake. -/
theorem arrive (h : Accounted as p) (a : Intake) (hf : Faithful q) (hst : q.standing = p.standing)
    (ha : a.delivery < p.deliveries.length)
    (hd : q.diagnostics =
      if a.isDelivered then Pipeline.countDelivered p.diagnostics a.buffer
      else if a.isEmpty then Pipeline.countEmpty p.diagnostics
      else Pipeline.countDropped p.diagnostics)
    (hp : q.journal.processed =
      p.journal.processed ++ way p.handout p.journal.processed a) : Accounted (as ++ [a]) q := by
  refine ⟨hf, ?_, ?_, ?_⟩
  · have hl : q.deliveries.length = p.deliveries.length := Pipeline.deliveries_of_standing hst
    intro b hb
    rw [hl]
    rcases List.mem_append.1 hb with hb | hb
    · exact h.known b hb
    · rw [List.mem_singleton.1 hb]
      exact ha
  · rw [hd, Diagnostics.ofIntakes_append, h.counted]
  · rw [Pipeline.handout_of_standing hst, ways_snoc, ← h.taken]
    exact hp

end Accounted

/-! ## Signals -/

namespace Pipeline

variable {σ : Type} {p : Pipeline σ} {k : Nat} {b : AudioBuffer}

/-- A buffer through a delivery that was never handed out is only noted. -/
theorem receive_buffer_unhanded (hk : ¬k < p.deliveries.length) :
    p.receive (.buffer k b) = p.note (.signalled (.buffer k b)) := by
  have hnone : p.deliveries[k]? = none := List.getElem?_eq_none (by omega)
  simp only [receive, receiveBuffer, note, hnone]

/-- A buffer without audio is counted at the open gate, and that is all. -/
theorem receive_buffer_of_empty (hg : p.gateOpen = true) (hk : k < p.deliveries.length)
    (hb : b.isEmpty = true) :
    p.receive (.buffer k b) =
      { p.note (.signalled (.buffer k b)) with diagnostics := countEmpty p.diagnostics } := by
  simp [receive, receiveBuffer, note, List.getElem?_eq_getElem hk, hg, hb]

/-- Any other buffer goes on at the open gate. -/
theorem receive_buffer_of_open (hg : p.gateOpen = true) {d : Delivery}
    (hd : p.deliveries[k]? = some d) (hb : b.isEmpty = false) :
    p.receive (.buffer k b) = (p.note (.signalled (.buffer k b))).forward k d b := by
  simp [receive, receiveBuffer, note, hd, hg, hb]

/-- A signal that is no intake is neither counted nor taken by a stage. -/
theorem receive_of_no_intake {s : Signal} (h : p.doorway.intake s = none) :
    (p.receive s).diagnostics = p.diagnostics ∧
      (p.receive s).journal.processed = p.journal.processed := by
  have hn (s : Signal) : (p.note (.signalled s)).journal.processed = p.journal.processed := by
    rw [note, Journal.processed_append]
    exact List.append_nil _
  cases s with
  | buffer k b =>
    change (if k < p.deliveries.length then some (⟨k, b, p.gateOpen⟩ : Intake) else none) = none at h
    have hk : ¬k < p.deliveries.length := by simpa using h
    rw [receive_buffer_unhanded hk]
    exact ⟨rfl, hn _⟩
  | fault k f =>
    refine ⟨diagnostics_raise .., ?_⟩
    exact (processed_raise ..).trans (hn _)
  | log l =>
    refine ⟨rfl, ?_⟩
    change ((p.note (.signalled (.log l))).note (.logged l)).journal.processed = _
    rw [note, Journal.processed_append, hn]
    exact List.append_nil _

/-- **An intake is counted as what it is, and goes its way.** -/
theorem receive_of_intake (hf : Faithful p) {s : Signal} {a : Intake}
    (h : p.doorway.intake s = some a) :
    a.delivery < p.deliveries.length ∧
      (p.receive s).diagnostics =
        (if a.isDelivered then countDelivered p.diagnostics a.buffer
        else if a.isEmpty then countEmpty p.diagnostics else countDropped p.diagnostics) ∧
      (p.receive s).journal.processed =
        p.journal.processed ++ way p.handout p.journal.processed a := by
  cases s with
  | fault | log => cases h
  | buffer k b =>
    change (if k < p.deliveries.length then some (⟨k, b, p.gateOpen⟩ : Intake) else none) = _ at h
    simp only [Option.ite_none_right_eq_some, Option.some.injEq] at h
    obtain ⟨hk, rfl⟩ := h
    refine ⟨hk, ?_⟩
    have hd : p.deliveries[k]? = some p.deliveries[k] := List.getElem?_eq_getElem hk
    have hnote : (p.note (.signalled (.buffer k b))).journal.processed = p.journal.processed := by
      rw [note, Journal.processed_append]
      exact List.append_nil _
    simp only [way, handout_of_delivery hd]
    by_cases hg : p.gateOpen = true
    · by_cases hb : b.isEmpty = true
      · rw [receive_buffer_of_empty hg hk hb]
        simp [Intake.isDelivered, Intake.isEmpty, hg, hb, hnote]
      · rw [Bool.not_eq_true] at hb
        have hfn : Faithful (p.note (.signalled (.buffer k b))) := hf.note rfl rfl
        have hforward := (hfn.forward (k := k) hd b).2
        rw [hnote] at hforward
        rw [receive_buffer_of_open hg hd hb, diagnostics_forward, hforward]
        simp only [Intake.isDelivered, hg, hb, Bool.not_false, Bool.and_self, if_true]
        exact ⟨rfl, rfl⟩
    · rw [Bool.not_eq_true] at hg
      have hr := receive_buffer_of_closed hg hk b
      have hj : Journal.processed [.signalled (.buffer k b)] = [] := rfl
      rw [hr, Journal.processed_append, hj, hg]
      refine ⟨rfl, ?_⟩
      simp [Intake.isDelivered]

end Pipeline

end AirLoop
