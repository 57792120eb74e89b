import Mathlib.Data.List.Induction
import AirLoop.Proofs.Audio.Peak
import AirLoop.Proofs.Capture.Intake

/-!
# Metered pipelines

A pipeline whose first stage is the meter that its monitor watches sees the level of every buffer
that is delivered, and of no other: a meter never fails, and no stage comes before it. So its monitor
holds the loudest of them (`Accounted.loudest`), and it shows each of them once, and once more for
every further meter that the buffer reaches (`Accounted.levels`).
-/

namespace AirLoop

/-! ## The first of a way -/

section
variable {handout : Nat → Option (List Stage × AudioFormat)} {as : List Intake}

/-- A way that is not empty begins at the first stage, and never comes back to it. -/
theorem route_first (before : List Taken) (passage : Passage) (s : Stage) (chain : List Stage) :
    ∃ failure rest, route before passage 0 (s :: chain) =
      (0, passage.buffer, passage.format, failure) :: rest ∧ ∀ x ∈ rest, x.1 ≠ 0 := by
  refine ⟨_, _, rfl, ?_⟩
  intro x hx
  split at hx
  · cases hx
  · have hle := (mem_route hx).1
    omega

/-- All that is taken was delivered. -/
theorem mem_way {taken : List Taken} {a : Intake} {x : Taken} (hx : x ∈ way handout taken a) :
    a.isDelivered = true ∧ x.2.1 = a.buffer := by
  unfold way at hx
  split at hx
  · split at hx
    · rename_i hd
      exact ⟨hd, (mem_route hx).2.2⟩
    · cases hx
  · cases hx

theorem delivered_snoc (as : List Intake) (a : Intake) :
    delivered (as ++ [a]) = delivered as ++ if a.isDelivered then [a.buffer] else [] := by
  by_cases h : a.isDelivered = true <;> simp [delivered, h]

theorem mem_ways {x : Taken} (hx : x ∈ ways handout as) : x.2.1 ∈ delivered as := by
  induction as using List.reverseRecOn with
  | nil => cases hx
  | append_singleton as a ih =>
    rw [delivered_snoc, List.mem_append]
    rw [ways_snoc] at hx
    rcases List.mem_append.1 hx with hx | hx
    · exact .inl (ih hx)
    · obtain ⟨hd, hb⟩ := mem_way hx
      rw [if_pos hd, hb]
      exact .inr List.mem_cons_self

/-- The first stage takes what is delivered, once. -/
theorem first_way (taken : List Taken) {a : Intake} {s : Stage} {chain : List Stage}
    {format : AudioFormat} (h : handout a.delivery = some (s :: chain, format)) :
    ((way handout taken a).filter (·.1 = 0)).map (·.2.1) =
      if a.isDelivered then [a.buffer] else [] := by
  unfold way
  rw [h]
  dsimp only
  split
  · obtain ⟨failure, rest, hr, hrest⟩ := route_first taken ⟨a.buffer, format⟩ s chain
    have hnone : rest.filter (·.1 = 0) = [] := by
      refine List.filter_eq_nil_iff.2 ?_
      intro x hx
      simpa using hrest x hx
    rw [hr, List.filter_cons_of_pos (by rfl), hnone]
    rfl
  · rfl

/-- **The first stage takes all that is delivered**, in that order, and nothing else. -/
theorem first_ways (h : ∀ a ∈ as, ∃ s chain format, handout a.delivery = some (s :: chain, format)) :
    ((ways handout as).filter (·.1 = 0)).map (·.2.1) = delivered as := by
  induction as using List.reverseRecOn with
  | nil => rfl
  | append_singleton as a ih =>
    obtain ⟨s, chain, format, ha⟩ := h a (List.mem_append_right _ List.mem_cons_self)
    rw [ways_snoc, List.filter_append, List.map_append, first_way _ ha, delivered_snoc,
      ih fun b hb => h b (List.mem_append_left _ hb)]

end

theorem length_delivered (as : List Intake) : (delivered as).length = as.countP (·.isDelivered) := by
  rw [delivered, List.length_map, List.countP_eq_length_filter]

theorem Loudest.congr {rs rs' : List LevelReading} {x : LevelReading} (h : Loudest rs x)
    (hm : ∀ r, r ∈ rs' ↔ r ∈ rs) : Loudest rs' x := by
  have hnil : rs' = [] ↔ rs = [] := by
    simp only [List.eq_nil_iff_forall_not_mem, hm]
  exact ⟨fun he => h.silent (hnil.1 he), fun hne => (hm x).2 (h.mem fun he => hne (hnil.2 he)),
    fun r hr => h.le r ((hm r).1 hr)⟩

/-! ## Metered pipelines -/

/-- The first stage is the meter that the monitor watches, for every delivery. -/
structure Metered {σ : Type} (p : Pipeline σ) : Prop where
  first : p.stages[0]? = some (.meter true)
  reached : ∀ k < p.deliveries.length, ∃ chain format,
    p.handout k = some (.meter true :: chain, format)

/-- How often a buffer passed a meter behind the first stage. -/
def Pipeline.furtherLevels {σ : Type} (p : Pipeline σ) : Nat :=
  p.journal.processed.countP fun x => 0 < x.1 && p.stages[x.1]?.any Stage.isMeter

/-- Without further meters there are none. -/
theorem Pipeline.furtherLevels_eq_zero {σ : Type} {p : Pipeline σ}
    (h : ∀ s ∈ p.stages.tail, s.isMeter = false) : p.furtherLevels = 0 := by
  refine List.countP_eq_zero.2 ?_
  intro x _ hx
  rw [Bool.and_eq_true, decide_eq_true_eq] at hx
  obtain ⟨hpos, hany⟩ := hx
  obtain ⟨i, hi⟩ := Nat.exists_eq_succ_of_ne_zero (Nat.ne_of_gt hpos)
  cases hs : p.stages[x.1]? with
  | none =>
    rw [hs] at hany
    cases hany
  | some s =>
    have htail : s ∈ p.stages.tail := by
      rw [hi] at hs
      rw [← List.getElem?_tail] at hs
      exact List.mem_of_getElem? hs
    rw [hs, Option.any_some, h s htail] at hany
    cases hany

namespace Accounted

variable {σ : Type} {as : List Intake} {p : Pipeline σ}

theorem first_taken (h : Accounted as p) (hm : Metered p) :
    (p.journal.processed.filter (·.1 = 0)).map (·.2.1) = delivered as := by
  rw [h.taken]
  refine first_ways ?_
  intro a ha
  obtain ⟨chain, format, hc⟩ := hm.reached _ (h.known a ha)
  exact ⟨_, chain, format, hc⟩

/-- **Every delivered buffer is shown once**, and once more for each further meter that it passes. -/
theorem levels (h : Accounted as p) (hm : Metered p) :
    p.journal.levels.length = as.countP (·.isDelivered) + p.furtherLevels := by
  have hfirst : p.journal.processed.countP (·.1 = 0) = as.countP (·.isDelivered) := by
    rw [← length_delivered, ← h.first_taken hm, List.length_map, List.countP_eq_length_filter]
  have hsplit : ∀ xs : List Taken, xs.countP (fun x => p.stages[x.1]?.any Stage.isMeter) =
      xs.countP (·.1 = 0) +
        xs.countP fun x => 0 < x.1 && p.stages[x.1]?.any Stage.isMeter := by
    intro xs
    induction xs with
    | nil => rfl
    | cons x xs ih =>
      simp only [List.countP_cons, ih]
      by_cases hx : x.1 = 0
      · have hany : p.stages[x.1]?.any Stage.isMeter = true := by
          rw [hx, hm.first]
          rfl
        rw [hany]
        simp [hx]
        omega
      · simp [hx, Nat.pos_of_ne_zero hx]
        omega
  rw [h.faithful.levels, readings, List.length_map, ← List.countP_eq_length_filter, hsplit, hfirst]
  rfl

/-- **The monitor holds the loudest of the buffers that were delivered.** -/
theorem loudest (h : Accounted as p) (hm : Metered p) :
    Loudest ((delivered as).map measure) p.monitor.loudest := by
  have hunit : ∀ r ∈ readings Stage.isWatched p.stages p.journal.processed, r.peak.InUnit := by
    intro r hr
    obtain ⟨x, -, rfl⟩ := List.mem_map.1 hr
    exact measure_inUnit _
  rw [h.faithful.monitor]
  refine (LevelMonitor.loudest_of_readings hunit).congr ?_
  intro r
  constructor
  · intro hr
    obtain ⟨b, hb, rfl⟩ := List.mem_map.1 hr
    rw [← h.first_taken hm] at hb
    obtain ⟨x, hx, rfl⟩ := List.mem_map.1 hb
    obtain ⟨hx, hzero⟩ := List.mem_filter.1 hx
    refine List.mem_map.2 ⟨x, List.mem_filter.2 ⟨hx, ?_⟩, rfl⟩
    rw [of_decide_eq_true hzero, hm.first]
    rfl
  · intro hr
    obtain ⟨x, hx, rfl⟩ := List.mem_map.1 hr
    have hx := (List.mem_filter.1 hx).1
    rw [h.taken] at hx
    exact List.mem_map_of_mem (mem_ways hx)

end Accounted

end AirLoop
