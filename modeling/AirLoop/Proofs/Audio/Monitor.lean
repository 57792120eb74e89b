import Mathlib.Order.Monotone.Basic
import AirLoop.Proofs.Audio.Measure
import AirLoop.Proofs.Capture.Route
import AirLoop.Proofs.Numeric.Value

/-!
# One monitor for many meters

A monitor compares patterns, yet what it holds is the greatest of the values that it was given
(`LevelMonitor.value_loudest`): a reading has no sign and is a number, and among such patterns the
order is that of the values. So neither the order of the recordings matters nor which of the meters
that share the monitor made them (`monitor_holds_latest_and_loudest`).
-/

namespace AirLoop

/-! ## Values from zero to one -/

namespace Binary32

theorem value_zero : zero.value = 0 := by
  rw [value_eq, show signedUnits zero.rank = 0 by decide, Int.cast_zero, zero_div]

theorem value_one : one.value = 1 := by
  rw [value_eq, show signedUnits one.rank = 2 ^ 149 by decide, Int.cast_pow, Int.cast_ofNat]
  exact div_self (by positivity)

namespace InUnit

variable {x y : Binary32}

theorem isFinite (h : x.InUnit) : x.IsFinite := by
  rw [IsFinite, magnitudeBits_of_le h.bits_le]
  exact Nat.lt_of_le_of_lt h (by decide)

/-- **The greater pattern is the greater value.** -/
theorem value_le_iff (hx : x.InUnit) (hy : y.InUnit) :
    x.value ≤ y.value ↔ x.bits.toNat ≤ y.bits.toNat := by
  rw [← le_iff_value_le hx.isFinite hy.isFinite, le_iff_of_inUnit hx hy]

theorem value_nonneg (h : x.InUnit) : 0 ≤ x.value := by
  have hzero : zero.InUnit := Nat.zero_le _
  rw [← value_zero, hzero.value_le_iff h]
  exact Nat.zero_le _

theorem value_le_one (h : x.InUnit) : x.value ≤ 1 := by
  have hone : one.InUnit := Nat.le_refl _
  rwa [← value_one, h.value_le_iff hone]

end InUnit

end Binary32

/-! ## What a monitor holds -/

namespace LevelMonitor

variable {rs : List LevelReading} {m : LevelMonitor}

theorem higher_right_comm (a b c : LevelReading) :
    higher (higher a b) c = higher (higher a c) b := by
  refine LevelReading.eq_of_bits ?_
  simp only [bits_higher]
  omega

/-- Of two readings, the one with the greater pattern has the greater value. -/
theorem value_higher {a b : LevelReading} (ha : a.peak.InUnit) (hb : b.peak.InUnit) :
    (higher a b).peak.value = max a.peak.value b.peak.value := by
  rcases higher_cases a b with ⟨h, hle⟩ | ⟨h, hle⟩
  · rw [h, max_eq_left ((hb.value_le_iff ha).2 hle)]
  · rw [h, max_eq_right ((ha.value_le_iff hb).2 hle)]

theorem latest_foldl (rs : List LevelReading) (m : LevelMonitor) :
    (rs.foldl record m).latest = rs.getLast?.getD m.latest := by
  rcases rs.eq_nil_or_concat with rfl | ⟨rest, r, rfl⟩
  · rfl
  · rw [List.concat_eq_append, List.foldl_concat, latest_record, List.getLast?_concat,
      Option.getD_some]

theorem loudest_eq_foldl (rs : List LevelReading) (m : LevelMonitor) :
    (rs.foldl record m).loudest = rs.foldl higher m.loudest := by
  induction rs generalizing m with
  | nil => rfl
  | cons r rs ih => rw [List.foldl_cons, ih, loudest_record, List.foldl_cons]

/-- **The loudest reading does not depend on the order** in which the readings came. -/
theorem loudest_perm {rs' : List LevelReading} (h : rs'.Perm rs) (m : LevelMonitor) :
    (rs'.foldl record m).loudest = (rs.foldl record m).loudest := by
  rw [loudest_eq_foldl, loudest_eq_foldl]
  exact h.foldl_eq' (fun a _ b _ c => higher_right_comm c a b) m.loudest

/-- **The value of the loudest reading is the greatest of all.** -/
theorem value_loudest (hm : m.loudest.peak.InUnit) (h : ∀ r ∈ rs, r.peak.InUnit) :
    (rs.foldl record m).loudest.peak.value =
      (rs.map (·.peak.value)).foldl max m.loudest.peak.value := by
  induction rs generalizing m with
  | nil => rfl
  | cons r rs ih =>
    obtain ⟨hr, hrs⟩ := List.forall_mem_cons.1 h
    have hone : ∀ x ∈ [r], x.peak.InUnit := List.forall_mem_singleton.2 hr
    have hnext : (m.record r).loudest.peak.InUnit := inUnit_loudest hm hone
    rw [List.foldl_cons, ih hnext hrs, loudest_record, value_higher hm hr, List.map_cons,
      List.foldl_cons]

/-- More readings never make it less. -/
theorem value_le_loudest (hm : m.loudest.peak.InUnit) (h : ∀ r ∈ rs, r.peak.InUnit) :
    m.loudest.peak.value ≤ (rs.foldl record m).loudest.peak.value :=
  (hm.value_le_iff (inUnit_loudest hm h)).2 (loudest_foldl rs m).2.1

end LevelMonitor

/-! ## Meters that share a monitor -/

/-- How a reading comes to a monitor that `n` meters share. -/
inductive Recording (n : Nat) where
  /-- one of the meters takes a passage -/
  | metered (meter : Fin n) (passage : Passage)
  /-- a level is brought into range and recorded without a meter -/
  | direct (peak : Binary32)

/-- The reading that is recorded. -/
def Recording.reading {n : Nat} : Recording n → LevelReading
  | .metered _ passage => measure passage.buffer
  | .direct peak => .clamped peak

theorem Recording.inUnit {n : Nat} (e : Recording n) : e.reading.peak.InUnit := by
  cases e with
  | metered _ passage => exact measure_inUnit passage.buffer
  | direct peak => exact LevelReading.clamped_inUnit peak

/-- Some meters, and the one monitor that all of them watch. -/
structure MeterBank (n : Nat) where
  meters : Vector Station n
  monitor : LevelMonitor := {}
  metering : ∀ i : Fin n, meters[i].stage = .meter true

namespace MeterBank

variable {n : Nat}

/-- Meters that have not taken anything yet. -/
def new (n : Nat) : MeterBank n where
  meters := .replicate n { stage := .meter true }
  metering := by simp

/-- One more recording. -/
def record (b : MeterBank n) : Recording n → MeterBank n
  | .metered i passage =>
    let taken := b.meters[i].take b.monitor passage
    { meters := b.meters.set i taken.station
      monitor := taken.monitor
      metering := by
        intro j
        rw [Fin.getElem_fin, Vector.getElem_set]
        split
        · rw [Station.station_take]
          exact b.metering i
        · exact b.metering j }
  | .direct peak => { b with monitor := b.monitor.record (.clamped peak) }

/-- Some recordings, one after the other. -/
def recordAll (b : MeterBank n) (es : List (Recording n)) : MeterBank n := es.foldl record b

/-- Whoever records it, the monitor is given the reading. -/
theorem monitor_record (b : MeterBank n) (e : Recording n) :
    (b.record e).monitor = b.monitor.record e.reading := by
  cases e with
  | metered i passage =>
    have hwatched : b.meters[i].stage.isWatched = true := by
      rw [b.metering i]
      rfl
    exact (Station.monitor_take _ _ _).trans (if_pos hwatched)
  | direct peak => rfl

/-- **A shared monitor sees the readings alone**, and not the meters. -/
theorem monitor_recordAll (b : MeterBank n) (es : List (Recording n)) :
    (b.recordAll es).monitor = (es.map Recording.reading).foldl LevelMonitor.record b.monitor := by
  induction es generalizing b with
  | nil => rfl
  | cons e es ih =>
    rw [List.map_cons, List.foldl_cons, ← monitor_record]
    exact ih (b.record e)

theorem recordAll_append (b : MeterBank n) (es es' : List (Recording n)) :
    b.recordAll (es ++ es') = (b.recordAll es).recordAll es' := List.foldl_append

theorem inUnit_readings (es : List (Recording n)) :
    ∀ r ∈ es.map Recording.reading, r.peak.InUnit := by
  intro r hr
  obtain ⟨e, -, rfl⟩ := List.mem_map.1 hr
  exact e.inUnit

/-- **Further recordings never make the loudest reading less.** -/
theorem monotone_value_loudest {b : MeterBank n} (hb : b.monitor.loudest.peak.InUnit)
    (es : List (Recording n)) :
    Monotone fun k => (b.recordAll (es.take k)).monitor.loudest.peak.value := by
  intro j k hjk
  obtain ⟨d, rfl⟩ := Nat.exists_eq_add_of_le hjk
  have hj : (b.recordAll (es.take j)).monitor.loudest.peak.InUnit := by
    rw [monitor_recordAll]
    exact LevelMonitor.inUnit_loudest hb (inUnit_readings _)
  dsimp only
  rw [List.take_add, recordAll_append, monitor_recordAll _ ((es.drop j).take d)]
  exact LevelMonitor.value_le_loudest hj (inUnit_readings _)

end MeterBank

/-- **What a shared monitor holds after every recording**, whichever of the meters made it, from a
new monitor on. Only numbers from zero to one are recorded, and none has a sign. After each part of
the recordings the latest reading is that of the last, silence if there is none; the loudest is the
greatest of them, as a number and by its value; it never becomes less; and in any other order the
recordings lead to the same. -/
theorem monitor_holds_latest_and_loudest {n : Nat} (es : List (Recording n)) :
    let monitor := fun es => ((MeterBank.new n).recordAll es).monitor
    let readings := List.map Recording.reading
    (∀ e ∈ es, e.reading.peak.IsFinite ∧ e.reading.peak.isNegative = false ∧
      0 ≤ e.reading.peak.value ∧ e.reading.peak.value ≤ 1) ∧
    (∀ k, let part := es.take k
      (monitor part).latest = (readings part).getLast?.getD .silent ∧
        Loudest (readings part) (monitor part).loudest ∧
        (monitor part).loudest.peak.value = ((readings part).map (·.peak.value)).foldl max 0) ∧
    Monotone (fun k => (monitor (es.take k)).loudest.peak.value) ∧
    ∀ es', es'.Perm es → (monitor es').loudest = (monitor es).loudest := by
  intro monitor readings
  have hmonitor (part : List (Recording n)) :
      monitor part = (readings part).foldl LevelMonitor.record {} :=
    (MeterBank.new n).monitor_recordAll part
  have hsilent : ({} : LevelMonitor).loudest.peak.InUnit := Nat.zero_le _
  refine ⟨?_, ?_, MeterBank.monotone_value_loudest hsilent es, ?_⟩
  · intro e _
    have hunit := e.inUnit
    exact ⟨hunit.isFinite, hunit.isNegative, hunit.value_nonneg, hunit.value_le_one⟩
  · intro k part
    have hunit : ∀ r ∈ readings part, r.peak.InUnit := MeterBank.inUnit_readings part
    rw [hmonitor]
    refine ⟨LevelMonitor.latest_foldl _ _, LevelMonitor.loudest_of_readings hunit, ?_⟩
    rw [← Binary32.value_zero]
    exact LevelMonitor.value_loudest hsilent hunit
  · intro es' hperm
    rw [hmonitor, hmonitor]
    exact LevelMonitor.loudest_perm (hperm.map _) {}

/-- Two meters and some levels that were recorded without them: a half below zero, what is not a
number, the smallest number there is, and a negative zero. -/
def mixedRecordings : List (Recording 2) :=
  [.metered 1 ⟨.full [0, 0, 0, 0xbf], ⟨48000, 32, 2⟩⟩, .direct ⟨0x7fc00000⟩,
    .metered 0 ⟨.full [1, 0, 0, 0], ⟨48000, 32, 2⟩⟩, .direct ⟨0x80000000⟩]

theorem monitor_loudest_half_in_any_order :
    let monitor := fun es => ((MeterBank.new 2).recordAll es).monitor
    .direct ⟨0x80000000⟩ ∈ mixedRecordings ∧
      (Recording.reading (n := 2) (.direct ⟨0x80000000⟩)).peak.isNegative = false ∧
      (monitor (mixedRecordings.take 3)).latest = ⟨⟨1⟩⟩ ∧
      (monitor mixedRecordings).loudest.peak.value = 1 / 2 ∧
      mixedRecordings.reverse.Perm mixedRecordings ∧
      (monitor mixedRecordings.reverse).loudest = (monitor mixedRecordings).loudest := by
  obtain ⟨hrange, hparts, -, horder⟩ := monitor_holds_latest_and_loudest mixedRecordings
  have hmem : .direct ⟨0x80000000⟩ ∈ mixedRecordings := by simp [mixedRecordings]
  have hperm := mixedRecordings.reverse_perm
  exact ⟨hmem, (hrange _ hmem).2.1, (hparts 3).1.trans (by decide),
    (hparts 4).2.2.trans (by decide +kernel), hperm, horder _ hperm⟩

end AirLoop
