import AirLoop.Audio.Meter
import AirLoop.Proofs.Numeric.Binary32

/-!
# The loudest reading

A reading is at least zero, with a positive sign, and at most one. Among such numbers the order of
the patterns is the order of the numbers (`Binary32.le_iff_of_inUnit`), so that the monitor, which
compares patterns, holds the greatest of the readings that it was given (`Loudest`).
-/

namespace AirLoop

namespace Binary32

/-- A number from zero to one, with a positive sign. -/
def InUnit (x : Binary32) : Prop := x.bits.toNat ≤ one.bits.toNat

theorem one_toNat : one.bits.toNat = 0x3f800000 := by decide

/-- A number without a sign: its place is its pattern. -/
theorem rank_of_le {x : Binary32} (h : x.bits.toNat ≤ infinityBits) :
    x.isNaN = false ∧ x.rank = x.bits.toNat := by
  have hmag := magnitudeBits_of_le h
  refine ⟨isNaN_eq_false_iff.2 (hmag ▸ h), ?_⟩
  rw [Binary32.rank, isNegative_of_le h, hmag]
  rfl

/-- Above zero, the place of a number is its pattern. -/
theorem rank_of_pos {x : Binary32} (h : 0 < x.rank) : x.rank = x.bits.toNat := by
  obtain ⟨hsign, hrank⟩ := rank_pos h
  have hlt : x.bits.toNat < 2 ^ 31 := by simpa [isNegative] using hsign
  rw [hrank, magnitudeBits, Nat.mod_eq_of_lt hlt]

namespace InUnit

theorem bits_le {x : Binary32} (h : x.InUnit) : x.bits.toNat ≤ infinityBits := by
  rw [InUnit, one_toNat] at h
  exact Nat.le_trans h (by decide)

theorem rank {x : Binary32} (h : x.InUnit) : x.isNaN = false ∧ x.rank = x.bits.toNat :=
  rank_of_le h.bits_le

theorem isNegative {x : Binary32} (h : x.InUnit) : x.isNegative = false :=
  isNegative_of_le h.bits_le

end InUnit

/-- Between zero and one, numbers are ordered as their patterns are. -/
theorem le_iff_of_inUnit {x y : Binary32} (hx : x.InUnit) (hy : y.InUnit) :
    x.le y = true ↔ x.bits.toNat ≤ y.bits.toNat := by
  obtain ⟨hnx, hrx⟩ := hx.rank
  obtain ⟨hny, hry⟩ := hy.rank
  rw [le, hnx, hny, hrx, hry]
  simp

end Binary32

/-! ## Readings -/

theorem LevelReading.clamped_inUnit (x : Binary32) : (clamped x).peak.InUnit := by
  unfold clamped
  by_cases hlow : (x.isNaN || x.le .zero) = true
  · rw [if_pos hlow]
    exact Nat.zero_le _
  rw [if_neg hlow]
  by_cases hhigh : Binary32.one.lt x = true
  · rw [if_pos hhigh]
    exact Nat.le_refl _
  rw [if_neg hhigh]
  -- neither at most zero nor above one, which its pattern tells
  have hnan : x.isNaN = false := by
    cases hn : x.isNaN with
    | false => rfl
    | true => simp [hn] at hlow
  have hzero : (0 : Int) < x.rank := by
    have hz : Binary32.zero.isNaN = false ∧ Binary32.zero.rank = 0 := by decide
    simp only [hnan, Bool.false_or, Binary32.le, Bool.not_false, Bool.true_and, hz.1, hz.2,
      decide_eq_true_eq] at hlow
    omega
  have hone : x.rank ≤ 0x3f800000 := by
    have ho : Binary32.one.isNaN = false ∧ Binary32.one.rank = 0x3f800000 := by decide
    simp only [Binary32.lt, hnan, ho.1, ho.2, Bool.not_false, Bool.true_and,
      decide_eq_true_eq] at hhigh
    omega
  rw [Binary32.rank_of_pos hzero] at hone
  change x.bits.toNat ≤ _
  rw [Binary32.one_toNat]
  omega

theorem measure_inUnit (b : AudioBuffer) : (measure b).peak.InUnit :=
  LevelReading.clamped_inUnit _

/-! ## The monitor -/

/-- The greatest of some readings; silence if there are none. -/
structure Loudest (rs : List LevelReading) (x : LevelReading) : Prop where
  silent : rs = [] → x = .silent
  mem : rs ≠ [] → x ∈ rs
  le : ∀ r ∈ rs, r.peak.le x.peak = true

namespace LevelMonitor

theorem higher_cases (a b : LevelReading) :
    (higher a b = a ∧ b.peak.bits.toNat ≤ a.peak.bits.toNat) ∨
      (higher a b = b ∧ a.peak.bits.toNat ≤ b.peak.bits.toNat) := by
  unfold higher
  by_cases h : a.peak.bits < b.peak.bits
  · rw [if_pos h]
    exact .inr ⟨rfl, Nat.le_of_lt h⟩
  · rw [if_neg h]
    exact .inl ⟨rfl, Nat.le_of_not_lt h⟩

theorem bits_higher (a b : LevelReading) :
    (higher a b).peak.bits.toNat = max a.peak.bits.toNat b.peak.bits.toNat := by
  rcases higher_cases a b with ⟨h, hle⟩ | ⟨h, hle⟩ <;> rw [h] <;> omega

/-- What the monitor holds is among what it was given, and has the greatest pattern. -/
theorem loudest_foldl (rs : List LevelReading) (m : LevelMonitor) :
    let x := (rs.foldl record m).loudest
    (x = m.loudest ∨ x ∈ rs) ∧ m.loudest.peak.bits.toNat ≤ x.peak.bits.toNat ∧
      ∀ r ∈ rs, r.peak.bits.toNat ≤ x.peak.bits.toNat := by
  induction rs generalizing m with
  | nil => exact ⟨.inl rfl, Nat.le_refl _, nofun⟩
  | cons r rs ih =>
    obtain ⟨hmem, hle, hall⟩ := ih (m.record r)
    rw [loudest_record] at hmem hle
    rw [bits_higher] at hle
    rw [List.foldl_cons]
    refine ⟨?_, by omega, ?_⟩
    · rcases hmem with hmem | hmem
      · rcases higher_cases m.loudest r with ⟨hh, -⟩ | ⟨hh, -⟩
        · exact .inl (hmem.trans hh)
        · exact .inr (by rw [hmem, hh]; exact List.mem_cons_self)
      · exact .inr (List.mem_cons_of_mem _ hmem)
    · intro r' hr'
      rcases List.mem_cons.1 hr' with rfl | hr'
      · omega
      · exact hall r' hr'

/-- A monitor that is given numbers from zero to one never holds anything else. -/
theorem inUnit_loudest {rs : List LevelReading} {m : LevelMonitor} (hm : m.loudest.peak.InUnit)
    (h : ∀ r ∈ rs, r.peak.InUnit) : (rs.foldl record m).loudest.peak.InUnit := by
  rcases (loudest_foldl rs m).1 with hmem | hmem
  · rwa [hmem]
  · exact h _ hmem

/-- **A monitor holds the loudest of the readings that it was given.** -/
theorem loudest_of_readings {rs : List LevelReading} (h : ∀ r ∈ rs, r.peak.InUnit) :
    Loudest rs (rs.foldl record {}).loudest := by
  obtain ⟨hmem, -, hall⟩ := loudest_foldl rs {}
  have hunit : (rs.foldl record {}).loudest.peak.InUnit := inUnit_loudest (Nat.zero_le _) h
  refine ⟨?_, ?_, ?_⟩
  · rintro rfl
    rfl
  · intro hne
    rcases hmem with hmem | hmem
    · -- nothing was louder than silence, so that every reading is silent
      obtain ⟨r, hr⟩ := List.exists_mem_of_ne_nil rs hne
      have hle := hall r hr
      rw [hmem] at hle
      have hzero : r = .silent := by
        obtain ⟨⟨bits⟩⟩ := r
        have hbits : bits = 0 := UInt32.toNat_inj.1 (Nat.le_zero.1 hle)
        rw [hbits]
        rfl
      rw [hmem]
      exact hzero ▸ hr
    · exact hmem
  · intro r hr
    exact (Binary32.le_iff_of_inUnit (h r hr) hunit).2 (hall r hr)

end LevelMonitor

end AirLoop
