import Mathlib.Algebra.Order.Field.Rat
import Mathlib.Tactic.FieldSimp
import Mathlib.Tactic.Positivity
import AirLoop.Proofs.Numeric.Binary32

/-!
# Values of single-precision numbers

A finite number is a rational (`Binary32.value`), read off its sign, exponent and fraction fields.
It is a whole number of units of `2 ^ -149`, which grows strictly with the place of the pattern
(`signedUnits_strictMono`), over subnormal numbers and both signs. So comparing finite numbers is
comparing their values (`le_iff_value_le`), and the two zeros have the same.
-/

namespace AirLoop

namespace Binary32

/-- Neither infinite nor what is not a number. -/
def IsFinite (x : Binary32) : Prop := x.magnitudeBits < infinityBits

/-- The magnitude with this pattern: a binary fraction of twenty-three digits, with a one before the
point unless the exponent field is empty, at a scale of at least `2 ^ -126`. -/
def magnitude (pattern : Nat) : ℚ :=
  let exponent : Nat := pattern / 2 ^ 23
  let fraction : ℚ := (pattern % 2 ^ 23 : Nat) / 2 ^ 23
  if exponent = 0 then fraction * 2 ^ (-126 : Int)
  else (1 + fraction) * 2 ^ ((exponent : Int) - 127)

/-- The rational that a finite number is. -/
def value (x : Binary32) : ℚ :=
  if x.isNegative then -magnitude x.magnitudeBits else magnitude x.magnitudeBits

/-! ## Whole numbers of units -/

theorem magnitude_eq (pattern : Nat) : magnitude pattern = patternUnits pattern / 2 ^ 149 := by
  unfold magnitude patternUnits
  generalize pattern % 2 ^ 23 = fraction
  dsimp only
  by_cases he : pattern / 2 ^ 23 = 0
  · rw [if_pos he, if_pos he, zpow_neg, zpow_ofNat]
    field_simp
  · obtain ⟨e, he'⟩ := Nat.exists_eq_succ_of_ne_zero he
    have hscale : (2 : ℚ) ^ (((e + 1 : Nat) : Int) - 127) = 2 ^ e / 2 ^ 126 := by
      rw [show ((e + 1 : Nat) : Int) - 127 = (e : Int) - (126 : Nat) by omega,
        zpow_sub₀ two_ne_zero, zpow_natCast, zpow_natCast]
    rw [if_neg he, if_neg he, he', Nat.succ_eq_add_one, hscale, Nat.add_sub_cancel]
    rw [Nat.cast_mul, Nat.cast_add, Nat.cast_pow, Nat.cast_pow, Nat.cast_ofNat]
    field_simp

/-- Units of the number in this place of the line. -/
def signedUnits (place : Int) : Int := place.sign * patternUnits place.natAbs

theorem signedUnits_natCast (n : Nat) : signedUnits n = patternUnits n := by
  cases n with
  | zero => rfl
  | succ n =>
    rw [signedUnits, Int.sign_natCast_of_ne_zero (by omega), Int.one_mul, Int.natAbs_natCast]

theorem signedUnits_neg (place : Int) : signedUnits (-place) = -signedUnits place := by
  rw [signedUnits, signedUnits, Int.sign_neg, Int.natAbs_neg, Int.neg_mul]

/-- **A later place on the line has more units.** -/
theorem signedUnits_strictMono {a b : Int} (h : a < b) : signedUnits a < signedUnits b := by
  obtain ⟨n, rfl | rfl⟩ := a.eq_nat_or_neg <;> obtain ⟨m, rfl | rfl⟩ := b.eq_nat_or_neg <;>
    simp only [signedUnits_neg, signedUnits_natCast]
  case inl.inl => exact Int.ofNat_lt.2 (patternUnits_strictMono (by omega))
  case inl.inr => omega
  case inr.inl =>
    -- of a number that is not above zero and one that is not below, at most one is zero
    rcases Nat.eq_zero_or_pos m with rfl | hm
    · have hn := patternUnits_strictMono (show 0 < n by omega)
      omega
    · have hm := patternUnits_strictMono hm
      omega
  case inr.inr => exact Int.neg_lt_neg (Int.ofNat_lt.2 (patternUnits_strictMono (by omega)))

theorem value_eq (x : Binary32) : x.value = signedUnits x.rank / 2 ^ 149 := by
  unfold value rank
  cases x.isNegative with
  | false =>
    rw [if_neg Bool.false_ne_true, if_neg Bool.false_ne_true, magnitude_eq, signedUnits_natCast,
      Int.cast_natCast]
  | true =>
    rw [if_pos rfl, if_pos rfl, magnitude_eq, signedUnits_neg, signedUnits_natCast, Int.cast_neg,
      Int.cast_natCast, neg_div]

/-- The least number above zero is one unit. -/
example : (⟨1⟩ : Binary32).value = 1 / 2 ^ 149 := by decide +kernel

/-! ## Comparison -/

theorem IsFinite.isNaN {x : Binary32} (h : x.IsFinite) : x.isNaN = false :=
  isNaN_eq_false_iff.2 (Nat.le_of_lt h)

/-- **Finite numbers compare as their values do.** -/
theorem le_iff_value_le {x y : Binary32} (hx : x.IsFinite) (hy : y.IsFinite) :
    x.le y = true ↔ x.value ≤ y.value := by
  have hunits : 0 < (2 : ℚ) ^ 149 := by positivity
  have hmono : StrictMono signedUnits := fun _ _ h => signedUnits_strictMono h
  rw [le_iff, value_eq, value_eq, div_le_div_iff_of_pos_right hunits, Int.cast_le,
    hmono.le_iff_le]
  simp [hx.isNaN, hy.isNaN]

end Binary32

end AirLoop
