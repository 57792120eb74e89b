import AirLoop.Numeric.Binary32
import AirLoop.Proofs.Numeric.Rounding

/-!
# Single precision keeps the order

A greater pattern stands for a greater magnitude (`patternUnits_strictMono`), and a greater number
of units is rounded to a greater pattern (`roundedPattern_mono`). So products with a whole number
and conversions to a counter are monotone over all numbers, infinities and subnormal ones included
(`timesNat_le`, `toCount_le`), and products are exact that fit into twenty-four digits
(`units_ofUnits`).
-/

namespace AirLoop

namespace Binary32

/-! ## Patterns and units -/

/-- Units of a finite magnitude with this pattern. -/
def patternUnits (pattern : Nat) : Nat :=
  if pattern / 2 ^ 23 = 0 then pattern % 2 ^ 23
  else (2 ^ 23 + pattern % 2 ^ 23) * 2 ^ (pattern / 2 ^ 23 - 1)

theorem units_eq (x : Binary32) : x.units = patternUnits x.magnitudeBits := rfl

theorem patternUnits_lt (pattern : Nat) : patternUnits pattern < 2 ^ (23 + pattern / 2 ^ 23) := by
  have hfraction : pattern % 2 ^ 23 < 2 ^ 23 := Nat.mod_lt _ (by decide)
  unfold patternUnits
  by_cases he : pattern / 2 ^ 23 = 0
  · rwa [if_pos he, he]
  · obtain ⟨e, he'⟩ := Nat.exists_eq_succ_of_ne_zero he
    rw [if_neg he, he', Nat.succ_eq_add_one, Nat.add_sub_cancel,
      show 23 + (e + 1) = 24 + e by omega, Nat.pow_add]
    exact Nat.mul_lt_mul_of_pos_right (by omega) (Nat.two_pow_pos e)

theorem le_patternUnits {pattern e : Nat} (h : pattern / 2 ^ 23 = e + 1) :
    2 ^ (23 + e) ≤ patternUnits pattern := by
  unfold patternUnits
  rw [if_neg (by omega), h, Nat.add_sub_cancel, Nat.pow_add]
  exact Nat.mul_le_mul_right _ (by omega)

/-- **A greater pattern is a greater magnitude.** -/
theorem patternUnits_strictMono {a b : Nat} (h : a < b) : patternUnits a < patternUnits b := by
  have hexponent : a / 2 ^ 23 ≤ b / 2 ^ 23 := Nat.div_le_div_right (Nat.le_of_lt h)
  rcases Nat.lt_or_eq_of_le hexponent with hlt | heq
  · obtain ⟨e, he⟩ := Nat.exists_eq_succ_of_ne_zero (show b / 2 ^ 23 ≠ 0 by omega)
    calc patternUnits a
        < 2 ^ (23 + a / 2 ^ 23) := patternUnits_lt a
      _ ≤ 2 ^ (23 + e) := Nat.pow_le_pow_right (by decide) (by omega)
      _ ≤ patternUnits b := le_patternUnits he
  · have hfraction : a % 2 ^ 23 < b % 2 ^ 23 := by omega
    unfold patternUnits
    rw [heq]
    by_cases he : b / 2 ^ 23 = 0
    · rwa [if_pos he, if_pos he]
    · rw [if_neg he, if_neg he]
      exact Nat.mul_lt_mul_of_pos_right (by omega) (Nat.two_pow_pos _)

theorem patternUnits_mono {a b : Nat} (h : a ≤ b) : patternUnits a ≤ patternUnits b := by
  rcases Nat.lt_or_eq_of_le h with hlt | rfl
  · exact Nat.le_of_lt (patternUnits_strictMono hlt)
  · exact Nat.le_refl _

/-- What `s` digits rounded away leave of a number, as units; `m` has twenty-four digits, unless it
was carried over, or there was nothing to round away. -/
theorem patternUnits_add {s m : Nat} (hm : m ≤ 2 ^ 24) (hs : s = 0 ∨ 2 ^ 23 ≤ m) :
    patternUnits (s * 2 ^ 23 + m) = m * 2 ^ s := by
  unfold patternUnits
  rcases Nat.lt_or_ge m (2 ^ 23) with hlow | hhigh
  · obtain rfl : s = 0 := by omega
    rw [Nat.zero_mul, Nat.zero_add, if_pos (Nat.div_eq_of_lt hlow), Nat.mod_eq_of_lt hlow,
      Nat.pow_zero, Nat.mul_one]
  · rcases Nat.lt_or_eq_of_le hm with hlt | rfl
    · rw [if_neg (by omega), show (s * 2 ^ 23 + m) / 2 ^ 23 - 1 = s by omega,
        show 2 ^ 23 + (s * 2 ^ 23 + m) % 2 ^ 23 = m by omega]
    · -- the carry has a digit more, and no fraction
      rw [if_neg (by omega), show (s * 2 ^ 23 + 2 ^ 24) / 2 ^ 23 - 1 = s + 1 by omega,
        show 2 ^ 23 + (s * 2 ^ 23 + 2 ^ 24) % 2 ^ 23 = 2 ^ 23 by omega, ← Nat.pow_add,
        ← Nat.pow_add, show 23 + (s + 1) = 24 + s by omega]

/-! ## Rounding to a number -/

/-- The pattern that some units are rounded to, if it is not beyond the finite numbers. -/
def roundedPattern (n : Nat) : Nat :=
  (bitLength n - 24) * 2 ^ 23 + shiftRightEven n (bitLength n - 24)

theorem roundedPattern_mono {n m : Nat} (h : n ≤ m) : roundedPattern n ≤ roundedPattern m := by
  have hlen : bitLength n - 24 ≤ bitLength m - 24 := by
    exact Nat.sub_le_sub_right (bitLength_mono h) 24
  unfold roundedPattern
  rcases Nat.lt_or_eq_of_le hlen with hlt | heq
  · -- a carry of the shorter number reaches no further than the leading digit of the longer one
    have hn : shiftRightEven n (bitLength n - 24) ≤ 2 ^ 24 := shiftRightEven_bitLength_le 24 n
    have hm : 2 ^ 23 ≤ shiftRightEven m (bitLength m - 24) :=
      le_shiftRightEven_bitLength (show 24 < bitLength m by omega) (by decide)
    omega
  · rw [heq]
    exact Nat.add_le_add_left (shiftRightEven_mono _ h) _

theorem patternUnits_roundedPattern (n : Nat) :
    patternUnits (roundedPattern n) = roundDigits 24 n := by
  refine patternUnits_add (shiftRightEven_bitLength_le 24 n) ?_
  rcases Nat.lt_or_ge 24 (bitLength n) with hlong | hshort
  · exact .inr (le_shiftRightEven_bitLength hlong (by decide))
  · exact .inl (by omega)

theorem bits_ofUnits (n : Nat) :
    (ofUnits n).bits.toNat = min (roundedPattern n) infinityBits := by
  have hlt : min (roundedPattern n) infinityBits < 2 ^ 32 :=
    Nat.lt_of_le_of_lt (Nat.min_le_right _ _) (by decide)
  exact UInt32.toNat_ofNat_of_lt' hlt

theorem bits_ofUnits_le (n : Nat) : (ofUnits n).bits.toNat ≤ infinityBits := by
  rw [bits_ofUnits]
  exact Nat.min_le_right _ _

theorem magnitudeBits_of_le {x : Binary32} (h : x.bits.toNat ≤ infinityBits) :
    x.magnitudeBits = x.bits.toNat :=
  Nat.mod_eq_of_lt (Nat.lt_of_le_of_lt h (by decide))

theorem magnitudeBits_ofUnits (n : Nat) :
    (ofUnits n).magnitudeBits = min (roundedPattern n) infinityBits := by
  rw [magnitudeBits_of_le (bits_ofUnits_le n), bits_ofUnits]

/-- **Units are rounded to twenty-four digits**, unless that is beyond the finite numbers. -/
theorem units_ofUnits {n : Nat} (h : roundedPattern n < infinityBits) :
    (ofUnits n).units = roundDigits 24 n := by
  rw [units_eq, magnitudeBits_ofUnits, Nat.min_eq_left (Nat.le_of_lt h),
    patternUnits_roundedPattern]

/-! ## Signs -/

theorem magnitudeBits_lt (x : Binary32) : x.magnitudeBits < 2 ^ 31 := Nat.mod_lt _ (by decide)

theorem bits_withSign (x : Binary32) :
    (withSign true x).bits.toNat = 2 ^ 31 + x.magnitudeBits := by
  have hlt := magnitudeBits_lt x
  exact UInt32.toNat_ofNat_of_lt' (show _ < 2 ^ 32 by omega)

theorem magnitudeBits_withSign (negative : Bool) (x : Binary32) :
    (withSign negative x).magnitudeBits = x.magnitudeBits := by
  cases negative with
  | false => rfl
  | true =>
    have hlt := magnitudeBits_lt x
    rw [magnitudeBits, bits_withSign]
    omega

theorem isNegative_withSign {x : Binary32} (h : x.isNegative = false) (negative : Bool) :
    (withSign negative x).isNegative = negative := by
  cases negative with
  | false => exact h
  | true =>
    rw [isNegative, bits_withSign, decide_eq_true_eq]
    omega

theorem isNegative_of_le {x : Binary32} (h : x.bits.toNat ≤ infinityBits) :
    x.isNegative = false := by
  rw [infinityBits] at h
  rw [isNegative, decide_eq_false_iff_not]
  omega

theorem isNegative_ofUnits (n : Nat) : (ofUnits n).isNegative = false :=
  isNegative_of_le (bits_ofUnits_le n)

/-! ## Products with a whole number -/

section
variable {x y : Binary32} {n : Nat}

theorem isNaN_eq_false_iff : x.isNaN = false ↔ x.magnitudeBits ≤ infinityBits := by
  rw [isNaN, decide_eq_false_iff_not, Nat.not_lt]

theorem not_isInfinite_of_le (hy : y.isNaN = false) (hinf : ¬ y.isInfinite = true)
    (h : x.magnitudeBits ≤ y.magnitudeBits) : ¬ x.isInfinite = true := by
  rw [isNaN_eq_false_iff] at hy
  rw [isInfinite, decide_eq_true_eq] at hinf ⊢
  omega

theorem rank_pos (h : 0 < x.rank) : x.isNegative = false ∧ x.rank = x.magnitudeBits := by
  unfold rank at h ⊢
  cases hs : x.isNegative with
  | false => exact ⟨rfl, rfl⟩
  | true =>
    rw [hs, if_pos rfl] at h
    omega

theorem le_iff : x.le y = true ↔ x.isNaN = false ∧ y.isNaN = false ∧ x.rank ≤ y.rank := by
  simp [le, and_assoc]

theorem isNegative_timesNat (hx : x.isNaN = false) (hn : roundDigits 24 n ≠ 0) :
    (x.timesNat n).isNegative = x.isNegative := by
  unfold timesNat
  dsimp only
  rw [if_neg (by rw [hx]; decide), if_neg hn]
  by_cases hinf : x.isInfinite = true
  · rw [if_pos hinf]
  · rw [if_neg hinf]
    exact isNegative_withSign (isNegative_ofUnits _) _

theorem magnitudeBits_timesNat (hx : x.isNaN = false) (hn : roundDigits 24 n ≠ 0) :
    (x.timesNat n).magnitudeBits =
      if x.isInfinite then infinityBits
      else min (roundedPattern (x.units * roundDigits 24 n)) infinityBits := by
  unfold timesNat
  dsimp only
  rw [if_neg (by rw [hx]; decide), if_neg hn]
  by_cases hinf : x.isInfinite = true
  · rw [if_pos hinf, if_pos hinf]
    exact of_decide_eq_true hinf
  · rw [if_neg hinf, if_neg hinf, magnitudeBits_withSign, magnitudeBits_ofUnits]

theorem isNaN_timesNat (hx : x.isNaN = false) (hn : roundDigits 24 n ≠ 0) :
    (x.timesNat n).isNaN = false := by
  rw [isNaN_eq_false_iff, magnitudeBits_timesNat hx hn]
  split
  · exact Nat.le_refl _
  · exact Nat.min_le_right _ _

theorem magnitudeBits_timesNat_mono (hx : x.isNaN = false) (hy : y.isNaN = false)
    (hn : roundDigits 24 n ≠ 0) (h : x.magnitudeBits ≤ y.magnitudeBits) :
    (x.timesNat n).magnitudeBits ≤ (y.timesNat n).magnitudeBits := by
  rw [magnitudeBits_timesNat hy hn]
  by_cases hinf : y.isInfinite = true
  · rw [if_pos hinf]
    exact isNaN_eq_false_iff.1 (isNaN_timesNat hx hn)
  · have hfinite : ¬ x.isInfinite = true := not_isInfinite_of_le hy hinf h
    rw [if_neg hinf, magnitudeBits_timesNat hx hn, if_neg hfinite]
    have hunits : x.units ≤ y.units := patternUnits_mono h
    have hpattern := roundedPattern_mono (Nat.mul_le_mul_right (roundDigits 24 n) hunits)
    omega

theorem magnitudeBits_timesNat_zero (h : x.magnitudeBits = 0) (hn : roundDigits 24 n ≠ 0) :
    (x.timesNat n).magnitudeBits = 0 := by
  have hx : x.isNaN = false := isNaN_eq_false_iff.2 (by omega)
  have hfinite : ¬ x.isInfinite = true := by
    rw [isInfinite, h]
    decide
  have hunits : x.units = 0 := by
    rw [units_eq, h]
    rfl
  rw [magnitudeBits_timesNat hx hn, if_neg hfinite, hunits, Nat.zero_mul]
  rfl

/-- **Products with a whole number keep the order**, over both signs and the infinities. -/
theorem timesNat_le (h : x.le y = true) (hn : roundDigits 24 n ≠ 0) :
    (x.timesNat n).le (y.timesNat n) = true := by
  obtain ⟨hx, hy, hrank⟩ := le_iff.1 h
  refine le_iff.2 ⟨isNaN_timesNat hx hn, isNaN_timesNat hy hn, ?_⟩
  unfold rank at hrank ⊢
  rw [isNegative_timesNat hx hn, isNegative_timesNat hy hn]
  cases hxs : x.isNegative <;> cases hys : y.isNegative <;>
    simp only [hxs, hys, ↓reduceIte, Bool.false_eq_true] at hrank ⊢
  case false.false =>
    exact Int.ofNat_le.2 (magnitudeBits_timesNat_mono hx hy hn (by omega))
  case true.true =>
    exact Int.neg_le_neg (Int.ofNat_le.2 (magnitudeBits_timesNat_mono hy hx hn (by omega)))
  case true.false => omega
  case false.true =>
    -- both are zeros
    rw [magnitudeBits_timesNat_zero (x := x) (by omega) hn,
      magnitudeBits_timesNat_zero (x := y) (by omega) hn]
    decide

/-! ## Conversion to a counter -/

theorem toCount_le_maxCount (x : Binary32) : x.toCount ≤ maxCount := by
  unfold toCount
  split
  · exact Nat.zero_le _
  · split
    · exact Nat.le_refl _
    · exact Nat.min_le_right _ _

theorem toCount_of_not_pos (h : x.isNaN = true ∨ x.rank ≤ 0) : x.toCount = 0 := by
  unfold toCount
  by_cases hlow : (x.isNaN || x.isNegative) = true
  · exact if_pos hlow
  · -- only the positive zero is left
    simp only [Bool.or_eq_true, not_or, Bool.not_eq_true] at hlow
    have hmag : x.magnitudeBits = 0 := by
      rw [rank, hlow.2, hlow.1] at h
      simpa using h
    rw [hlow.1, hlow.2, isInfinite, hmag, units_eq, hmag]
    decide

/-- **Conversions to a counter keep the order.** -/
theorem toCount_le (h : x.le y = true) : x.toCount ≤ y.toCount := by
  obtain ⟨hx, hy, hrank⟩ := le_iff.1 h
  by_cases hpos : x.rank ≤ 0
  · rw [toCount_of_not_pos (.inr hpos)]
    exact Nat.zero_le _
  have hxs : x.isNegative = false ∧ x.rank = x.magnitudeBits := rank_pos (by omega)
  have hys : y.isNegative = false ∧ y.rank = y.magnitudeBits := rank_pos (by omega)
  by_cases hinf : y.isInfinite = true
  · have hmax : y.toCount = maxCount := by simp [toCount, hy, hys.1, hinf]
    rw [hmax]
    exact toCount_le_maxCount x
  · have hmag : x.magnitudeBits ≤ y.magnitudeBits := by omega
    have hfinite : ¬ x.isInfinite = true := not_isInfinite_of_le hy hinf hmag
    have hunits : x.units ≤ y.units := patternUnits_mono hmag
    have hshift := shiftRightUp_mono 149 hunits
    simp only [toCount, hx, hy, hxs.1, hys.1, hinf, hfinite, Bool.or_self, ↓reduceIte,
      Bool.false_eq_true]
    omega

end

/-- A whole number that is rounded to zero makes nothing of every number. -/
theorem toCount_timesNat_of_factor {n : Nat} (hn : roundDigits 24 n = 0) (x : Binary32) :
    (x.timesNat n).toCount = 0 := by
  unfold timesNat
  dsimp only
  rw [hn, if_pos rfl, Nat.mul_zero]
  split
  · decide
  · split
    · decide
    · cases x.isNegative <;> decide

/-- **One times a whole number counts that number**, up to the first of twenty-five digits. -/
theorem toCount_one_timesNat {n : Nat} (h : n ≤ 2 ^ 24) : (one.timesNat n).toCount = n := by
  have hone : one.isNaN = false ∧ one.isInfinite = false ∧ one.isNegative = false ∧
      one.units = 2 ^ 149 := by decide
  have hfactor : roundDigits 24 n = n := by
    have hround := roundDigits_mul (p := 24) (by decide) h 0
    rwa [Nat.pow_zero, Nat.mul_one] at hround
  have hproduct : one.timesNat n = ofUnits (n * 2 ^ 149) := by
    simp only [timesNat, hone, hfactor, withSign, Bool.false_eq_true, ↓reduceIte,
      Nat.mul_comm n]
  have hpattern : roundedPattern (n * 2 ^ 149) < infinityBits :=
    Nat.lt_of_le_of_lt (roundedPattern_mono (Nat.mul_le_mul_right _ h)) (by decide)
  have hmag : (ofUnits (n * 2 ^ 149)).magnitudeBits < infinityBits := by
    rw [magnitudeBits_ofUnits]
    omega
  have hnan : (ofUnits (n * 2 ^ 149)).isNaN = false := isNaN_eq_false_iff.2 (Nat.le_of_lt hmag)
  have hfinite : (ofUnits (n * 2 ^ 149)).isInfinite = false :=
    decide_eq_false (Nat.ne_of_lt hmag)
  have hunits : (ofUnits (n * 2 ^ 149)).units = n * 2 ^ 149 := by
    rw [units_ofUnits hpattern, roundDigits_mul (by decide) h]
  simp only [toCount, hproduct, hnan, hfinite, isNegative_ofUnits, hunits, shiftRightUp_mul,
    Bool.or_self, Bool.false_eq_true, ↓reduceIte]
  exact Nat.min_eq_left (Nat.le_trans h (by decide))

end Binary32

end AirLoop
