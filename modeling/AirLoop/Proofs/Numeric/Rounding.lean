import AirLoop.Numeric.Rounding

/-!
# Rounding keeps the order

Rounding away a fixed number of digits is monotone and leaves alone what has none there, so that a
bound which is itself a multiple of `2 ^ s` is a bound of what is rounded, too.
-/

namespace AirLoop

/-! ## Number of digits -/

theorem bitLength_le_iff {n p : Nat} : bitLength n ≤ p ↔ n < 2 ^ p := by
  unfold bitLength
  by_cases hn : n = 0
  · rw [if_pos hn, hn]
    exact ⟨fun _ => Nat.two_pow_pos p, fun _ => Nat.zero_le p⟩
  · rw [if_neg hn, ← Nat.log2_lt hn]
    omega

theorem bitLength_mono {n m : Nat} (h : n ≤ m) : bitLength n ≤ bitLength m :=
  bitLength_le_iff.2 (Nat.lt_of_le_of_lt h (bitLength_le_iff.1 (Nat.le_refl _)))

/-! ## Rounding half to even -/

theorem shiftRightEven_mono {n m : Nat} (s : Nat) (h : n ≤ m) :
    shiftRightEven n s ≤ shiftRightEven m s := by
  unfold shiftRightEven
  generalize 2 ^ s = k
  dsimp only
  have hq : n / k ≤ m / k := Nat.div_le_div_right h
  rcases Nat.lt_or_eq_of_le hq with hlt | heq
  · split <;> split <;> omega
  · -- with one quotient for both, the remainders are ordered as the numbers are
    have hn := Nat.div_add_mod n k
    have hm := Nat.div_add_mod m k
    rw [heq] at hn
    rw [heq]
    split <;> split <;> omega

/-- What has no digits to round away is only shifted. -/
theorem shiftRightEven_mul (m s : Nat) : shiftRightEven (m * 2 ^ s) s = m := by
  unfold shiftRightEven
  have hpos := Nat.two_pow_pos s
  rw [Nat.mul_div_cancel _ hpos, Nat.mul_mod_left]
  exact if_neg (by omega)

theorem shiftRightEven_le {n m s : Nat} (h : n ≤ m * 2 ^ s) : shiftRightEven n s ≤ m :=
  Nat.le_trans (shiftRightEven_mono s h) (Nat.le_of_eq (shiftRightEven_mul m s))

theorem le_shiftRightEven {n m s : Nat} (h : m * 2 ^ s ≤ n) : m ≤ shiftRightEven n s :=
  Nat.le_trans (Nat.le_of_eq (shiftRightEven_mul m s).symm) (shiftRightEven_mono s h)

/-! ## Rounding half up -/

theorem shiftRightUp_mono {n m : Nat} (s : Nat) (h : n ≤ m) :
    shiftRightUp n s ≤ shiftRightUp m s :=
  Nat.div_le_div_right (by omega)

theorem shiftRightUp_mul (m s : Nat) : shiftRightUp (m * 2 ^ s) s = m := by
  have hpos := Nat.two_pow_pos s
  have htop : 2 * (m * 2 ^ s) + 2 ^ s = 2 ^ s + 2 ^ (s + 1) * m := by
    rw [Nat.pow_succ, Nat.mul_assoc, Nat.mul_comm m, Nat.mul_left_comm, Nat.add_comm]
  rw [shiftRightUp, htop, Nat.add_mul_div_left _ _ (Nat.two_pow_pos _),
    Nat.div_eq_of_lt (by omega), Nat.zero_add]

/-! ## Rounding to some digits -/

/-- The digits that are kept of `n`, the leading one among them. -/
theorem le_shiftRightEven_bitLength {p n : Nat} (h : p < bitLength n) (hp : 0 < p) :
    2 ^ (p - 1) ≤ shiftRightEven n (bitLength n - p) := by
  apply le_shiftRightEven
  rw [← Nat.pow_add]
  have hlong : ¬ bitLength n ≤ p - 1 + (bitLength n - p) := by omega
  rw [bitLength_le_iff] at hlong
  exact Nat.le_of_not_lt hlong

theorem shiftRightEven_bitLength_le (p n : Nat) :
    shiftRightEven n (bitLength n - p) ≤ 2 ^ p := by
  apply shiftRightEven_le
  rw [← Nat.pow_add]
  exact Nat.le_of_lt (bitLength_le_iff.1 (by omega))

/-- A number of no more digits than are kept is left alone, whatever zeros follow, and so is the
first number of one digit more. -/
theorem roundDigits_mul {p m : Nat} (hp : 0 < p) (h : m ≤ 2 ^ p) (k : Nat) :
    roundDigits p (m * 2 ^ k) = m * 2 ^ k := by
  -- no more digits are rounded away than there are zeros
  suffices hexact : ∀ s m' k', m * 2 ^ k = m' * 2 ^ k' → s ≤ k' →
      shiftRightEven (m * 2 ^ k) s * 2 ^ s = m * 2 ^ k by
    rcases Nat.lt_or_eq_of_le h with hlt | heq
    · refine hexact _ m k rfl ?_
      have hlen : bitLength (m * 2 ^ k) ≤ p + k := by
        rw [bitLength_le_iff, Nat.pow_add]
        exact Nat.mul_lt_mul_of_pos_right hlt (Nat.two_pow_pos k)
      omega
    · have hpow : m * 2 ^ k = 2 ^ (p + k) := by rw [heq, Nat.pow_add]
      refine hexact _ 1 (p + k) (by rw [hpow, Nat.one_mul]) ?_
      have hlen : bitLength (m * 2 ^ k) ≤ p + k + 1 := by
        rw [bitLength_le_iff, hpow]
        exact Nat.pow_lt_pow_right (by decide) (by omega)
      omega
  intro s m' k' heq hs
  obtain ⟨j, rfl⟩ := Nat.exists_eq_add_of_le hs
  rw [heq, Nat.pow_add, Nat.mul_comm (2 ^ s), ← Nat.mul_assoc, shiftRightEven_mul]

end AirLoop
