import AirLoop.Numeric.Shortest

/-!
# Digits of a number

The digits of a number are those of its quotient by the radix and one more (`toDigits_induct`). So
they are read back by any reader that knows the value of each digit, and only zero starts with a
zero.
-/

namespace AirLoop

/-- Induction over the digits of a number, from the leading one on. -/
theorem toDigits_induct {b : Nat} (hb : 1 < b) {motive : Nat → List Char → Prop}
    (leading : ∀ d, d < b → motive d [d.digitChar])
    (next : ∀ n d, 0 < n → d < b → motive n (b.toDigits n) →
      motive (b * n + d) (b.toDigits n ++ [d.digitChar])) (n : Nat) :
    motive n (b.toDigits n) := by
  induction n using Nat.strongRecOn with
  | ind n ih =>
    rw [Nat.toDigits_eq_if hb]
    by_cases h : n < b
    · rw [if_pos h]
      exact leading n h
    · rw [if_neg h]
      have hquotient : 0 < n / b := Nat.div_pos (Nat.le_of_not_lt h) (by omega)
      have hstep := next (n / b) (n % b) hquotient (Nat.mod_lt _ (by omega))
        (ih (n / b) (Nat.div_lt_self (by omega) hb))
      rwa [Nat.div_add_mod] at hstep

theorem mem_toDigits {b n : Nat} {c : Char} (hb : 1 < b) (h : c ∈ b.toDigits n) :
    ∃ d, d < b ∧ c = d.digitChar := by
  induction n using toDigits_induct hb with
  | leading d hd => exact ⟨d, hd, List.mem_singleton.1 h⟩
  | next n d _ hd ih =>
    rcases List.mem_append.1 h with hmem | hmem
    · exact ih hmem
    · exact ⟨d, hd, List.mem_singleton.1 hmem⟩

/-- **Reading digit by digit gives the number back.** -/
theorem foldl_toDigits {b : Nat} (hb : 1 < b) {value : Char → Nat}
    (h : ∀ d, d < b → value d.digitChar = d) (n : Nat) :
    (b.toDigits n).foldl (fun m c => m * b + value c) 0 = n := by
  induction n using toDigits_induct hb with
  | leading d hd => simp [h d hd]
  | next n d _ hd ih =>
    rw [List.foldl_append, ih, List.foldl_cons, List.foldl_nil, h d hd, Nat.mul_comm]

/-- Only zero starts with a zero. -/
theorem head?_toDigits {b n : Nat} (hb : 1 < b) (hn : 0 < n) :
    (b.toDigits n).head? ≠ some '0' := by
  induction n using toDigits_induct hb with
  | leading d _ =>
    intro hhead
    have hzero : d = 0 := Nat.digitChar_eq_zero.1 (Option.some.inj hhead)
    omega
  | next n d hpos _ ih =>
    have hhead := ih hpos
    rw [List.head?_eq_some_head Nat.toDigits_ne_nil] at hhead
    rwa [List.head?_append, List.head?_eq_some_head Nat.toDigits_ne_nil, Option.some_or]

/-! ## Where digits end -/

/-- What comes first, if anything does, is none of the characters that are asked for. -/
def Stops (p : Char → Bool) (cs : List Char) : Prop := ∀ c ∈ cs.head?, p c = false

theorem stops_nil (p : Char → Bool) : Stops p [] := nofun

theorem stops_cons {p : Char → Bool} {c : Char} (h : p c = false) (cs : List Char) :
    Stops p (c :: cs) := by
  rintro d ⟨⟩
  exact h

section
variable {p : Char → Bool} {ds rest : List Char}

theorem takeWhile_of_stops (hds : ∀ c ∈ ds, p c = true) (h : Stops p rest) :
    (ds ++ rest).takeWhile p = ds := by
  rw [List.takeWhile_append_of_pos hds]
  cases rest with
  | nil => exact List.append_nil ds
  | cons c cs => rw [List.takeWhile_cons_of_neg (by simp [h c rfl]), List.append_nil]

theorem dropWhile_of_stops (hds : ∀ c ∈ ds, p c = true) (h : Stops p rest) :
    (ds ++ rest).dropWhile p = rest := by
  rw [List.dropWhile_append_of_pos hds]
  cases rest with
  | nil => rfl
  | cons c cs => rw [List.dropWhile_cons_of_neg (by simp [h c rfl])]

end

/-! ## Decimal digits -/

theorem isDigit_of_mem_decimalDigits {n : Nat} {c : Char} (h : c ∈ decimalDigits n) :
    c.isDigit = true :=
  Nat.isDigit_of_mem_toDigits (by decide) (by decide) h

/-- A first digit there always is. -/
theorem decimalDigits_cons (n : Nat) :
    ∃ c ds, decimalDigits n = c :: ds ∧ c.isDigit = true ∧ (0 < n → c ≠ '0') := by
  cases hds : decimalDigits n with
  | nil => exact absurd hds Nat.toDigits_ne_nil
  | cons c ds =>
    refine ⟨c, ds, rfl, isDigit_of_mem_decimalDigits (hds ▸ List.mem_cons_self), ?_⟩
    rintro hn rfl
    exact head?_toDigits (by decide) hn (congrArg List.head? hds)

end AirLoop
