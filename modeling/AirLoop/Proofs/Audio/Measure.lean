import Mathlib.Data.List.Perm.Basic
import AirLoop.Proofs.Audio.Peak

/-!
# Peaks by their patterns

Integers alone decide what a buffer measures: of its whole words without their signs, those that are
numbers, the greatest of them, and no more than one (`bits_measure`). So only the words that a
buffer holds matter, in whatever order and under whatever signs, and of two blocks one after another
the louder decides (`measure_peak_eq_peakPattern`).
-/

namespace AirLoop

/-! ## Words -/

/-- The word that begins four times `i` bytes into a block, least significant byte first. -/
def wordAt (bytes : List UInt8) (i : Nat) : Nat :=
  (bytes.getD (4 * i) 0).toNat + 2 ^ 8 * (bytes.getD (4 * i + 1) 0).toNat +
    2 ^ 16 * (bytes.getD (4 * i + 2) 0).toNat + 2 ^ 24 * (bytes.getD (4 * i + 3) 0).toNat

/-- The whole words of a block, in their order. -/
def words (bytes : List UInt8) : List Nat := (List.range (bytes.length / 4)).map (wordAt bytes)

theorem words_short {bytes : List UInt8} (h : bytes.length < 4) : words bytes = [] := by
  rw [words, Nat.div_eq_of_lt h, List.range_zero, List.map_nil]

theorem words_cons (b₀ b₁ b₂ b₃ : UInt8) (rest : List UInt8) :
    words (b₀ :: b₁ :: b₂ :: b₃ :: rest) =
      (b₀.toNat + 2 ^ 8 * b₁.toNat + 2 ^ 16 * b₂.toNat + 2 ^ 24 * b₃.toNat) :: words rest := by
  have hl : (b₀ :: b₁ :: b₂ :: b₃ :: rest).length / 4 = rest.length / 4 + 1 := by
    simp only [List.length_cons]
    omega
  have hw (i : Nat) : wordAt (b₀ :: b₁ :: b₂ :: b₃ :: rest) (i + 1) = wordAt rest i := by
    simp only [wordAt, Nat.mul_add, List.getD_cons_succ]
  rw [words, hl, List.range_succ_eq_map, List.map_cons, List.map_map, words]
  exact congrArg₂ List.cons rfl (List.map_congr_left fun i _ => hw i)

/-- A partial word at the end makes no difference. -/
theorem words_congr {a b : List UInt8} (hl : a.length / 4 = b.length / 4)
    (ht : a.take (4 * (a.length / 4)) = b.take (4 * (a.length / 4))) : words a = words b := by
  rw [words, words, ← hl]
  refine List.map_congr_left ?_
  intro i hi
  have hi := List.mem_range.1 hi
  have hbyte (j : Nat) (hj : j < 4 * (a.length / 4)) : a.getD j 0 = b.getD j 0 := by
    have hsame := congrArg (·[j]?) ht
    simp only [List.getElem?_take, if_pos hj] at hsame
    rw [List.getD_eq_getElem?_getD, hsame, List.getD_eq_getElem?_getD]
  simp only [wordAt]
  rw [hbyte _ (by omega), hbyte _ (by omega), hbyte _ (by omega), hbyte _ (by omega)]

theorem words_append {a : List UInt8} (h : a.length % 4 = 0) (b : List UInt8) :
    words (a ++ b) = words a ++ words b := by
  fun_induction samples a with
  | case1 b₀ b₁ b₂ b₃ rest ih =>
    have hr : rest.length % 4 = 0 := by
      simp only [List.length_cons] at h
      omega
    simp only [List.cons_append, words_cons, ih hr]
  | case2 a hne =>
    have ha : a = [] := by
      match a, hne with
      | [], _ => rfl
      | [_], _ | [_, _], _ | [_, _, _], _ => simp at h
      | b₀ :: b₁ :: b₂ :: b₃ :: rest, hne => exact absurd rfl (hne b₀ b₁ b₂ b₃ rest)
    rw [ha]
    rfl

/-- The samples of a block are its words. -/
theorem bits_samples (bytes : List UInt8) :
    (samples bytes).map (·.bits.toNat) = words bytes := by
  fun_induction samples bytes with
  | case1 b₀ b₁ b₂ b₃ rest ih =>
    have hlt : b₀.toNat + 2 ^ 8 * b₁.toNat + 2 ^ 16 * b₂.toNat + 2 ^ 24 * b₃.toNat < 2 ^ 32 := by
      have h₀ := b₀.toNat_lt
      have h₁ := b₁.toNat_lt
      have h₂ := b₂.toNat_lt
      have h₃ := b₃.toNat_lt
      omega
    rw [List.map_cons, ih, words_cons, Binary32.ofBytes, UInt32.toNat_ofNat_of_lt' hlt]
  | case2 bytes hne =>
    refine (words_short ?_).symm
    match bytes, hne with
    | [], _ | [_], _ | [_, _], _ | [_, _, _], _ => simp
    | b₀ :: b₁ :: b₂ :: b₃ :: rest, hne => exact absurd rfl (hne b₀ b₁ b₂ b₃ rest)

/-! ## The greatest word -/

/-- The magnitudes of some words: their signs are left out, and what is not a number. -/
def magnitudes (ws : List Nat) : List Nat := (ws.map (· % 2 ^ 31)).filter (· ≤ 0x7f800000)

/-- The pattern of the peak of some words: the greatest of their magnitudes, zero if there is none,
and at most the pattern of one. -/
def peakPattern (ws : List Nat) : Nat := min 0x3f800000 ((magnitudes ws).foldl max 0)

/-- Neither the order of the words matters nor their signs. -/
theorem peakPattern_perm {ws ws' : List Nat}
    (h : (ws.map (· % 2 ^ 31)).Perm (ws'.map (· % 2 ^ 31))) : peakPattern ws = peakPattern ws' := by
  have hm : (magnitudes ws).Perm (magnitudes ws') := h.filter _
  rw [peakPattern, peakPattern, hm.foldl_eq]

theorem peakPattern_append (ws ws' : List Nat) :
    peakPattern (ws ++ ws') = max (peakPattern ws) (peakPattern ws') := by
  have hm : magnitudes (ws ++ ws') = magnitudes ws ++ magnitudes ws' := by
    simp [magnitudes]
  have hmax : (magnitudes ws ++ magnitudes ws').foldl max 0 =
      max ((magnitudes ws).foldl max 0) ((magnitudes ws').foldl max 0) := by
    rw [List.foldl_append, ← @List.foldl_assoc Nat max, Nat.max_zero]
  rw [peakPattern, hm, hmax, peakPattern, peakPattern]
  omega

/-! ## Measuring -/

namespace Binary32

theorem bits_abs (x : Binary32) : x.abs.bits.toNat = x.bits.toNat % 2 ^ 31 := by
  have hlt : x.bits.toNat % 2 ^ 31 < 2 ^ 32 := by omega
  exact UInt32.toNat_ofNat_of_lt' hlt

/-- The louder of a peak and a sample is the one with the greater magnitude, if that is a number. -/
theorem bits_louder {peak : Binary32} (h : peak.bits.toNat ≤ infinityBits) (sample : Binary32) :
    (louder peak sample).bits.toNat =
      if sample.bits.toNat % 2 ^ 31 ≤ infinityBits then
        max peak.bits.toNat (sample.bits.toNat % 2 ^ 31)
      else peak.bits.toNat := by
  obtain ⟨hpn, hpr⟩ := rank_of_le h
  have habs := sample.bits_abs
  unfold louder
  by_cases hs : sample.bits.toNat % 2 ^ 31 ≤ infinityBits
  · obtain ⟨hsn, hsr⟩ := rank_of_le (x := sample.abs) (habs ▸ hs)
    have hlt : peak.lt sample.abs = true ↔ peak.bits.toNat < sample.bits.toNat % 2 ^ 31 := by
      rw [lt, hpn, hsn, hpr, hsr, habs]
      simp only [Bool.not_false, Bool.and_self, Bool.true_and, decide_eq_true_eq, Int.ofNat_lt]
    rw [if_pos hs]
    by_cases hless : peak.bits.toNat < sample.bits.toNat % 2 ^ 31
    · rw [if_pos (hlt.2 hless), habs]
      omega
    · rw [if_neg (hless ∘ hlt.1)]
      omega
  · have hnan : sample.abs.isNaN = true := by
      rw [isNaN, magnitudeBits, habs, decide_eq_true_eq]
      omega
    rw [if_neg hs, lt, hnan, Bool.not_true, Bool.and_false, Bool.false_and,
      if_neg Bool.false_ne_true]

/-- The loudest of a peak and some samples has the greatest of their magnitudes. -/
theorem bits_loudest (xs : List Binary32) {peak : Binary32} (h : peak.bits.toNat ≤ infinityBits) :
    (xs.foldl louder peak).bits.toNat ≤ infinityBits ∧
      (xs.foldl louder peak).bits.toNat =
        (magnitudes (xs.map (·.bits.toNat))).foldl max peak.bits.toNat := by
  induction xs generalizing peak with
  | nil => exact ⟨h, rfl⟩
  | cons x xs ih =>
    have hx := bits_louder h x
    have hle : (louder peak x).bits.toNat ≤ infinityBits := by
      rw [hx]
      split <;> omega
    obtain ⟨hi, he⟩ := ih hle
    refine ⟨hi, ?_⟩
    rw [List.foldl_cons, he, hx]
    by_cases hn : x.bits.toNat % 2 ^ 31 ≤ infinityBits
    · rw [if_pos hn]
      simp only [magnitudes, List.map_cons]
      rw [List.filter_cons_of_pos (by simpa [infinityBits] using hn), List.foldl_cons]
    · rw [if_neg hn]
      simp only [magnitudes, List.map_cons]
      rw [List.filter_cons_of_neg (by simpa [infinityBits] using hn)]

end Binary32

/-- A reading of a number without a sign is that number, but at most one. -/
theorem LevelReading.bits_clamped {x : Binary32} (h : x.bits.toNat ≤ Binary32.infinityBits) :
    (clamped x).peak.bits.toNat = min 0x3f800000 x.bits.toNat := by
  obtain ⟨hn, hr⟩ := Binary32.rank_of_le h
  have hz : Binary32.zero.isNaN = false ∧ Binary32.zero.rank = 0 := by decide
  have ho : Binary32.one.isNaN = false ∧ Binary32.one.rank = 0x3f800000 := by decide
  unfold clamped
  by_cases hlow : x.bits.toNat = 0
  · have hx : (x.isNaN || x.le .zero) = true := by
      simp only [hn, Binary32.le, hr, hz, hlow]
      decide
    rw [if_pos hx, hlow]
    rfl
  · have hx : ¬(x.isNaN || x.le .zero) = true := by
      simp only [hn, Binary32.le, hr, hz]
      simp [hlow]
    rw [if_neg hx, Binary32.lt, ho.1, hn, ho.2, hr]
    by_cases hhigh : 0x3f800000 < x.bits.toNat
    · have hi : (0x3f800000 : Int) < x.bits.toNat := by omega
      rw [if_pos (by simpa using hi), Binary32.one_toNat]
      omega
    · have hi : ¬(0x3f800000 : Int) < x.bits.toNat := by omega
      rw [if_neg (by simpa using hi)]
      exact (Nat.min_eq_right (Nat.le_of_not_lt hhigh)).symm

/-- **What a buffer measures**, by its pattern. -/
theorem bits_measure (b : AudioBuffer) :
    (measure b).peak.bits.toNat = peakPattern (words b.bytes) := by
  have hzero : Binary32.zero.bits.toNat ≤ Binary32.infinityBits := Nat.zero_le _
  obtain ⟨hle, hbits⟩ := Binary32.bits_loudest (samples b.bytes) hzero
  rw [measure, LevelReading.bits_clamped hle, hbits, bits_samples]
  rfl

theorem LevelReading.eq_of_bits {r r' : LevelReading}
    (h : r.peak.bits.toNat = r'.peak.bits.toNat) : r = r' := by
  obtain ⟨⟨bits⟩⟩ := r
  obtain ⟨⟨bits'⟩⟩ := r'
  exact congrArg (fun n => (⟨⟨n⟩⟩ : LevelReading)) (UInt32.toNat_inj.1 h)

/-- Two buffers with the same words, but for their order and their signs, measure the same. -/
theorem measure_congr {b b' : AudioBuffer}
    (h : ((words b.bytes).map (· % 2 ^ 31)).Perm ((words b'.bytes).map (· % 2 ^ 31))) :
    measure b = measure b' := by
  refine LevelReading.eq_of_bits ?_
  rw [bits_measure, bits_measure, peakPattern_perm h]

/-! ## Every buffer -/

theorem bytes_ofData_min (data : List UInt8) (valid : Nat) :
    (AudioBuffer.ofData data valid).bytes = data.take (min valid data.length) := by
  rw [AudioBuffer.bytes_ofData, List.take_eq_take_iff]
  omega

/-- **The peak of every buffer**, whatever its bytes are and however many are said to be valid. It
is given by its pattern, so it is a number from zero to one and has no sign. Bytes behind the last
whole word in the valid ones do not matter, nor does the order of the words, nor their signs. Behind
a first block of whole words, the louder of the two decides. -/
theorem measure_peak_eq_peakPattern (data : List UInt8) (valid : Nat) :
    (measure (.ofData data valid)).peak.bits.toNat =
        peakPattern (words (data.take (min valid data.length))) ∧
      let n := min valid data.length
      let reading := measure (.ofData data valid)
      (reading.peak.isNaN = false ∧ reading.peak.isNegative = false ∧
        Binary32.zero.le reading.peak = true ∧ reading.peak.le .one = true) ∧
      (∀ data' valid', min valid' data'.length / 4 = n / 4 →
        data'.take (4 * (n / 4)) = data.take (4 * (n / 4)) →
        measure (.ofData data' valid') = reading) ∧
      (∀ data' valid',
        ((words (data'.take (min valid' data'.length))).map (· % 2 ^ 31)).Perm
          ((words (data.take n)).map (· % 2 ^ 31)) →
        measure (.ofData data' valid') = reading) ∧
      ∀ first : List UInt8, first.length % 4 = 0 →
        let whole := measure (.ofData (first ++ data) (first.length + valid))
        (whole = measure (.full first) ∨ whole = reading) ∧
          (measure (.full first)).peak.le whole.peak = true ∧
          reading.peak.le whole.peak = true := by
  refine ⟨by rw [bits_measure, bytes_ofData_min], ?_⟩
  intro n reading
  have hunit : reading.peak.InUnit := measure_inUnit _
  refine ⟨⟨hunit.rank.1, ?_, ?_, ?_⟩, ?_, ?_, ?_⟩
  · have hle := hunit
    rw [Binary32.InUnit, Binary32.one_toNat] at hle
    rw [Binary32.isNegative, decide_eq_false_iff_not]
    omega
  · exact (Binary32.le_iff_of_inUnit (Nat.zero_le _) hunit).2 (Nat.zero_le _)
  · exact (Binary32.le_iff_of_inUnit hunit (Nat.le_refl _)).2 hunit
  · intro data' valid' hn ht
    refine measure_congr ?_
    rw [bytes_ofData_min, bytes_ofData_min]
    have hl : (data'.take (min valid' data'.length)).length = min valid' data'.length := by
      rw [List.length_take]
      omega
    have hl' : (data.take n).length = n := by
      rw [List.length_take]
      omega
    have hw : words (data'.take (min valid' data'.length)) = words (data.take n) := by
      refine words_congr (by rw [hl, hl', hn]) ?_
      rw [hl, hn, List.take_take, List.take_take, Nat.min_eq_left (by omega),
        Nat.min_eq_left (by omega), ht]
    rw [hw]
  · intro data' valid' hp
    refine measure_congr ?_
    rwa [bytes_ofData_min, bytes_ofData_min]
  · intro first hf whole
    have hbytes : (AudioBuffer.ofData (first ++ data) (first.length + valid)).bytes =
        (AudioBuffer.full first).bytes ++ (AudioBuffer.ofData data valid).bytes := by
      rw [AudioBuffer.full_eq_ofData, AudioBuffer.bytes_ofData, AudioBuffer.bytes_ofData,
        AudioBuffer.bytes_ofData, List.take_length, List.take_length_add_append]
    have hfirst : (AudioBuffer.full first).bytes.length % 4 = 0 := by
      rw [AudioBuffer.length_bytes]
      exact hf
    have hmax : whole.peak.bits.toNat =
        max (measure (.full first)).peak.bits.toNat reading.peak.bits.toNat := by
      rw [bits_measure, bits_measure, bits_measure, hbytes, words_append hfirst, peakPattern_append]
    have hwhole : whole.peak.InUnit := measure_inUnit _
    refine ⟨?_, (Binary32.le_iff_of_inUnit (measure_inUnit _) hwhole).2 ?_,
      (Binary32.le_iff_of_inUnit hunit hwhole).2 ?_⟩
    · rcases Nat.le_total (measure (.full first)).peak.bits.toNat reading.peak.bits.toNat with h | h
      · exact .inr (LevelReading.eq_of_bits (hmax.trans (Nat.max_eq_right h)))
      · exact .inl (LevelReading.eq_of_bits (hmax.trans (Nat.max_eq_left h)))
    · omega
    · omega

/-- A half below zero, what is not a number, and a byte of a word that is not there; more bytes are
said to be valid than there are. -/
def ragged : List UInt8 := [0, 0, 0, 0xbf, 0, 0, 0xc0, 0x7f, 1]

theorem measure_peak_ignores_nan_and_torn_word :
    (measure (.ofData ragged 20)).peak.bits.toNat = 0x3f000000 ∧
      measure (.ofData [0, 0, 0, 0xbf, 0, 0, 0xc0, 0x7f, 2, 3] 10) = measure (.ofData ragged 20) ∧
      measure (.ofData [0, 0, 0xc0, 0xff, 0, 0, 0, 0x3f] 8) = measure (.ofData ragged 20) ∧
      (measure (.ofData ragged 20)).peak.le
        (measure (.ofData ([0, 0, 0x80, 0x3e] ++ ragged) (4 + 20))).peak = true := by
  obtain ⟨hbits, -, htail, horder, hwhole⟩ := measure_peak_eq_peakPattern ragged 20
  exact ⟨hbits.trans (by decide), htail _ 10 (by decide) (by decide), horder _ 8 (by decide),
    (hwhole [0, 0, 0x80, 0x3e] (by decide)).2.2⟩

end AirLoop
