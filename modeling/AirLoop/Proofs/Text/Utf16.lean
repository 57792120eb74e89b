import AirLoop.Text.Utf16
import Mathlib.Data.List.Basic

/-!
# Units that stand for characters, and units that do not

Every sequence of units falls into characters and surrogates without a partner (`exists_fragments`),
and decoding gives the characters as they are and one replacement for each of the others
(`decode_fragments`). So what was encoded is decoded again (`decode_encode`).
-/

namespace AirLoop.Utf16

/-- A surrogate of either kind. -/
def isSurrogate (u : UInt16) : Bool := isLeading u || isTrailing u

/-- A part of a sequence of units. -/
inductive Fragment where
  | character (c : Char)
  /-- a surrogate without its partner -/
  | alone (u : UInt16)
  deriving DecidableEq

namespace Fragment

/-- The units of a fragment. -/
def units : Fragment → List UInt16
  | character c => encodeChar c
  | alone u => [u]

/-- The one character that a fragment is decoded to. -/
def shown : Fragment → Char
  | character c => c
  | alone _ => replacement

/-- Only surrogates stand for no character by themselves. -/
def Proper : Fragment → Prop
  | character _ => True
  | alone u => isSurrogate u = true

/-- A surrogate without a partner does not have one right behind it. -/
def Parts : Fragment → Fragment → Prop
  | alone u, alone v => ¬ (isLeading u = true ∧ isTrailing v = true)
  | _, _ => True

end Fragment

/-- Fragments into which the sequence of their units falls. -/
structure Falls (ps : List Fragment) : Prop where
  proper : ∀ p ∈ ps, p.Proper
  parts : ps.IsChain Fragment.Parts

/-! ## Surrogates -/

theorem isLeading_iff {u : UInt16} : isLeading u = true ↔ 0xd800 ≤ u.toNat ∧ u.toNat < 0xdc00 := by
  simp [isLeading]

theorem isTrailing_iff {u : UInt16} : isTrailing u = true ↔ 0xdc00 ≤ u.toNat ∧ u.toNat < 0xe000 := by
  simp [isTrailing]

theorem isSurrogate_iff {u : UInt16} : isSurrogate u = true ↔ 0xd800 ≤ u.toNat ∧ u.toNat < 0xe000 := by
  simp only [isSurrogate, Bool.or_eq_true, isLeading_iff, isTrailing_iff]
  omega

theorem not_isTrailing_of_isLeading {u : UInt16} (h : isLeading u = true) : isTrailing u = false := by
  rw [isLeading_iff] at h
  rw [← Bool.not_eq_true, isTrailing_iff]
  omega

/-- Characters are no surrogates, and there are seventeen planes of them. -/
theorem toNat_char (c : Char) : c.toNat < 0xd800 ∨ 0xdfff < c.toNat ∧ c.toNat < 0x110000 :=
  c.valid

theorem toNat_ofNat {n : Nat} (h : n.isValidChar) : (Char.ofNat n).toNat = n := by
  unfold Char.ofNat
  rw [dif_pos h]
  rfl

theorem toNat_ofNat_of_not_isSurrogate {u : UInt16} (h : isSurrogate u = false) :
    (Char.ofNat u.toNat).toNat = u.toNat := by
  rw [← Bool.not_eq_true, isSurrogate_iff] at h
  have hu := u.toNat_lt
  exact toNat_ofNat (by unfold Nat.isValidChar; omega)

/-! ## Units of one character -/

/-- A character of the first plane is its own unit. -/
theorem encodeChar_of_lt {c : Char} (h : c.toNat < 0x10000) :
    ∃ u, encodeChar c = [u] ∧ isSurrogate u = false ∧ Char.ofNat u.toNat = c := by
  have hu : (UInt16.ofNat c.toNat).toNat = c.toNat := by
    rw [UInt16.toNat_ofNat', Nat.mod_eq_of_lt h]
  refine ⟨UInt16.ofNat c.toNat, if_pos h, ?_, by rw [hu, Char.ofNat_toNat]⟩
  have hc := toNat_char c
  rw [← Bool.not_eq_true, isSurrogate_iff, hu]
  omega

/-- A character of another plane is a pair of surrogates. -/
theorem encodeChar_of_ge {c : Char} (h : 0x10000 ≤ c.toNat) :
    ∃ hi lo, encodeChar c = [hi, lo] ∧ isLeading hi = true ∧ isTrailing lo = true ∧
      pair hi lo = c := by
  have hc := toNat_char c
  have hhi : (UInt16.ofNat (0xd800 + (c.toNat - 0x10000) / 0x400)).toNat =
      0xd800 + (c.toNat - 0x10000) / 0x400 := by
    rw [UInt16.toNat_ofNat', Nat.mod_eq_of_lt (by omega)]
  have hlo : (UInt16.ofNat (0xdc00 + (c.toNat - 0x10000) % 0x400)).toNat =
      0xdc00 + (c.toNat - 0x10000) % 0x400 := by
    rw [UInt16.toNat_ofNat', Nat.mod_eq_of_lt (by omega)]
  refine ⟨_, _, if_neg (by omega), ?_, ?_, ?_⟩
  · rw [isLeading_iff, hhi]
    omega
  · rw [isTrailing_iff, hlo]
    omega
  · rw [pair, hhi, hlo]
    have hn : 0x10000 + (0xd800 + (c.toNat - 0x10000) / 0x400 - 0xd800) * 0x400 +
        (0xdc00 + (c.toNat - 0x10000) % 0x400 - 0xdc00) = c.toNat := by omega
    rw [hn, Char.ofNat_toNat]

theorem encodeChar_ofNat {u : UInt16} (h : isSurrogate u = false) :
    encodeChar (Char.ofNat u.toNat) = [u] := by
  have hu := u.toNat_lt
  rw [encodeChar, toNat_ofNat_of_not_isSurrogate h, if_pos (by omega), UInt16.ofNat_toNat]

theorem encodeChar_pair {hi lo : UInt16} (hhi : isLeading hi = true) (hlo : isTrailing lo = true) :
    encodeChar (pair hi lo) = [hi, lo] := by
  rw [isLeading_iff] at hhi
  rw [isTrailing_iff] at hlo
  have hn : (pair hi lo).toNat = 0x10000 + (hi.toNat - 0xd800) * 0x400 + (lo.toNat - 0xdc00) :=
    toNat_ofNat (by unfold Nat.isValidChar; omega)
  rw [encodeChar, hn, if_neg (by omega)]
  have hh : 0xd800 + (0x10000 + (hi.toNat - 0xd800) * 0x400 + (lo.toNat - 0xdc00) - 0x10000) / 0x400 =
      hi.toNat := by omega
  have hl : 0xdc00 + (0x10000 + (hi.toNat - 0xd800) * 0x400 + (lo.toNat - 0xdc00) - 0x10000) % 0x400 =
      lo.toNat := by omega
  simp only [hh, hl, UInt16.ofNat_toNat]

/-- No character begins with the second unit of a pair. -/
theorem not_isTrailing_of_encodeChar {c : Char} {u : UInt16} {us : List UInt16}
    (h : encodeChar c = u :: us) : isTrailing u = false := by
  by_cases hc : c.toNat < 0x10000
  · obtain ⟨v, hv, hs, -⟩ := encodeChar_of_lt hc
    rw [hv] at h
    cases h
    simp only [isSurrogate, Bool.or_eq_false_iff] at hs
    exact hs.2
  · obtain ⟨hi, lo, hv, hl, -⟩ := encodeChar_of_ge (Nat.le_of_not_lt hc)
    rw [hv] at h
    cases h
    exact not_isTrailing_of_isLeading hl

/-! ## Decoding fragment by fragment -/

/-- Units of a character are decoded to it, whatever comes behind them. -/
theorem decode_encodeChar (c : Char) (us : List UInt16) :
    decode (encodeChar c ++ us) = c :: decode us := by
  by_cases hc : c.toNat < 0x10000
  · obtain ⟨u, hu, hs, hchar⟩ := encodeChar_of_lt hc
    have hs' := hs
    simp only [isSurrogate, Bool.or_eq_false_iff] at hs'
    rw [hu]
    cases us with
    | nil => simp [decode, hs', hchar]
    | cons v rest => simp [decode, hs', hchar]
  · obtain ⟨hi, lo, hu, hhi, hlo, hchar⟩ := encodeChar_of_ge (Nat.le_of_not_lt hc)
    rw [hu]
    simp [decode, hhi, hlo, hchar]

/-- A surrogate that no partner follows is decoded to the replacement. -/
theorem decode_surrogate {u : UInt16} (hu : isSurrogate u = true) (us : List UInt16)
    (h : isLeading u = true → ∀ v rest, us = v :: rest → isTrailing v = false) :
    decode (u :: us) = replacement :: decode us := by
  cases us with
  | nil =>
    have hu : (isLeading u || isTrailing u) = true := hu
    simp only [decode, if_pos hu]
  | cons v rest =>
    by_cases hl : isLeading u = true
    · simp [decode, hl, h hl v rest rfl]
    · have ht : isTrailing u = true := by simpa [isSurrogate, hl] using hu
      simp [decode, hl, ht]

namespace Falls

variable {ps : List Fragment}

theorem nil : Falls [] := ⟨by simp, .nil⟩

theorem of_cons {p : Fragment} (h : Falls (p :: ps)) : Falls ps :=
  ⟨fun q hq => h.proper q (List.mem_cons_of_mem _ hq), h.parts.of_cons⟩

theorem character (h : Falls ps) (c : Char) : Falls (.character c :: ps) := by
  refine ⟨List.forall_mem_cons.2 ⟨trivial, h.proper⟩, ?_⟩
  cases ps with
  | nil => exact .singleton _
  | cons p ps => exact List.isChain_cons_cons.2 ⟨trivial, h.parts⟩

/-- A surrogate goes before fragments whose first unit is no partner for it. -/
theorem alone (h : Falls ps) {u : UInt16} (hu : isSurrogate u = true)
    (hn : isLeading u = true → ∀ v rest, ps.flatMap Fragment.units = v :: rest → isTrailing v = false) :
    Falls (.alone u :: ps) := by
  refine ⟨List.forall_mem_cons.2 ⟨hu, h.proper⟩, ?_⟩
  cases ps with
  | nil => exact .singleton _
  | cons p ps =>
    refine List.isChain_cons_cons.2 ⟨?_, h.parts⟩
    cases p with
    | character c => trivial
    | alone v =>
      rintro ⟨hl, ht⟩
      have := hn hl v _ rfl
      simp [ht] at this

/-- The first unit behind a surrogate without a partner is not its partner. -/
theorem not_isTrailing {u v : UInt16} {rest : List UInt16}
    (h : Falls (.alone u :: ps)) (hu : isLeading u = true)
    (hv : ps.flatMap Fragment.units = v :: rest) : isTrailing v = false := by
  cases ps with
  | nil => cases hv
  | cons q qs =>
    rw [List.flatMap_cons] at hv
    cases q with
    | character c =>
      obtain ⟨w, ws, hw⟩ : ∃ w ws, encodeChar c = w :: ws := by
        unfold encodeChar
        split <;> exact ⟨_, _, rfl⟩
      simp only [Fragment.units, hw, List.cons_append] at hv
      cases hv
      exact not_isTrailing_of_encodeChar hw
    | alone w =>
      cases hv
      have hparts : ¬ (isLeading u = true ∧ isTrailing v = true) :=
        (List.isChain_cons_cons.1 h.parts).1
      simpa [hu] using hparts

end Falls

/-- **Decoding shows every fragment as one character**, those that are characters as they are. -/
theorem decode_fragments {ps : List Fragment} (h : Falls ps) :
    decode (ps.flatMap Fragment.units) = ps.map Fragment.shown := by
  induction ps with
  | nil => rfl
  | cons p ps ih =>
    rw [List.flatMap_cons, List.map_cons, ← ih h.of_cons]
    cases p with
    | character c => exact decode_encodeChar c _
    | alone u =>
      exact decode_surrogate (h.proper _ List.mem_cons_self) _
        fun hu v rest hv => h.not_isTrailing hu hv

/-- **Every sequence of units falls into fragments.** -/
theorem exists_fragments (us : List UInt16) : ∃ ps, Falls ps ∧ ps.flatMap Fragment.units = us := by
  fun_induction decode us with
  | case1 => exact ⟨[], .nil, rfl⟩
  | case2 u =>
    by_cases hu : isSurrogate u = true
    · exact ⟨[.alone u], Falls.nil.alone hu nofun, rfl⟩
    · refine ⟨[.character (Char.ofNat u.toNat)], Falls.nil.character _, ?_⟩
      simpa [Fragment.units] using encodeChar_ofNat (by simpa using hu)
  | case3 u v rest hu hv ih =>
    obtain ⟨ps, hps, hus⟩ := ih
    refine ⟨.character (pair u v) :: ps, hps.character _, ?_⟩
    rw [List.flatMap_cons, hus, Fragment.units, encodeChar_pair hu hv]
    rfl
  | case4 u v rest hu hv ih =>
    obtain ⟨ps, hps, hus⟩ := ih
    refine ⟨.alone u :: ps, hps.alone (by simp [isSurrogate, hu]) ?_, ?_⟩
    · intro _ w ws hw
      rw [hus] at hw
      cases hw
      simpa using hv
    · rw [List.flatMap_cons, hus]
      rfl
  | case5 u v rest hu hv ih =>
    obtain ⟨ps, hps, hus⟩ := ih
    refine ⟨.alone u :: ps, hps.alone (by simp [isSurrogate, hv]) ?_, ?_⟩
    · intro hl
      exact absurd hl hu
    · rw [List.flatMap_cons, hus]
      rfl
  | case6 u v rest hu hv ih =>
    obtain ⟨ps, hps, hus⟩ := ih
    refine ⟨.character (Char.ofNat u.toNat) :: ps, hps.character _, ?_⟩
    rw [List.flatMap_cons, hus, Fragment.units, encodeChar_ofNat (by simp [isSurrogate, hu, hv])]
    rfl

/-! ## Whole texts -/

/-- **What was encoded is decoded again.** -/
theorem decode_encode (cs : List Char) : decode (encode cs) = cs := by
  induction cs with
  | nil => rfl
  | cons c cs ih =>
    rw [encode, List.flatMap_cons, decode_encodeChar]
    exact congrArg (c :: ·) ih

/-- Only the character zero has a unit zero. -/
theorem zero_not_mem_encode {cs : List Char} (h : Char.ofNat 0 ∉ cs) : (0 : UInt16) ∉ encode cs := by
  rw [encode, List.mem_flatMap]
  rintro ⟨c, hc, hz⟩
  by_cases hlt : c.toNat < 0x10000
  · obtain ⟨u, hu, -, hchar⟩ := encodeChar_of_lt hlt
    rw [hu, List.mem_singleton] at hz
    subst hz
    exact h (hchar ▸ hc)
  · obtain ⟨hi, lo, hu, hhi, hlo, -⟩ := encodeChar_of_ge (Nat.le_of_not_lt hlt)
    rw [isLeading_iff] at hhi
    rw [isTrailing_iff] at hlo
    rw [hu] at hz
    rcases List.mem_cons.1 hz with rfl | hz
    · simp at hhi
    · rw [List.mem_singleton] at hz
      subst hz
      simp at hlo

end AirLoop.Utf16
