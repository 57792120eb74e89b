import AirLoop.Json.Value
import AirLoop.Json.Scan
import AirLoop.Proofs.Text.Digits

/-!
# Strings and numbers survive their JSON form

A string that was escaped is read back character by character, whatever characters it has
(`readString_escape`), and so is a whole number below `2 ^ 64`, digit by digit
(`readNumeral_digits`). Nothing is read beyond them.
-/

namespace AirLoop.Json

/-! ## Strings -/

theorem hexValue?_digitChar : ∀ d < 16, hexValue? d.digitChar = some d := by
  decide

theorem readString_quote (rest : List Char) : readString ('"' :: rest) = .ok ([], rest) := by
  rw [readString, if_pos rfl]

section
variable {cs after rest : List Char} {c : Char}

theorem readString_plain (hquote : c ≠ '"') (hback : c ≠ '\\') (hctrl : ¬ c.toNat < 0x20)
    (h : readString rest = .ok (cs, after)) :
    readString (c :: rest) = .ok (c :: cs, after) := by
  rw [readString, if_neg hquote, if_neg hback, if_neg hctrl, h]

theorem readString_escaped {escaped : List Char} {hlt : rest.length < escaped.length}
    (hescape : readEscape escaped = .ok (c, ⟨rest, hlt⟩))
    (h : readString rest = .ok (cs, after)) :
    readString ('\\' :: escaped) = .ok (c :: cs, after) := by
  rw [readString, if_neg (by decide), if_pos rfl, hescape]
  simp only [h]

/-- An escape by a letter. -/
theorem readString_letter {letter : Char} (hu : letter ≠ 'u') (hc : escapeLetter? letter = some c)
    (h : readString rest = .ok (cs, after)) :
    readString ('\\' :: letter :: rest) = .ok (c :: cs, after) := by
  have hescape : readEscape (letter :: rest) = .ok (c, ⟨rest, by simp⟩) := by
    rw [readEscape, if_neg hu, hc]
  exact readString_escaped hescape h

/-- An escape by a number that is no surrogate. -/
theorem readString_numeric {a b : Nat} (ha : a < 16) (hb : b < 16)
    (h : readString rest = .ok (cs, after)) :
    readString ('\\' :: 'u' :: '0' :: '0' :: hexDigit a :: hexDigit b :: rest) =
      .ok (Char.ofNat (a * 16 + b) :: cs, after) := by
  have hzero : hexValue? '0' = some 0 := by decide
  have hquad : hexQuad ('0' :: '0' :: hexDigit a :: hexDigit b :: rest) =
      .ok (a * 16 + b, ⟨rest, by simp; omega⟩) := by
    simp only [hexQuad, hzero, hexDigit, hexValue?_digitChar a ha, hexValue?_digitChar b hb,
      Nat.zero_mul, Nat.zero_add]
  have hnumeric : numericEscape ('0' :: '0' :: hexDigit a :: hexDigit b :: rest) =
      .ok (Char.ofNat (a * 16 + b), ⟨rest, by simp; omega⟩) := by
    rw [numericEscape, hquad]
    dsimp only
    rw [if_neg (by omega), if_pos (by omega)]
  have hescape : readEscape ('u' :: '0' :: '0' :: hexDigit a :: hexDigit b :: rest) =
      .ok (Char.ofNat (a * 16 + b), ⟨rest, by simp; omega⟩) := by
    rw [readEscape, if_pos rfl, hnumeric]
  exact readString_escaped hescape h

theorem readString_escapeChar (c : Char) (h : readString rest = .ok (cs, after)) :
    readString (escapeChar c ++ rest) = .ok (c :: cs, after) := by
  unfold escapeChar
  -- the characters that have a letter
  iterate 7
    split
    case isTrue hc =>
      subst hc
      exact readString_letter (by decide) (by decide) h
  split
  case isTrue hctrl =>
    have hread := readString_numeric (a := c.toNat / 16) (b := c.toNat % 16) (by omega) (by omega) h
    rwa [Nat.div_add_mod', Char.ofNat_toNat] at hread
  case isFalse hquote hback _ _ _ _ _ hctrl => exact readString_plain hquote hback hctrl h

end

/-- **A string is read back up to its quote.** -/
theorem readString_escape (cs rest : List Char) :
    readString (escape cs ++ '"' :: rest) = .ok (cs, rest) := by
  induction cs with
  | nil => exact readString_quote rest
  | cons c cs ih =>
    rw [escape, List.flatMap_cons, List.append_assoc]
    exact readString_escapeChar c ih

/-! ## Whole numbers -/

theorem digitValue_digitChar {d : Nat} (h : d < 10) : digitValue d.digitChar = d :=
  Nat.toNat_digitChar_sub_48_of_lt_ten h

theorem wholeDigit_of_le {n d : Nat} (hd : d < 10) (h : 10 * n + d ≤ maxSignificand) :
    wholeDigit ⟨n, 0⟩ d.digitChar = ⟨10 * n + d, 0⟩ := by
  unfold wholeDigit
  rw [digitValue_digitChar hd, Nat.mul_comm n]
  refine if_neg ?_
  rintro (hlt | hmax)
  · exact Int.lt_irrefl 0 hlt
  · omega

/-- Digits are gathered as long as they are not too many. -/
theorem foldl_wholeDigit {n : Nat} (h : n ≤ maxSignificand) :
    (decimalDigits n).foldl wholeDigit ⟨0, 0⟩ = ⟨n, 0⟩ := by
  unfold decimalDigits
  induction n using toDigits_induct (b := 10) (by decide) with
  | leading d hd =>
    have hdigit := wholeDigit_of_le (n := 0) hd (by omega)
    rwa [Nat.mul_zero, Nat.zero_add] at hdigit
  | next n d _ hd ih =>
    rw [List.foldl_append, ih (by omega)]
    exact wholeDigit_of_le hd h

/-- What follows the value of a field. -/
def Delimited (cs : List Char) : Prop := ∃ c rest, cs = c :: rest ∧ (c = ',' ∨ c = '\x7d')

theorem Delimited.stops {cs : List Char} (h : Delimited cs) : Stops Char.isDigit cs := by
  obtain ⟨c, rest, rfl, rfl | rfl⟩ := h
  · exact stops_cons (by decide) rest
  · exact stops_cons (by decide) rest

theorem Delimited.readAfterWhole {cs : List Char} (h : Delimited cs) (n : Nat) :
    readAfterWhole false ⟨n, 0⟩ cs = .ok (.natural n, cs) := by
  obtain ⟨c, rest, rfl, rfl | rfl⟩ := h <;> rfl

/-- **A whole number is read back up to its last digit.** -/
theorem readNumeral_digits {n : Nat} (h : n ≤ maxSignificand) {rest : List Char}
    (hrest : Delimited rest) :
    readNumeral false (decimalDigits n ++ rest) = .ok (.natural n, rest) := by
  have hdigits : ∀ c ∈ decimalDigits n, c.isDigit = true := fun c => isDigit_of_mem_decimalDigits
  have htake := takeWhile_of_stops hdigits hrest.stops
  have hdrop := dropWhile_of_stops hdigits hrest.stops
  have hfold := foldl_wholeDigit h
  obtain rfl | hpos := Nat.eq_zero_or_pos n
  · -- a zero stands alone
    obtain ⟨c, tail, rfl, rfl | rfl⟩ := hrest <;> rfl
  · obtain ⟨c, ds, hds, hc, hzero⟩ := decimalDigits_cons n
    rw [hds] at htake hdrop hfold ⊢
    rw [List.cons_append] at htake hdrop ⊢
    rw [readNumeral, if_neg (hzero hpos), if_pos hc, htake, hdrop, hfold]
    exact hrest.readAfterWhole n

end AirLoop.Json
