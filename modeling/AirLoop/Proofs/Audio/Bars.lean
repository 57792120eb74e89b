import AirLoop.Audio.Meter
import AirLoop.Proofs.Numeric.Binary32

/-!
# Bars of a meter

A louder reading never draws fewer bars (`barCount_mono`), a full one draws all, and none draws more
than the meter is wide, so that there is always a number of blanks to fill it up with. A meter that
writes its lines into one buffer, one rendering after the other (`MeterBuffer`), comes to the same
lines whatever the buffer held, and never needs more room than was reserved for it.
-/

namespace AirLoop

/-! ## The number of bars -/

/-- **A louder reading has no fewer bars.** -/
theorem barCount_mono {a b : LevelReading} (h : a.peak.le b.peak = true) (width : Nat) :
    barCount a width ≤ barCount b width := by
  have hcount : (a.peak.timesNat width).toCount ≤ (b.peak.timesNat width).toCount := by
    by_cases hfactor : roundDigits 24 width = 0
    · rw [Binary32.toCount_timesNat_of_factor hfactor]
      exact Nat.zero_le _
    · exact Binary32.toCount_le (Binary32.timesNat_le h hfactor)
  unfold barCount
  omega

theorem barCount_silent (width : Nat) : barCount .silent width = 0 := by
  have hproduct : (Binary32.zero.timesNat width).toCount = 0 := by
    by_cases hfactor : roundDigits 24 width = 0
    · exact Binary32.toCount_timesNat_of_factor hfactor _
    · refine Binary32.toCount_of_not_pos (.inr ?_)
      rw [Binary32.rank, Binary32.magnitudeBits_timesNat_zero rfl hfactor]
      split <;> decide
  rw [barCount, LevelReading.silent, hproduct]
  exact Nat.zero_min width

/-- What is not a number has no bars, and nothing has that is not above zero. -/
theorem barCount_of_not_pos {a : LevelReading} (h : a.peak.isNaN = true ∨ a.peak.le .zero = true)
    (width : Nat) : barCount a width = 0 := by
  rcases h with hnan | hle
  · have hproduct : a.peak.timesNat width = .nan := if_pos hnan
    have hcount : Binary32.nan.toCount = 0 := by decide
    rw [barCount, hproduct, hcount]
    exact Nat.zero_min width
  · have hmono := barCount_mono (b := .silent) hle width
    rw [barCount_silent] at hmono
    exact Nat.le_zero.1 hmono

/-- A full reading has all bars, as long as single precision can count them. -/
theorem barCount_of_full {a : LevelReading} {width : Nat} (h : Binary32.one.le a.peak = true)
    (hwidth : width ≤ 2 ^ 24) : barCount a width = width := by
  have hone : barCount ⟨.one⟩ width = width := by
    rw [barCount, Binary32.toCount_one_timesNat hwidth, Nat.min_self]
  have hmono := barCount_mono (a := ⟨.one⟩) h width
  have hle := barCount_le a width
  omega

/-- Beyond that the width itself is rounded, and a bar can be missing. -/
example : barCount ⟨.one⟩ (2 ^ 24 + 1) = 2 ^ 24 := by decide

/-! ## The line -/

/-- A line is as long as the meter is wide, its start and its end aside. -/
theorem length_meterLine (width : Nat) (r : LevelReading) :
    (meterLine width r).length = meterHead.length + width + meterTail.length := by
  have hle := barCount_le r width
  simp only [meterLine, String.length_append, String.length_ofList, List.length_append,
    List.length_replicate]
  omega

theorem pushn_eq_append (s : String) (c : Char) (n : Nat) :
    s.pushn c n = s ++ String.ofList (List.replicate n c) := by
  rw [String.pushn_eq_repeat_push]
  induction n with
  | zero => simp [Nat.repeat]
  | succ n ih =>
    rw [Nat.repeat, ih, List.replicate_succ', ← String.toList_inj]
    simp

theorem utf8ByteSize_pushn (s : String) (c : Char) (n : Nat) :
    (s.pushn c n).utf8ByteSize = s.utf8ByteSize + n * c.utf8Size := by
  rw [String.pushn_eq_repeat_push]
  induction n with
  | zero => simp [Nat.repeat]
  | succ n ih =>
    rw [Nat.repeat, String.utf8ByteSize_push, ih, Nat.succ_mul, Nat.add_assoc]

/-! ## Rendering into one buffer -/

/-- A meter with the line of its latest rendering (`MeterLine`). -/
structure MeterBuffer where
  width : Nat
  line : String := ""
  deriving DecidableEq

namespace MeterBuffer

/-- Bytes that are reserved for the line. -/
def room (m : MeterBuffer) : Nat := meterHead.utf8ByteSize + m.width + meterTail.utf8ByteSize

/-- The difference of two counters, if it is not below zero. -/
def difference? (a b : Nat) : Option Nat := if b ≤ a then some (a - b) else none

/-- One rendering: the line is cleared, then the parts are put to its end. Nothing if the bars
are more than the meter is wide. -/
def render (m : MeterBuffer) (r : LevelReading) : Option MeterBuffer := do
  let bars := barCount r m.width
  let cleared := ""
  let begun := (cleared ++ meterHead).pushn '|' bars
  let blanks ← difference? m.width bars
  let line := begun.pushn ' ' blanks ++ meterTail
  some { m with line }

/-- Some renderings, one after the other: the meter afterwards, and the lines as they were read in
between. -/
def renderAll (m : MeterBuffer) : List LevelReading → Option (MeterBuffer × List String)
  | [] => some (m, [])
  | r :: rest => do
    let rendered ← m.render r
    let (last, lines) ← rendered.renderAll rest
    some (last, rendered.line :: lines)

/-- **A rendering does not fail, and does not depend on the line before.** -/
theorem render_eq (m : MeterBuffer) (r : LevelReading) :
    m.render r = some { m with line := meterLine m.width r } := by
  have hbars : difference? m.width (barCount r m.width) = some (m.width - barCount r m.width) :=
    if_pos (barCount_le r m.width)
  simp [render, hbars, pushn_eq_append, meterLine, String.append_assoc, String.ofList_append]

theorem renderAll_eq (m : MeterBuffer) (rs : List LevelReading) :
    ∃ last, m.renderAll rs = some (last, rs.map (meterLine m.width)) := by
  induction rs generalizing m with
  | nil => exact ⟨m, rfl⟩
  | cons r rest ih =>
    obtain ⟨last, hrest⟩ := ih { m with line := meterLine m.width r }
    exact ⟨last, by simp [renderAll, render_eq, hrest]⟩

theorem utf8ByteSize_meterLine (m : MeterBuffer) (r : LevelReading) :
    (meterLine m.width r).utf8ByteSize = m.room := by
  have hle := barCount_le r m.width
  have hbar : Char.utf8Size '|' = 1 := by decide
  have hblank : Char.utf8Size ' ' = 1 := by decide
  rw [meterLine, String.ofList_append, ← String.append_assoc, ← pushn_eq_append, ← pushn_eq_append,
    String.utf8ByteSize_append, utf8ByteSize_pushn, utf8ByteSize_pushn, hbar, hblank, room]
  omega

end MeterBuffer

/-- **The bars of every reading**, on a meter of any width. A louder reading has no fewer bars, none
has more than the meter is wide, what is not above zero has none, and a full one has all of them as
long as single precision can count them. So a meter can always be drawn, on top of whatever it
showed before: each line is the start, the bars, the blanks that are left, and the end, and all
are equally long and just as long as the room that is reserved. -/
theorem barCount_mono_and_meter_fits (width : Nat) :
    (∀ a b : LevelReading, a.peak.le b.peak = true → barCount a width ≤ barCount b width) ∧
    (∀ a, barCount a width ≤ width) ∧
    (∀ a : LevelReading, a.peak.isNaN = true ∨ a.peak.le .zero = true → barCount a width = 0) ∧
    (width ≤ 2 ^ 24 → ∀ a : LevelReading, Binary32.one.le a.peak = true →
      barCount a width = width) ∧
    ∀ (before : String) (rs : List LevelReading),
      let m : MeterBuffer := ⟨width, before⟩
      ∃ last lines, m.renderAll rs = some (last, lines) ∧
        lines = rs.map (fun r => meterHead ++
          String.ofList (List.replicate (barCount r width) '|' ++
            List.replicate (width - barCount r width) ' ') ++ meterTail) ∧
        ∀ line ∈ lines, line.length = meterHead.length + width + meterTail.length ∧
          line.utf8ByteSize = m.room := by
  refine ⟨fun a b h => barCount_mono h width, fun a => barCount_le a width,
    fun a h => barCount_of_not_pos h width, fun hwidth a h => barCount_of_full h hwidth, ?_⟩
  intro before rs m
  obtain ⟨last, hlines⟩ := m.renderAll_eq rs
  refine ⟨last, _, hlines, rfl, ?_⟩
  intro line hline
  obtain ⟨r, -, rfl⟩ := List.mem_map.1 hline
  exact ⟨length_meterLine width r, m.utf8ByteSize_meterLine r⟩

/-- A meter of ten bars that shows a negative zero, three tenths and infinity, over a line that was
left behind. -/
theorem infinite_peak_fills_meter :
    (⟨0x80000000⟩ : Binary32).le .zero = true ∧ barCount ⟨⟨0x80000000⟩⟩ 10 = 0 ∧
      (⟨0x3e99999a⟩ : Binary32).le ⟨0x7f800000⟩ = true ∧
      barCount ⟨⟨0x3e99999a⟩⟩ 10 ≤ barCount ⟨⟨0x7f800000⟩⟩ 10 ∧
      Binary32.one.le ⟨0x7f800000⟩ = true ∧ barCount ⟨⟨0x7f800000⟩⟩ 10 = 10 ∧
      ∃ last, (⟨10, "left over"⟩ : MeterBuffer).renderAll [⟨⟨0x3e99999a⟩⟩, ⟨⟨0x7f800000⟩⟩] =
        some (last, ["\rRecording: [|||       ] ", "\rRecording: [||||||||||] "]) := by
  obtain ⟨hmono, -, hnone, hfull, hlines⟩ := barCount_mono_and_meter_fits 10
  obtain ⟨last, lines, hrender, hshape, -⟩ :=
    hlines "left over" [⟨⟨0x3e99999a⟩⟩, ⟨⟨0x7f800000⟩⟩]
  have htexts : lines = ["\rRecording: [|||       ] ", "\rRecording: [||||||||||] "] :=
    hshape.trans (by decide)
  exact ⟨by decide, hnone _ (.inr (by decide)), by decide, hmono _ _ (by decide), by decide,
    hfull (by decide) _ (by decide), last, htexts ▸ hrender⟩

end AirLoop
