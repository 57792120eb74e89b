import Mathlib.Data.List.Chain
import AirLoop.Console

/-!
# How a console lays out its lines

What a console writes is a sequence of status lines and meters, with the end of a line between a
meter and a status line that follows it, and nowhere else (`written_eq_layout`). So every status line
begins a line of its own (`atLineStart_of_status`), and a meter stays at the end of what is written
until a status line comes (`meterActive_iff_ends`).
-/

namespace AirLoop

/-! ## Pieces of output -/

/-- A piece of what a console writes. -/
inductive Piece where
  /-- the end of a line that holds a meter -/
  | lineEnd
  | status (line : String)
  | meter (reading : LevelReading)
  deriving DecidableEq

namespace Piece

/-- The text of a piece, on a console with a meter of this width. -/
def text (width : Nat) : Piece → String
  | lineEnd => "\n"
  | status line => line ++ "\n"
  | meter reading => meterLine width reading

/-- The cursor stands behind a meter afterwards. -/
def isMeter : Piece → Bool
  | meter _ => true
  | lineEnd | status _ => false

/-- Which pieces may stand next to each other. -/
def mayPrecede : Piece → Piece → Bool
  | lineEnd, status _ | status _, status _ | status _, meter _ | meter _, meter _
  | meter _, lineEnd => true
  | lineEnd, lineEnd | lineEnd, meter _ | status _, lineEnd | meter _, status _ => false

/-- A meter and a status line have the end of a line between them. -/
theorem mayPrecede_lineEnd {p q : Piece} (hq : q ≠ lineEnd) (h : (p.isMeter && !q.isMeter) = true) :
    p.mayPrecede lineEnd = true ∧ lineEnd.mayPrecede q = true := by
  cases p <;> cases q <;> simp_all [isMeter, mayPrecede]

/-- Any other two have not. -/
theorem mayPrecede_of_not {p q : Piece} (hp : p ≠ lineEnd) (hq : q ≠ lineEnd)
    (h : ¬(p.isMeter && !q.isMeter) = true) : p.mayPrecede q = true := by
  cases p <;> cases q <;> simp_all [isMeter, mayPrecede]

end Piece

/-- The text of some pieces. -/
def typeset (width : Nat) (ps : List Piece) : String := String.join (ps.map (·.text width))

/-- The cursor is at the start of a line after a text. -/
def AtLineStart (text : String) : Prop := text = "" ∨ text.toList.getLast? = some '\n'

section
variable (width : Nat)

theorem typeset_nil : typeset width [] = "" := rfl

theorem typeset_cons (p : Piece) (ps : List Piece) :
    typeset width (p :: ps) = p.text width ++ typeset width ps := by
  rw [typeset, List.map_cons, String.join_cons, typeset]

theorem typeset_append (ps qs : List Piece) :
    typeset width (ps ++ qs) = typeset width ps ++ typeset width qs := by
  induction ps with
  | nil => rw [List.nil_append, typeset_nil, String.empty_append]
  | cons p ps ih => rw [List.cons_append, typeset_cons, typeset_cons, ih, String.append_assoc]

theorem typeset_snoc (ps : List Piece) (p : Piece) :
    typeset width (ps ++ [p]) = typeset width ps ++ p.text width := by
  rw [typeset_append, typeset_cons, typeset_nil, String.append_empty]

/-- A piece ends its line unless it is a meter, which ends in a blank. -/
theorem getLast?_text (p : Piece) :
    (p.text width).toList.getLast? = some (if p.isMeter then ' ' else '\n') := by
  cases p with
  | lineEnd => simp [Piece.text, Piece.isMeter]
  | status line => simp [Piece.text, Piece.isMeter]
  | meter reading => simp [Piece.text, Piece.isMeter, meterLine, meterTail]

theorem getLast?_typeset_snoc (ps : List Piece) (p : Piece) :
    (typeset width (ps ++ [p])).toList.getLast? = some (if p.isMeter then ' ' else '\n') := by
  rw [typeset_snoc, String.toList_append, List.getLast?_append, getLast?_text, Option.some_or]

/-- A text of pieces ends in a meter exactly if the last piece is one: all others end in the end of
a line. -/
theorem ends_in_meter (ps : List Piece) :
    (∃ front reading, typeset width ps = front ++ meterLine width reading) ↔
      ∃ reading, ps.getLast? = some (.meter reading) := by
  constructor
  · rintro ⟨front, reading, h⟩
    have hblank : (typeset width ps).toList.getLast? = some ' ' := by
      have hmeter : (meterLine width reading).toList.getLast? = some ' ' :=
        getLast?_text width (.meter reading)
      rw [h, String.toList_append, List.getLast?_append, hmeter, Option.some_or]
    rcases List.eq_nil_or_concat ps with rfl | ⟨init, p, rfl⟩
    · cases hblank
    · rw [List.concat_eq_append, getLast?_typeset_snoc] at hblank
      cases p with
      | meter reading => exact ⟨reading, by simp⟩
      | _ => cases hblank
  · rintro ⟨reading, h⟩
    obtain ⟨init, rfl⟩ := List.getLast?_eq_some_iff.1 h
    exact ⟨typeset width init, reading, typeset_snoc width init (.meter reading)⟩

end

/-! ## What is called for -/

namespace Console

/-- What a report calls for. -/
def calledFor (captured : Bool) : Report → List Piece
  | .level reading => [.meter reading]
  | r => (statusLines captured r).map .status

/-- What some reports call for. -/
def allCalledFor (captured : Bool) : List Report → List Piece
  | [] => []
  | r :: rs => calledFor captured r ++ allCalledFor (captured || decide (r = .state .capturing)) rs

/-- Pieces with the end of a line between a meter and a status line. -/
def separated (afterMeter : Bool) : List Piece → List Piece
  | [] => []
  | p :: ps =>
    if afterMeter && !p.isMeter then .lineEnd :: p :: separated p.isMeter ps
    else p :: separated p.isMeter ps

/-- How the output for some reports is laid out. -/
def layout (rs : List Report) : List Piece := separated false (allCalledFor false rs)

/-- The cursor stands behind a meter after some pieces. -/
def endsOnMeter (afterMeter : Bool) (ps : List Piece) : Bool :=
  ps.foldl (fun _ p => p.isMeter) afterMeter

theorem separated_append (afterMeter : Bool) (ps qs : List Piece) :
    separated afterMeter (ps ++ qs) =
      separated afterMeter ps ++ separated (endsOnMeter afterMeter ps) qs := by
  induction ps generalizing afterMeter with
  | nil => rfl
  | cons p ps ih =>
    rw [List.cons_append, separated, separated, ih]
    split <;> rfl

theorem allCalledFor_append (captured : Bool) (rs more : List Report) :
    allCalledFor captured (rs ++ more) =
      allCalledFor captured rs ++
        allCalledFor (captured || decide (.state .capturing ∈ rs)) more := by
  induction rs generalizing captured with
  | nil => simp [allCalledFor]
  | cons r rs ih =>
    rw [List.cons_append, allCalledFor, allCalledFor, ih, List.append_assoc, Bool.or_assoc]
    simp only [List.mem_cons, Bool.decide_or, eq_comm]

/-! ## What is written -/

variable {c : Console}

/-- Without a meter before them, status lines are all that is written. -/
theorem typeset_lines (width : Nat) (lines : List String) :
    typeset width (separated false (lines.map .status)) = String.join (lines.map (· ++ "\n")) ∧
      endsOnMeter false (lines.map .status) = false := by
  induction lines with
  | nil => exact ⟨rfl, rfl⟩
  | cons l ls ih =>
    refine ⟨?_, ih.2⟩
    rw [List.map_cons, List.map_cons, String.join_cons, ← ih.1]
    exact typeset_cons width (.status l) _

/-- Status lines as they are printed. -/
theorem printLines_eq (hc : c.failing = false) {lines : List String} (hl : lines ≠ []) :
    c.printLines lines =
      ({ c with meterActive := endsOnMeter c.meterActive (lines.map .status) },
        typeset c.width (separated c.meterActive (lines.map .status))) := by
  obtain ⟨l, ls, rfl⟩ := List.exists_cons_of_ne_nil hl
  obtain ⟨hlines, -⟩ := typeset_lines c.width (l :: ls)
  obtain ⟨-, hflag⟩ := typeset_lines c.width ls
  have hactive : endsOnMeter c.meterActive ((l :: ls).map .status) = false := hflag
  rw [printLines, hactive, shown, hc, if_neg (by decide), ← hlines]
  cases c.meterActive with
  | false => rw [if_neg (by decide), String.empty_append]
  | true =>
    rw [if_pos rfl]
    exact congrArg _ (typeset_cons c.width .lineEnd _).symm

/-- A report that is neither a meter nor the beginning of capture calls for status lines. -/
theorem report_lines {r : Report} (hl : ∀ reading, r ≠ .level reading)
    (hr : r ≠ .state .capturing) :
    c.report r =
      (match statusLines c.captured r with
        | [] => (c, "")
        | lines => c.printLines lines) ∧
      ∀ captured, calledFor captured r = (statusLines captured r).map .status := by
  cases r with
  | level reading => exact absurd rfl (hl reading)
  | state s =>
    refine ⟨?_, fun _ => rfl⟩
    cases s with
    | capturing => exact absurd rfl hr
    | _ => rfl
  | _ => exact ⟨rfl, fun _ => rfl⟩

/-- **A report writes what it calls for**, after the end of a meter line if that is due. -/
theorem report_eq (hc : c.failing = false) (r : Report) :
    c.report r =
      ({ c with
          meterActive := endsOnMeter c.meterActive (calledFor c.captured r)
          captured := c.captured || decide (r = .state .capturing) },
        typeset c.width (separated c.meterActive (calledFor c.captured r))) := by
  by_cases hr : r = .state .capturing
  · subst hr
    rw [decide_eq_true rfl, Bool.or_true]
    rfl
  · rw [decide_eq_false hr, Bool.or_false]
    by_cases hl : ∃ reading, r = .level reading
    · obtain ⟨reading, rfl⟩ := hl
      have htext : typeset c.width (separated c.meterActive [.meter reading]) =
          meterLine c.width reading := by
        rw [separated, if_neg (by simp [Piece.isMeter])]
        exact (typeset_cons ..).trans String.append_empty
      change c.showLevel reading = _
      rw [showLevel, shown, hc, if_neg (by decide), ← htext]
      rfl
    · obtain ⟨hreport, hcalled⟩ := report_lines (c := c) (not_exists.1 hl) hr
      rw [hreport, hcalled]
      split
      · rename_i hnone
        rw [hnone]
        rfl
      · exact printLines_eq hc ‹_›

/-- **What is written is the layout.** -/
theorem reportAll_eq (hc : c.failing = false) (rs : List Report) :
    c.reportAll rs =
      ({ c with
          meterActive := endsOnMeter c.meterActive (allCalledFor c.captured rs)
          captured := c.captured || decide (.state .capturing ∈ rs) },
        typeset c.width (separated c.meterActive (allCalledFor c.captured rs))) := by
  induction rs generalizing c with
  | nil =>
    rw [decide_eq_false List.not_mem_nil, Bool.or_false]
    rfl
  | cons r rs ih =>
    have hrest := ih (c := (c.report r).1) (by rw [report_eq hc]; exact hc)
    rw [reportAll]
    dsimp only
    rw [hrest, report_eq hc, allCalledFor, separated_append, typeset_append]
    simp only [endsOnMeter, List.foldl_append, List.mem_cons, Bool.decide_or, Bool.or_assoc,
      eq_comm]

theorem failing_reportAll (hc : c.failing = false) (rs : List Report) :
    (c.reportAll rs).1.failing = false := by
  rw [reportAll_eq hc]
  exact hc

theorem width_reportAll (hc : c.failing = false) (rs : List Report) :
    (c.reportAll rs).1.width = c.width := by rw [reportAll_eq hc]

/-! ## Neighbours -/

/-- What some reports call for, one of them calls for. -/
theorem mem_allCalledFor {captured : Bool} {rs : List Report} {p : Piece}
    (h : p ∈ allCalledFor captured rs) : ∃ r ∈ rs, ∃ captured, p ∈ calledFor captured r := by
  induction rs generalizing captured with
  | nil => cases h
  | cons r rs ih =>
    rcases List.mem_append.1 h with hp | hp
    · exact ⟨r, List.mem_cons_self, captured, hp⟩
    · obtain ⟨r', hr', hp⟩ := ih hp
      exact ⟨r', List.mem_cons_of_mem _ hr', hp⟩

/-- Nothing ends a meter line but the layout. -/
theorem ne_lineEnd_of_calledFor {captured : Bool} {rs : List Report} :
    ∀ p ∈ allCalledFor captured rs, p ≠ .lineEnd := by
  intro p hp
  obtain ⟨r, -, captured, hp⟩ := mem_allCalledFor hp
  cases r with
  | level reading =>
    rw [List.mem_singleton.1 hp]
    exact nofun
  | _ =>
    obtain ⟨line, -, rfl⟩ := List.mem_map.1 hp
    exact nofun

variable {ps : List Piece}

/-- Pieces that stand next to each other may. -/
theorem isChain_separated {prev : Piece} (hprev : prev ≠ .lineEnd) (hps : ∀ p ∈ ps, p ≠ .lineEnd) :
    (prev :: separated prev.isMeter ps).IsChain fun p q => p.mayPrecede q = true := by
  induction ps generalizing prev with
  | nil => exact .singleton _
  | cons p ps ih =>
    have hp : p ≠ .lineEnd := hps p List.mem_cons_self
    have hrest := ih hp fun q hq => hps q (List.mem_cons_of_mem _ hq)
    rw [separated]
    split
    · rename_i hm
      obtain ⟨hmeter, hstatus⟩ := Piece.mayPrecede_lineEnd hp hm
      exact .cons_cons hmeter (.cons_cons hstatus hrest)
    · rename_i hm
      exact .cons_cons (Piece.mayPrecede_of_not hprev hp hm) hrest

/-- Without the ends of meter lines a layout is what is called for. -/
theorem filter_separated (afterMeter : Bool) (hps : ∀ p ∈ ps, p ≠ .lineEnd) :
    (separated afterMeter ps).filter (· ≠ .lineEnd) = ps := by
  induction ps generalizing afterMeter with
  | nil => rfl
  | cons p ps ih =>
    have hp : p ≠ .lineEnd := hps p List.mem_cons_self
    have hrest := ih p.isMeter fun q hq => hps q (List.mem_cons_of_mem _ hq)
    rw [separated]
    split
    · rw [List.filter_cons_of_neg (by simp), List.filter_cons_of_pos (by simp [hp]), hrest]
    · rw [List.filter_cons_of_pos (by simp [hp]), hrest]

theorem getLast?_separated (afterMeter : Bool) :
    (separated afterMeter ps).getLast? = ps.getLast? := by
  induction ps generalizing afterMeter with
  | nil => rfl
  | cons p ps ih =>
    rw [separated]
    split
    · rw [List.getLast?_cons_cons, List.getLast?_cons, List.getLast?_cons, ih]
    · rw [List.getLast?_cons, List.getLast?_cons, ih]

theorem endsOnMeter_iff :
    endsOnMeter false ps = true ↔ ∃ reading, ps.getLast? = some (.meter reading) := by
  rcases List.eq_nil_or_concat ps with rfl | ⟨init, p, rfl⟩
  · exact iff_of_false nofun nofun
  · have hend : endsOnMeter false (init ++ [p]) = p.isMeter := List.foldl_concat ..
    rw [List.concat_eq_append, hend, List.getLast?_concat]
    cases p with
    | meter reading => exact iff_of_true rfl ⟨reading, rfl⟩
    | _ => exact iff_of_false nofun nofun

/-! ## Layouts -/

section
variable (width : Nat) (rs : List Report) {before after : List Piece}

theorem written_eq_layout :
    (({ width } : Console).reportAll rs).2 = typeset width (layout rs) := by
  rw [reportAll_eq rfl, layout]

theorem isChain_layout (line : String) :
    (Piece.status line :: layout rs).IsChain fun p q => p.mayPrecede q = true :=
  isChain_separated nofun ne_lineEnd_of_calledFor

variable {rs}

/-- What comes before a piece may. -/
theorem mayPrecede_of_layout {p q : Piece} (h : layout rs = before ++ p :: q :: after) :
    p.mayPrecede q = true := by
  have hchain := (isChain_layout rs "").tail
  rw [List.tail_cons, h] at hchain
  exact (List.isChain_cons_cons.1 (List.isChain_append.1 hchain).2.1).1

/-- What begins a layout is no end of a line. -/
theorem ne_lineEnd_of_head {p : Piece} (h : layout rs = p :: after) : p ≠ .lineEnd := by
  have hchain := isChain_layout rs ""
  rw [h] at hchain
  rintro rfl
  cases (List.isChain_cons_cons.1 hchain).1

/-- **A status line begins a line of its own.** -/
theorem atLineStart_of_status {line : String} (h : layout rs = before ++ .status line :: after) :
    AtLineStart (typeset width before) ∧ ∀ reading, before.getLast? ≠ some (.meter reading) := by
  rcases List.eq_nil_or_concat before with rfl | ⟨init, p, rfl⟩
  · exact ⟨.inl rfl, nofun⟩
  · have hp : p.mayPrecede (.status line) = true := mayPrecede_of_layout (by simpa using h)
    have hm : p.isMeter = false := by
      cases p with
      | meter reading => cases hp
      | _ => rfl
    refine ⟨.inr ?_, ?_⟩
    · rw [List.concat_eq_append, getLast?_typeset_snoc, hm]
      rfl
    · intro reading hlast
      rw [List.concat_eq_append, List.getLast?_concat] at hlast
      obtain rfl := Option.some.inj hlast
      cases hm

/-- **A meter line is ended where a status line follows it**, and nowhere else. -/
theorem meter_of_lineEnd (h : layout rs = before ++ .lineEnd :: after) :
    (∃ reading, before.getLast? = some (.meter reading)) ∧
      ∃ line, after.head? = some (.status line) := by
  constructor
  · rcases List.eq_nil_or_concat before with rfl | ⟨init, p, rfl⟩
    · exact absurd rfl (ne_lineEnd_of_head h)
    · have hp : p.mayPrecede .lineEnd = true := mayPrecede_of_layout (by simpa using h)
      cases p with
      | meter reading => exact ⟨reading, by simp⟩
      | _ => cases hp
  · cases after with
    | nil =>
      have hlast : (layout rs).getLast? = some .lineEnd := by simp [h]
      rw [layout, getLast?_separated] at hlast
      exact absurd rfl (ne_lineEnd_of_calledFor _ (List.mem_of_getLast? hlast))
    | cons p after =>
      have hp : Piece.lineEnd.mayPrecede p = true := mayPrecede_of_layout h
      cases p with
      | status line => exact ⟨line, rfl⟩
      | _ => cases hp

/-- The console knows whether what it wrote ends in a meter. -/
theorem meterActive_iff_ends :
    (({ width } : Console).reportAll rs).1.meterActive = true ↔
      ∃ front reading, (({ width } : Console).reportAll rs).2 = front ++ meterLine width reading := by
  have hflag : (({ width } : Console).reportAll rs).1.meterActive =
      endsOnMeter false (allCalledFor false rs) := by rw [reportAll_eq rfl]
  have hlast : (layout rs).getLast? = (allCalledFor false rs).getLast? := getLast?_separated false
  rw [written_eq_layout, ends_in_meter, hflag, endsOnMeter_iff, hlast]

/-- If a status line is the last that is called for, the cursor is left at the start of a line. -/
theorem closes_of_last {line : String}
    (h : (allCalledFor false rs).getLast? = some (.status line)) :
    (({ width } : Console).reportAll rs).1.meterActive = false ∧
      (({ width } : Console).reportAll rs).2.toList.getLast? = some '\n' := by
  have hlast : (layout rs).getLast? = some (.status line) := (getLast?_separated false).trans h
  constructor
  · rw [← Bool.not_eq_true, meterActive_iff_ends, written_eq_layout, ends_in_meter, hlast]
    exact nofun
  · obtain ⟨init, hinit⟩ := List.getLast?_eq_some_iff.1 hlast
    rw [written_eq_layout, hinit, getLast?_typeset_snoc]
    rfl

end

/-! ## The discipline -/

/-- How a console keeps its lines apart. -/
structure Disciplined (width : Nat) (rs : List Report) : Prop where
  /-- what is written is the layout of what the reports call for -/
  written : (({ width } : Console).reportAll rs).2 = typeset width (layout rs)
  complete : (layout rs).filter (· ≠ .lineEnd) = allCalledFor false rs
  /-- a status line begins a line of its own -/
  status : ∀ before line after, layout rs = before ++ .status line :: after →
    AtLineStart (typeset width before) ∧ ∀ reading, before.getLast? ≠ some (.meter reading)
  /-- a meter line is ended once, where a status line follows it -/
  lineEnd : ∀ before after, layout rs = before ++ .lineEnd :: after →
    (∃ reading, before.getLast? = some (.meter reading)) ∧
      ∃ line, after.head? = some (.status line)
  /-- a meter is redrawn on its line if nothing is printed in between -/
  redrawn : ∀ before a quiet b after, rs = before ++ .level a :: quiet ++ .level b :: after →
    ((({ width } : Console).reportAll before).1.reportAll (.level a :: quiet)).2 =
      meterLine width a →
    ((({ width } : Console).reportAll before).1.reportAll (.level a :: quiet ++ [.level b])).2 =
      meterLine width a ++ meterLine width b
  /-- the console knows whether the cursor stands behind a meter -/
  active : (({ width } : Console).reportAll rs).1.meterActive = true ↔
    ∃ front reading, (({ width } : Console).reportAll rs).2 = front ++ meterLine width reading
  /-- the end of a session is told if audio was captured before -/
  stopped : ∀ before after, rs = before ++ .state .stopped :: after →
    layout rs = layout before ++
      separated (({ width } : Console).reportAll before).1.meterActive
        ((if .state .capturing ∈ before then [.status stoppedLine] else []) ++
          allCalledFor (decide (.state .capturing ∈ before)) after)

variable {width : Nat}

/-- A meter is written as it is, wherever the cursor stands. -/
theorem reportAll_level (c : Console) (hc : c.failing = false) (reading : LevelReading) :
    (c.reportAll [.level reading]).2 = meterLine c.width reading := by
  change c.shown (meterLine c.width reading) ++ "" = _
  rw [String.append_empty, shown, hc, if_neg (by decide)]

theorem layout_of_stopped (before after : List Report) :
    layout (before ++ .state .stopped :: after) = layout before ++
      separated (({ width } : Console).reportAll before).1.meterActive
        ((if .state .capturing ∈ before then [.status stoppedLine] else []) ++
          allCalledFor (decide (.state .capturing ∈ before)) after) := by
  have hcalled : calledFor (decide (.state .capturing ∈ before)) (.state .stopped) =
      if .state .capturing ∈ before then [.status stoppedLine] else [] := by
    by_cases h : .state .capturing ∈ before <;>
      simp [h, calledFor, statusLines, SessionState.isTerminal]
  rw [layout, allCalledFor_append, separated_append, Bool.false_or, allCalledFor, hcalled,
    decide_eq_false (show Report.state .stopped ≠ .state .capturing from nofun), Bool.or_false,
    reportAll_eq rfl]
  rfl

/-- **How every console keeps its lines apart**, whatever is reported and however wide its meter. -/
theorem console_disciplined (width : Nat) (rs : List Report) : Disciplined width rs where
  written := written_eq_layout width rs
  complete := filter_separated false ne_lineEnd_of_calledFor
  status := fun _ _ _ h => atLineStart_of_status width h
  lineEnd := fun _ _ h => meter_of_lineEnd h
  redrawn := by
    intro before a quiet b after _ hquiet
    have hbefore := failing_reportAll (c := { width }) rfl before
    have hlater := failing_reportAll hbefore (.level a :: quiet)
    have hwidth : ((({ width } : Console).reportAll before).1.reportAll
        (.level a :: quiet)).1.width = width := by
      rw [width_reportAll hbefore, width_reportAll rfl]
    rw [reportAll_append]
    dsimp only
    rw [hquiet, reportAll_level _ hlater, hwidth]
  active := meterActive_iff_ends width
  stopped := by
    rintro before after rfl
    exact layout_of_stopped before after

end Console

end AirLoop
