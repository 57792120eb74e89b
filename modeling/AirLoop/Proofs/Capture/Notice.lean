import AirLoop.Capture.Rehearsal
import AirLoop.Proofs.Capture.Intake
import AirLoop.Proofs.Capture.Latch

/-!
# Notices

Whoever starts a pipeline is given notice of the first fault through his delivery, at once and never
again (`Prompt`): the notice follows the fault in the journal, with nothing but the log in between.
Every tick keeps the journal so (`Ticks.prompt`), and none of it is a matter for the buffers, which
are counted and go their way as before (`notices_eq_first_faults`).
-/

namespace AirLoop

/-- A notice of a fault. -/
def Occurrence.isNotice : Occurrence → Bool
  | .faulted .. => true
  | _ => false

/-- The faults that the starter of a delivery was given notice of. -/
def Journal.notices (k : Nat) (j : Journal) : List Fault :=
  j.filterMap fun
    | .faulted i f => if i = k then some f else none
    | _ => none

namespace Journal

variable (k : Nat)

theorem notices_append (a b : Journal) : (a ++ b).notices k = a.notices k ++ b.notices k :=
  List.filterMap_append

theorem notices_eq_nil {j : Journal} (h : ∀ o ∈ j, o.isNotice = false) : j.notices k = [] := by
  refine List.filterMap_eq_nil_iff.2 ?_
  intro o ho
  have hn := h o ho
  cases o with
  | faulted => cases hn
  | _ => rfl

theorem isNotice_logged (lines : List LogLine) :
    ∀ o ∈ lines.map Occurrence.logged, o.isNotice = false :=
  List.forall_mem_map.2 fun _ _ => rfl

theorem raisedFrom_logged (names : List String) (m : Bookmark) (lines : List LogLine) :
    raisedFrom names m (lines.map .logged) = [] := by
  induction lines with
  | nil => rfl
  | cons l lines ih => exact ih

end Journal

/-- An occurrence of a longer journal was there before, or else came with the rest. -/
theorem Journal.split_append {j tail before after : Journal} {o : Occurrence}
    (h : j ++ tail = before ++ o :: after) :
    (∃ rest, j = before ++ o :: rest ∧ after = rest ++ tail) ∨
      ∃ mid, before = j ++ mid ∧ tail = mid ++ o :: after := by
  rcases List.append_eq_append_iff.1 h with ⟨mid, hb, ht⟩ | ⟨rest, hj, ha⟩
  · exact .inr ⟨mid, hb, ht⟩
  · cases rest with
    | nil =>
      rw [List.append_nil] at hj
      exact .inr ⟨[], by rw [hj, List.append_nil], ha.symm⟩
    | cons o' rest =>
      obtain ⟨rfl, hrest⟩ := List.cons.inj ha
      exact .inl ⟨rest, hj, hrest⟩

/-! ## Prompt journals -/

/-- Journals in which the first fault through each delivery is followed by its notice, and there are
no other notices. -/
inductive Prompt (names : List String) : Journal → Prop where
  | nil : Prompt names []
  /-- no fault comes up, or not the first -/
  | pass {j : Journal} {o : Occurrence} : Prompt names j → o.isNotice = false →
      (∀ x, j.bookmark.raised names o = some x →
        firstFault x.delivery (j.raised names) ≠ none) →
      Prompt names (j ++ [o])
  /-- the first fault through a delivery comes up -/
  | first {j : Journal} {o : Occurrence} {x : Raised} (lines : List LogLine) : Prompt names j →
      j.bookmark.raised names o = some x → firstFault x.delivery (j.raised names) = none →
      Prompt names (j ++ o :: lines.map .logged ++ [.faulted x.delivery x.fault])

theorem isNotice_of_raised {names : List String} {m : Bookmark} {o : Occurrence} {x : Raised}
    (h : m.raised names o = some x) : o.isNotice = false := by
  cases o with
  | faulted => cases h
  | _ => rfl

/-- Up to its notice a first fault is the only one that comes up. -/
theorem raised_first {names : List String} {j : Journal} {o : Occurrence} {x : Raised}
    (lines : List LogLine) (h : j.bookmark.raised names o = some x) :
    Journal.raised names (j ++ o :: lines.map .logged ++ [.faulted x.delivery x.fault]) =
      j.raised names ++ [x] := by
  rw [Journal.raised_snoc, Journal.raised_append, Journal.raisedFrom, h, Journal.raisedFrom_logged]
  exact List.append_nil _

theorem isNotice_first {names : List String} {m : Bookmark} {o : Occurrence} {x : Raised}
    (lines : List LogLine) (h : m.raised names o = some x) :
    ∀ o' ∈ o :: lines.map Occurrence.logged, o'.isNotice = false := by
  intro o' ho'
  rcases List.mem_cons.1 ho' with rfl | ho'
  · exact isNotice_of_raised h
  · exact Journal.isNotice_logged lines o' ho'

namespace Prompt

variable {names : List String} {j : Journal}

/-- Nothing comes up in some occurrences. -/
theorem passAll (h : Prompt names j) {more : Journal} (hn : ∀ o ∈ more, o.isNotice = false)
    (hr : Journal.raisedFrom names j.bookmark more = []) : Prompt names (j ++ more) := by
  induction more generalizing j with
  | nil =>
    rw [List.append_nil]
    exact h
  | cons o more ih =>
    obtain ⟨ho, hmore⟩ := List.append_eq_nil_iff.1 hr
    have hnone : j.bookmark.raised names o = none := by
      cases hx : j.bookmark.raised names o with
      | none => rfl
      | some x =>
        rw [hx] at ho
        cases ho
    have hj : Prompt names (j ++ [o]) := by
      refine h.pass (hn o List.mem_cons_self) ?_
      intro x hx
      rw [hnone] at hx
      cases hx
    rw [List.append_cons]
    refine ih hj (fun o' ho' => hn o' (List.mem_cons_of_mem _ ho')) ?_
    rw [Journal.bookmark_append]
    exact hmore

/-- **One notice for each delivery through which a fault came up**, of the first such fault. -/
theorem notices (h : Prompt names j) (k : Nat) :
    j.notices k = (firstFault k (j.raised names)).toList := by
  induction h with
  | nil => rfl
  | @pass j o _ hn hr ih =>
    have ho : Journal.notices k [o] = [] := by
      refine Journal.notices_eq_nil k ?_
      intro o' ho'
      rw [List.mem_singleton.1 ho']
      exact hn
    rw [Journal.notices_append, ho, List.append_nil, ih, Journal.raised_snoc]
    cases hx : j.bookmark.raised names o with
    | none => rw [Option.toList_none, List.append_nil]
    | some x =>
      rw [Option.toList_some, firstFault_snoc]
      by_cases hk : x.delivery = k
      · obtain ⟨f, hf⟩ := Option.ne_none_iff_exists'.1 (hk ▸ hr x hx)
        rw [hf, Option.some_or]
      · rw [if_neg hk, Option.or_none]
  | @first j o x lines _ hx hfirst ih =>
    rw [Journal.notices_append, Journal.notices_append,
      Journal.notices_eq_nil k (isNotice_first lines hx), ih, raised_first lines hx, firstFault_snoc]
    by_cases hk : x.delivery = k
    · rw [← hk, hfirst]
      simp [Journal.notices]
    · simp [Journal.notices, hk]

/-- A notice comes of a fault that is the first through its delivery. -/
theorem reason (h : Prompt names j) {before after : Journal} {k : Nat} {f : Fault}
    (hj : j = before ++ .faulted k f :: after) :
    ∃ (earlier : Journal) (o : Occurrence) (lines : List LogLine) (x : Raised),
      before = earlier ++ o :: lines.map .logged ∧ earlier.bookmark.raised names o = some x ∧
        x.delivery = k ∧ x.fault = f ∧ firstFault k (earlier.raised names) = none := by
  -- a notice is not among occurrences that are none
  have hmem {mid after tail : Journal} (ht : tail = mid ++ .faulted k f :: after)
      (hn : ∀ o ∈ tail, o.isNotice = false) : False := by
    have hk := hn (.faulted k f) (by rw [ht]; simp)
    cases hk
  induction h generalizing after with
  | nil => simp at hj
  | @pass j o _ hn _ ih =>
    rcases Journal.split_append hj with ⟨rest, hb, -⟩ | ⟨mid, -, ht⟩
    · exact ih hb
    · refine (hmem ht ?_).elim
      intro o' ho'
      rw [List.mem_singleton.1 ho']
      exact hn
  | @first j o x lines _ hx hfirst ih =>
    rcases Journal.split_append hj with ⟨rest, hb, -⟩ | ⟨mid, hb, ht⟩
    · rcases Journal.split_append hb with ⟨rest, hb, -⟩ | ⟨mid, -, ht⟩
      · exact ih hb
      · exact (hmem ht (isNotice_first lines hx)).elim
    · cases mid with
      | nil =>
        obtain ⟨he, -⟩ := List.cons.inj ht
        cases he
        rw [List.append_nil] at hb
        exact ⟨j, o, lines, x, hb, hx, rfl, rfl, hfirst⟩
      | cons o' mid => simp at ht

/-- The first fault through a delivery is given notice of at once. -/
theorem notice (h : Prompt names j) {before after : Journal} {o : Occurrence} {x : Raised}
    (hj : j = before ++ o :: after) (hx : before.bookmark.raised names o = some x)
    (hfirst : firstFault x.delivery (before.raised names) = none) :
    ∃ (lines : List LogLine) (rest : Journal),
      after = lines.map .logged ++ .faulted x.delivery x.fault :: rest := by
  induction h generalizing after with
  | nil => simp at hj
  | @pass j o' _ _ hr ih =>
    rcases Journal.split_append hj with ⟨rest, hb, ha⟩ | ⟨mid, hb, ht⟩
    · obtain ⟨lines, more, hrest⟩ := ih hb
      exact ⟨lines, more ++ [o'], by rw [ha, hrest]; simp⟩
    · cases mid with
      | nil =>
        obtain ⟨rfl, -⟩ := List.cons.inj ht
        rw [List.append_nil] at hb
        subst hb
        exact absurd hfirst (hr x hx)
      | cons o' mid => simp at ht
  | @first j o' y lines _ hy _ ih =>
    rw [List.append_assoc] at hj
    rcases Journal.split_append hj with ⟨rest, hb, ha⟩ | ⟨mid, hb, ht⟩
    · obtain ⟨before', more, hrest⟩ := ih hb
      exact ⟨before', more ++ (o' :: lines.map .logged ++ [.faulted y.delivery y.fault]), by
        rw [ha, hrest]; simp⟩
    · cases mid with
      | nil =>
        obtain ⟨rfl, ha⟩ := List.cons.inj ht
        rw [List.append_nil] at hb
        subst hb
        rw [hy] at hx
        cases hx
        exact ⟨lines, [], ha.symm⟩
      | cons o'' mid =>
        -- what follows brings up nothing
        obtain ⟨-, ht⟩ := List.cons.inj ht
        have ho : o ∈ lines.map Occurrence.logged ++ [.faulted y.delivery y.fault] := by
          rw [show lines.map Occurrence.logged ++ [.faulted y.delivery y.fault] = _ from ht]
          simp
        rcases List.mem_append.1 ho with ho | ho
        · obtain ⟨l, -, rfl⟩ := List.mem_map.1 ho
          cases hx
        · rw [List.mem_singleton.1 ho] at hx
          cases hx

end Prompt

/-! ## Buffers on their way -/

/-- A buffer on its way gives no notice; and if a stage fails, that is the last of its way. -/
theorem notice_transit (passage : Passage) (place : Nat) (monitor : LevelMonitor)
    (ss : List Station) :
    (∀ o ∈ (transit passage place monitor ss).journal, o.isNotice = false) ∧
      ∀ name f, (transit passage place monitor ss).failure = some (name, f) →
        ∃ seen last, (transit passage place monitor ss).journal =
          seen ++ [.processed last passage.buffer passage.format (some f)] := by
  induction ss generalizing place monitor with
  | nil => exact ⟨nofun, nofun⟩
  | cons s rest ih =>
    have hs : (∀ o ∈ (s.take monitor passage).reports, o.isNotice = false) ∧
        ((s.take monitor passage).failure ≠ none → (s.take monitor passage).reports = []) := by
      unfold Station.take
      dsimp only
      split
      · refine ⟨?_, fun h => absurd rfl h⟩
        intro o ho
        rw [List.mem_singleton.1 ho]
        rfl
      · exact ⟨nofun, fun _ => rfl⟩
      · exact ⟨nofun, fun _ => rfl⟩
    rw [transit_cons]
    cases hf : (s.take monitor passage).failure with
    | some f =>
      have hnone : (s.take monitor passage).reports = [] := hs.2 (by rw [hf]; nofun)
      rw [hnone]
      refine ⟨?_, ?_⟩
      · intro o ho
        rw [List.mem_singleton.1 ho]
        rfl
      · intro name f' hname
        cases hname
        exact ⟨[], place, rfl⟩
    | none =>
      obtain ⟨hn, hl⟩ := ih (place + 1) (s.take monitor passage).monitor
      refine ⟨?_, ?_⟩
      · intro o ho
        rcases List.mem_append.1 ho with ho | ho
        · rcases List.mem_cons.1 ho with rfl | ho
          · rfl
          · exact hs.1 o ho
        · exact hn o ho
      · intro name f hname
        obtain ⟨seen, i, hj⟩ := hl name f hname
        refine ⟨.processed place passage.buffer passage.format none ::
          (s.take monitor passage).reports ++ seen, i, ?_⟩
        rw [List.append_assoc, ← hj]

namespace Pipeline

variable {σ : Type} {names : List String} {p : Pipeline σ}

/-- Notice is given of a fault that is the first, and of no other. -/
theorem prompt_raise {j : Journal} {o : Occurrence} {x : Raised}
    (lines : List LogLine) (hj : Prompt names j) (hx : j.bookmark.raised names o = some x)
    (hp : p.journal = j ++ o :: lines.map .logged) (hk : x.delivery < p.deliveries.length)
    (hd : ∀ d, p.deliveries[x.delivery]? = some d → d.fault = firstFault x.delivery (j.raised names)) :
    Prompt names (p.raise x.delivery x.fault).journal := by
  have hsome : p.deliveries[x.delivery]? = some p.deliveries[x.delivery] :=
    List.getElem?_eq_getElem hk
  have hfault := hd _ hsome
  unfold raise
  rw [hsome]
  dsimp only
  cases hf : firstFault x.delivery (j.raised names) with
  | none =>
    rw [hfault, hf]
    change Prompt names (p.journal ++ [_])
    rw [hp]
    exact .first lines hj hx hf
  | some g =>
    rw [hfault, hf]
    change Prompt names p.journal
    have ho : Prompt names (j ++ [o]) := by
      refine hj.pass (isNotice_of_raised hx) ?_
      intro y hy
      rw [hx] at hy
      cases hy
      rw [hf]
      nofun
    rw [hp, List.append_cons]
    exact ho.passAll (Journal.isNotice_logged _) (Journal.raisedFrom_logged ..)

theorem prompt_note (h : Prompt names p.journal) {o : Occurrence} (hn : o.isNotice = false)
    (hr : ∀ m : Bookmark, m.raised names o = none) : Prompt names (p.note o).journal := by
  refine h.pass hn ?_
  intro x hx
  rw [hr] at hx
  cases hx

theorem prompt_forward (hl : Latched names p) (hn : p.stageNames <+: names)
    (h : Prompt names p.journal) {k : Nat} {d : Delivery} (hd : p.deliveries[k]? = some d)
    (hk : p.journal.bookmark.through = k) (b : AudioBuffer) :
    Prompt names (p.forward k d b).journal := by
  obtain ⟨hquiet, hlast⟩ := notice_transit ⟨b, d.format⟩ 0 p.monitor (p.stations.take d.stages)
  obtain ⟨hpb, hpr⟩ := raised_passed hn d b
  rw [hk, passed, Journal.raised_append] at hpr
  have hcame := List.append_cancel_left hpr
  cases hf : (p.transitOf d b).failure with
  | none =>
    rw [hf] at hcame
    rw [forward_passed k hf]
    exact h.passAll hquiet hcame
  | some x =>
    obtain ⟨name, f⟩ := x
    obtain ⟨seen, i, hj⟩ := hlast name f hf
    -- only the stage that fails brings anything up, and it does so last
    change (p.transitOf d b).journal = _ at hj
    rw [hf, hj, Journal.raisedFrom_append] at hcame
    have hseen : Journal.raisedFrom names p.journal.bookmark seen = [] := by
      have hlen := congrArg List.length hcame
      simp only [Journal.raisedFrom, Bookmark.raised, Option.toList_some, List.length_append,
        List.length_cons, List.length_nil, List.append_nil] at hlen
      exact List.length_eq_zero_iff.1 (by omega)
    have hp : Prompt names (p.journal ++ seen) := by
      refine h.passAll ?_ hseen
      intro o ho
      refine hquiet o ?_
      change o ∈ (p.transitOf d b).journal
      rw [hj]
      exact List.mem_append_left _ ho
    have hsame : (p.journal ++ seen).raised names = p.journal.raised names := by
      rw [Journal.raised_append, hseen, List.append_nil]
    have hraised : (p.journal ++ seen).bookmark.raised names (.processed i b d.format (some f)) =
        some ⟨k, p.journal.bookmark.polls, .captureFault (name ++ ": " ++ f.message)⟩ := by
      rw [hseen, List.nil_append, ← Journal.bookmark_append] at hcame
      simpa only [Journal.raisedFrom, Bookmark.raised, Option.toList_some, List.append_nil,
        List.cons.injEq, and_true, Option.some.injEq] using hcame
    have hjournal : ((p.passed d b).log .error s!"Stage '{name}' failed: {f.message}").journal =
        p.journal ++ seen ++ .processed i b d.format (some f) ::
          [(⟨.error, s!"Stage '{name}' failed: {f.message}"⟩ : LogLine)].map .logged := by
      simp only [log, note, passed, hj]
      simp
    rw [forward_failed k hf]
    refine prompt_raise (x := ⟨k, _, _⟩) _ hp hraised hjournal ?_ ?_
    · exact (List.getElem?_eq_some_iff.1 hd).1
    · intro d' hd'
      rw [hsame]
      exact hl.fault k d' hd'

/-- **A signal is followed by the notice that is due**, and by no other. -/
theorem prompt_receive (hl : Latched names p) (hn : p.stageNames <+: names)
    (h : Prompt names p.journal) (s : Signal) : Prompt names (p.receive s).journal := by
  cases s with
  | buffer k b =>
    have hs : Prompt names (p.note (.signalled (.buffer k b))).journal :=
      prompt_note h rfl fun _ => rfl
    have hls : Latched names (p.note (.signalled (.buffer k b))) :=
      hl.note (fun _ => rfl) fun _ => rfl
    have hb : (p.note (.signalled (.buffer k b))).journal.bookmark.through = k := by
      rw [bookmark_note]
      rfl
    change Prompt names ((p.note (.signalled (.buffer k b))).receiveBuffer k b).journal
    rcases (p.note (.signalled (.buffer k b))).receiveBuffer_cases k b with
      hc | hc | hc | ⟨d, hd, hc⟩ <;> rw [hc]
    · exact hs
    · exact hs
    · exact hs
    · exact prompt_forward hls hn hs hd hb b
  | fault k f =>
    change Prompt names ((p.note (.signalled (.fault k f))).raise k f).journal
    by_cases hk : k < p.deliveries.length
    · have hx : p.journal.bookmark.raised names (.signalled (.fault k f)) =
          some ⟨k, p.journal.bookmark.polls, f⟩ := by
        simp only [Bookmark.raised, hl.handed, if_pos hk]
      exact prompt_raise (x := ⟨k, _, f⟩) [] h hx rfl hk (hl.fault k)
    · have hnone : (p.note (.signalled (.fault k f))).deliveries[k]? = none :=
        List.getElem?_eq_none (Nat.le_of_not_lt hk)
      unfold raise
      rw [hnone]
      refine h.pass rfl ?_
      intro x hx
      simp only [Bookmark.raised, hl.handed, if_neg hk] at hx
      cases hx
  | log l =>
    have hs : Prompt names (p.note (.signalled (.log l))).journal :=
      prompt_note h rfl fun _ => rfl
    exact prompt_note hs rfl fun _ => rfl

end Pipeline

/-! ## Lives -/

namespace Prompt

variable {σ : Type} {names : List String} {p q : Pipeline σ}

theorem of_tick (ht : Tick p q) (hl : Latched names p) (hn : q.stageNames <+: names)
    (h : Prompt names p.journal) : Prompt names q.journal := by
  cases ht with
  | source | enter | closeGate | format | station => exact h
  | hand source format failure =>
    exact Pipeline.prompt_note (p := { p.openGate format with source }) h rfl fun _ => rfl
  | call c failure => exact Pipeline.prompt_note h rfl fun _ => rfl
  | log => exact Pipeline.prompt_note h rfl fun _ => rfl
  | receive s =>
    have hs := congrArg Standing.stages (Pipeline.standing_receive p s)
    rw [Pipeline.stageNames_of_stages hs] at hn
    exact Pipeline.prompt_receive hl hn h s

end Prompt

/-- **Notice of first faults is given at once**, whatever a pipeline does. -/
theorem Ticks.prompt {σ : Type} {names : List String} {p q : Pipeline σ} (h : Ticks p q)
    (hn : q.stageNames <+: names) (hl : Latched names p) (hp : Prompt names p.journal) :
    Prompt names q.journal := by
  induction h with
  | refl => exact hp
  | @tail r q hr ht ih =>
    have hnames : r.stageNames <+: names := ht.stageNames.trans hn
    exact .of_tick ht (Ticks.latched hr hnames hl) hn (ih hnames)

namespace Pipeline

variable {σ : Type}

theorem latched_new (names : List String) (source : σ) :
    Latched names ({ source } : Pipeline σ) where
  handed := rfl
  known := nofun
  fault := nofun

variable [CaptureSource σ]

/-- **The first fault through each delivery, and no other, is passed on to whoever started it**, over
whatever source and in whatever order a pipeline is used: the source's own fault as it is, that of a
stage with the name of the stage. A notice has its reason right before it, apart from lines of the
log, and the reason is followed by the notice. A buffer that finds the gate open, at any moment and
after any faults, is counted as delivered and goes its way. -/
theorem notices_eq_first_faults (source : σ) (ops : List Operation) :
    let j := (lived source ops).journal
    let names := (lived source ops).stageNames
    (∀ k, j.notices k = (firstFault k (j.raised names)).toList) ∧
      (∀ (before after : Journal) k f, j = before ++ .faulted k f :: after →
        ∃ (earlier : Journal) (o : Occurrence) (lines : List LogLine) (x : Raised),
          before = earlier ++ o :: lines.map .logged ∧ earlier.bookmark.raised names o = some x ∧
            x.delivery = k ∧ x.fault = f ∧ firstFault k (earlier.raised names) = none) ∧
      (∀ (before after : Journal) o x, j = before ++ o :: after →
        before.bookmark.raised names o = some x →
        firstFault x.delivery (before.raised names) = none →
        ∃ (lines : List LogLine) (rest : Journal),
          after = lines.map .logged ++ .faulted x.delivery x.fault :: rest) ∧
      ∀ q, Ticks ({ source } : Pipeline σ) q → q.gateOpen = true →
        ∀ k d b, q.deliveries[k]? = some d → b.isEmpty = false →
          (q.receive (.buffer k b)).diagnostics = countDelivered q.diagnostics b ∧
            (q.receive (.buffer k b)).journal.processed = q.journal.processed ++
              route q.journal.processed ⟨b, d.format⟩ 0 (q.stages.take d.stages) := by
  intro j names
  have ht : Ticks ({ source } : Pipeline σ) (lived source ops) := performAll_ticks _ ops
  have hp : Prompt names j := ht.prompt (List.prefix_refl _) (latched_new _ source) .nil
  refine ⟨hp.notices, fun _ _ _ _ => hp.reason, fun _ _ _ _ => hp.notice, ?_⟩
  intro q hq hg k d b hd hb
  have hf : Faithful q := hq.faithful (.new source [])
  have hk : k < q.deliveries.length := (List.getElem?_eq_some_iff.1 hd).1
  have hin : q.doorway.intake (.buffer k b) = some ⟨k, b, true⟩ := by
    simp only [Doorway.intake, doorway, if_pos hk, hg]
  have hdelivered : (⟨k, b, true⟩ : Intake).isDelivered = true := by
    simp only [Intake.isDelivered, hb, Bool.not_false, Bool.and_self]
  obtain ⟨-, hcount, hway⟩ := receive_of_intake hf hin
  rw [if_pos hdelivered] at hcount
  refine ⟨hcount, ?_⟩
  rw [hway, way, handout_of_delivery hd]
  simp only [hdelivered, if_true]

/-- A source that reports two faults while it starts. -/
def faltering : Rehearsal :=
  { startFaults := [.captureFault "device lost", .captureFault "device gone"] }

theorem second_fault_not_noticed :
    (lived faltering [.openDevice, .start]).journal.notices 0 = [.captureFault "device lost"] ∧
      ((lived faltering [.openDevice, .start]).receive
        (.buffer 0 (.full [0, 0, 0, 0]))).diagnostics.buffersDelivered = 1 := by
  obtain ⟨hnotices, -, -, hbuffers⟩ := notices_eq_first_faults faltering [.openDevice, .start]
  have hdelivered := hbuffers _ (performAll_ticks _ [.openDevice, .start]) rfl 0
    ⟨0, ⟨48000, 32, 2⟩, some (.captureFault "device lost")⟩ (.full [0, 0, 0, 0]) rfl rfl
  exact ⟨(hnotices 0).trans rfl, congrArg Diagnostics.buffersDelivered hdelivered.1⟩

end Pipeline

end AirLoop
