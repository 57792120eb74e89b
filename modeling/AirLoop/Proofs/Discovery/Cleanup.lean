import AirLoop.Proofs.Discovery.Roster

/-!
# Cleaning up after a look around

A look around goes one of four ways (`Goes`). On all of them but the one that has no deadline the
daemon is shut down in the end if there is one, and before that the browse is stopped if it was
begun (`Tidied`). Only a daemon that cannot be created or cannot browse makes it fail. Whatever else
fails, and whatever events come, no receiver that was found before is lost
(`discover_cleans_up`).
-/

namespace AirLoop

/-! ## Receivers are only added -/

theorem Sweep.devices_hear (s : Sweep) (e : BrowseEvent) : s.devices <+: (s.hear e).devices := by
  cases e with
  | resolved r =>
    change s.devices <+: (s.accept r).unlogged.devices
    rcases s.accept_cases r with ⟨-, h⟩ | ⟨-, h⟩ | ⟨-, -, d, -, h⟩
    · rw [h]
      exact List.prefix_rfl
    · rw [h]
      exact List.prefix_rfl
    · rw [h]
      exact List.prefix_append _ _
  | _ => exact List.prefix_rfl

theorem Sweep.devices_hearAll (s : Sweep) (es : List BrowseEvent) :
    s.devices <+: (s.hearAll es).devices := by
  induction es generalizing s with
  | nil => exact List.prefix_rfl
  | cons e es ih => exact (s.devices_hear e).trans (ih (s.hear e))

namespace DaemonStep

/-- The events among some steps. -/
def events (steps : List DaemonStep) : List BrowseEvent :=
  steps.filterMap fun
    | called .. => none
    | awaited _ event => event

theorem events_append (xs ys : List DaemonStep) : events (xs ++ ys) = events xs ++ events ys :=
  List.filterMap_append

/-- Steps without calls have none that went well or failed. -/
theorem called_not_mem {steps : List DaemonStep} (h : calls steps = []) (call : DaemonCall)
    (failure : Option String) : called call failure ∉ steps := by
  intro hm
  have hc : call ∈ calls steps := List.mem_filterMap.2 ⟨_, hm, rfl⟩
  rw [h] at hc
  cases hc

end DaemonStep

namespace Network

/-- What is kept are the receivers of the events that came. -/
theorem collect_events (timeout elapsed : Nat) (s : Sweep) (rs : List Reception) :
    (collect timeout elapsed s rs).1 =
      s.hearAll (DaemonStep.events (collect timeout elapsed s rs).2) := by
  induction elapsed, s, rs using collect.induct timeout with
  | case1 elapsed s =>
    rcases Nat.lt_or_ge elapsed timeout with h | h
    · rw [collect_nil h]; rfl
    · rw [collect_over h]; rfl
  | case2 elapsed s r rest h => rw [collect_over h]; rfl
  | case3 elapsed s r rest h hr => rw [collect_failed (Nat.not_le.1 h) hr]; rfl
  | case4 elapsed s r rest h e hr kept steps hc ih =>
    rw [collect_come (Nat.not_le.1 h) hr]
    exact ih

/-- Whatever comes after some waits is collected on top of what they brought. -/
theorem collect_append (timeout elapsed : Nat) (s : Sweep) (before more : List Reception) :
    ∃ later, (collect timeout elapsed s (before ++ more)).1 =
      (collect timeout later (collect timeout elapsed s before).1 more).1 := by
  induction elapsed, s, before using collect.induct timeout with
  | case1 elapsed s => exact ⟨elapsed, rfl⟩
  | case2 elapsed s r rest h =>
    refine ⟨elapsed, ?_⟩
    rw [collect_over h, collect_over h, collect_over h]
  | case3 elapsed s r rest h hr =>
    -- nothing more is waited for, as if the time were over
    have ht : elapsed < timeout := Nat.not_le.1 h
    refine ⟨timeout, ?_⟩
    rw [List.cons_append, collect_failed ht hr, collect_failed ht hr,
      collect_over (Nat.le_refl timeout)]
  | case4 elapsed s r rest h e hr kept steps hc ih =>
    have ht : elapsed < timeout := Nat.not_le.1 h
    rw [List.cons_append, collect_come ht hr, collect_come ht hr]
    exact ih

/-- **What comes later takes nothing away** from what was kept before. -/
theorem devices_collect_append (timeout elapsed : Nat) (s : Sweep) (before more : List Reception) :
    (collect timeout elapsed s before).1.devices <+:
      (collect timeout elapsed s (before ++ more)).1.devices := by
  obtain ⟨later, h⟩ := collect_append timeout elapsed s before more
  rw [h, collect_events timeout later]
  exact Sweep.devices_hearAll ..

/-- **A wait that fails** comes to the same as the end of all that comes in. -/
theorem collect_failing (timeout elapsed : Nat) (s : Sweep) (before after : List Reception)
    {r : Reception} (hr : r.event = none) :
    (collect timeout elapsed s (before ++ r :: after)).1 =
      (collect timeout elapsed s before).1 := by
  obtain ⟨later, h⟩ := collect_append timeout elapsed s before (r :: after)
  rw [h]
  rcases Nat.lt_or_ge later timeout with ht | ht
  · rw [collect_failed ht hr]
  · rw [collect_over ht]

/-! ## The ways of a look around -/

/-- How a look around can go. -/
inductive Goes (n : Network) (serviceType : String) (timeout : Duration) (d : Discovery) :
    Prop where
  | uncreated (e : String) : n.daemonFailure = some e →
      d.ending = .failed (.discoveryFailure ("mDNS daemon failed to start: " ++ e)) →
      d.steps = [.called .create (some e)] → Goes n serviceType timeout d
  | unbrowsed (e : String) : n.daemonFailure = none → n.browseFailure = some e →
      d.ending = .failed (.discoveryFailure s!"browse for {serviceType} failed: {e}") →
      d.steps = [.called .create none, .called (.browse serviceType) (some e),
        .called .shutdown n.shutdownFailure] → Goes n serviceType timeout d
  | endless : d.ending = .deadlineOverflow → Goes n serviceType timeout d
  | swept : n.Sweeps timeout → d.ending = .found (n.collected serviceType timeout).1.devices →
      d.steps =
        [.called .create none, .called (.browse serviceType) none] ++
          (n.collected serviceType timeout).2 ++
            [.called (.stopBrowse serviceType) n.stopFailure,
              .called .shutdown n.shutdownFailure] → Goes n serviceType timeout d

theorem goes (n : Network) (serviceType : String) (timeout : Duration) :
    Goes n serviceType timeout (n.discover serviceType timeout) := by
  cases hd : n.daemonFailure with
  | some e =>
    refine .uncreated e hd ?_ ?_ <;> simp only [discover, hd]
  | none =>
    cases hb : n.browseFailure with
    | some e =>
      refine .unbrowsed e hd hb ?_ ?_ <;> simp only [discover, hd, hb]
    | none =>
      by_cases ho : clockLimit ≤ (⟨n.clock.nanos + timeout.nanos⟩ : Duration).wholeSeconds
      · refine .endless ?_
        simp only [discover, hd, hb, if_pos ho]
      · have hsweeps : n.Sweeps timeout := ⟨hd, hb, Nat.lt_of_not_le ho⟩
        refine .swept hsweeps (ending_of_collected hsweeps serviceType) ?_
        simp only [discover, hd, hb, if_neg ho, collected]
        rfl

/-- Nothing is left behind. A daemon that was created is shut down once, by the last step, and a
browse that was begun is stopped once, by the step just before; otherwise neither is asked for. -/
structure Tidied (n : Network) (serviceType : String) (steps : List DaemonStep) : Prop where
  shutDown :
    if .called .create none ∈ steps then
      ∃ before, steps = before ++ [.called .shutdown n.shutdownFailure] ∧
        .shutdown ∉ DaemonStep.calls before
    else .shutdown ∉ DaemonStep.calls steps
  stopped :
    if .called (.browse serviceType) none ∈ steps then
      ∃ before, steps = before ++ [.called (.stopBrowse serviceType) n.stopFailure,
          .called .shutdown n.shutdownFailure] ∧
        ∀ t, .stopBrowse t ∉ DaemonStep.calls before
    else ∀ t, .stopBrowse t ∉ DaemonStep.calls steps

variable {n : Network} {serviceType : String} {timeout : Duration} {d : Discovery}

theorem Goes.tidied (h : Goes n serviceType timeout d) (hr : d.ending ≠ .deadlineOverflow) :
    Tidied n serviceType d.steps := by
  cases h with
  | uncreated e _ _ hs =>
    rw [hs]
    constructor <;> simp
  | unbrowsed e _ _ _ hs =>
    rw [hs]
    constructor
    · rw [if_pos (by simp)]
      exact ⟨[.called .create none, .called (.browse serviceType) (some e)], rfl, by simp⟩
    · simp
  | endless he => exact absurd he hr
  | swept _ _ hs =>
    have hwaits : DaemonStep.calls (n.collected serviceType timeout).2 = [] := calls_collect ..
    rw [hs]
    constructor
    · rw [if_pos (by simp)]
      refine ⟨[.called .create none, .called (.browse serviceType) none] ++
        (n.collected serviceType timeout).2 ++
          [.called (.stopBrowse serviceType) n.stopFailure], by simp, ?_⟩
      simp [hwaits]
    · rw [if_pos (by simp)]
      exact ⟨_, rfl, by simp [hwaits]⟩

/-- What a look around fails with, read off its steps. -/
theorem Goes.failed_iff (h : Goes n serviceType timeout d) (hr : d.ending ≠ .deadlineOverflow)
    (f : Fault) : d.ending = .failed f ↔
      (∃ e, .called .create (some e) ∈ d.steps ∧
        f = .discoveryFailure ("mDNS daemon failed to start: " ++ e)) ∨
      ∃ e, .called (.browse serviceType) (some e) ∈ d.steps ∧
        f = .discoveryFailure s!"browse for {serviceType} failed: {e}" := by
  cases h with
  | uncreated e _ he hs =>
    rw [he, hs]
    simp [eq_comm]
  | unbrowsed e _ _ he hs =>
    rw [he, hs]
    simp [eq_comm]
  | endless he => exact absurd he hr
  | swept _ he hs =>
    have hno := DaemonStep.called_not_mem
      (calls_collect timeout.nanos 0 { serviceType } n.receptions)
    rw [he, hs]
    simp [collected, hno]

/-- The daemon is asked for, and a daemon that was created is asked to browse; they fail as the
network has it. -/
theorem Goes.asked_iff (h : Goes n serviceType timeout d) (hr : d.ending ≠ .deadlineOverflow)
    (failure : Option String) :
    (.called .create failure ∈ d.steps ↔ failure = n.daemonFailure) ∧
      (.called (.browse serviceType) failure ∈ d.steps ↔
        n.daemonFailure = none ∧ failure = n.browseFailure) := by
  cases h with
  | uncreated e hd _ hs =>
    rw [hd, hs]
    simp
  | unbrowsed e hd hb _ hs =>
    rw [hd, hb, hs]
    simp
  | endless he => exact absurd he hr
  | swept hsweeps _ hs =>
    have hno := DaemonStep.called_not_mem
      (calls_collect timeout.nanos 0 { serviceType } n.receptions)
    rw [hsweeps.daemon, hsweeps.browse, hs]
    simp [collected, hno]

theorem Goes.found (h : Goes n serviceType timeout d) (hr : d.ending ≠ .deadlineOverflow)
    (hb : .called (.browse serviceType) none ∈ d.steps) :
    d.ending = .found (({ serviceType } : Sweep).hearAll (DaemonStep.events d.steps)).devices := by
  cases h with
  | uncreated e _ _ hs =>
    rw [hs] at hb
    simp at hb
  | unbrowsed e _ _ _ hs =>
    rw [hs] at hb
    simp at hb
  | endless he => exact absurd he hr
  | swept _ he hs =>
    have hevents : DaemonStep.events d.steps =
        DaemonStep.events (n.collected serviceType timeout).2 := by
      rw [hs, DaemonStep.events_append, DaemonStep.events_append]
      exact List.append_nil _
    rw [he, hevents, collected, collect_events]

/-! ## What cannot change the result -/

/-- Which receivers are found, and whether any are, is decided before the clean-up. -/
theorem ending_congr {m : Network} (hd : m.daemonFailure = n.daemonFailure)
    (hb : m.browseFailure = n.browseFailure) (hc : m.clock = n.clock)
    (hs : (m.collected serviceType timeout).1 = (n.collected serviceType timeout).1) :
    (m.discover serviceType timeout).ending = (n.discover serviceType timeout).ending := by
  unfold collected at hs
  simp only [discover, hd, hb, hc]
  cases n.daemonFailure with
  | some e => rfl
  | none =>
    cases n.browseFailure with
    | some e => rfl
    | none =>
      dsimp only
      split
      · rfl
      · simp only [hs]

theorem sweeps_of_found {devices : List Receiver}
    (h : (n.discover serviceType timeout).ending = .found devices) :
    n.Sweeps timeout ∧ devices = (n.collected serviceType timeout).1.devices := by
  rcases n.goes serviceType timeout with ⟨_, _, he, _⟩ | ⟨_, _, _, he, _⟩ | he | ⟨hs, he, _⟩ <;>
    rw [h] at he
  · cases he
  · cases he
  · cases he
  · exact ⟨hs, DiscoveryEnd.found.inj he⟩

/-- **Whenever a look around comes to an end it has cleaned up**, and only the lack of a daemon, or
of browsing, makes it fail; the network decides which of the two there are. Otherwise it finds the
receivers of the events that it waited for: the same whether the clean-up fails or not, and when a
wait fails, those of the events before; whatever comes later takes none of them away. -/
theorem discover_cleans_up (n : Network) (serviceType : String) (timeout : Duration)
    (h : (n.discover serviceType timeout).ending ≠ .deadlineOverflow) :
    let d := n.discover serviceType timeout
    Tidied n serviceType d.steps ∧
      (∀ failure, .called .create failure ∈ d.steps ↔ failure = n.daemonFailure) ∧
      (∀ failure, .called (.browse serviceType) failure ∈ d.steps ↔
        n.daemonFailure = none ∧ failure = n.browseFailure) ∧
      (∀ f, d.ending = .failed f ↔
        (∃ e, .called .create (some e) ∈ d.steps ∧
          f = .discoveryFailure ("mDNS daemon failed to start: " ++ e)) ∨
        ∃ e, .called (.browse serviceType) (some e) ∈ d.steps ∧
          f = .discoveryFailure s!"browse for {serviceType} failed: {e}") ∧
      (.called (.browse serviceType) none ∈ d.steps → d.ending =
        .found (({ serviceType } : Sweep).hearAll (DaemonStep.events d.steps)).devices) ∧
      (∀ stopFailure shutdownFailure,
        (({ n with stopFailure, shutdownFailure } : Network).discover serviceType timeout).ending =
          d.ending) ∧
      (∀ before r after, n.receptions = before ++ r :: after → r.event = none →
        (({ n with receptions := before } : Network).discover serviceType timeout).ending =
          d.ending) ∧
      ∀ before more devices, n.receptions = before ++ more →
        (({ n with receptions := before } : Network).discover serviceType timeout).ending =
          .found devices →
        ∃ later, d.ending = .found (devices ++ later) := by
  intro d
  have hgoes : Goes n serviceType timeout d := n.goes serviceType timeout
  refine ⟨hgoes.tidied h, fun failure => (hgoes.asked_iff h failure).1,
    fun failure => (hgoes.asked_iff h failure).2, hgoes.failed_iff h, hgoes.found h, ?_, ?_, ?_⟩
  · intro stopFailure shutdownFailure
    exact ending_congr rfl rfl rfl rfl
  · intro before r after hr hfails
    refine ending_congr rfl rfl rfl ?_
    rw [collected, collected, hr, collect_failing _ _ _ _ _ hfails]
  · intro before more devices hr hfound
    obtain ⟨hsweeps, rfl⟩ := sweeps_of_found hfound
    have hsweeps' : n.Sweeps timeout := ⟨hsweeps.daemon, hsweeps.browse, hsweeps.deadline⟩
    obtain ⟨later, hlater⟩ :=
      devices_collect_append timeout.nanos 0 { serviceType } before more
    refine ⟨later, ?_⟩
    rw [show d.ending = _ from ending_of_collected hsweeps' serviceType]
    simp only [collected, hr]
    rw [hlater]

/-- A network on which the second wait fails, and then both clean-up calls. -/
def forlorn : Network where
  stopFailure := some "no such browse"
  shutdownFailure := some "channel closed"
  receptions :=
    [⟨⟨5⟩, some (.resolved ⟨"A._raop._tcp.local.", "a.local.", 5000, ["10.0.0.7"]⟩)⟩,
      ⟨⟨5⟩, none⟩,
      ⟨⟨5⟩, some (.resolved ⟨"B._raop._tcp.local.", "b.local.", 7000, ["10.0.0.8"]⟩)⟩]

theorem discover_cleans_up_after_failed_wait :
    let d := forlorn.discover "_raop._tcp.local." ⟨20⟩
    d.ending ≠ .deadlineOverflow ∧ Tidied forlorn "_raop._tcp.local." d.steps ∧
      .called .create none ∈ d.steps ∧ .called (.browse "_raop._tcp.local.") none ∈ d.steps ∧
      (({ forlorn with receptions := forlorn.receptions.take 1 } : Network).discover
        "_raop._tcp.local." ⟨20⟩).ending = d.ending ∧
      ∃ later, d.ending = .found ([⟨"A", .v4 #v[10, 0, 0, 7], 5000, "a.local."⟩] ++ later) := by
  intro d
  have h : d.ending ≠ .deadlineOverflow := by decide
  obtain ⟨htidied, hcreated, hbrowsed, -, -, -, hfails, hlater⟩ :=
    discover_cleans_up forlorn "_raop._tcp.local." ⟨20⟩ h
  exact ⟨h, htidied, (hcreated none).2 rfl, (hbrowsed none).2 ⟨rfl, rfl⟩, hfails _ _ _ rfl rfl,
    hlater (forlorn.receptions.take 1) _ _ rfl (by decide)⟩

end Network

end AirLoop
