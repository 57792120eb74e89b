import Mathlib.Data.List.Forall2
import Mathlib.Data.List.Induction
import Mathlib.Data.List.Nodup
import AirLoop.Discovery.Sweep

/-!
# Whom a sweep finds

A sweep keeps one record for each full name that comes with an address that can be read, made of the
first resolution that has one, in the order in which these come (`Roster`). Whatever else a daemon
tells leaves no trace in the result (`unlogged_hear_of_idle`), so that the result of a sweep is told
by the events that come before its end (`sweep_finds_roster`).
-/

namespace AirLoop

/-! ## Usable resolutions -/

theorem preferredAddress?_eq_none {addresses : List IpAddress} :
    preferredAddress? addresses = none ↔ addresses = [] := by
  cases addresses with
  | nil => exact iff_of_true rfl rfl
  | cons a rest =>
    refine iff_of_false ?_ nofun
    unfold preferredAddress?
    split <;> exact nofun

namespace Resolution

/-- The addresses that can be read. -/
def readable (r : Resolution) : List IpAddress := r.addresses.filterMap IpAddress.parse?

/-- A resolution with an address that can be read. -/
def isUsable (r : Resolution) : Bool := r.addresses.any fun a => (IpAddress.parse? a).isSome

theorem isUsable_iff {r : Resolution} : r.isUsable = true ↔ r.readable ≠ [] := by
  simp only [isUsable, readable, List.any_eq_true, ne_eq, List.filterMap_eq_nil_iff, not_forall,
    Option.isSome_iff_ne_none, exists_prop]

/-- The record that is made of a resolution. -/
structure Makes (serviceType : String) (r : Resolution) (d : Receiver) : Prop where
  displayName : d.displayName = AirLoop.displayName r.fullname serviceType
  port : d.port = r.port
  hostName : d.hostName = r.hostName
  address : preferredAddress? r.readable = some d.address

end Resolution

namespace BrowseEvent

/-- The resolution that an event tells of, if it is usable. -/
def usable? : BrowseEvent → Option Resolution
  | resolved r => if r.isUsable then some r else none
  | found .. | removed .. | searchStarted _ | searchStopped _ => none

/-- The usable resolutions among some events. -/
def usable (es : List BrowseEvent) : List Resolution := es.filterMap usable?

/-- Their full names, each where it first appears. -/
def fullnames (es : List BrowseEvent) : List String := ((usable es).map (·.fullname)).eraseDups

/-- After these events this one tells nothing new: it is no usable resolution, or one of a full name
that was told before. -/
def Idle (before : List BrowseEvent) (e : BrowseEvent) : Prop :=
  ∀ r, e.usable? = some r → r.fullname ∈ fullnames before

variable {es : List BrowseEvent}

theorem mem_fullnames {name : String} :
    name ∈ fullnames es ↔ ∃ r ∈ usable es, r.fullname = name := by
  rw [fullnames, List.mem_eraseDups, List.mem_map]

theorem usable_snoc (e : BrowseEvent) : usable (es ++ [e]) = usable es ++ e.usable?.toList := by
  rw [usable, List.filterMap_append]
  cases h : e.usable? <;> simp [usable, h]

theorem fullnames_snoc_of_idle {e : BrowseEvent} (h : e.Idle es) :
    fullnames (es ++ [e]) = fullnames es := by
  rw [fullnames, usable_snoc]
  cases hr : e.usable? with
  | none => rw [Option.toList_none, List.append_nil, fullnames]
  | some r =>
    have hmem : r.fullname ∈ (usable es).map (·.fullname) := List.mem_eraseDups.1 (h r hr)
    simp only [Option.toList_some, List.map_append, List.map_cons, List.map_nil,
      List.eraseDups_append, List.removeAll, List.filter_cons, List.elem_eq_mem, hmem, decide_true,
      Bool.not_true, Bool.false_eq_true, if_false, List.filter_nil, List.eraseDups_nil,
      List.append_nil, fullnames]

theorem fullnames_snoc_of_new {e : BrowseEvent} {r : Resolution} (hr : e.usable? = some r)
    (h : r.fullname ∉ fullnames es) : fullnames (es ++ [e]) = fullnames es ++ [r.fullname] := by
  have hmem : r.fullname ∉ (usable es).map (·.fullname) := fun hm => h (List.mem_eraseDups.2 hm)
  rw [fullnames, usable_snoc, hr]
  simp only [Option.toList_some, List.map_append, List.map_cons, List.map_nil,
    List.eraseDups_append, List.removeAll, List.filter_cons, List.elem_eq_mem, hmem, decide_false,
    Bool.not_false, if_true, List.filter_nil, fullnames]
  rfl

theorem nodup_fullnames (es : List BrowseEvent) : (fullnames es).Nodup := by
  induction es using List.reverseRecOn with
  | nil => exact .nil
  | append_singleton es e ih =>
    by_cases he : e.Idle es
    · rwa [fullnames_snoc_of_idle he]
    · simp only [Idle, not_forall] at he
      obtain ⟨r, hr, hnew⟩ := he
      rw [fullnames_snoc_of_new hr hnew]
      exact List.concat_eq_append ▸ List.Nodup.concat hnew ih

end BrowseEvent

/-! ## Rosters -/

/-- The records of a roster: one for each full name, in the order of their first appearance, made of
the first usable resolution of that name. -/
def Roster (serviceType : String) (es : List BrowseEvent) (devices : List Receiver) : Prop :=
  List.Forall₂
    (fun name d => ∃ r, (BrowseEvent.usable es).find? (·.fullname = name) = some r ∧
      r.Makes serviceType d)
    (BrowseEvent.fullnames es) devices

namespace Roster

variable {serviceType : String} {es : List BrowseEvent} {devices : List Receiver}

/-- The first resolution of a full name stays the first. -/
theorem find?_snoc {name : String} {r : Resolution} (e : BrowseEvent)
    (h : (BrowseEvent.usable es).find? (·.fullname = name) = some r) :
    (BrowseEvent.usable (es ++ [e])).find? (·.fullname = name) = some r := by
  rw [BrowseEvent.usable_snoc, List.find?_append, h, Option.some_or]

theorem idle {e : BrowseEvent} (h : Roster serviceType es devices) (he : e.Idle es) :
    Roster serviceType (es ++ [e]) devices := by
  unfold Roster
  rw [BrowseEvent.fullnames_snoc_of_idle he]
  refine h.imp ?_
  rintro name d ⟨r, hr, hd⟩
  exact ⟨r, find?_snoc e hr, hd⟩

theorem new {e : BrowseEvent} {r : Resolution} {d : Receiver} (h : Roster serviceType es devices)
    (he : e.usable? = some r) (hr : r.fullname ∉ BrowseEvent.fullnames es)
    (hd : r.Makes serviceType d) : Roster serviceType (es ++ [e]) (devices ++ [d]) := by
  unfold Roster
  rw [BrowseEvent.fullnames_snoc_of_new he hr]
  refine List.rel_append (h.imp ?_) (.cons ⟨r, ?_, hd⟩ .nil)
  · rintro name d ⟨q, hq, hd⟩
    exact ⟨q, find?_snoc e hq, hd⟩
  have hnone : (BrowseEvent.usable es).find? (·.fullname = r.fullname) = none := by
    refine List.find?_eq_none.2 ?_
    intro q hq hname
    exact hr (BrowseEvent.mem_fullnames.2 ⟨q, hq, of_decide_eq_true hname⟩)
  rw [BrowseEvent.usable_snoc, he, List.find?_append, hnone, Option.none_or]
  simp

end Roster

/-! ## Hearing events -/

namespace Sweep

/-- The sweep after some events. -/
def hearAll (s : Sweep) (es : List BrowseEvent) : Sweep := es.foldl hear s

/-- A sweep without its log. -/
def unlogged (s : Sweep) : Sweep := { s with log := [] }

/-- What a resolution does to a sweep: nothing if its full name is known, a line in the log if it is
not usable, and else it is kept. -/
theorem accept_cases (s : Sweep) (r : Resolution) :
    (r.fullname ∈ s.seen ∧ s.accept r = s) ∨
      (r.isUsable = false ∧ (s.accept r).unlogged = s.unlogged) ∨
      (r.fullname ∉ s.seen ∧ r.isUsable = true ∧ ∃ d, r.Makes s.serviceType d ∧
        (s.accept r).unlogged =
          { s.unlogged with seen := s.seen ++ [r.fullname], devices := s.devices ++ [d] }) := by
  unfold accept
  by_cases hk : r.fullname ∈ s.seen
  · exact .inl ⟨hk, if_pos hk⟩
  · rw [if_neg hk]
    cases ha : preferredAddress? (r.addresses.filterMap IpAddress.parse?) with
    | none =>
      have hn : r.readable = [] := preferredAddress?_eq_none.1 ha
      exact .inr (.inl ⟨Bool.eq_false_iff.2 fun hu => Resolution.isUsable_iff.1 hu hn, rfl⟩)
    | some address =>
      have hu : r.isUsable = true := by
        refine Resolution.isUsable_iff.2 fun hn => ?_
        rw [Resolution.readable] at hn
        rw [hn] at ha
        cases ha
      have hd : r.Makes s.serviceType
          ⟨displayName r.fullname s.serviceType, address, r.port, r.hostName⟩ := ⟨rfl, rfl, rfl, ha⟩
      exact .inr (.inr ⟨hk, hu, _, hd, rfl⟩)

/-- What a sweep keeps does not depend on its log. -/
theorem unlogged_hear (s : Sweep) (e : BrowseEvent) :
    (s.hear e).unlogged = (s.unlogged.hear e).unlogged := by
  cases e with
  | resolved r =>
    change (s.accept r).unlogged = (s.unlogged.accept r).unlogged
    unfold accept
    by_cases hk : r.fullname ∈ s.seen
    · rw [if_pos hk, if_pos (show r.fullname ∈ s.unlogged.seen from hk)]
      rfl
    · rw [if_neg hk, if_neg (show r.fullname ∉ s.unlogged.seen from hk)]
      cases preferredAddress? (r.addresses.filterMap IpAddress.parse?) <;> rfl
  | _ => rfl

theorem unlogged_hearAll (s : Sweep) (es : List BrowseEvent) :
    (s.hearAll es).unlogged = (s.unlogged.hearAll es).unlogged := by
  induction es generalizing s with
  | nil => rfl
  | cons e es ih =>
    change ((s.hear e).hearAll es).unlogged = ((s.unlogged.hear e).hearAll es).unlogged
    rw [ih, unlogged_hear, ← ih]

theorem hearAll_append (s : Sweep) (xs ys : List BrowseEvent) :
    s.hearAll (xs ++ ys) = (s.hearAll xs).hearAll ys :=
  List.foldl_append ..

/-- A sweep that has heard these events has their full names in mind and keeps their roster. -/
structure Heard (serviceType : String) (es : List BrowseEvent) (s : Sweep) : Prop where
  lookedFor : s.serviceType = serviceType
  seen : s.seen = BrowseEvent.fullnames es
  roster : Roster serviceType es s.devices

namespace Heard

variable {serviceType : String} {es : List BrowseEvent} {s t : Sweep}

theorem congr (h : Heard serviceType es s) (ht : t.unlogged = s.unlogged) :
    Heard serviceType es t := by
  have hserviceType := congrArg Sweep.serviceType ht
  have hseen := congrArg Sweep.seen ht
  have hdevices := congrArg Sweep.devices ht
  exact ⟨hserviceType.trans h.lookedFor, hseen.trans h.seen, hdevices.symm ▸ h.roster⟩

/-- An event that tells nothing new changes the log at most. -/
theorem unlogged_hear_of_idle (h : Heard serviceType es s) {e : BrowseEvent} (he : e.Idle es) :
    (s.hear e).unlogged = s.unlogged := by
  cases e with
  | resolved r =>
    rcases s.accept_cases r with ⟨-, hr⟩ | ⟨-, hr⟩ | ⟨hk, hu, -⟩
    · exact congrArg unlogged hr
    · exact hr
    · rw [h.seen] at hk
      exact absurd (he r (if_pos hu)) hk
  | _ => rfl

theorem idle (h : Heard serviceType es s) {e : BrowseEvent} (he : e.Idle es) :
    Heard serviceType (es ++ [e]) (s.hear e) := by
  refine congr ?_ (h.unlogged_hear_of_idle he)
  exact ⟨h.lookedFor, h.seen.trans (BrowseEvent.fullnames_snoc_of_idle he).symm, h.roster.idle he⟩

theorem hear (h : Heard serviceType es s) (e : BrowseEvent) :
    Heard serviceType (es ++ [e]) (s.hear e) := by
  cases e with
  | resolved r =>
    rcases s.accept_cases r with ⟨hk, -⟩ | ⟨hu, -⟩ | ⟨hk, hu, d, hd, hr⟩
    · refine h.idle fun q hq => ?_
      obtain rfl : r = q := (Option.ite_some_none_eq_some.1 hq).2
      exact h.seen ▸ hk
    · refine h.idle fun q hq => ?_
      rw [BrowseEvent.usable?, hu] at hq
      cases hq
    · have he : (BrowseEvent.resolved r).usable? = some r := if_pos hu
      rw [h.seen] at hk
      rw [h.lookedFor] at hd
      refine congr (s := { s with seen := s.seen ++ [r.fullname], devices := s.devices ++ [d] })
        ⟨h.lookedFor, ?_, h.roster.new he hk hd⟩ hr
      rw [BrowseEvent.fullnames_snoc_of_new he hk, h.seen]
  | _ => exact h.idle nofun

end Heard

/-- **A sweep keeps the roster of the events that it hears**, by induction on them. -/
theorem heard_hearAll (serviceType : String) (es : List BrowseEvent) :
    Heard serviceType es (({ serviceType } : Sweep).hearAll es) := by
  induction es using List.reverseRecOn with
  | nil => exact ⟨rfl, rfl, .nil⟩
  | append_singleton es e ih =>
    rw [hearAll_append]
    exact ih.hear e

/-- An event that tells nothing new can be left out. -/
theorem devices_hearAll_of_idle (serviceType : String) {before : List BrowseEvent} {e : BrowseEvent}
    (he : e.Idle before) (after : List BrowseEvent) :
    (({ serviceType } : Sweep).hearAll (before ++ e :: after)).devices =
      (({ serviceType } : Sweep).hearAll (before ++ after)).devices := by
  have hskip := (heard_hearAll serviceType before).unlogged_hear_of_idle he
  rw [hearAll_append, hearAll_append]
  change ((Sweep.hear _ e).hearAll after).unlogged.devices =
    (Sweep.hearAll _ after).unlogged.devices
  rw [unlogged_hearAll, hskip, ← unlogged_hearAll]

end Sweep

/-! ## Sweeps of a network -/

namespace Network

/-- When each wait for an event begins, and when the last one is over. -/
def begins (start : Nat) (receptions : List Reception) : List Nat :=
  receptions.scanl (fun t r => t + r.takes.nanos) start

/-- A wait that begins before the deadline and does not fail. -/
def inTime (timeout : Nat) (wait : Reception × Nat) : Bool :=
  decide (wait.2 < timeout) && wait.1.event.isSome

/-- The events that are received before the sweep ends: those of the waits up to the first that
begins after the deadline, or that fails. -/
def received (n : Network) (timeout : Duration) : List BrowseEvent :=
  ((n.receptions.zip (begins 0 n.receptions)).takeWhile (inTime timeout.nanos)).filterMap (·.1.event)

/-- A sweep takes place: there is a daemon that browses, and a deadline. -/
structure Sweeps (n : Network) (timeout : Duration) : Prop where
  daemon : n.daemonFailure = none
  browse : n.browseFailure = none
  deadline : (⟨n.clock.nanos + timeout.nanos⟩ : Duration).wholeSeconds < clockLimit

/-- What is taken in are the events that are received. -/
theorem collect_eq (timeout elapsed : Nat) (s : Sweep) (rs : List Reception) :
    (collect timeout elapsed s rs).1 =
      s.hearAll
        (((rs.zip (begins elapsed rs)).takeWhile (inTime timeout)).filterMap (·.1.event)) := by
  induction rs generalizing elapsed s with
  | nil => rfl
  | cons r rest ih =>
    rw [begins, List.scanl_cons, List.zip_cons_cons, ← begins, List.takeWhile_cons]
    rcases Nat.lt_or_ge elapsed timeout with ht | ht
    · cases he : r.event with
      | none =>
        have hfails : inTime timeout (r, elapsed) = false := by simp [inTime, he]
        rw [collect_failed ht he, hfails]
        rfl
      | some e =>
        have hcomes : inTime timeout (r, elapsed) = true := by simp [inTime, ht, he]
        rw [collect_come ht he, if_pos hcomes, List.filterMap_cons, he]
        exact ih ..
    · have hlate : inTime timeout (r, elapsed) = false := by simp [inTime, Nat.not_lt.2 ht]
      rw [collect_over ht, hlate]
      rfl

/-- What is kept of all that comes in, and the waits for it. -/
def collected (n : Network) (serviceType : String) (timeout : Duration) :
    Sweep × List DaemonStep :=
  collect timeout.nanos 0 { serviceType } n.receptions

theorem ending_of_collected {n : Network} {timeout : Duration} (h : n.Sweeps timeout)
    (serviceType : String) : (n.discover serviceType timeout).ending =
      .found (n.collected serviceType timeout).1.devices := by
  simp only [discover, h.daemon, h.browse, if_neg (Nat.not_le.2 h.deadline), collected]

theorem ending_of_sweeps {n : Network} {timeout : Duration} (h : n.Sweeps timeout)
    (serviceType : String) : (n.discover serviceType timeout).ending =
      .found (({ serviceType } : Sweep).hearAll (n.received timeout)).devices := by
  rw [ending_of_collected h, collected, collect_eq]
  rfl

/-- **Whom every sweep finds.** A sweep finds the roster of the events that are received before its
end. An event that tells nothing new changes nothing, wherever it comes: a sweep that receives all
but it finds the same. -/
theorem sweep_finds_roster (n : Network) (serviceType : String) (timeout : Duration)
    (h : n.Sweeps timeout) :
    ∃ devices, (n.discover serviceType timeout).ending = .found devices ∧
      Roster serviceType (n.received timeout) devices ∧
      (BrowseEvent.fullnames (n.received timeout)).Nodup ∧
      ∀ before e after, n.received timeout = before ++ e :: after → e.Idle before →
        ∀ (m : Network) (timeout' : Duration), m.Sweeps timeout' →
          m.received timeout' = before ++ after →
          (m.discover serviceType timeout').ending = .found devices := by
  refine ⟨_, ending_of_sweeps h serviceType, (Sweep.heard_hearAll serviceType _).roster,
    BrowseEvent.nodup_fullnames _, ?_⟩
  intro before e after hr he m timeout' hm hr'
  rw [ending_of_sweeps hm, hr, hr', Sweep.devices_hearAll_of_idle serviceType he]

/-- A network on which one instance resolves before its address is known, and another goes again
after it was found. -/
def elusive : Network where
  receptions :=
    [⟨⟨5⟩, some (.resolved ⟨"B._raop._tcp.local.", "b.local.", 7000, []⟩)⟩,
      ⟨⟨5⟩, some (.resolved ⟨"A._raop._tcp.local.", "a.local.", 5000, ["fe80::1", "10.0.0.7"]⟩)⟩,
      ⟨⟨5⟩, some (.removed "_raop._tcp.local." "A._raop._tcp.local.")⟩,
      ⟨⟨5⟩, some (.resolved ⟨"B._raop._tcp.local.", "b.local.", 7000, ["10.0.0.8"]⟩)⟩,
      ⟨⟨5⟩, some (.resolved ⟨"A._raop._tcp.local.", "c.local.", 6000, ["10.0.0.9"]⟩)⟩]

theorem sweep_finds_each_instance_once :
    elusive.Sweeps ⟨20⟩ ∧ ∃ devices,
      (elusive.discover "_raop._tcp.local." ⟨20⟩).ending = .found devices ∧
      Roster "_raop._tcp.local." (elusive.received ⟨20⟩) devices ∧
      BrowseEvent.fullnames (elusive.received ⟨20⟩) =
        ["A._raop._tcp.local.", "B._raop._tcp.local."] := by
  have h : elusive.Sweeps ⟨20⟩ := ⟨rfl, rfl, by decide⟩
  obtain ⟨devices, hfound, hroster, -, -⟩ :=
    sweep_finds_roster elusive "_raop._tcp.local." ⟨20⟩ h
  exact ⟨h, devices, hfound, hroster, by decide⟩

end Network

end AirLoop
