import AirLoop.Proofs.Discovery.Cleanup
import AirLoop.Proofs.Program.ExitCode

/-!
# Looks around without a deadline

The deadline of a look around is the reading of the clock and the timeout, added up after browsing
has begun. Nobody asks beforehand whether the clock can hold it: a configuration is accepted with any
timeout above zero, and a command line can ask for one that no clock holds. Then the look around
comes to no end (`Endless`), its daemon goes on browsing, and the program crashes. That is the only
way in which a look around is not settled (`discover_settled_iff_not_endless`).
-/

namespace AirLoop

/-- What a look around answers, if it comes to an end. -/
def DiscoveryEnd.result? : DiscoveryEnd → Option (Except Fault (List Receiver))
  | found devices => some (.ok devices)
  | failed f => some (.error f)
  | deadlineOverflow => none

theorem DiscoveryEnd.result?_eq_none {e : DiscoveryEnd} :
    e.result? = none ↔ e = .deadlineOverflow := by
  cases e <;> simp [result?]

/-- A look around is settled if it has answered, and a daemon that it created was shut down by its
last step. -/
structure Discovery.Settled (d : Discovery) : Prop where
  answers : d.ending.result?.isSome = true
  shutDown : .called .create none ∈ d.steps →
    ∃ before failure, d.steps = before ++ [.called .shutdown failure]

namespace Network

/-- There is a daemon that browses, but the clock ends before the deadline. -/
structure Endless (n : Network) (timeout : Duration) : Prop where
  daemon : n.daemonFailure = none
  browse : n.browseFailure = none
  deadline : clockLimit ≤ (⟨n.clock.nanos + timeout.nanos⟩ : Duration).wholeSeconds

section
variable {n : Network} {timeout : Duration}

/-- Without a deadline browsing has begun, and that is the last step. -/
theorem Endless.discover (h : Endless n timeout) (serviceType : String) :
    (n.discover serviceType timeout).ending = .deadlineOverflow ∧
      (n.discover serviceType timeout).steps =
        [.called .create none, .called (.browse serviceType) none] := by
  simp only [Network.discover, h.daemon, h.browse, if_pos h.deadline, and_self]

theorem endless_of_overflow {serviceType : String}
    (h : (n.discover serviceType timeout).ending = .deadlineOverflow) : Endless n timeout := by
  unfold Network.discover at h
  cases hd : n.daemonFailure with
  | some e => simp [hd] at h
  | none =>
    cases hb : n.browseFailure with
    | some e => simp [hd, hb] at h
    | none =>
      refine ⟨hd, hb, ?_⟩
      by_contra hc
      simp [hd, hb, hc] at h

theorem settled_iff (serviceType : String) :
    (n.discover serviceType timeout).Settled ↔ ¬ Endless n timeout := by
  constructor
  · intro h he
    have hanswers := h.answers
    rw [DiscoveryEnd.result?_eq_none.2 (he.discover serviceType).1] at hanswers
    cases hanswers
  · intro he
    have hends : (n.discover serviceType timeout).ending ≠ .deadlineOverflow :=
      fun h => he (endless_of_overflow h)
    refine ⟨?_, ?_⟩
    · rw [Option.isSome_iff_ne_none]
      exact fun h => hends (DiscoveryEnd.result?_eq_none.1 h)
    · intro hcreated
      have htidied := ((n.goes serviceType timeout).tidied hends).shutDown
      rw [if_pos hcreated] at htidied
      obtain ⟨before, hsteps, -⟩ := htidied
      exact ⟨before, _, hsteps⟩

end

end Network

namespace Program

variable {σ ι : Type} [CaptureSource σ] [Operator ι]

/-- A session whose look around comes to no end takes the program with it. -/
theorem runSession_endless {l : CommandLine} {n : Network}
    (hp : l.configuration.problem? = none)
    (h : n.Endless l.configuration.discoveryTimeout) (source : σ) (operator : ι) (polls : Nat)
    (stamp : SessionStamp) :
    ∃ c, runSession l n source operator polls stamp = some c ∧ c.exitCode = crashCode := by
  obtain ⟨s, hs, -⟩ := Session.new_ok hp n.directory source operator
  unfold runSession
  rw [hs]
  dsimp only
  rw [if_pos (h.discover _).1]
  exact ⟨_, rfl, rfl⟩

end Program

/-! ## Command lines that no clock can follow -/

/-- The least number of seconds that no clock holds, asked for on a command line. -/
def endlessArguments : List String := ["--timeout-secs", "9223372036854775808"]

/-- What that command line says. -/
def endlessLine : CommandLine where
  configuration := { discoveryTimeout := .ofSeconds clockLimit }
  given := [.timeoutSecs]

theorem read_endlessArguments : CommandLine.read endlessArguments = .ok endlessLine := by
  decide +kernel

theorem problem?_endlessLine : endlessLine.configuration.problem? = none := by
  decide

theorem Network.endless_endlessLine {n : Network} (hd : n.daemonFailure = none)
    (hb : n.browseFailure = none) : n.Endless endlessLine.configuration.discoveryTimeout := by
  refine ⟨hd, hb, ?_⟩
  show clockLimit ≤ (n.clock.nanos + clockLimit * Duration.perSecond) / Duration.perSecond
  rw [Nat.le_div_iff_mul_le (by decide)]
  exact Nat.le_add_left ..

namespace Network

/-- **A look around is settled unless its deadline is beyond the clock**, for every configuration and
every network: it has answered, and the daemon that it created was shut down by its last step. Else
it never answers, and the daemon is left as it browses; a program with such a configuration, if it
is accepted, crashes. No network that can be browsed is safe from it, whatever its clock says: there
is a command line that is read, with a configuration that is accepted. -/
theorem discover_settled_iff_not_endless (n : Network) (c : Configuration) :
    let d := n.discover c.serviceType c.discoveryTimeout
    (d.Settled ↔ ¬ n.Endless c.discoveryTimeout) ∧
      (n.Endless c.discoveryTimeout → d.ending = .deadlineOverflow ∧
        d.steps = [.called .create none, .called (.browse c.serviceType) none]) ∧
      (n.Endless c.discoveryTimeout → c.problem? = none →
        ∀ {σ ι : Type} [CaptureSource σ] [Operator ι] (l : CommandLine) (source : σ) (operator : ι)
          (polls : Nat) (stamp : SessionStamp), l.configuration = c →
          ∃ completion, Program.runSession l n source operator polls stamp = some completion ∧
            completion.exitCode = Program.crashCode) ∧
      (n.daemonFailure = none → n.browseFailure = none →
        ∃ args l, CommandLine.read args = .ok l ∧ l.configuration.problem? = none ∧
          n.Endless l.configuration.discoveryTimeout) := by
  intro d
  refine ⟨settled_iff c.serviceType, fun h => h.discover c.serviceType, ?_, ?_⟩
  · intro h hp σ ι _ _ l source operator polls stamp hl
    subst hl
    exact Program.runSession_endless hp h source operator polls stamp
  · intro hd hb
    exact ⟨endlessArguments, endlessLine, read_endlessArguments, problem?_endlessLine,
      endless_endlessLine hd hb⟩

/-- A network without any failure, and the least number of seconds that no clock holds. -/
theorem least_endless_timeout_crashes :
    let n : Network := {}
    let d := n.discover endlessLine.configuration.serviceType
      endlessLine.configuration.discoveryTimeout
    n.Endless endlessLine.configuration.discoveryTimeout ∧
      endlessLine.configuration.problem? = none ∧ ¬ d.Settled ∧ d.ending = .deadlineOverflow ∧
      ∃ completion, Program.runSession endlessLine n ({ platform := "linux" } : UnsupportedSource)
          ({} : ScriptedOperator) 1 default = some completion ∧
        completion.exitCode = Program.crashCode := by
  intro n d
  have he : n.Endless endlessLine.configuration.discoveryTimeout := endless_endlessLine rfl rfl
  obtain ⟨hsettled, hends, hcrash, -⟩ := discover_settled_iff_not_endless n endlessLine.configuration
  exact ⟨he, problem?_endlessLine, fun h => hsettled.1 h he, (hends he).1,
    hcrash he problem?_endlessLine endlessLine _ _ 1 default rfl⟩

/-- A network without any failure, and the greatest timeout that a command line can ask for. -/
theorem greatest_timeout_unsettled :
    ∃ l, CommandLine.read ["--timeout-secs", "18446744073709551615"] = .ok l ∧
      l.configuration.problem? = none ∧
      let d := ({} : Network).discover l.configuration.serviceType l.configuration.discoveryTimeout
      ¬ d.Settled ∧ d.ending = .deadlineOverflow ∧ .shutdown ∉ d.calls := by
  let l : CommandLine :=
    { configuration := { discoveryTimeout := .ofSeconds 18446744073709551615 }
      given := [.timeoutSecs] }
  have he : ({} : Network).Endless l.configuration.discoveryTimeout :=
    ⟨rfl, rfl, by decide⟩
  obtain ⟨hends, hsteps⟩ := he.discover l.configuration.serviceType
  refine ⟨l, by decide +kernel, by decide, fun h => (settled_iff _).1 h he, hends, ?_⟩
  rw [Discovery.calls, hsteps]
  decide

end Network

end AirLoop
