import AirLoop.Session.Run

/-!
# Patience

How many polls a run is given does not matter once they are enough: more of them change nothing of
what it comes to (`run_of_le`).
-/

namespace AirLoop.Session

variable {σ ι : Type} [CaptureSource σ] [Operator ι]

theorem watch_succ {polls : Nat} {s : Session σ ι} {r : Except Fault Outcome × Session σ ι}
    (h : watch polls s = some r) : watch (polls + 1) s = some r := by
  induction polls generalizing s with
  | zero =>
    unfold watch at h ⊢
    split at h
    · exact h
    · cases h
  | succ n ih =>
    unfold watch at h ⊢
    split at h
    · exact h
    · dsimp only at h ⊢
      by_cases hq : s.poll.1 = true
      · simpa only [hq, if_true] using h
      · simp only [hq, if_false, Bool.false_eq_true] at h ⊢
        exact ih h

theorem watch_of_le {n m : Nat} (hnm : n ≤ m) {s : Session σ ι}
    {r : Except Fault Outcome × Session σ ι} (h : watch n s = some r) : watch m s = some r := by
  induction hnm with
  | refl => exact h
  | step _ ih => exact watch_succ ih

theorem capture_of_le {n m : Nat} (hnm : n ≤ m) {s : Session σ ι} {devices : List Receiver}
    {r : Except Fault Outcome × Findings × Session σ ι} (h : capture n s devices = some r) :
    capture m s devices = some r := by
  unfold capture at h ⊢
  dsimp only at h ⊢
  by_cases hg : (!(s.passGate devices).1) = true
  · simpa only [hg, if_true] using h
  · simp only [hg, if_false, Bool.false_eq_true] at h ⊢
    split at h
    · exact h
    · split at h
      · exact h
      · obtain ⟨w, hw, rfl⟩ := Option.map_eq_some_iff.1 h
        exact Option.map_eq_some_iff.2 ⟨w, watch_of_le hnm hw, rfl⟩

theorem drive_of_le {n m : Nat} (hnm : n ≤ m) {s : Session σ ι}
    {r : Except Fault Outcome × Findings × Session σ ι} (h : drive n s = some r) :
    drive m s = some r := by
  unfold drive at h ⊢
  dsimp only at h ⊢
  split at h
  · exact h
  · exact capture_of_le hnm h

/-- A run that is over after `n` polls comes to the same with more. -/
theorem run_of_le {n m : Nat} (hnm : n ≤ m) {stamp : SessionStamp} {s : Session σ ι}
    {r : Except Fault Summary × Session σ ι} (h : run n stamp s = some r) :
    run m stamp s = some r := by
  unfold run at h ⊢
  by_cases hs : s.state ≠ .idle
  · rw [if_pos hs] at h ⊢
    exact h
  · rw [if_neg hs] at h ⊢
    obtain ⟨w, hw, rfl⟩ := Option.map_eq_some_iff.1 h
    exact Option.map_eq_some_iff.2 ⟨w, drive_of_le hnm hw, rfl⟩

end AirLoop.Session
