import AirLoop.Proofs.Loopback.Interplay

/-!
# Rounds

What the thread of a loopback capture says in one round. Each event may give the word to a delivery
or take it away (`LoopbackEvent.voice`): a start that is sent gives it, and the fault of the delivery
or a halt that returns takes it. In a round only the delivery that has the word is called back
(`Spoken`), and it has a fault exactly if the device refused to start or the fetching failed
(`Round.faults`).
-/

namespace AirLoop

/-! ## Who has the word -/

/-- The delivery that has the word after an event, if one had it before. -/
def LoopbackEvent.voice (v : Option Nat) : LoopbackEvent → Option Nat
  | .sent (.start k) => some k
  | .signalled (.fault _ _) => none
  | .returned call _ => if call.halts then none else v
  | _ => v

/-- The fault that a delivery is given, if it is. -/
def LoopbackEvent.fault? (k : Nat) : LoopbackEvent → Option Fault
  | .signalled (.fault k' f) => if k' = k then some f else none
  | _ => none

/-- The failure of the device that strikes a delivery, if one does, as a fault. -/
def LoopbackEvent.failure? (k : Nat) : LoopbackEvent → Option Fault
  | .asked k' (some e) =>
    if k' = k then some (.captureFault ("IAudioClient::Start failed: " ++ e)) else none
  | .fetched k' (.failed detail) => if k' = k then some (.captureFault detail) else none
  | _ => none

namespace LoopbackHistory

/-- The delivery that has the word at the end of a history. -/
def voice (v : Option Nat) (h : LoopbackHistory) : Option Nat := h.foldl LoopbackEvent.voice v

/-- Only deliveries that have the word are called back. -/
def Spoken : Option Nat → LoopbackHistory → Prop
  | _, [] => True
  | v, e :: rest => (∀ k, e.callback? = some k → v = some k) ∧ Spoken (e.voice v) rest

/-- The faults that a delivery was given. -/
def faults (k : Nat) (h : LoopbackHistory) : List Fault := h.filterMap (LoopbackEvent.fault? k)

/-- The failures of the device that struck a delivery, as faults. -/
def failures (k : Nat) (h : LoopbackHistory) : List Fault := h.filterMap (LoopbackEvent.failure? k)

@[simp] theorem voice_nil (v : Option Nat) : voice v [] = v := rfl

@[simp] theorem voice_cons (v : Option Nat) (e : LoopbackEvent) (h : LoopbackHistory) :
    voice v (e :: h) = voice (e.voice v) h := rfl

@[simp] theorem voice_append (v : Option Nat) (a b : LoopbackHistory) :
    voice v (a ++ b) = voice (voice v a) b :=
  List.foldl_append ..

theorem spoken_append {v : Option Nat} {a b : LoopbackHistory} :
    Spoken v (a ++ b) ↔ Spoken v a ∧ Spoken (voice v a) b := by
  induction a generalizing v with
  | nil => exact ⟨fun h => ⟨trivial, h⟩, fun h => h.2⟩
  | cons e a ih => simp only [List.cons_append, Spoken, voice_cons, ih, and_assoc]

@[simp] theorem faults_nil (k : Nat) : faults k [] = [] := rfl

@[simp] theorem failures_nil (k : Nat) : failures k [] = [] := rfl

theorem faults_cons (k : Nat) (e : LoopbackEvent) (h : LoopbackHistory) :
    faults k (e :: h) = (e.fault? k).toList ++ faults k h := by
  unfold faults
  cases he : e.fault? k <;> simp [he]

theorem failures_cons (k : Nat) (e : LoopbackEvent) (h : LoopbackHistory) :
    failures k (e :: h) = (e.failure? k).toList ++ failures k h := by
  unfold failures
  cases he : e.failure? k <;> simp [he]

@[simp] theorem faults_append (k : Nat) (a b : LoopbackHistory) :
    faults k (a ++ b) = faults k a ++ faults k b :=
  List.filterMap_append

@[simp] theorem failures_append (k : Nat) (a b : LoopbackHistory) :
    failures k (a ++ b) = failures k a ++ failures k b :=
  List.filterMap_append

/-- A history whose faults are those of the failure that it begins with has no fault before it. -/
theorem faults_prefix_of_head {k : Nat} {e : LoopbackEvent} {rest p : LoopbackHistory}
    (h : faults k (e :: rest) = (e.failure? k).toList) (hp : p <+: e :: rest) :
    faults k p <+: failures k p := by
  cases p with
  | nil => exact List.prefix_rfl
  | cons d p =>
    obtain ⟨rfl, -⟩ := List.cons_prefix_cons.1 hp
    have hsub : faults k (d :: p) <+: faults k (d :: rest) := hp.filterMap _
    rw [failures_cons]
    rw [h] at hsub
    exact hsub.trans (List.prefix_append ..)

/-- An event that leaves the word where it is, calls nobody back and is no failure. -/
structure Neutral (h : LoopbackHistory) : Prop where
  voice : ∀ v, voice v h = v
  spoken : ∀ v, Spoken v h
  faults : ∀ k, faults k h = []
  failures : ∀ k, failures k h = []

theorem Neutral.nil : Neutral [] := ⟨fun _ => rfl, fun _ => trivial, fun _ => rfl, fun _ => rfl⟩

theorem Neutral.append {a b : LoopbackHistory} (ha : Neutral a) (hb : Neutral b) :
    Neutral (a ++ b) where
  voice v := by rw [voice_append, ha.voice, hb.voice]
  spoken v := spoken_append.2 ⟨ha.spoken v, by rw [ha.voice]; exact hb.spoken v⟩
  faults k := by rw [faults_append, ha.faults, hb.faults]; rfl
  failures k := by rw [failures_append, ha.failures, hb.failures]; rfl

theorem Neutral.logged (line : LogLine) : Neutral [.signalled (.log line)] :=
  ⟨fun _ => rfl, fun _ => ⟨nofun, trivial⟩, fun _ => rfl, fun _ => rfl⟩

theorem Neutral.sent {command : Command} (h : ∀ k, command ≠ .start k) :
    Neutral [.sent command] := by
  cases command with
  | start k => exact absurd rfl (h k)
  | stop | close =>
    exact ⟨fun _ => rfl, fun _ => ⟨nofun, trivial⟩, fun _ => rfl, fun _ => rfl⟩

theorem Neutral.returned {call : LoopbackCall} (h : call.halts = false) (failure : Option Fault) :
    Neutral [.returned call failure] := by
  refine ⟨fun v => ?_, fun _ => ⟨nofun, trivial⟩, fun _ => rfl, fun _ => rfl⟩
  rw [voice_cons, LoopbackEvent.voice, h]
  rfl

/-- Buffers through one delivery. -/
theorem buffers_spoken (k : Nat) (bs : List AudioBuffer) :
    let h : LoopbackHistory := (bs.map (Signal.buffer k)).map .signalled
    voice (some k) h = some k ∧ Spoken (some k) h ∧
      ∀ j, faults j h = [] ∧ failures j h = [] := by
  induction bs with
  | nil => exact ⟨rfl, trivial, fun _ => ⟨rfl, rfl⟩⟩
  | cons b bs ih =>
    obtain ⟨hv, hs, hf⟩ := ih
    exact ⟨hv, ⟨fun _ h => h, hs⟩, hf⟩

end LoopbackHistory

open LoopbackHistory

/-! ## Fetching -/

/-- A listener that does not crash lets fetching come to an end of its own. -/
theorem drain_ending_ne_crashed (blockAlign : UInt16) (queue : List Packet) :
    (drain blockAlign false queue).ending ≠ .crashed := by
  induction queue with
  | nil => nofun
  | cons p rest ih =>
    rw [drain]
    cases p.sizeFailure with
    | some e => nofun
    | none =>
      dsimp only
      split
      · nofun
      · cases p.bufferFailure with
        | some e => nofun
        | none =>
          cases p.releaseFailure with
          | some e => simp
          | none => simpa [Drained.after] using ih

namespace LoopbackCapture

variable {c : LoopbackCapture} {s : LoopbackStream} {k : Nat}

/-- The thread leaves the caller's side alone. -/
theorem pump_sides (c : LoopbackCapture) :
    c.pump.2.holdsSender = c.holdsSender ∧ c.pump.2.holdsThread = c.holdsThread ∧
      c.pump.2.delivering = c.delivering := by
  unfold pump
  split
  · exact ⟨rfl, rfl, rfl⟩
  · split
    · exact ⟨rfl, rfl, rfl⟩
    · dsimp only
      split <;> exact ⟨rfl, rfl, rfl⟩

theorem obey_sides (c : LoopbackCapture) (t : CaptureThread) (command : Command) :
    (c.obey t command).2.holdsSender = c.holdsSender ∧
      (c.obey t command).2.holdsThread = c.holdsThread ∧
      (c.obey t command).2.delivering = c.delivering := by
  cases command with
  | start k =>
    have hb : (c.beginDelivery t k).2.holdsSender = c.holdsSender ∧
        (c.beginDelivery t k).2.holdsThread = c.holdsThread ∧
        (c.beginDelivery t k).2.delivering = c.delivering := by
      unfold beginDelivery
      split <;> exact ⟨rfl, rfl, rfl⟩
    have hp := pump_sides (c.beginDelivery t k).2
    rw [hb.1, hb.2.1, hb.2.2] at hp
    unfold obey
    dsimp only
    split <;> exact hp
  | stop | close => exact ⟨rfl, rfl, rfl⟩

/-- What a round reports that begins while `v` has the word. -/
structure Round (v : Option Nat) (h : LoopbackHistory) : Prop where
  spoken : Spoken v h
  faults : ∀ k, faults k h = failures k h
  /-- nothing is a fault before its failure -/
  justified : ∀ k p, p <+: h → LoopbackHistory.faults k p <+: failures k p
  ofThread : ∀ e ∈ h, e.ofThread = true

/-- A round whose only failure is what it begins with, and whose faults are those of that. -/
theorem Round.of_head {v : Option Nat} {e : LoopbackEvent} {rest : LoopbackHistory}
    (hs : Spoken v (e :: rest))
    (hf : ∀ k, LoopbackHistory.faults k (e :: rest) = (e.failure? k).toList)
    (hn : ∀ k, failures k rest = []) (ho : ∀ d ∈ e :: rest, d.ofThread = true) :
    Round v (e :: rest) where
  spoken := hs
  faults k := by rw [hf, failures_cons, hn, List.append_nil]
  justified k _ hp := faults_prefix_of_head (hf k) hp
  ofThread := ho

/-- The device after this was fetched from it. -/
def fetchedFrom (d : AudioDevice) (r : Drained) : AudioDevice :=
  { d with queue := r.queue, calls := d.calls ++ r.calls }

/-- What is fetched is delivered, and a failure ends the delivery with a fault. -/
theorem pump_running (hc : c.listenerCrashes = false) (ht : c.thread = some ⟨s, some k⟩) {r : Drained}
    (hr : drain s.blockAlign false c.device.queue = r) :
    (r.ending = .emptied ∧
        c.pump = (r.buffers.map (.buffer k), { c with device := fetchedFrom c.device r })) ∨
      ∃ detail, r.ending = .failed detail ∧
        c.pump =
          (r.buffers.map (.buffer k) ++
            [.log ⟨.error, "Loopback capture error: " ++ (Fault.captureFault detail).message⟩,
              .fault k (.captureFault detail)],
            { c with
              device := (fetchedFrom c.device r).note .stopStream
              thread := some ⟨s, none⟩ }) := by
  have hne : r.ending ≠ .crashed := hr ▸ drain_ending_ne_crashed s.blockAlign c.device.queue
  unfold pump
  simp only [ht, hc, hr]
  cases he : r.ending with
  | emptied => exact .inl ⟨rfl, by rw [← ht]; rfl⟩
  | failed detail => exact .inr ⟨detail, rfl, rfl⟩
  | crashed => exact absurd he hne

theorem pump_resting (ht : c.thread = some ⟨s, none⟩) : c.pump = ([], c) := by
  unfold pump
  rw [ht]

theorem ofThread_signalled (signals : List Signal) :
    ∀ e ∈ signals.map LoopbackEvent.signalled, e.ofThread = true := by
  simp [LoopbackEvent.ofThread]

/-- **A round of a running delivery**: afterwards it is the running one as long as it has the
word. -/
theorem round_idle (hc : c.listenerCrashes = false) (ht : c.thread = some ⟨s, some k⟩) :
    Round (some k) c.idleRound.1 ∧
      c.idleRound.2.thread = some ⟨s, voice (some k) c.idleRound.1⟩ := by
  obtain ⟨r, hr⟩ : ∃ r, drain s.blockAlign false c.device.queue = r := ⟨_, rfl⟩
  have hfetch : c.fetching = [.fetched k r.ending] := by
    simp only [fetching, ht, hc, hr]
  obtain ⟨hv, hs, hf⟩ := buffers_spoken k r.buffers
  have hspoken : Spoken (some k) (.fetched k r.ending :: (r.buffers.map (.buffer k)).map .signalled) :=
    ⟨nofun, hs⟩
  have hvoice : voice (some k)
      (.fetched k r.ending :: (r.buffers.map (.buffer k)).map .signalled) = some k := hv
  rcases pump_running hc ht hr with ⟨he, hp⟩ | ⟨detail, he, hp⟩
  · have hround : c.idleRound =
        (.fetched k r.ending :: (r.buffers.map (.buffer k)).map .signalled,
          { c with device := fetchedFrom c.device r }) := by
      rw [idleRound, hfetch, hp]
      rfl
    rw [hround]
    refine ⟨.of_head hspoken (fun j => ?_) (fun j => (hf j).2)
      (List.forall_mem_cons.2 ⟨rfl, ofThread_signalled _⟩), ?_⟩
    · rw [he]
      exact (hf j).1
    · rw [hvoice]
      exact ht
  · have hround : c.idleRound =
        (.fetched k r.ending :: ((r.buffers.map (.buffer k)).map .signalled ++
            [.signalled (.log ⟨.error,
                "Loopback capture error: " ++ (Fault.captureFault detail).message⟩),
              .signalled (.fault k (.captureFault detail))]),
          { c with
            device := (fetchedFrom c.device r).note .stopStream
            thread := some ⟨s, none⟩ }) := by
      rw [idleRound, hfetch, hp, List.map_append]
      rfl
    rw [hround]
    refine ⟨.of_head ?_ (fun j => ?_) (fun j => ?_) ?_, ?_⟩
    · rw [← List.cons_append]
      refine spoken_append.2 ⟨hspoken, ?_⟩
      rw [hvoice]
      exact ⟨nofun, fun _ h => h, trivial⟩
    · rw [he, faults_cons, faults_append, (hf j).1]
      by_cases hk : k = j <;> simp [faults_cons, LoopbackEvent.fault?, LoopbackEvent.failure?, hk]
    · rw [failures_append, (hf j).2]
      rfl
    · refine List.forall_mem_cons.2 ⟨rfl, List.forall_mem_append.2 ⟨ofThread_signalled _, ?_⟩⟩
      simp [LoopbackEvent.ofThread]
    · rw [← List.cons_append, voice_append, hvoice]
      rfl

/-- **A round on a start**, begun by a thread that rests: afterwards the delivery is running as long
as it has the word. -/
theorem round_start (hc : c.listenerCrashes = false) (ht : c.thread = some ⟨s, none⟩) :
    Round (some k) (c.round ⟨s, none⟩ (.start k)).1 ∧
      (c.round ⟨s, none⟩ (.start k)).2.thread =
        some ⟨s, voice (some k) (c.round ⟨s, none⟩ (.start k)).1⟩ := by
  obtain ⟨⟨refusal, device⟩, ha⟩ :
      ∃ a, (c.device.note .raisePriority).ask .startStream = a := ⟨_, rfl⟩
  cases refusal with
  | none =>
    have hb : c.beginDelivery ⟨s, none⟩ k =
        (none, { c with device, thread := some ⟨s, some k⟩ }) := by
      rw [beginDelivery, ha]
    have hround : c.round ⟨s, none⟩ (.start k) =
        (.asked k none :: ({ c with device, thread := some ⟨s, some k⟩ } : LoopbackCapture).idleRound.1,
          ({ c with device, thread := some ⟨s, some k⟩ } : LoopbackCapture).idleRound.2) := by
      simp only [round, obey, hb, idleRound]
      rfl
    obtain ⟨h, hthread⟩ :=
      round_idle (k := k) (c := { c with device, thread := some ⟨s, some k⟩ }) hc rfl
    rw [hround]
    refine ⟨⟨⟨by rintro _ ⟨⟩, h.spoken⟩, h.faults, fun j p hp => ?_,
      List.forall_mem_cons.2 ⟨rfl, h.ofThread⟩⟩, hthread⟩
    cases p with
    | nil => exact List.prefix_rfl
    | cons e p =>
      obtain ⟨rfl, htail⟩ := List.cons_prefix_cons.1 hp
      exact h.justified j p htail
  | some e =>
    have hb : c.beginDelivery ⟨s, none⟩ k = (some e, { c with device }) := by
      rw [beginDelivery, ha]
    have hp : ({ c with device } : LoopbackCapture).pump = ([], { c with device }) := pump_resting ht
    have hfetch : ({ c with device } : LoopbackCapture).fetching = [] := by
      simp only [fetching, ht]
    have hround : c.round ⟨s, none⟩ (.start k) =
        ([.asked k (some e),
          .signalled (.fault k (.captureFault ("IAudioClient::Start failed: " ++ e)))],
          { c with device }) := by
      simp only [round, obey, hb, hp, hfetch]
      rfl
    rw [hround]
    refine ⟨.of_head ⟨by rintro _ ⟨⟩, fun _ h => h, trivial⟩ (fun j => ?_) (fun _ => rfl)
      (by simp [LoopbackEvent.ofThread]), ht⟩
    by_cases hk : k = j <;> simp [faults_cons, LoopbackEvent.fault?, LoopbackEvent.failure?, hk]

/-- On a stop the thread says nothing. -/
theorem round_stop (v : Option Nat) (c : LoopbackCapture) (t : CaptureThread) :
    Round v (c.round t .stop).1 where
  spoken := trivial
  faults _ := rfl
  justified _ _ hp := by
    obtain rfl := List.prefix_nil.1 hp
    exact List.prefix_rfl
  ofThread := nofun

/-- At its end the thread says so in the log. -/
theorem round_close (v : Option Nat) (c : LoopbackCapture) (t : CaptureThread) :
    Round v (c.round t .close).1 :=
  .of_head ⟨nofun, trivial⟩ (fun _ => rfl) (fun _ => rfl) (ofThread_signalled [_])

end LoopbackCapture

end AirLoop
