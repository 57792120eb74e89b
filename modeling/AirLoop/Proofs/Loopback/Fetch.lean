import AirLoop.Loopback.Stream

/-!
# Fetching packets, step by step

What fetching the queued packets comes to (`drain`) is made of steps: calls with their answers, and
buffers that are handed to the listener. Here they are taken as the thread takes them, with the byte
counts of the machine and with one block of bytes for all silent packets (`fetchQueued`). The steps
are the rounds of the packets that go through, and then what comes of the first that does not
(`course_of_fetching`); so each packet is given back before the next is fetched, nothing is done
after a failure, and what the block held before does not show (`fetchQueued_releases_in_order`).
-/

namespace AirLoop

/-! ## Steps -/

/-- A step of fetching packets. -/
inductive FetchStep where
  /-- the device was asked for the frames of the next packet -/
  | sized (answer : Except String UInt32)
  /-- it was asked for the packet -/
  | fetched (answer : Except String Packet)
  /-- the listener got a buffer -/
  | delivered (b : AudioBuffer)
  /-- a packet of so many frames was given back -/
  | givenBack (frames : UInt32) (failure : Option String)

namespace FetchStep

/-- The call that was made, if it is one. -/
def call? : FetchStep → Option AudioCall
  | sized _ => some .nextPacketSize
  | fetched _ => some .getBuffer
  | delivered _ => none
  | givenBack frames _ => some (.releaseBuffer frames)

/-- The buffer that was delivered. -/
def buffer? : FetchStep → Option AudioBuffer
  | delivered b => some b
  | _ => none

/-- The packet that was fetched. -/
def packet? : FetchStep → Option Packet
  | fetched (.ok p) => some p
  | _ => none

/-- What is said of a failed call: its name, and why. -/
def failure? : FetchStep → Option String
  | sized (.error e) => some ("GetNextPacketSize failed: " ++ e)
  | fetched (.error e) => some ("GetBuffer failed: " ++ e)
  | givenBack _ (some e) => some ("ReleaseBuffer failed: " ++ e)
  | _ => none

end FetchStep

/-! ## One after another -/

/-- Bytes in the frames of a packet, as the machine counts them. -/
def Packet.byteCount (p : Packet) (blockAlign : UInt16) : UInt64 :=
  p.frames.toUInt64 * blockAlign.toUInt64

/-- The block for silent packets is emptied, and filled up with zeros. -/
def refill (count : UInt64) (block : List UInt8) : List UInt8 := fitBytes count.toNat (block.take 0)

/-- What the listener gets of a packet, and the block for silent packets afterwards. -/
def Packet.handOver (p : Packet) (blockAlign : UInt16) (block : List UInt8) :
    Option AudioBuffer × List UInt8 :=
  match p.content with
  | none => (none, block)
  | some bytes =>
    if p.frames = 0 then (none, block)
    else
      let count := p.byteCount blockAlign
      if p.silent then (some (.full (refill count block)), refill count block)
      else (some (.full (fitBytes count.toNat bytes)), block)

/-- What fetching leaves: the steps, the block for silent packets, the packets that wait, and what
is said of the call that failed. -/
structure Fetching where
  steps : List FetchStep
  block : List UInt8
  queue : List Packet
  failure : Option String := none

/-- Fetch the queued packets: ask for the next one, fetch it, hand it to the listener and give it
back, until nothing is announced or a call fails (`LoopbackSession::drain`). -/
def fetchQueued (blockAlign : UInt16) : List UInt8 → List Packet → Fetching
  | block, [] => { steps := [.sized (.ok 0)], block, queue := [] }
  | block, p :: rest =>
    match p.sizeFailure with
    | some e =>
      { steps := [.sized (.error e)], block, queue := rest
        failure := some ("GetNextPacketSize failed: " ++ e) }
    | none =>
      if p.announced = 0 then { steps := [.sized (.ok 0)], block, queue := p :: rest }
      else
        match p.bufferFailure with
        | some e =>
          { steps := [.sized (.ok p.announced), .fetched (.error e)], block, queue := rest
            failure := some ("GetBuffer failed: " ++ e) }
        | none =>
          let (buffer, block) := p.handOver blockAlign block
          let steps := .sized (.ok p.announced) :: .fetched (.ok p) ::
            buffer.toList.map .delivered ++ [.givenBack p.frames p.releaseFailure]
          match p.releaseFailure with
          | some e =>
            { steps, block, queue := rest, failure := some ("ReleaseBuffer failed: " ++ e) }
          | none =>
            let r := fetchQueued blockAlign block rest
            { r with steps := steps ++ r.steps }

namespace Fetching

variable (r : Fetching)

/-- The calls that were made. -/
def calls : List AudioCall := r.steps.filterMap (·.call?)

/-- The buffers that the listener got. -/
def buffers : List AudioBuffer := r.steps.filterMap (·.buffer?)

/-- The packets that were fetched. -/
def packets : List Packet := r.steps.filterMap (·.packet?)

/-- What the thread makes of it. -/
def result : Except Fault Unit :=
  match r.failure with
  | none => .ok ()
  | some detail => .error (.captureFault detail)

/-- The same without the steps between the calls. -/
def drained : Drained where
  buffers := r.buffers
  calls := r.calls
  queue := r.queue
  ending :=
    match r.failure with
    | none => .emptied
    | some detail => .failed detail

theorem failure_of_ok {r : Fetching} (h : r.result = .ok ()) : r.failure = none := by
  unfold result at h
  cases hf : r.failure with
  | none => rfl
  | some detail => simp [hf] at h

theorem failure_of_error {r : Fetching} {f : Fault} (h : r.result = .error f) :
    ∃ detail, r.failure = some detail ∧ f = .captureFault detail := by
  unfold result at h
  cases hf : r.failure with
  | none => simp [hf] at h
  | some detail =>
    simp only [hf, Except.error.injEq] at h
    exact ⟨detail, rfl, h.symm⟩

end Fetching

/-! ## Packets -/

theorem length_fitBytes (n : Nat) (bytes : List UInt8) : (fitBytes n bytes).length = n := by
  rw [fitBytes, List.length_append, List.length_take, List.length_replicate]
  omega

theorem getElem?_fitBytes {n i : Nat} (h : i < n) (bytes : List UInt8) :
    (fitBytes n bytes)[i]? = some (bytes.getD i 0) := by
  rw [fitBytes, List.getElem?_append, List.length_take, List.getD_eq_getElem?_getD]
  by_cases hi : i < bytes.length
  · rw [if_pos (by omega), List.getElem?_take_of_lt h, List.getElem?_eq_getElem hi,
      Option.getD_some]
  · rw [if_neg (by omega), List.getElem?_replicate_of_lt (by omega),
      List.getElem?_eq_none (by omega), Option.getD_none]

/-- Whatever the block held, it is zeros afterwards. -/
theorem refill_eq (count : UInt64) (block : List UInt8) :
    refill count block = List.replicate count.toNat 0 := by
  simp [refill, fitBytes]

namespace Packet

/-- Frames and bytes in a frame are too few for the count to overflow. -/
theorem toNat_byteCount (p : Packet) (blockAlign : UInt16) :
    (p.byteCount blockAlign).toNat = p.frames.toNat * blockAlign.toNat := by
  have hf := p.frames.toNat_lt
  have ha := blockAlign.toNat_lt
  have hlt : p.frames.toNat * blockAlign.toNat < 2 ^ 64 :=
    Nat.lt_of_lt_of_le (Nat.mul_lt_mul'' hf ha) (by decide)
  rw [byteCount, UInt64.toNat_mul, UInt32.toNat_toUInt64, UInt16.toNat_toUInt64,
    Nat.mod_eq_of_lt hlt]

/-- What is handed over does not depend on what the block held. -/
theorem fst_handOver (p : Packet) (blockAlign : UInt16) (block : List UInt8) :
    (p.handOver blockAlign block).1 = p.buffer? blockAlign := by
  unfold handOver buffer?
  cases p.content with
  | none => rfl
  | some bytes =>
    dsimp only
    split
    · rfl
    · rw [refill_eq, toNat_byteCount]
      cases p.silent <;> rfl

/-- A buffer that is delivered is full: zeros for silence, and else what the packet holds, byte for
byte. -/
theorem buffer?_eq_some {p : Packet} {blockAlign : UInt16} {b : AudioBuffer}
    (h : p.buffer? blockAlign = some b) :
    b.valid = b.data.length ∧ b.data.length = p.frames.toNat * blockAlign.toNat ∧
      ∃ bytes, p.content = some bytes ∧ p.frames ≠ 0 ∧
        ∀ i < b.data.length, b.data[i]? = some (if p.silent then 0 else bytes.getD i 0) := by
  unfold buffer? at h
  cases hc : p.content with
  | none => simp [hc] at h
  | some bytes =>
    by_cases hf : p.frames = 0
    · simp [hc, hf] at h
    · simp only [hc, if_neg hf, Option.some.injEq] at h
      subst h
      cases hs : p.silent with
      | true =>
        refine ⟨rfl, List.length_replicate, bytes, rfl, hf, ?_⟩
        intro i hi
        exact List.getElem?_replicate_of_lt (by simpa [AudioBuffer.full] using hi)
      | false =>
        refine ⟨rfl, length_fitBytes .., bytes, rfl, hf, ?_⟩
        intro i hi
        exact getElem?_fitBytes (by simpa [AudioBuffer.full, length_fitBytes] using hi) bytes

/-- A packet without a pointer and one without frames are not delivered, and no others. -/
theorem buffer?_eq_none_iff {p : Packet} {blockAlign : UInt16} :
    p.buffer? blockAlign = none ↔ p.content = none ∨ p.frames = 0 := by
  unfold buffer?
  cases p.content with
  | none => simp
  | some bytes => by_cases hf : p.frames = 0 <;> simp [hf]

/-- Every call for the packet goes well. -/
structure Passes (p : Packet) : Prop where
  sized : p.sizeFailure = none
  announced : p.announced ≠ 0
  fetched : p.bufferFailure = none
  givenBack : p.releaseFailure = none

/-- The steps for a packet that is fetched and given back. -/
def round (p : Packet) (blockAlign : UInt16) : List FetchStep :=
  .sized (.ok p.announced) :: .fetched (.ok p) ::
    (p.buffer? blockAlign).toList.map .delivered ++ [.givenBack p.frames p.releaseFailure]

end Packet

/-! ## The course of fetching -/

/-- How fetching ends when these packets are next: the last steps, the packets that are left, and
what is said of the call that failed. -/
inductive FetchEnds (blockAlign : UInt16) :
    List Packet → List FetchStep → List Packet → Option String → Prop where
  | emptied : FetchEnds blockAlign [] [.sized (.ok 0)] [] none
  | unannounced {p : Packet} (rest : List Packet) : p.sizeFailure = none → p.announced = 0 →
      FetchEnds blockAlign (p :: rest) [.sized (.ok 0)] (p :: rest) none
  | unsized {p : Packet} (rest : List Packet) {e : String} : p.sizeFailure = some e →
      FetchEnds blockAlign (p :: rest) [.sized (.error e)] rest
        (some ("GetNextPacketSize failed: " ++ e))
  | unfetched {p : Packet} (rest : List Packet) {e : String} : p.sizeFailure = none →
      p.announced ≠ 0 → p.bufferFailure = some e →
      FetchEnds blockAlign (p :: rest) [.sized (.ok p.announced), .fetched (.error e)] rest
        (some ("GetBuffer failed: " ++ e))
  | kept {p : Packet} (rest : List Packet) {e : String} : p.sizeFailure = none →
      p.announced ≠ 0 → p.bufferFailure = none → p.releaseFailure = some e →
      FetchEnds blockAlign (p :: rest) (p.round blockAlign) rest
        (some ("ReleaseBuffer failed: " ++ e))

/-- **The course of fetching**: rounds of packets that pass, and then an end. -/
theorem course_of_fetching (blockAlign : UInt16) (block : List UInt8) (queue : List Packet) :
    let r := fetchQueued blockAlign block queue
    ∃ passed left last, queue = passed ++ left ∧ (∀ p ∈ passed, p.Passes) ∧
      r.steps = passed.flatMap (·.round blockAlign) ++ last ∧
      FetchEnds blockAlign left last r.queue r.failure := by
  -- for any block at once, since a silent packet leaves another one than it finds
  induction queue generalizing block with
  | nil => exact ⟨[], [], _, rfl, nofun, rfl, .emptied⟩
  | cons p rest ih =>
    rw [fetchQueued]
    cases hs : p.sizeFailure with
    | some e => exact ⟨[], p :: rest, _, rfl, nofun, rfl, .unsized rest hs⟩
    | none =>
      dsimp only
      by_cases ha : p.announced = 0
      · rw [if_pos ha]
        exact ⟨[], p :: rest, _, rfl, nofun, rfl, .unannounced rest hs ha⟩
      rw [if_neg ha]
      cases hb : p.bufferFailure with
      | some e => exact ⟨[], p :: rest, _, rfl, nofun, rfl, .unfetched rest hs ha hb⟩
      | none =>
        have hround : .sized (.ok p.announced) :: .fetched (.ok p) ::
            (p.handOver blockAlign block).1.toList.map .delivered ++
              [.givenBack p.frames p.releaseFailure] = p.round blockAlign := by
          rw [Packet.fst_handOver, Packet.round]
        dsimp only
        rw [hround]
        cases hr : p.releaseFailure with
        | some e => exact ⟨[], p :: rest, _, rfl, nofun, rfl, .kept rest hs ha hb hr⟩
        | none =>
          obtain ⟨passed, left, last, hq, hp, hsteps, hend⟩ := ih (p.handOver blockAlign block).2
          refine ⟨p :: passed, left, last, by rw [hq]; rfl, ?_, ?_, hend⟩
          · exact List.forall_mem_cons.2 ⟨⟨hs, ha, hb, hr⟩, hp⟩
          · rw [hsteps, List.flatMap_cons, List.append_assoc]

/-! ## What comes of it -/

/-- The calls for a packet that is fetched. -/
def Packet.calls (p : Packet) : List AudioCall :=
  [.nextPacketSize, .getBuffer, .releaseBuffer p.frames]

/-- What some steps of fetching amount to, with what is said of the call that failed. -/
structure FetchedInOrder (blockAlign : UInt16) (steps : List FetchStep) (failure : Option String) :
    Prop where
  /-- every packet that was fetched goes to the listener as it should, in order and once -/
  delivered : steps.filterMap (·.buffer?) =
    (steps.filterMap (·.packet?)).filterMap (·.buffer? blockAlign)
  /-- every packet that was fetched is given back before anything else is asked of the device -/
  calls : ∃ tail,
    steps.filterMap (·.call?) = (steps.filterMap (·.packet?)).flatMap Packet.calls ++ tail ∧
    (tail = [] ∨ tail = [.nextPacketSize] ∨ tail = [.nextPacketSize, .getBuffer])
  /-- without a failure every call went well -/
  smooth : failure = none → ∀ x ∈ steps, x.failure? = none
  /-- and else all but the last -/
  broken : ∀ detail, failure = some detail → ∃ before last, steps = before ++ [last] ∧
    (∀ x ∈ before, x.failure? = none) ∧ last.failure? = some detail

theorem Packet.views_round (p : Packet) (blockAlign : UInt16) :
    (p.round blockAlign).filterMap (·.call?) = p.calls ∧
      (p.round blockAlign).filterMap (·.buffer?) = (p.buffer? blockAlign).toList ∧
      (p.round blockAlign).filterMap (·.packet?) = [p] := by
  unfold round Packet.calls
  cases p.buffer? blockAlign <;> exact ⟨rfl, rfl, rfl⟩

/-- In the round of a packet that is fetched only giving it back can fail. -/
theorem Packet.failure?_round (p : Packet) (blockAlign : UInt16) :
    ∃ before, p.round blockAlign = before ++ [.givenBack p.frames p.releaseFailure] ∧
      ∀ x ∈ before, x.failure? = none := by
  refine ⟨_, rfl, ?_⟩
  cases p.buffer? blockAlign <;> simp [FetchStep.failure?]

namespace FetchEnds

variable {blockAlign : UInt16} {left queue : List Packet} {last : List FetchStep}
  {failure : Option String}

theorem fetchedInOrder (h : FetchEnds blockAlign left last queue failure) :
    FetchedInOrder blockAlign last failure := by
  cases h with
  | emptied | unannounced =>
    refine ⟨rfl, ⟨[.nextPacketSize], rfl, .inr (.inl rfl)⟩, ?_, nofun⟩
    intro _ x hx
    rw [List.mem_singleton.1 hx]
    rfl
  | @unsized _ _ e =>
    refine ⟨rfl, ⟨[.nextPacketSize], rfl, .inr (.inl rfl)⟩, nofun, ?_⟩
    intro detail hd
    cases hd
    exact ⟨[], .sized (.error e), rfl, nofun, rfl⟩
  | @unfetched p _ e =>
    refine ⟨rfl, ⟨[.nextPacketSize, .getBuffer], rfl, .inr (.inr rfl)⟩, nofun, ?_⟩
    intro detail hd
    cases hd
    refine ⟨[.sized (.ok p.announced)], .fetched (.error e), rfl, ?_, rfl⟩
    intro x hx
    rw [List.mem_singleton.1 hx]
    rfl
  | @kept p _ e _ _ _ hr =>
    obtain ⟨hc, hb, hp⟩ := p.views_round blockAlign
    obtain ⟨before, hround, hbefore⟩ := p.failure?_round blockAlign
    refine ⟨?_, ⟨[], ?_, .inl rfl⟩, nofun, ?_⟩
    · rw [hb, hp]
      cases hbuffer : p.buffer? blockAlign <;> simp [hbuffer]
    · rw [hc, hp]
      simp
    · intro detail hd
      cases hd
      exact ⟨before, _, hround, hbefore, by rw [hr]; rfl⟩

/-- Of the packets that are left the first is fetched at most; and unless a call fails, none is, for
nothing more is announced. -/
theorem packets (h : FetchEnds blockAlign left last queue failure) :
    last.filterMap (·.packet?) <+: left ∧
      (failure = none → last.filterMap (·.packet?) = [] ∧ queue = left ∧
        ∀ p ∈ left.head?, p.sizeFailure = none ∧ p.announced = 0) := by
  cases h with
  | emptied => exact ⟨List.nil_prefix, fun _ => ⟨rfl, rfl, nofun⟩⟩
  | unannounced rest hs ha =>
    refine ⟨List.nil_prefix, fun _ => ⟨rfl, rfl, ?_⟩⟩
    intro p hp
    cases hp
    exact ⟨hs, ha⟩
  | unsized | unfetched => exact ⟨List.nil_prefix, nofun⟩
  | @kept p =>
    rw [(p.views_round blockAlign).2.2]
    exact ⟨List.prefix_append [p] queue, nofun⟩

end FetchEnds

namespace FetchedInOrder

variable {blockAlign : UInt16} {steps : List FetchStep} {failure : Option String}

/-- A packet that passes comes before them. -/
theorem round (h : FetchedInOrder blockAlign steps failure) {p : Packet} (hp : p.Passes) :
    FetchedInOrder blockAlign (p.round blockAlign ++ steps) failure := by
  obtain ⟨hcalls, hbuffers, hpackets⟩ := p.views_round blockAlign
  obtain ⟨before, hround, hbefore⟩ := p.failure?_round blockAlign
  have hsmooth : ∀ x ∈ p.round blockAlign, x.failure? = none := by
    intro x hx
    rw [hround, List.mem_append, List.mem_singleton] at hx
    rcases hx with hx | rfl
    · exact hbefore x hx
    · rw [hp.givenBack]
      rfl
  refine ⟨?_, ?_, ?_, ?_⟩
  · rw [List.filterMap_append, List.filterMap_append, hbuffers, hpackets, h.delivered]
    cases hb : p.buffer? blockAlign <;> simp [hb]
  · obtain ⟨tail, hc, ht⟩ := h.calls
    refine ⟨tail, ?_, ht⟩
    rw [List.filterMap_append, List.filterMap_append, hcalls, hpackets, hc]
    simp
  · intro hf x hx
    rcases List.mem_append.1 hx with hx | hx
    · exact hsmooth x hx
    · exact h.smooth hf x hx
  · intro detail hd
    obtain ⟨more, last, hsteps, hmore, hlast⟩ := h.broken detail hd
    refine ⟨p.round blockAlign ++ more, last, by rw [hsteps, List.append_assoc], ?_, hlast⟩
    intro x hx
    rcases List.mem_append.1 hx with hx | hx
    · exact hsmooth x hx
    · exact hmore x hx

theorem rounds (h : FetchedInOrder blockAlign steps failure) {passed : List Packet}
    (hp : ∀ p ∈ passed, p.Passes) :
    FetchedInOrder blockAlign (passed.flatMap (·.round blockAlign) ++ steps) failure := by
  induction passed with
  | nil => exact h
  | cons p passed ih =>
    obtain ⟨hp, hpassed⟩ := List.forall_mem_cons.1 hp
    rw [List.flatMap_cons, List.append_assoc]
    exact (ih hpassed).round hp

end FetchedInOrder

theorem packets_rounds (blockAlign : UInt16) (passed : List Packet) :
    (passed.flatMap (·.round blockAlign)).filterMap (·.packet?) = passed := by
  induction passed with
  | nil => rfl
  | cons p passed ih =>
    rw [List.flatMap_cons, List.filterMap_append, (p.views_round blockAlign).2.2, ih]
    rfl

/-! ## Fetching as it is told -/

/-- What fetching comes to is what its steps come to, whatever the block held before. -/
theorem drained_fetchQueued (blockAlign : UInt16) (block : List UInt8) (queue : List Packet) :
    (fetchQueued blockAlign block queue).drained = drain blockAlign false queue := by
  induction queue generalizing block with
  | nil => rfl
  | cons p rest ih =>
    rw [fetchQueued, drain]
    cases p.sizeFailure with
    | some e => rfl
    | none =>
      dsimp only
      by_cases ha : p.announced = 0
      · rw [if_pos ha, if_pos ha]
        rfl
      rw [if_neg ha, if_neg ha]
      cases p.bufferFailure with
      | some e => rfl
      | none =>
        have hih := ih (p.handOver blockAlign block).2
        dsimp only
        rw [if_neg (by simp), Packet.fst_handOver]
        cases p.releaseFailure with
        | some e =>
          cases p.buffer? blockAlign <;> rfl
        | none =>
          dsimp only
          rw [← hih]
          cases p.buffer? blockAlign <;> rfl

/-- **Fetching from every queue**, wherever a call fails and whatever the block for silent packets
holds. The thread takes packets from the front of the queue until it is told that there is none or a
call fails. Of those that it fetched the listener gets each that has a pointer and frames, in order,
as a full buffer, with zeros for silence. Each is given back before anything else is asked of the
device. Fetching goes well if every call does; and else the fault says which call failed, and that
call was the last. -/
theorem fetchQueued_releases_in_order (blockAlign : UInt16) (block : List UInt8) (queue : List Packet) :
    let r := fetchQueued blockAlign block queue
    r.drained = drain blockAlign false queue ∧
      (∃ passed left last, queue = passed ++ left ∧ (∀ p ∈ passed, p.Passes) ∧
        r.steps = passed.flatMap (·.round blockAlign) ++ last ∧
        FetchEnds blockAlign left last r.queue r.failure) ∧
      (r.packets <+: queue ∧
        (r.result = .ok () → queue = r.packets ++ r.queue ∧
          ∀ p ∈ r.queue.head?, p.sizeFailure = none ∧ p.announced = 0)) ∧
      r.buffers = r.packets.filterMap (·.buffer? blockAlign) ∧
      (∀ p : Packet, (p.byteCount blockAlign).toNat = p.frames.toNat * blockAlign.toNat ∧
        (p.buffer? blockAlign = none ↔ p.content = none ∨ p.frames = 0) ∧
        ∀ b, p.buffer? blockAlign = some b →
          b.valid = b.data.length ∧ b.data.length = p.frames.toNat * blockAlign.toNat ∧
          ∃ bytes, p.content = some bytes ∧ p.frames ≠ 0 ∧
            ∀ i < b.data.length, b.data[i]? = some (if p.silent then 0 else bytes.getD i 0)) ∧
      (∃ tail, r.calls = r.packets.flatMap Packet.calls ++ tail ∧
        (tail = [] ∨ tail = [.nextPacketSize] ∨ tail = [.nextPacketSize, .getBuffer])) ∧
      (r.result = .ok () ↔ ∀ x ∈ r.steps, x.failure? = none) ∧
      ∀ f, r.result = .error f → ∃ before last detail, r.steps = before ++ [last] ∧
        (∀ x ∈ before, x.failure? = none) ∧ last.failure? = some detail ∧
        f = .captureFault detail := by
  intro r
  -- everything else is read off the course, end first and then the rounds before it
  obtain ⟨passed, left, last, hq, hp, hsteps, hend⟩ := course_of_fetching blockAlign block queue
  have horder : FetchedInOrder blockAlign r.steps r.failure := by
    rw [hsteps]
    exact hend.fetchedInOrder.rounds hp
  have hpackets : r.packets = passed ++ last.filterMap (·.packet?) := by
    rw [Fetching.packets, hsteps, List.filterMap_append, packets_rounds]
  obtain ⟨hfront, hrest⟩ := hend.packets
  refine ⟨drained_fetchQueued blockAlign block queue, ⟨passed, left, last, hq, hp, hsteps, hend⟩,
    ⟨?_, ?_⟩, horder.delivered, ?_, horder.calls, ⟨?_, ?_⟩, ?_⟩
  · rw [hpackets, hq]
    exact (List.prefix_append_right_inj passed).2 hfront
  · intro hok
    obtain ⟨hlast, hqueue, hhead⟩ := hrest (Fetching.failure_of_ok hok)
    rw [hpackets, hlast, List.append_nil, hqueue]
    exact ⟨hq, hhead⟩
  · exact fun p => ⟨p.toNat_byteCount blockAlign, Packet.buffer?_eq_none_iff,
      fun b => Packet.buffer?_eq_some⟩
  · exact fun hok => horder.smooth (Fetching.failure_of_ok hok)
  · intro hsmooth
    cases hf : r.failure with
    | none => rw [Fetching.result, hf]
    | some detail =>
      obtain ⟨before, x, hsteps, -, hx⟩ := horder.broken detail hf
      have hmem : x ∈ r.steps := by simp [hsteps]
      rw [hsmooth x hmem] at hx
      cases hx
  · intro f hf
    obtain ⟨detail, hd, rfl⟩ := Fetching.failure_of_error hf
    obtain ⟨before, x, hsteps, hbefore, hx⟩ := horder.broken detail hd
    exact ⟨before, x, detail, hsteps, hbefore, hx, rfl⟩

/-- A packet without a pointer, silence, a packet that is not taken back, and one more. -/
def tornQueue : List Packet :=
  [{ announced := 1, frames := 1, content := none },
    { announced := 2, frames := 2, silent := true, content := some [9] },
    { announced := 1, frames := 1, content := some [1, 2], releaseFailure := some "device lost" },
    { announced := 1, frames := 1, content := some [3, 4] }]

theorem fetchQueued_ends_at_failed_release :
    (fetchQueued 2 [5, 6, 7] tornQueue).result =
        .error (.captureFault "ReleaseBuffer failed: device lost") ∧
      (fetchQueued 2 [5, 6, 7] tornQueue).buffers = [.full [0, 0, 0, 0], .full [1, 2]] ∧
      (fetchQueued 2 [] (tornQueue.take 2)).result = .ok () ∧
      tornQueue.take 2 = (fetchQueued 2 [] (tornQueue.take 2)).packets ++
        (fetchQueued 2 [] (tornQueue.take 2)).queue ∧
      ∃ before last, (fetchQueued 2 [5, 6, 7] tornQueue).steps = before ++ [last] ∧
        last.failure? = some "ReleaseBuffer failed: device lost" := by
  have hfail : (fetchQueued 2 [5, 6, 7] tornQueue).result =
      .error (.captureFault "ReleaseBuffer failed: device lost") := rfl
  have hok : (fetchQueued 2 [] (tornQueue.take 2)).result = .ok () := rfl
  obtain ⟨-, -, -, hbuffers, -, -, -, herror⟩ := fetchQueued_releases_in_order 2 [5, 6, 7] tornQueue
  obtain ⟨-, -, ⟨-, hemptied⟩, -⟩ := fetchQueued_releases_in_order 2 [] (tornQueue.take 2)
  obtain ⟨before, last, detail, hsteps, -, hlast, hf⟩ := herror _ hfail
  cases hf
  exact ⟨hfail, hbuffers.trans rfl, hok, (hemptied hok).1, before, last, hsteps, hlast⟩

end AirLoop
