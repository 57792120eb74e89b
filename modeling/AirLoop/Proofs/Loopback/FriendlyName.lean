import AirLoop.Proofs.Loopback.Serial
import AirLoop.Proofs.Text.Utf16

/-!
# The name of the device

The name is looked up while the device is bound, and it is there only if the lookup goes well and the
property holds a text (`AudioDevice.friendlyName_eq`). Then it is the text up to the first zero unit
(`NameProperty.name?_text`). Nothing else hangs on it: two devices that answer alike to all other
calls are opened alike (`LoopbackCapture.openDevice_alike`). The capture keeps the name that the last
opening found, whatever is done in between (`LoopbackCapture.deviceName_useAll`).
-/

namespace AirLoop

open Utf16

/-! ## The property -/

namespace NameProperty

theorem takeWhile_units {us : List UInt16} (h : 0 ∉ us) (rest : List UInt16) :
    (us ++ 0 :: rest).takeWhile (· ≠ 0) = us := by
  have hall : ∀ u ∈ us, decide (u ≠ 0) = true := by
    intro u hu
    rw [decide_eq_true_eq]
    rintro rfl
    exact h hu
  rw [List.takeWhile_append_of_pos hall]
  simp

/-- A text is read up to its first zero unit, fragment by fragment. -/
theorem name?_text {ps : List Fragment} (hps : Falls ps) (h : 0 ∉ ps.flatMap Fragment.units)
    (rest : List UInt16) :
    (text (ps.flatMap Fragment.units ++ 0 :: rest)).name? =
      some (String.ofList (ps.map Fragment.shown)) := by
  rw [name?, takeWhile_units h, decode_fragments hps]

/-- A text without the character zero is read back from its units. -/
theorem name?_encode {s : String} (h : Char.ofNat 0 ∉ s.toList) (rest : List UInt16) :
    (text (encode s.toList ++ 0 :: rest)).name? = some s := by
  rw [name?, takeWhile_units (zero_not_mem_encode h), decode_encode, String.ofList_toList]

end NameProperty

/-! ## The lookup -/

/-- The calls that look up the name. -/
def AudioCall.looksUpName : AudioCall → Bool
  | openProperties | readName | clearName => true
  | _ => false

namespace AudioDevice

/-- The calls of looking up the name, by how they are answered. -/
def lookup (refusal : List AudioCall → AudioCall → Option String) (before : List AudioCall) :
    List AudioCall :=
  if (refusal before .openProperties).isSome then [.openProperties]
  else if (refusal (before ++ [.openProperties]) .readName).isSome then [.openProperties, .readName]
  else [.openProperties, .readName, .clearName]

theorem looksUpName_of_mem_lookup {refusal : List AudioCall → AudioCall → Option String}
    {before : List AudioCall} {c : AudioCall} (h : c ∈ lookup refusal before) :
    c.looksUpName = true := by
  revert c
  unfold lookup
  split
  · decide
  · split <;> decide

/-- What looking up the name comes to. -/
theorem friendlyName_eq (d : AudioDevice) :
    d.friendlyName =
      (if .clearName ∈ lookup d.refusal d.calls then
          (d.nameProperty (d.calls ++ [.openProperties, .readName])).name?
        else none,
        { d with calls := d.calls ++ lookup d.refusal d.calls }) := by
  unfold friendlyName lookup ask note
  cases hopen : d.refusal d.calls .openProperties with
  | some e => simp
  | none => cases hread : d.refusal (d.calls ++ [.openProperties]) .readName <;> simp [hread]

/-! ## All other calls -/

/-- Two devices that answer alike to all calls but those that look up the name, where `same` calls
have been made of both; looking up the name leaves it at that. -/
structure AlikeButName (same : List AudioCall → List AudioCall → Prop) (d d' : AudioDevice) :
    Prop where
  calls : same d.calls d'.calls
  refusal : ∀ {b b' c}, same b b' → c.looksUpName = false → d.refusal b c = d'.refusal b' c
  mixFormat : ∀ {b b'}, same b b' → d.mixFormat b = d'.mixFormat b'
  crashes : ∀ {b b'}, same b b' → d.crashesOnActivation b = d'.crashesOnActivation b'
  note : ∀ {b b' c}, same b b' → c.looksUpName = false → same (b ++ [c]) (b' ++ [c])
  lookUp : ∀ {b b'}, same b b' → same (b ++ lookup d.refusal b) (b' ++ lookup d'.refusal b')

variable {same : List AudioCall → List AudioCall → Prop} {d d' : AudioDevice} {c : AudioCall}

theorem AlikeButName.with_calls (h : AlikeButName same d d') {b b' : List AudioCall}
    (hs : same b b') : AlikeButName same { d with calls := b } { d' with calls := b' } :=
  ⟨hs, h.refusal, h.mixFormat, h.crashes, h.note, h.lookUp⟩

theorem AlikeButName.noted (h : AlikeButName same d d') (hc : c.looksUpName = false) :
    AlikeButName same (d.note c) (d'.note c) :=
  h.with_calls (h.note h.calls hc)

/-- Both devices refuse a call or neither does. -/
theorem AlikeButName.asked (h : AlikeButName same d d') (hc : c.looksUpName = false) :
    (∃ r, d.ask c = (r, d.note c) ∧ d'.ask c = (r, d'.note c)) ∧
      AlikeButName same (d.note c) (d'.note c) :=
  ⟨⟨d.refusal d.calls c, rfl, by rw [ask, h.refusal h.calls hc]⟩, h.noted hc⟩

theorem AlikeButName.named (h : AlikeButName same d d') :
    AlikeButName same d.friendlyName.2 d'.friendlyName.2 := by
  rw [friendlyName_eq, friendlyName_eq]
  exact h.with_calls (h.lookUp h.calls)

/-- What opening answers after a binding. -/
def answer : Binding → Except Fault AudioFormat
  | .bound s => .ok s.format
  | .refused f => .error f
  | .crashed => .error (.deviceUnavailable "loopback capture thread exited during open")

theorem AlikeButName.configureStream (h : AlikeButName same d d') (name name' : Option String) :
    answer (d.configureStream name).1 = answer (d'.configureStream name').1 ∧
      AlikeButName same (d.configureStream name).2 (d'.configureStream name').2 := by
  obtain ⟨⟨r, hr, hr'⟩, h₁⟩ := h.asked (c := .mixFormat) rfl
  unfold AudioDevice.configureStream
  rw [hr, hr']
  cases r with
  | some e => exact ⟨rfl, h₁⟩
  | none =>
    have hmix := h₁.mixFormat h₁.calls
    dsimp only
    rw [← hmix]
    generalize (d.note .mixFormat).mixFormat (d.note .mixFormat).calls = mix
    obtain ⟨⟨r, hr, hr'⟩, h₂⟩ := h₁.asked (c := .configure mix.format mix.blockAlign) rfl
    rw [hr, hr']
    cases r with
    | some e => exact ⟨rfl, h₂.noted rfl⟩
    | none =>
      obtain ⟨⟨r, hr, hr'⟩, h₃⟩ := h₂.asked (c := .captureService) rfl
      dsimp only
      rw [hr, hr']
      cases r with
      | some e => exact ⟨rfl, h₃.noted rfl⟩
      | none => exact ⟨rfl, h₃⟩

theorem AlikeButName.bindLoopback (h : AlikeButName same d d') :
    answer d.bindLoopback.1 = answer d'.bindLoopback.1 ∧
      AlikeButName same d.bindLoopback.2 d'.bindLoopback.2 := by
  obtain ⟨⟨r, hr, hr'⟩, h₁⟩ := h.asked (c := .createEnumerator) rfl
  unfold AudioDevice.bindLoopback
  rw [hr, hr']
  cases r with
  | some e => exact ⟨rfl, h₁⟩
  | none =>
    obtain ⟨⟨r, hr, hr'⟩, h₂⟩ := h₁.asked (c := .defaultEndpoint) rfl
    dsimp only
    rw [hr, hr']
    cases r with
    | some e => exact ⟨rfl, h₂⟩
    | none =>
      have h₃ := h₂.named
      dsimp only
      rw [← h₃.crashes h₃.calls]
      split
      · exact ⟨rfl, h₃⟩
      · obtain ⟨⟨r, hr, hr'⟩, h₄⟩ := h₃.asked (c := .activate) rfl
        rw [hr, hr']
        cases r with
        | some e => exact ⟨rfl, h₄⟩
        | none => exact h₄.configureStream _ _

/-- Devices that differ in the property alone. -/
theorem alikeButName_nameProperty (d : AudioDevice) (p : List AudioCall → NameProperty) :
    AlikeButName Eq d { d with nameProperty := p } := by
  refine ⟨rfl, ?_, ?_, ?_, ?_, ?_⟩
  · rintro b _ c rfl -
    rfl
  · rintro b _ rfl
    rfl
  · rintro b _ rfl
    rfl
  · rintro b _ c rfl -
    rfl
  · rintro b _ rfl
    rfl

/-- Calls without those that look up the name. -/
def otherCalls (calls : List AudioCall) : List AudioCall := calls.filter (!·.looksUpName)

theorem otherCalls_lookup (refusal : List AudioCall → AudioCall → Option String)
    (before : List AudioCall) : otherCalls (before ++ lookup refusal before) = otherCalls before := by
  have hnone : otherCalls (lookup refusal before) = [] := by
    rw [otherCalls, List.filter_eq_nil_iff]
    intro c hc
    simp [looksUpName_of_mem_lookup hc]
  rw [otherCalls, List.filter_append]
  exact (congrArg (otherCalls before ++ ·) hnone).trans (List.append_nil _)

/-- Devices to which looking up the name is all the same, and which are alike otherwise. -/
structure Indifferent (d d' : AudioDevice) : Prop where
  calls : otherCalls d.calls = otherCalls d'.calls
  refusal : ∀ b b' c, otherCalls b = otherCalls b' → c.looksUpName = false →
    d.refusal b c = d'.refusal b' c
  mixFormat : ∀ b b', otherCalls b = otherCalls b' → d.mixFormat b = d'.mixFormat b'
  crashes : ∀ b b', otherCalls b = otherCalls b' →
    d.crashesOnActivation b = d'.crashesOnActivation b'

theorem Indifferent.alikeButName (h : Indifferent d d') :
    AlikeButName (fun b b' => otherCalls b = otherCalls b') d d' where
  calls := h.calls
  refusal hs hc := h.refusal _ _ _ hs hc
  mixFormat hs := h.mixFormat _ _ hs
  crashes hs := h.crashes _ _ hs
  note {b b' c} hs hc := by
    rw [otherCalls, otherCalls, List.filter_append, List.filter_append]
    exact congrArg (· ++ _) hs
  lookUp hs := by rwa [otherCalls_lookup, otherCalls_lookup]

/-- Simulated devices may differ in the name and in the failures of its lookup. -/
theorem indifferent_simulated (f : DeviceFailures) (openProperties readName : Option String)
    (mix : MixFormat) (name name' : NameProperty) (crashes : Bool) :
    Indifferent (simulated f mix name crashes)
      (simulated { f with openProperties, readName } mix name' crashes) := by
  refine ⟨rfl, ?_, fun _ _ _ => rfl, fun _ _ _ => rfl⟩
  intro b b' c hb hc
  have hstart : AudioCall.startStream ∈ b ↔ .startStream ∈ b' := by
    have hmem : ∀ calls, AudioCall.startStream ∈ otherCalls calls ↔ .startStream ∈ calls := by
      intro calls
      rw [otherCalls, List.mem_filter]
      exact and_iff_left rfl
    rw [← hmem b, ← hmem b', hb]
  cases c with
  | startStream => simp only [simulated, DeviceFailures.refusal, hstart]
  | openProperties | readName | clearName => cases hc
  | _ => rfl

end AudioDevice

/-! ## Opening -/

namespace LoopbackCapture

open AudioDevice

/-- What opening does with a capture that is not open, on a device that can be joined. -/
theorem openDevice_joined {c : LoopbackCapture} (hs : c.holdsSender = false)
    (hj : c.device.refusal c.device.calls .joinApartment = none) :
    let b := (c.device.note .joinApartment).bindLoopback
    c.openDevice.result = answer b.1 ∧
      c.openDevice.source.device =
        match answer b.1 with
        | .ok _ => b.2
        | .error _ => b.2.note .leaveApartment := by
  intro b
  unfold openDevice
  rw [hs, if_neg Bool.false_ne_true, ask, hj]
  dsimp only
  rw [show (c.device.note .joinApartment).bindLoopback = b from rfl]
  obtain ⟨binding, device⟩ := b
  cases binding <;> exact ⟨rfl, rfl⟩

theorem openDevice_unjoined {c : LoopbackCapture} (hs : c.holdsSender = false) {e : String}
    (hj : c.device.refusal c.device.calls .joinApartment = some e) :
    c.openDevice =
      ({ c with device := c.device.note .joinApartment } : LoopbackCapture).refuse
        (.deviceUnavailable ("CoInitializeEx failed: " ++ e)) := by
  unfold openDevice
  rw [hs, if_neg Bool.false_ne_true, ask, hj]

/-- **Opening goes alike with devices that are alike but for the name.** -/
theorem openDevice_alike {same : List AudioCall → List AudioCall → Prop} {c : LoopbackCapture}
    {d : AudioDevice} (h : AlikeButName same c.device d) :
    let c' : LoopbackCapture := { c with device := d }
    c.openDevice.result = c'.openDevice.result ∧
      same c.openDevice.source.device.calls c'.openDevice.source.device.calls := by
  intro c'
  by_cases hs : c.holdsSender = true
  · rw [openDevice_again hs, openDevice_again (c := c') hs]
    exact ⟨rfl, h.calls⟩
  have hs : c.holdsSender = false := by simpa using hs
  have hrefusal := h.refusal h.calls (c := .joinApartment) rfl
  have hjoined := h.noted (c := .joinApartment) rfl
  cases hj : c.device.refusal c.device.calls .joinApartment with
  | some e =>
    rw [openDevice_unjoined hs hj, openDevice_unjoined (c := c') hs (hrefusal ▸ hj)]
    exact ⟨rfl, hjoined.calls⟩
  | none =>
    obtain ⟨hr, hd⟩ := openDevice_joined hs hj
    obtain ⟨hr', hd'⟩ := openDevice_joined (c := c') hs (hrefusal ▸ hj)
    obtain ⟨hb, hbound⟩ := hjoined.bindLoopback
    rw [hr, hr', hd, hd', ← hb]
    refine ⟨rfl, ?_⟩
    cases answer (c.device.note .joinApartment).bindLoopback.1 with
    | ok format => exact hbound.calls
    | error f => exact (hbound.noted rfl).calls

/-! ## The name that is kept -/

/-- The device when its name is looked up, if nothing was refused before. -/
def endpoint (c : LoopbackCapture) : AudioDevice :=
  c.device.note .joinApartment |>.note .createEnumerator |>.note .defaultEndpoint

theorem name_of_configured {d : AudioDevice} {name : Option String} {s : LoopbackStream}
    (h : (d.configureStream name).1 = .bound s) : s.deviceName = name := by
  unfold AudioDevice.configureStream at h
  split at h
  · cases h
  · dsimp only at h
    split at h
    · cases h
    · split at h
      · cases h
      · cases h
        rfl

theorem name_of_bound {d : AudioDevice} {s : LoopbackStream} (h : d.bindLoopback.1 = .bound s) :
    s.deviceName = (d.note .createEnumerator |>.note .defaultEndpoint).friendlyName.1 := by
  unfold AudioDevice.bindLoopback ask at h
  split at h
  · cases h
  · next hc =>
    obtain ⟨-, rfl⟩ := Prod.mk.inj hc
    split at h
    · cases h
    · next he =>
      obtain ⟨-, rfl⟩ := Prod.mk.inj he
      dsimp only at h
      split at h
      · cases h
      · split at h
        · cases h
        · exact name_of_configured h

/-- **An opening that goes well finds the name**, and one that fails leaves the name as it was. -/
theorem deviceName_openDevice (c : LoopbackCapture) :
    c.openDevice.source.deviceName =
      match c.openDevice.result with
      | .ok _ => c.endpoint.friendlyName.1
      | .error _ => c.deviceName := by
  by_cases hs : c.holdsSender = true
  · rw [openDevice_again hs]
    rfl
  have hs : c.holdsSender = false := by simpa using hs
  cases hj : c.device.refusal c.device.calls .joinApartment with
  | some e =>
    rw [openDevice_unjoined hs hj]
    rfl
  | none =>
    have hname : ∀ s, (c.device.note .joinApartment).bindLoopback.1 = .bound s →
        s.deviceName = c.endpoint.friendlyName.1 := fun s h => name_of_bound h
    unfold openDevice
    rw [hs, if_neg Bool.false_ne_true, ask, hj]
    dsimp only
    generalize (c.device.note .joinApartment).bindLoopback = b at hname ⊢
    obtain ⟨binding, device⟩ := b
    cases binding with
    | bound s => exact hname s rfl
    | refused f => rfl
    | crashed => rfl

theorem deviceName_pump (c : LoopbackCapture) : c.pump.2.deviceName = c.deviceName := by
  unfold pump
  split
  · rfl
  · split
    · rfl
    · dsimp only
      split <;> rfl

theorem deviceName_beginDelivery (c : LoopbackCapture) (t : CaptureThread) (k : Nat) :
    (c.beginDelivery t k).2.deviceName = c.deviceName := by
  unfold beginDelivery
  split <;> rfl

theorem deviceName_obey (c : LoopbackCapture) (t : CaptureThread) (command : Command) :
    (c.obey t command).2.deviceName = c.deviceName := by
  cases command with
  | start k =>
    have h := (deviceName_pump (c.beginDelivery t k).2).trans (deviceName_beginDelivery c t k)
    unfold obey
    dsimp only
    split <;> exact h
  | stop | close => rfl

theorem deviceName_start (c : LoopbackCapture) (k : Nat) :
    (c.start k).source.deviceName = c.deviceName := by
  unfold start
  split
  · rfl
  · split
    · rfl
    · exact deviceName_obey ..

theorem deviceName_stop (c : LoopbackCapture) : c.stop.source.deviceName = c.deviceName := by
  unfold stop
  split
  · rfl
  · dsimp only
    split
    · rfl
    · exact deviceName_obey ..

theorem deviceName_closeDevice (c : LoopbackCapture) :
    c.closeDevice.source.deviceName = c.deviceName := by
  unfold closeDevice
  dsimp only
  split
  · exact deviceName_stop c
  · split
    · exact (deviceName_obey ..).trans (deviceName_stop c)
    · exact deviceName_stop c

theorem deviceName_enqueue (c : LoopbackCapture) (packets : List Packet) :
    (c.enqueue packets).2.deviceName = c.deviceName :=
  deviceName_pump _

theorem deviceName_idle (c : LoopbackCapture) : c.idle.2.deviceName = c.deviceName := by
  unfold idle
  split
  · exact deviceName_pump c
  · exact deviceName_enqueue ..

end LoopbackCapture

/-- What can be done with a loopback capture, and what can happen to it meanwhile. -/
inductive LoopbackUse where
  | call (c : LoopbackCall)
  /-- time passes -/
  | idle
  /-- the device queues packets -/
  | packets (ps : List Packet)
  /-- the listener is going to crash on the next buffer -/
  | crashing
  deriving DecidableEq

namespace LoopbackCapture

open AudioDevice

/-- A capture after one use. -/
def use (c : LoopbackCapture) : LoopbackUse → LoopbackCapture
  | .call k => (c.call k).capture
  | .idle => c.idle.2
  | .packets ps => (c.enqueue ps).2
  | .crashing => { c with listenerCrashes := true }

/-- A capture after some uses. -/
def useAll (c : LoopbackCapture) (uses : List LoopbackUse) : LoopbackCapture := uses.foldl use c

/-- The name that a use finds: openings look it up, and only those that go well find it, which may be
that there is none. -/
def found (c : LoopbackCapture) : LoopbackUse → Option (Option String)
  | .call .openDevice =>
    match c.openDevice.result with
    | .ok _ => some c.endpoint.friendlyName.1
    | .error _ => none
  | _ => none

/-- The names that are found in some uses, the earliest first. -/
def foundAll (c : LoopbackCapture) : List LoopbackUse → List (Option String)
  | [] => []
  | u :: rest => (c.found u).toList ++ (c.use u).foundAll rest

/-- Only a name that is found changes the name. -/
theorem deviceName_use (c : LoopbackCapture) (u : LoopbackUse) :
    (c.use u).deviceName = (c.found u).getD c.deviceName := by
  cases u with
  | call k =>
    cases k with
    | openDevice =>
      have h := deviceName_openDevice c
      unfold found
      cases hr : c.openDevice.result with
      | ok format =>
        rw [hr] at h
        exact h
      | error f =>
        rw [hr] at h
        exact h
    | start k => exact deviceName_start c k
    | stop => exact deviceName_stop c
    | closeDevice => exact deviceName_closeDevice c
    | discard => exact deviceName_closeDevice c
  | idle => exact deviceName_idle c
  | packets ps => exact deviceName_enqueue c ps
  | crashing => rfl

/-- **The name is the one that was found last.** -/
theorem deviceName_useAll (c : LoopbackCapture) (uses : List LoopbackUse) :
    (c.useAll uses).deviceName = (c.foundAll uses).getLast?.getD c.deviceName := by
  induction uses generalizing c with
  | nil => rfl
  | cons u rest ih =>
    have hrest : (c.useAll (u :: rest)).deviceName =
        ((c.use u).foundAll rest).getLast?.getD (c.use u).deviceName := ih (c.use u)
    rw [hrest, deviceName_use, foundAll]
    cases c.found u with
    | none => rfl
    | some name =>
      rw [Option.toList_some, List.singleton_append, List.getLast?_cons]
      rfl

/-- **The name of every device**, whatever it answers. It is there only if the properties can be
opened and the name read, and the property is a text; then it shows the units before the first zero
fragment by fragment, characters as they are and one replacement for each surrogate alone, so that a
text is read back. Whether an opening goes well, and with what answer, does not hang on the property,
nor on how its lookup goes where the device does not mind. And the capture has the name that was
found last. -/
theorem friendlyName_eq_shown_property :
    (∀ d : AudioDevice, d.friendlyName.1 =
      if (d.refusal d.calls .openProperties).isSome then none
      else if (d.refusal (d.calls ++ [.openProperties]) .readName).isSome then none
      else (d.nameProperty (d.calls ++ [.openProperties, .readName])).name?) ∧
    (∀ us rest, 0 ∉ us → ∃ ps, Falls ps ∧ ps.flatMap Fragment.units = us ∧
      (NameProperty.text (us ++ 0 :: rest)).name? = some (String.ofList (ps.map Fragment.shown))) ∧
    (∀ ps rest, Falls ps → 0 ∉ ps.flatMap Fragment.units →
      (NameProperty.text (ps.flatMap Fragment.units ++ 0 :: rest)).name? =
        some (String.ofList (ps.map Fragment.shown))) ∧
    (∀ (s : String) rest, Char.ofNat 0 ∉ s.toList →
      (NameProperty.text (encode s.toList ++ 0 :: rest)).name? = some s) ∧
    (NameProperty.missing.name? = none ∧ NameProperty.otherKind.name? = none) ∧
    (∀ (c : LoopbackCapture) (nameProperty : List AudioCall → NameProperty),
      let c' : LoopbackCapture := { c with device := { c.device with nameProperty } }
      c.openDevice.result = c'.openDevice.result ∧
        c.openDevice.source.device.calls = c'.openDevice.source.device.calls) ∧
    (∀ (c : LoopbackCapture) (d : AudioDevice), Indifferent c.device d →
      let c' : LoopbackCapture := { c with device := d }
      c.openDevice.result = c'.openDevice.result ∧
        otherCalls c.openDevice.source.device.calls =
          otherCalls c'.openDevice.source.device.calls) ∧
    ∀ (c : LoopbackCapture) (uses : List LoopbackUse),
      (c.useAll uses).deviceName = (c.foundAll uses).getLast?.getD c.deviceName := by
  refine ⟨?_, ?_, ?_, ?_, ⟨rfl, rfl⟩, ?_, ?_, deviceName_useAll⟩
  · intro d
    rw [friendlyName_eq]
    unfold lookup
    split
    · rfl
    · split <;> rfl
  · intro us rest h
    obtain ⟨ps, hps, rfl⟩ := exists_fragments us
    exact ⟨ps, hps, rfl, NameProperty.name?_text hps h rest⟩
  · intro ps rest hps h
    exact NameProperty.name?_text hps h rest
  · intro s rest h
    exact NameProperty.name?_encode h rest
  · intro c nameProperty
    exact openDevice_alike (alikeButName_nameProperty c.device nameProperty)
  · intro c d h
    exact openDevice_alike h.alikeButName

/-- A name with half a pair in it, and a device that does not mind when its name cannot be read. -/
theorem friendlyName_replaces_lone_surrogate :
    let mix : MixFormat := { format := ⟨48000, 32, 2⟩, blockAlign := 8 }
    let named : NameProperty := .text [0x61, 0xd800, 0xd83d, 0xde00, 0, 0x62]
    let c : LoopbackCapture := { device := .simulated {} mix named false }
    let d : AudioDevice := .simulated { readName := some "busy" } mix .missing false
    Falls [.character 'a', .alone 0xd800, .character '😀'] ∧
      named.name? = some "a\ufffd😀" ∧
      Indifferent c.device d ∧ c.openDevice.result = { c with device := d }.openDevice.result ∧
      (c.useAll [.call .openDevice, .call .stop, .call .closeDevice]).deviceName = named.name? := by
  intro mix named c d
  obtain ⟨-, -, hshown, -, -, -, halike, hkept⟩ := friendlyName_eq_shown_property
  have hfalls : Falls [.character 'a', .alone 0xd800, .character '😀'] := by
    refine ⟨?_, by simp [Fragment.Parts]⟩
    simp [Fragment.Proper, isSurrogate, isLeading]
  have hindifferent : Indifferent c.device d := indifferent_simulated _ _ _ _ _ _ _
  exact ⟨hfalls, hshown _ [0x62] hfalls (by decide), hindifferent, (halike c d hindifferent).1,
    hkept c [.call .openDevice, .call .stop, .call .closeDevice]⟩

end LoopbackCapture

end AirLoop
