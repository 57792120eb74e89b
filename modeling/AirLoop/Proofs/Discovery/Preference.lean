import Mathlib.Data.Nat.Digits.Lemmas
import AirLoop.Proofs.Discovery.Roster

/-!
# The preferred address

Of the addresses of an instance the one with the smallest number is taken among those of the older
family, or among all if there are none of that family (`IsPreferred`). No two addresses of one
family have the same number (`eq_of_value`), so the choice depends on which addresses there are and
on nothing else (`preferredAddress?_congr`): not on their order, nor on how often one comes, nor on
texts that no address can be read from. It is so for a whole look around
(`discover_indifferent_to_retelling`).
-/

namespace AirLoop

/-! ## Numbers of addresses -/

namespace IpAddress

/-- A number read digit by digit, the most significant first. -/
theorem foldl_eq_ofDigits {α : Type} (base : Nat) (digit : α → Nat) (parts : List α) :
    parts.foldl (fun n x => n * base + digit x) 0 =
      Nat.ofDigits base (parts.map digit).reverse := by
  rw [Nat.ofDigits_eq_foldr, List.foldr_reverse, List.foldl_map]
  congr 1
  funext n x
  rw [Nat.cast_id, Nat.add_comm, Nat.mul_comm]

/-- Parts that make the same number are the same, if there are as many of them. -/
theorem eq_of_foldl {α : Type} {base : Nat} {digit : α → Nat} (hbase : 1 < base)
    (hdigit : ∀ x, digit x < base) (hinj : digit.Injective) {xs ys : List α}
    (hlength : xs.length = ys.length)
    (h : xs.foldl (fun n x => n * base + digit x) 0 =
      ys.foldl (fun n x => n * base + digit x) 0) : xs = ys := by
  have hbound (parts : List α) : ∀ d ∈ (parts.map digit).reverse, d < base := by
    intro d hd
    obtain ⟨x, -, rfl⟩ := List.mem_map.1 (List.mem_reverse.1 hd)
    exact hdigit x
  rw [foldl_eq_ofDigits, foldl_eq_ofDigits] at h
  have hreverse : (xs.map digit).reverse = (ys.map digit).reverse := by
    apply Nat.ofDigits_inj_of_len_eq hbase
    · simp [hlength]
    · exact hbound xs
    · exact hbound ys
    · exact h
  exact List.map_injective_iff.2 hinj (List.reverse_injective hreverse)

/-- **Addresses of one family with the same number are the same.** -/
theorem eq_of_value {a b : IpAddress} (hf : a.isV4 = b.isV4) (h : a.value = b.value) : a = b := by
  cases a with
  | v4 xs =>
    cases b with
    | v6 ys => cases hf
    | v4 ys =>
      have hoctets : xs.toList = ys.toList :=
        eq_of_foldl (by decide) UInt8.toNat_lt (fun _ _ => UInt8.toNat_inj.1) (by simp) h
      rw [Vector.toList_inj.1 hoctets]
  | v6 xs =>
    cases b with
    | v4 ys => cases hf
    | v6 ys =>
      have hgroups : xs.toList = ys.toList :=
        eq_of_foldl (by decide) UInt16.toNat_lt (fun _ _ => UInt16.toNat_inj.1) (by simp) h
      rw [Vector.toList_inj.1 hgroups]

/-! ## The lowest address -/

theorem lower_le (a b : IpAddress) :
    (lower a b).value ≤ a.value ∧ (lower a b).value ≤ b.value := by
  unfold lower
  split <;> omega

theorem lower_eq (a b : IpAddress) : lower a b = a ∨ lower a b = b := by
  unfold lower
  split
  · exact .inr rfl
  · exact .inl rfl

theorem foldl_lower (a : IpAddress) (rest : List IpAddress) :
    rest.foldl lower a ∈ a :: rest ∧ ∀ b ∈ a :: rest, (rest.foldl lower a).value ≤ b.value := by
  induction rest generalizing a with
  | nil => simp
  | cons c rest ih =>
    obtain ⟨hmem, hle⟩ := ih (lower a c)
    have hfirst := hle (lower a c) List.mem_cons_self
    have hlow := lower_le a c
    rw [List.foldl_cons]
    constructor
    · rcases List.mem_cons.1 hmem with h | h
      · rw [h]
        rcases lower_eq a c with he | he <;> simp [he]
      · simp [h]
    · intro b hb
      rcases List.mem_cons.1 hb with rfl | hb
      · omega
      rcases List.mem_cons.1 hb with rfl | hb
      · omega
      · exact hle b (List.mem_cons_of_mem _ hb)

theorem lowest?_eq_some {addresses : List IpAddress} {a : IpAddress}
    (h : lowest? addresses = some a) : a ∈ addresses ∧ ∀ b ∈ addresses, a.value ≤ b.value := by
  cases addresses with
  | nil => cases h
  | cons c rest =>
    obtain rfl : rest.foldl lower c = a := Option.some.inj h
    exact foldl_lower c rest

end IpAddress

/-! ## The choice -/

/-- An address that is to be taken among some: of the older family if there is any of that family,
and with the smallest number of its family. -/
structure IsPreferred (addresses : List IpAddress) (a : IpAddress) : Prop where
  mem : a ∈ addresses
  older : ∀ b ∈ addresses, b.isV4 = true → a.isV4 = true
  least : ∀ b ∈ addresses, b.isV4 = a.isV4 → a.value ≤ b.value

theorem IsPreferred.unique {addresses : List IpAddress} {a b : IpAddress}
    (ha : IsPreferred addresses a) (hb : IsPreferred addresses b) : a = b := by
  have hfamily : a.isV4 = b.isV4 := by
    rw [Bool.eq_iff_iff]
    exact ⟨hb.older a ha.mem, ha.older b hb.mem⟩
  have hle := ha.least b hb.mem hfamily.symm
  have hge := hb.least a ha.mem hfamily
  exact IpAddress.eq_of_value hfamily (by omega)

theorem isPreferred_of_some {addresses : List IpAddress} {a : IpAddress}
    (h : preferredAddress? addresses = some a) : IsPreferred addresses a := by
  unfold preferredAddress? at h
  split at h
  · rename_i hnone
    have hnew (b) (hb : b ∈ addresses) : b.isV4 = false := by
      simpa using List.filter_eq_nil_iff.1 hnone b hb
    obtain ⟨hmem, hle⟩ := IpAddress.lowest?_eq_some h
    refine ⟨hmem, ?_, fun b hb _ => hle b hb⟩
    intro b hb hold
    rw [hnew b hb] at hold
    cases hold
  · rename_i c rest hsome
    rw [← hsome] at h
    obtain ⟨hmem, hle⟩ := IpAddress.lowest?_eq_some h
    obtain ⟨hin, hold⟩ := List.mem_filter.1 hmem
    refine ⟨hin, fun _ _ _ => hold, ?_⟩
    intro b hb hfamily
    exact hle b (List.mem_filter.2 ⟨hb, hfamily.trans hold⟩)

/-- **The choice depends on which addresses there are**, and on nothing else. -/
theorem preferredAddress?_congr {xs ys : List IpAddress} (h : ∀ a, a ∈ xs ↔ a ∈ ys) :
    preferredAddress? xs = preferredAddress? ys := by
  cases hx : preferredAddress? xs with
  | none =>
    have hnil : ys = [] := by
      rw [preferredAddress?_eq_none.1 hx] at h
      exact List.eq_nil_iff_forall_not_mem.2 fun a ha => List.not_mem_nil ((h a).2 ha)
    exact (preferredAddress?_eq_none.2 hnil).symm
  | some a =>
    have ha := isPreferred_of_some hx
    cases hy : preferredAddress? ys with
    | none =>
      have hmem := (h a).1 ha.mem
      rw [preferredAddress?_eq_none.1 hy] at hmem
      cases hmem
    | some b =>
      have hb := isPreferred_of_some hy
      have ha' : IsPreferred ys a :=
        ⟨(h a).1 ha.mem, fun c hc => ha.older c ((h c).2 hc), fun c hc => ha.least c ((h c).2 hc)⟩
      rw [ha'.unique hb]

/-! ## The same addresses, told otherwise -/

/-- Two collections of texts with the same texts in them that an address can be read from, in
whatever order and however often. -/
def SameReadable (xs ys : List String) : Prop :=
  ∀ text, (IpAddress.parse? text).isSome = true → (text ∈ xs ↔ text ∈ ys)

theorem SameReadable.addresses {xs ys : List String} (h : SameReadable xs ys) (a : IpAddress) :
    a ∈ xs.filterMap IpAddress.parse? ↔ a ∈ ys.filterMap IpAddress.parse? := by
  simp only [List.mem_filterMap]
  constructor
  · rintro ⟨text, hmem, hread⟩
    exact ⟨text, (h text (by simp [hread])).1 hmem, hread⟩
  · rintro ⟨text, hmem, hread⟩
    exact ⟨text, (h text (by simp [hread])).2 hmem, hread⟩

/-- The same event, but for the way in which the addresses of an instance are told. -/
inductive BrowseEvent.Retold : BrowseEvent → BrowseEvent → Prop where
  | same (e : BrowseEvent) : Retold e e
  | resolved (r : Resolution) {addresses : List String} : SameReadable r.addresses addresses →
      Retold (.resolved r) (.resolved { r with addresses })

/-- A wait that takes the same time and brings the same event, but for the way of telling it. -/
inductive Reception.Retold : Reception → Reception → Prop where
  | fails (takes : Duration) : Retold ⟨takes, none⟩ ⟨takes, none⟩
  | comes (takes : Duration) {e e' : BrowseEvent} : e.Retold e' →
      Retold ⟨takes, some e⟩ ⟨takes, some e'⟩

theorem Sweep.accept_retold (s : Sweep) (r : Resolution) {addresses : List String}
    (h : SameReadable r.addresses addresses) : s.accept { r with addresses } = s.accept r := by
  unfold accept
  rw [preferredAddress?_congr h.addresses]

theorem Sweep.hear_retold (s : Sweep) {e e' : BrowseEvent} (h : e.Retold e') :
    s.hear e' = s.hear e := by
  cases h with
  | same => rfl
  | resolved r hr => exact s.accept_retold r hr

namespace Network

theorem collect_retold {rs rs' : List Reception} (h : List.Forall₂ Reception.Retold rs rs')
    (timeout elapsed : Nat) (s : Sweep) :
    (collect timeout elapsed s rs').1 = (collect timeout elapsed s rs).1 := by
  induction h generalizing elapsed s with
  | nil => rfl
  | cons hr _ ih =>
    rcases Nat.lt_or_ge elapsed timeout with ht | ht
    · cases hr with
      | fails => rw [collect_failed ht rfl, collect_failed ht rfl]
      | comes takes he =>
        rw [collect_come ht rfl, collect_come ht rfl, s.hear_retold he]
        exact ih ..
    · rw [collect_over ht, collect_over ht]

/-- **A look around comes to the same however the addresses are told.** -/
theorem discover_retold (n : Network) {rs : List Reception}
    (h : List.Forall₂ Reception.Retold n.receptions rs) (serviceType : String)
    (timeout : Duration) :
    let d := n.discover serviceType timeout
    let d' := ({ n with receptions := rs } : Network).discover serviceType timeout
    d'.ending = d.ending ∧ d'.calls = d.calls ∧ d'.log = d.log := by
  intro d d'
  have hs := collect_retold h timeout.nanos 0 { serviceType }
  simp only [d, d', discover, Discovery.calls]
  cases n.daemonFailure with
  | some e => simp
  | none =>
    cases n.browseFailure with
    | some e => simp
    | none =>
      dsimp only
      split
      · simp
      · simp [hs]

/-- **How the addresses of a reply are told does not matter**, and each record has the address that
is to be preferred among those of the reply that it is made of. Whatever the order in which the
addresses of the resolved instances come, however often each, and whatever texts are among them that
no address can be read from, a look around ends the same, with the same calls and the same log. -/
theorem discover_indifferent_to_retelling (n : Network) (serviceType : String) (timeout : Duration) :
    (∀ rs, List.Forall₂ Reception.Retold n.receptions rs →
      let d := n.discover serviceType timeout
      let d' := ({ n with receptions := rs } : Network).discover serviceType timeout
      d'.ending = d.ending ∧ d'.calls = d.calls ∧ d'.log = d.log) ∧
    (n.Sweeps timeout →
      ∃ devices, (n.discover serviceType timeout).ending = .found devices ∧
        List.Forall₂
          (fun name d => ∃ r,
            (BrowseEvent.usable (n.received timeout)).find? (·.fullname = name) = some r ∧
              IsPreferred r.readable d.address)
          (BrowseEvent.fullnames (n.received timeout)) devices) := by
  refine ⟨fun rs h => n.discover_retold h serviceType timeout, ?_⟩
  intro h
  refine ⟨_, ending_of_sweeps h serviceType, ?_⟩
  have hroster := (Sweep.heard_hearAll serviceType (n.received timeout)).roster
  refine List.Forall₂.imp ?_ hroster
  rintro name d ⟨r, hr, hd⟩
  exact ⟨r, hr, isPreferred_of_some hd.address⟩

/-- What the second wait of `elusive` may bring as well. -/
def retoldWait : Reception :=
  ⟨⟨5⟩, some (.resolved ⟨"A._raop._tcp.local.", "a.local.", 5000,
    ["10.0.0.7", "nowhere", "fe80::1", "10.0.0.7"]⟩)⟩

theorem discover_same_with_addresses_retold :
    let rs := elusive.receptions.set 1 retoldWait
    List.Forall₂ Reception.Retold elusive.receptions rs ∧
      (({ elusive with receptions := rs } : Network).discover "_raop._tcp.local." ⟨20⟩).ending =
        (elusive.discover "_raop._tcp.local." ⟨20⟩).ending ∧
      elusive.Sweeps ⟨20⟩ ∧
      ∃ devices, (elusive.discover "_raop._tcp.local." ⟨20⟩).ending = .found devices ∧
        List.Forall₂
          (fun name d => ∃ r,
            (BrowseEvent.usable (elusive.received ⟨20⟩)).find? (·.fullname = name) = some r ∧
              IsPreferred r.readable d.address)
          ["A._raop._tcp.local.", "B._raop._tcp.local."] devices := by
  intro rs
  obtain ⟨hretold, hpreferred⟩ :=
    discover_indifferent_to_retelling elusive "_raop._tcp.local." ⟨20⟩
  have hsame : SameReadable ["fe80::1", "10.0.0.7"]
      ["10.0.0.7", "nowhere", "fe80::1", "10.0.0.7"] := by
    intro text hread
    have hne : text ≠ "nowhere" := by
      rintro rfl
      exact absurd hread (by decide)
    simp only [List.mem_cons, List.not_mem_nil, hne, or_false, false_or]
    tauto
  have h : List.Forall₂ Reception.Retold elusive.receptions rs :=
    .cons (.comes _ (.same _)) (.cons (.comes _ (.resolved _ hsame))
      (.cons (.comes _ (.same _)) (.cons (.comes _ (.same _)) (.cons (.comes _ (.same _)) .nil))))
  have hsweeps : elusive.Sweeps ⟨20⟩ := ⟨rfl, rfl, by decide⟩
  have hnames : BrowseEvent.fullnames (elusive.received ⟨20⟩) =
      ["A._raop._tcp.local.", "B._raop._tcp.local."] := by decide
  refine ⟨h, (hretold rs h).1, hsweeps, ?_⟩
  rw [← hnames]
  exact hpreferred hsweeps

end Network

end AirLoop
