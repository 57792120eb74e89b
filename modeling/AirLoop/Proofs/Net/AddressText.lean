import AirLoop.Net.AddressReader
import AirLoop.Proofs.Text.Digits
import Mathlib.Data.List.Basic
import Mathlib.Data.List.TakeWhile

/-!
# Addresses survive their text

The canonical text of an address is one of the texts that are read, and gives the address back
(`parse?_render`). The text of an IPv6 address is never taken for one of the other family, since
no octet in it is followed by a point before a colon has come (`readOctets?_eq_none`). What is left
out at `::` is a run of zero groups, wherever it is and however long (`isZeros_longestRun`).
-/

namespace AirLoop.IpAddress

/-! ## Digits -/

theorem hexDigit?_digitChar : ∀ d < 16, hexDigit? d.digitChar = some d := by
  decide

/-- A hexadecimal digit in either case. -/
def isHex (c : Char) : Bool := (hexDigit? c).isSome

theorem isHex_of_isDigit {c : Char} (h : c.isDigit = true) : isHex c = true := by
  rw [isHex, hexDigit?, if_pos h]
  rfl

theorem ofDigits_toDigits {b : Nat} (hb : 1 < b) (hb' : b ≤ 16) (n : Nat) :
    ofDigits b (b.toDigits n) = n := by
  refine foldl_toDigits hb (fun d hd => ?_) n
  rw [hexDigit?_digitChar d (by omega)]
  rfl

/-! ## The older family -/

theorem readOctet?_digits (o : UInt8) {rest : List Char} (h : Stops Char.isDigit rest) :
    readOctet? (decimalDigits o.toNat ++ rest) = some (o, rest) := by
  have hdigits : ∀ c ∈ decimalDigits o.toNat, c.isDigit = true :=
    fun c => isDigit_of_mem_decimalDigits
  have hlt := o.toNat_lt
  have hlength : (decimalDigits o.toNat).length ≤ 3 :=
    (Nat.length_toDigits_le_iff (by decide) (by decide)).2 (by omega)
  have hvalue : ofDigits 10 (decimalDigits o.toNat) = o.toNat :=
    ofDigits_toDigits (by decide) (by decide) _
  have hzero : ¬ (1 < (decimalDigits o.toNat).length ∧
      (decimalDigits o.toNat).head? = some '0') := by
    rintro ⟨hlong, hhead⟩
    have hn : o.toNat = 0 :=
      Nat.eq_zero_of_not_pos fun hpos => head?_toDigits (by decide) hpos hhead
    rw [hn] at hlong
    exact absurd hlong (by decide)
  unfold readOctet?
  dsimp only
  rw [takeWhile_of_stops hdigits h, dropWhile_of_stops hdigits h, hvalue, if_neg,
    UInt8.ofNat_toNat]
  rintro (hnil | hlong | hbig | hlead)
  · exact Nat.toDigits_ne_nil hnil
  · omega
  · omega
  · exact hzero hlead

theorem octetsText_eq (a b c d : UInt8) :
    octetsText [a, b, c, d] = decimalDigits a.toNat ++ '.' :: (decimalDigits b.toNat ++
      '.' :: (decimalDigits c.toNat ++ '.' :: decimalDigits d.toNat)) := rfl

theorem readOctets?_text (a b c d : UInt8) {rest : List Char} (h : Stops Char.isDigit rest) :
    readOctets? (octetsText [a, b, c, d] ++ rest) = some (#v[a, b, c, d], rest) := by
  have hpoint (cs : List Char) : Stops Char.isDigit ('.' :: cs) := stops_cons (by decide) cs
  simp only [octetsText_eq, List.append_assoc, List.cons_append, readOctets?,
    readOctet?_digits _ (hpoint _), readOctet?_digits d h, expect?, if_pos, Option.bind_eq_bind,
    Option.bind_some, Option.pure_def]

theorem dropWhile_isDigit (cs : List Char) :
    (cs.dropWhile Char.isDigit).dropWhile isHex = cs.dropWhile isHex := by
  have hhex : ∀ c ∈ cs.takeWhile Char.isDigit, isHex c = true :=
    fun c hc => isHex_of_isDigit (List.mem_takeWhile_imp hc)
  calc (cs.dropWhile Char.isDigit).dropWhile isHex
      = (cs.takeWhile Char.isDigit ++ cs.dropWhile Char.isDigit).dropWhile isHex :=
        (List.dropWhile_append_of_pos hhex).symm
    _ = cs.dropWhile isHex := by rw [List.takeWhile_append_dropWhile]

/-- Four octets cannot be read if no point follows the first digits, decimal or not. -/
theorem readOctets?_eq_none {cs : List Char} (h : (cs.dropWhile isHex).head? ≠ some '.') :
    readOctets? cs = none := by
  unfold readOctets?
  cases ho : readOctet? cs with
  | none => rfl
  | some r =>
    obtain ⟨o, rest⟩ := r
    have hrest : rest = cs.dropWhile Char.isDigit := by
      unfold readOctet? at ho
      dsimp only at ho
      split at ho
      · cases ho
      · cases ho
        rfl
    have hpoint : expect? '.' rest = none := by
      rw [← dropWhile_isDigit, ← hrest] at h
      cases rest with
      | nil => rfl
      | cons c tail =>
        refine if_neg ?_
        rintro rfl
        exact h rfl
    simp [hpoint]

/-! ## Groups -/

theorem isHex_of_mem_group {g : UInt16} {c : Char} (h : c ∈ Nat.toDigits 16 g.toNat) :
    isHex c = true := by
  obtain ⟨d, hd, rfl⟩ := mem_toDigits (by decide) h
  rw [isHex, hexDigit?_digitChar d hd]
  rfl

theorem readGroup?_eq (cs : List Char) :
    readGroup? cs =
      if cs.takeWhile isHex = [] ∨ 4 < (cs.takeWhile isHex).length then none
      else some (UInt16.ofNat (ofDigits 16 (cs.takeWhile isHex)), cs.dropWhile isHex) := rfl

theorem readGroup?_digits (g : UInt16) {rest : List Char} (h : Stops isHex rest) :
    readGroup? (Nat.toDigits 16 g.toNat ++ rest) = some (g, rest) := by
  have hdigits : ∀ c ∈ Nat.toDigits 16 g.toNat, isHex c = true := fun c => isHex_of_mem_group
  have hlt := g.toNat_lt
  have hlength : (Nat.toDigits 16 g.toNat).length ≤ 4 :=
    (Nat.length_toDigits_le_iff (by decide) (by decide)).2 (by omega)
  rw [readGroup?_eq, takeWhile_of_stops hdigits h, dropWhile_of_stops hdigits h,
    ofDigits_toDigits (by decide) (by decide), UInt16.ofNat_toNat, if_neg]
  rintro (hnil | hlong)
  · exact Nat.toDigits_ne_nil hnil
  · omega

/-- No group can be read where no digit comes first. -/
theorem readGroup?_eq_none {cs : List Char} (h : Stops isHex cs) : readGroup? cs = none := by
  have hnone : cs.takeWhile isHex = [] := @takeWhile_of_stops isHex [] cs nofun h
  exact if_pos (.inl hnone)

/-- What may follow a group: its digits end there, and it is no octet. -/
structure AfterGroup (cs : List Char) : Prop where
  stops : Stops isHex cs
  noPoint : cs.head? ≠ some '.'

theorem afterGroup_nil : AfterGroup [] := ⟨stops_nil _, nofun⟩

theorem afterGroup_colon (cs : List Char) : AfterGroup (':' :: cs) :=
  ⟨stops_cons (by decide) cs, by simp⟩

theorem AfterGroup.readOctets?_eq_none {rest : List Char} (h : AfterGroup rest) (ds : List Char)
    (hds : ∀ c ∈ ds, isHex c = true) : readOctets? (ds ++ rest) = none := by
  refine IpAddress.readOctets?_eq_none ?_
  rw [dropWhile_of_stops hds h.stops]
  exact h.noPoint

/-- The characters from which a group is read, after the colon unless it is the first. -/
def inner? (first : Bool) (cs : List Char) : Option (List Char) :=
  if first then some cs else expect? ':' cs

/-- One more group, and those after it. -/
theorem readGroups_group (room : Nat) {first : Bool} {cs rest : List Char} {g : UInt16}
    (hcs : inner? first cs = some (Nat.toDigits 16 g.toNat ++ rest)) (h : AfterGroup rest) :
    readGroups (room + 1) first cs =
      { readGroups room false rest with groups := g :: (readGroups room false rest).groups } := by
  have hoctets := h.readOctets?_eq_none _ fun c => isHex_of_mem_group (g := g)
  unfold inner? at hcs
  simp only [readGroups, hcs, hoctets, ite_self, readGroup?_digits g h.stops]

/-- No more groups. -/
theorem readGroups_end {room : Nat} {first : Bool} {cs : List Char}
    (h : ∀ inner, inner? first cs = some inner → AfterGroup inner) :
    readGroups room first cs = ⟨[], false, cs⟩ := by
  cases room with
  | zero => rfl
  | succ room =>
    unfold readGroups
    cases hcs : inner? first cs with
    | none =>
      unfold inner? at hcs
      simp only [hcs]
    | some inner =>
      have hafter := h inner hcs
      have hoctets : readOctets? inner = none := hafter.readOctets?_eq_none [] nofun
      unfold inner? at hcs
      simp only [hcs, hoctets, ite_self, readGroup?_eq_none hafter.stops]

/-- Groups with a colon in front of each. -/
def colonGroups (gs : List UInt16) : List Char :=
  gs.flatMap fun g => ':' :: Nat.toDigits 16 g.toNat

theorem groupsText_cons (g : UInt16) (gs : List UInt16) :
    groupsText (g :: gs) = Nat.toDigits 16 g.toNat ++ colonGroups gs := by
  induction gs generalizing g with
  | nil => exact (List.append_nil _).symm
  | cons h gs ih =>
    change Nat.toDigits 16 g.toNat ++ ':' :: groupsText (h :: gs) = _
    rw [ih]
    rfl

/-- Where the groups of an address end: with the text, or at groups that were left out. -/
def GroupsEnd (cs : List Char) : Prop := cs = [] ∨ ∃ rest, cs = ':' :: ':' :: rest

theorem GroupsEnd.afterGroup {rest : List Char} (h : GroupsEnd rest) (gs : List UInt16) :
    AfterGroup (colonGroups gs ++ rest) := by
  cases gs with
  | nil =>
    rcases h with rfl | ⟨tail, rfl⟩
    · exact afterGroup_nil
    · exact afterGroup_colon _
  | cons g gs => exact afterGroup_colon _

theorem readGroups_later {rest : List Char} (h : GroupsEnd rest) {gs : List UInt16} {room : Nat}
    (hroom : gs.length ≤ room) :
    readGroups room false (colonGroups gs ++ rest) = ⟨gs, false, rest⟩ := by
  induction gs generalizing room with
  | nil =>
    refine readGroups_end ?_
    rcases h with rfl | ⟨tail, rfl⟩
    · nofun
    · rintro inner ⟨⟩
      exact afterGroup_colon _
  | cons g gs ih =>
    obtain ⟨room, rfl⟩ : ∃ r, room = r + 1 := ⟨room - 1, by simp at hroom; omega⟩
    have hcs : inner? false (colonGroups (g :: gs) ++ rest) =
        some (Nat.toDigits 16 g.toNat ++ (colonGroups gs ++ rest)) := by
      simp [inner?, expect?, colonGroups]
    rw [readGroups_group room hcs (h.afterGroup gs), ih (by simpa using hroom)]

/-- **Groups are read back up to their end.** -/
theorem readGroups_groupsText {rest : List Char} (h : GroupsEnd rest) (gs : List UInt16)
    (room : Nat) (hroom : gs.length ≤ room) :
    readGroups room true (groupsText gs ++ rest) = ⟨gs, false, rest⟩ := by
  cases gs with
  | nil =>
    refine readGroups_end ?_
    rintro inner ⟨⟩
    exact h.afterGroup []
  | cons g gs =>
    obtain ⟨room, rfl⟩ : ∃ r, room = r + 1 := ⟨room - 1, by simp at hroom; omega⟩
    have hcs : inner? true (groupsText (g :: gs) ++ rest) =
        some (Nat.toDigits 16 g.toNat ++ (colonGroups gs ++ rest)) := by
      rw [groupsText_cons, List.append_assoc]
      rfl
    rw [readGroups_group room hcs (h.afterGroup gs), readGroups_later h (by simpa using hroom)]

theorem readOctets?_groupsText {rest : List Char} (h : GroupsEnd rest) (gs : List UInt16) :
    readOctets? (groupsText gs ++ rest) = none := by
  cases gs with
  | nil => exact (h.afterGroup []).readOctets?_eq_none [] nofun
  | cons g gs =>
    rw [groupsText_cons, List.append_assoc]
    exact (h.afterGroup gs).readOctets?_eq_none _ fun c => isHex_of_mem_group

/-! ## Groups that are left out -/

/-- All groups of a run are zero. -/
def IsZeros (gs : List UInt16) (r : ZeroRun) : Prop :=
  ∀ i, r.start ≤ i → i < r.start + r.length → gs[i]? = some 0

theorem isZeros_empty (gs : List UInt16) (start : Nat) : IsZeros gs ⟨start, 0⟩ := by
  intro i hi hi'
  dsimp only at hi hi'
  omega

/-- **What is left out is a run of zeros.** The run that is growing ends where the groups that are
left begin. -/
theorem isZeros_longestRun {gs : List UInt16} {best current : ZeroRun} (before rest : List UInt16)
    (hgs : gs = before ++ rest) (hbest : IsZeros gs best) (hcurrent : IsZeros gs current)
    (hend : current.start + current.length = before.length) :
    IsZeros gs (longestRun best current rest) := by
  induction rest generalizing before best current with
  | nil => exact hbest
  | cons g rest ih =>
    have hgs' : gs = (before ++ [g]) ++ rest := by simpa using hgs
    unfold longestRun
    by_cases hg : g = 0
    · have hgrown : IsZeros gs { current with length := current.length + 1 } := by
        intro i hi hi'
        rcases Nat.lt_or_ge i before.length with hlt | hge
        · exact hcurrent i hi (by omega)
        · obtain rfl : i = before.length := by
            dsimp only at hi'
            omega
          simp [hgs, hg]
      simp only [if_pos hg]
      refine ih (before ++ [g]) hgs' ?_ hgrown ?_
      · split
        · exact hgrown
        · exact hbest
      · simp only [List.length_append, List.length_singleton]
        omega
    · simp only [if_neg hg]
      refine ih (before ++ [g]) hgs' hbest (isZeros_empty gs _) ?_
      simp only [List.length_append, List.length_singleton]
      omega

/-- The groups before a run, the run, and those after it. -/
theorem IsZeros.split {gs : List UInt16} {r : ZeroRun} (h : IsZeros gs r) :
    gs.take r.start ++ List.replicate r.length 0 ++ gs.drop (r.start + r.length) = gs := by
  have hrun : (gs.drop r.start).take r.length = List.replicate r.length 0 := by
    apply List.ext_getElem?
    intro i
    rw [List.getElem?_take, List.getElem?_replicate]
    split
    · next hi => rw [List.getElem?_drop, h _ (by omega) (by omega)]
    · rfl
  rw [← hrun, ← List.drop_drop, List.append_assoc, List.take_append_drop, List.take_append_drop]

/-! ## The newer family -/

theorem ofGroups?_toList (groups : Vector UInt16 8) : ofGroups? groups.toList = some groups := by
  rw [ofGroups?, dif_pos Vector.length_toList]
  rfl

theorem readV6?_groupsText (groups : Vector UInt16 8) :
    readV6? (groupsText groups.toList) = some (groups, []) := by
  have hread := readGroups_groupsText (.inl rfl) groups.toList 8 (by simp)
  rw [List.append_nil] at hread
  simp [readV6?, hread, ofGroups?_toList]

/-- Groups on both sides of those that were left out. -/
theorem readV6?_shortened {groups : Vector UInt16 8} {cs rest : List Char}
    {before after : List UInt16} {inOctets : Bool}
    (hhead : readGroups 8 true cs = ⟨before, false, ':' :: ':' :: rest⟩)
    (htail : readGroups (7 - before.length) true rest = ⟨after, inOctets, []⟩)
    (hshort : before.length < 8)
    (h : before ++ List.replicate (8 - before.length - after.length) 0 ++ after = groups.toList) :
    readV6? cs = some (groups, []) := by
  have hne : ¬ before.length = 8 := by omega
  simp only [readV6?, hhead, hne, ↓reduceIte, Bool.false_eq_true, expect?, htail, h,
    ofGroups?_toList, Option.bind_eq_bind, Option.bind_some, Option.pure_def]

theorem readV6?_around {groups : Vector UInt16 8} {before after : List UInt16} {zeros : Nat}
    (h : before ++ List.replicate zeros 0 ++ after = groups.toList) (hzeros : 0 < zeros) :
    readV6? (groupsText before ++ ':' :: ':' :: groupsText after) = some (groups, []) := by
  have hlength : before.length + (zeros + after.length) = 8 := by
    simpa using congrArg List.length h
  have hleft : 8 - before.length - after.length = zeros := by omega
  have hhead := readGroups_groupsText (.inr ⟨groupsText after, rfl⟩) before 8 (by omega)
  have htail := readGroups_groupsText (.inl rfl) after (7 - before.length) (by omega)
  rw [List.append_nil] at htail
  exact readV6?_shortened hhead htail (by omega) (by rwa [hleft])

theorem group_octetsOfGroup (g : UInt16) :
    UInt16.ofNat ((UInt8.ofNat (g.toNat / 2 ^ 8)).toNat * 2 ^ 8 +
      (UInt8.ofNat (g.toNat % 2 ^ 8)).toNat) = g := by
  have hlt := g.toNat_lt
  have hhigh : (UInt8.ofNat (g.toNat / 2 ^ 8)).toNat = g.toNat / 2 ^ 8 :=
    UInt8.toNat_ofNat_of_lt' (show _ < 2 ^ 8 by omega)
  have hlow : (UInt8.ofNat (g.toNat % 2 ^ 8)).toNat = g.toNat % 2 ^ 8 :=
    UInt8.toNat_ofNat_of_lt' (Nat.mod_lt _ (by decide))
  rw [hhigh, hlow, Nat.div_add_mod', UInt16.ofNat_toNat]

/-- Two groups that are written as four octets. -/
theorem readGroups_octets {room : Nat} (g h : UInt16) (hroom : 0 < room) :
    readGroups (room + 1) false (':' :: octetsText ([g, h].flatMap octetsOfGroup)) =
      ⟨[g, h], true, []⟩ := by
  have hread := readOctets?_text (UInt8.ofNat (g.toNat / 2 ^ 8)) (UInt8.ofNat (g.toNat % 2 ^ 8))
    (UInt8.ofNat (h.toNat / 2 ^ 8)) (UInt8.ofNat (h.toNat % 2 ^ 8)) (stops_nil _)
  rw [List.append_nil] at hread
  have hgroups := congrArg₂ (fun a b => [a, b]) (group_octetsOfGroup g) (group_octetsOfGroup h)
  simp only [readGroups, expect?, octetsOfGroup, List.flatMap_cons, List.flatMap_nil,
    List.append_nil, List.cons_append, List.nil_append, hread, Nat.ne_of_gt hroom, ↓reduceIte,
    Bool.false_eq_true, groupsOfOctets]
  simpa using hgroups

/-- A mapped address: five zero groups are left out, and the last two are octets. -/
theorem readV6?_mapped {groups : Vector UInt16 8} {g h : UInt16}
    (hgroups : groups.toList = [0, 0, 0, 0, 0, 0xffff, g, h]) :
    readV6? ("::ffff:".toList ++ octetsText ([g, h].flatMap octetsOfGroup)) = some (groups, []) := by
  have hlast : readGroups 6 false (':' :: octetsText ([g, h].flatMap octetsOfGroup)) = _ :=
    readGroups_octets g h (by decide)
  generalize octetsText ([g, h].flatMap octetsOfGroup) = octets at hlast
  have htext : "::ffff:".toList ++ octets =
      ':' :: ':' :: (Nat.toDigits 16 (0xffff : UInt16).toNat ++ ':' :: octets) := by
    rfl
  generalize hfirst : Nat.toDigits 16 (0xffff : UInt16).toNat ++ ':' :: octets = first at htext
  have hhead : readGroups 8 true (':' :: ':' :: first) = ⟨[], false, ':' :: ':' :: first⟩ := by
    refine readGroups_end ?_
    rintro inner ⟨⟩
    exact afterGroup_colon _
  have hinner : inner? true first =
      some (Nat.toDigits 16 (0xffff : UInt16).toNat ++ ':' :: octets) := congrArg some hfirst.symm
  have htail := readGroups_group 6 hinner (afterGroup_colon octets)
  rw [hlast] at htail
  rw [htext]
  exact readV6?_shortened hhead htail (by decide) hgroups.symm

/-- **The text of an IPv6 address is read back**, and starts with groups up to their end. -/
theorem readV6?_v6Text (groups : Vector UInt16 8) :
    readV6? (v6Text groups.toList) = some (groups, []) ∧
      ∃ gs rest, v6Text groups.toList = groupsText gs ++ rest ∧ GroupsEnd rest := by
  unfold v6Text
  by_cases hmapped : groups.toList.take 6 = [0, 0, 0, 0, 0, 0xffff]
  · rw [if_pos hmapped]
    obtain ⟨g, h, hlast⟩ : ∃ g h, groups.toList.drop 6 = [g, h] :=
      List.length_eq_two.1 (by simp)
    have hgroups : groups.toList = [0, 0, 0, 0, 0, 0xffff, g, h] := by
      rw [← List.take_append_drop 6 groups.toList, hmapped, hlast]
      rfl
    rw [hlast]
    exact ⟨readV6?_mapped hgroups, [], _, rfl, .inr ⟨_, rfl⟩⟩
  · rw [if_neg hmapped]
    dsimp only
    split
    · exact ⟨readV6?_groupsText groups, _, [], (List.append_nil _).symm, .inl rfl⟩
    · next hlong =>
      have hzeros : IsZeros groups.toList (longestRun ⟨0, 0⟩ ⟨0, 0⟩ groups.toList) :=
        isZeros_longestRun [] _ rfl (isZeros_empty _ 0) (isZeros_empty _ 0) rfl
      rw [List.append_assoc]
      exact ⟨readV6?_around hzeros.split (by omega), _, _, rfl, .inr ⟨_, rfl⟩⟩

theorem read?_text (a : IpAddress) : read? a.text = some a := by
  cases a with
  | v4 octets =>
    obtain ⟨⟨os⟩, hsize⟩ := octets
    obtain ⟨a, b, c, d, rfl⟩ : ∃ a b c d, os = [a, b, c, d] := by
      match os, hsize with
      | [a, b, c, d], _ => exact ⟨a, b, c, d, rfl⟩
    have hread := readOctets?_text a b c d (stops_nil _)
    rw [List.append_nil] at hread
    change read? (octetsText [a, b, c, d]) = _
    simp only [read?, hread, if_pos]
  | v6 groups =>
    obtain ⟨hread, gs, rest, htext, hend⟩ := readV6?_v6Text groups
    have hoctets : readOctets? (v6Text groups.toList) = none := by
      rw [htext]
      exact readOctets?_groupsText hend gs
    simp only [text, read?, hoctets, hread, if_pos]

/-- **An address is read back from its text.** -/
theorem parse?_render (a : IpAddress) : parse? a.render = some a := by
  rw [parse?, render, String.toList_ofList, read?_text]

/-- Of two runs that are equally long the first is left out. -/
example : render (.v6 #v[0x2001, 0, 0, 1, 0, 0, 2, 3]) = "2001::1:0:0:2:3" := by
  decide

end AirLoop.IpAddress
