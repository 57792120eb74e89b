import AirLoop.Discovery.InstanceName

/-!
# Plain names

What is shown of an instance is the name that was given to it. The backslashes before the blanks and
those before the points are dropped one kind after the other, and this comes to one pass over the
text that drops both kinds (`unescape_unescape`); such a pass undoes the marking of a name
(`withoutMarks_marked`). What it is applied to is the part of the full name between the hardware id
and the service type (`displayName_of_marked_instance`).
-/

namespace AirLoop

/-! ## Marks -/

/-- A text with a backslash before each character of a kind. -/
def marked (kind : Char → Bool) (text : List Char) : List Char :=
  text.flatMap fun c => if kind c then ['\\', c] else [c]

/-- A text without the backslashes that stand directly before a character of a kind, in one pass. -/
def withoutMarks (kind : Char → Bool) : List Char → List Char
  | [] => []
  | c :: rest =>
    if c = '\\' ∧ rest.head?.any kind then withoutMarks kind rest else c :: withoutMarks kind rest

section
variable {kind other : Char → Bool}

theorem withoutMarks_mark {rest : List Char} (h : rest.head?.any kind = true) :
    withoutMarks kind ('\\' :: rest) = withoutMarks kind rest := by
  simp [withoutMarks, h]

theorem withoutMarks_cons {c : Char} {rest : List Char}
    (h : c = '\\' → rest.head?.any kind = false) :
    withoutMarks kind (c :: rest) = c :: withoutMarks kind rest := by
  rw [withoutMarks, if_neg]
  rintro ⟨hc, hr⟩
  rw [h hc] at hr
  cases hr

/-- Marking brings in nothing but backslashes. -/
theorem mem_marked {c : Char} {text : List Char} (h : c ∈ marked kind text) :
    c = '\\' ∨ c ∈ text := by
  obtain ⟨d, hd, hc⟩ := List.mem_flatMap.1 h
  split at hc
  · rcases List.mem_cons.1 hc with rfl | hc
    · exact .inl rfl
    · exact .inr (List.mem_singleton.1 hc ▸ hd)
  · exact .inr (List.mem_singleton.1 hc ▸ hd)

/-- No marked text begins with a character of the kind: its mark stands before it. -/
theorem head?_marked (hk : kind '\\' = false) (text : List Char) :
    (marked kind text).head?.any kind = false := by
  cases text with
  | nil => rfl
  | cons c rest =>
    by_cases hc : kind c = true
    · simp [marked, hc, hk]
    · simp [marked, hc]

/-- **Dropping the marks undoes the marking.** -/
theorem withoutMarks_marked (hk : kind '\\' = false) (text : List Char) :
    withoutMarks kind (marked kind text) = text := by
  induction text with
  | nil => rfl
  | cons c rest ih =>
    by_cases hc : kind c = true
    · have hb : c ≠ '\\' := by
        rintro rfl
        rw [hk] at hc
        cases hc
      have hm : marked kind (c :: rest) = '\\' :: c :: marked kind rest := by simp [marked, hc]
      rw [hm, withoutMarks_mark (by simpa using hc), withoutMarks_cons (fun h => absurd h hb), ih]
    · have hm : marked kind (c :: rest) = c :: marked kind rest := by simp [marked, hc]
      rw [hm, withoutMarks_cons (fun _ => head?_marked hk rest), ih]

/-- To drop the marks of another kind does not bring a character of the kind to the front, nor take
one away from there. -/
theorem head?_withoutMarks (hk : kind '\\' = false) (ho : other '\\' = false)
    (hd : ∀ c, other c = true → kind c = false) (text : List Char) :
    (withoutMarks other text).head?.any kind = text.head?.any kind := by
  cases text with
  | nil => rfl
  | cons c rest =>
    by_cases hm : c = '\\' ∧ rest.head?.any other = true
    · obtain ⟨rfl, hr⟩ := hm
      rw [withoutMarks_mark hr]
      -- behind a mark stands a character of the other kind, which is kept
      cases rest with
      | nil => simp at hr
      | cons d rest =>
        have hod : other d = true := by simpa using hr
        have hb : d ≠ '\\' := by
          rintro rfl
          rw [ho] at hod
          cases hod
        rw [withoutMarks_cons (fun h => absurd h hb)]
        simp [hd d hod, hk]
    · rw [withoutMarks, if_neg hm]
      rfl

/-- **One kind of marks after another** is both at once, for kinds that have no character in
common. -/
theorem withoutMarks_withoutMarks (hk : kind '\\' = false) (ho : other '\\' = false)
    (hd : ∀ c, other c = true → kind c = false) (text : List Char) :
    withoutMarks kind (withoutMarks other text) =
      withoutMarks (fun c => kind c || other c) text := by
  induction text with
  | nil => rfl
  | cons c rest ih =>
    have hany : rest.head?.any (fun c => kind c || other c) =
        (rest.head?.any kind || rest.head?.any other) := by
      cases rest <;> rfl
    by_cases hm : c = '\\' ∧ rest.head?.any other = true
    · obtain ⟨rfl, hr⟩ := hm
      rw [withoutMarks_mark hr, ih, withoutMarks_mark (by simp [hany, hr])]
    · rw [withoutMarks, if_neg hm]
      have hhead := head?_withoutMarks hk ho hd rest
      by_cases hc : c = '\\' ∧ rest.head?.any kind = true
      · obtain ⟨rfl, hr⟩ := hc
        rw [withoutMarks_mark (hhead.trans hr), ih, withoutMarks_mark (by simp [hany, hr])]
      · have hplain (hb : c = '\\') :
            rest.head?.any kind = false ∧ rest.head?.any other = false :=
          ⟨Bool.eq_false_iff.2 fun h => hc ⟨hb, h⟩, Bool.eq_false_iff.2 fun h => hm ⟨hb, h⟩⟩
        rw [withoutMarks_cons fun hb => hhead.trans (hplain hb).1, withoutMarks_cons, ih]
        intro hb
        rw [hany, (hplain hb).1, (hplain hb).2]
        rfl

end

/-! ## Blanks and points -/

/-- The characters that are marked in a full name. -/
def isMarked (c : Char) : Bool := c = '.' || c = ' '

theorem unescape_eq {c : Char} (hc : c ≠ '\\') (text : List Char) :
    unescape c text = withoutMarks (· = c) text := by
  fun_induction unescape c text with
  | case1 => rfl
  | case2 x => simp [withoutMarks]
  | case3 x y rest h ih =>
    obtain ⟨rfl, rfl⟩ := h
    rw [withoutMarks_mark (by simp), withoutMarks_cons (fun h => absurd h hc), ih]
  | case4 x y rest h ih =>
    rw [withoutMarks_cons, ih]
    intro hx
    simpa using fun hy => h ⟨hx, hy⟩

/-- **Blanks first and then points** is both in one pass. -/
theorem unescape_unescape (text : List Char) :
    unescape '.' (unescape ' ' text) = withoutMarks isMarked text := by
  rw [unescape_eq (by decide), unescape_eq (by decide), withoutMarks_withoutMarks rfl rfl (by simp)]
  rfl

/-! ## The parts of a full name -/

/-- What is left of a full name without one service type at its end, with the point before it. -/
inductive LabelOf (serviceType : List Char) : List Char → List Char → Prop where
  | typed (label : List Char) : LabelOf serviceType (label ++ '.' :: serviceType) label
  | untyped {fullname : List Char} : ¬ ('.' :: serviceType <:+ fullname) →
      LabelOf serviceType fullname fullname

/-- What follows the first `@` of a label; the whole label if there is none, or if nothing follows
it. -/
inductive NameOf : List Char → List Char → Prop where
  | behind {id name : List Char} : '@' ∉ id → name ≠ [] → NameOf (id ++ '@' :: name) name
  | whole {label : List Char} : '@' ∉ label → NameOf label label
  | nothing {id : List Char} : '@' ∉ id → NameOf (id ++ ['@']) (id ++ ['@'])

theorem stripServiceType_eq {serviceType fullname label : List Char}
    (h : LabelOf serviceType fullname label) : stripServiceType serviceType fullname = label := by
  cases h with
  | typed => simp [stripServiceType]
  | untyped h => simp [stripServiceType, h]

theorem labelOf_strip (serviceType fullname : List Char) :
    LabelOf serviceType fullname (stripServiceType serviceType fullname) := by
  by_cases h : '.' :: serviceType <:+ fullname
  · obtain ⟨label, rfl⟩ := h
    rw [stripServiceType_eq (.typed label)]
    exact .typed label
  · rw [stripServiceType_eq (.untyped h)]
    exact .untyped h

theorem dropWhile_hardwareId {id : List Char} (h : '@' ∉ id) (rest : List Char) :
    (id ++ rest).dropWhile (· ≠ '@') = rest.dropWhile (· ≠ '@') := by
  apply List.dropWhile_append_of_pos
  intro c hc
  have hne : c ≠ '@' := fun hat => h (hat ▸ hc)
  simpa using hne

theorem stripHardwareId_eq {label name : List Char} (h : NameOf label name) :
    stripHardwareId label = name := by
  cases h with
  | behind hid hname =>
    obtain ⟨c, rest, rfl⟩ := List.exists_cons_of_ne_nil hname
    rw [stripHardwareId, dropWhile_hardwareId hid]
    rfl
  | whole hlabel =>
    have hdrop := dropWhile_hardwareId hlabel []
    rw [List.append_nil] at hdrop
    rw [stripHardwareId, hdrop]
    rfl
  | nothing hid =>
    rw [stripHardwareId, dropWhile_hardwareId hid]
    rfl

theorem nameOf_strip (label : List Char) : NameOf label (stripHardwareId label) := by
  by_cases h : '@' ∈ label
  · obtain ⟨id, rest, rfl, hid⟩ := List.eq_append_cons_of_mem h
    by_cases hr : rest = []
    · subst hr
      rw [stripHardwareId_eq (.nothing hid)]
      exact .nothing hid
    · rw [stripHardwareId_eq (.behind hid hr)]
      exact .behind hid hr
  · rw [stripHardwareId_eq (.whole h)]
    exact .whole h

theorem displayName_eq {fullname serviceType : String} {label name : List Char}
    (hl : LabelOf serviceType.toList fullname.toList label) (hn : NameOf label name) :
    displayName fullname serviceType = String.ofList (withoutMarks isMarked name) := by
  unfold displayName
  rw [stripServiceType_eq hl, stripHardwareId_eq hn]
  exact congrArg String.ofList (unescape_unescape name)

/-- A name as it stands in a full name. -/
def markedName (name : String) : String := String.ofList (marked isMarked name.toList)

theorem at_not_mem_marked {name : List Char} (h : '@' ∉ name) : '@' ∉ marked isMarked name := by
  intro hm
  rcases mem_marked hm with hb | hn
  · exact absurd hb (by decide)
  · exact h hn

theorem marked_ne_nil {name : List Char} (h : name ≠ []) : marked isMarked name ≠ [] := by
  obtain ⟨c, rest, rfl⟩ := List.exists_cons_of_ne_nil h
  unfold marked
  rw [List.flatMap_cons]
  split <;> simp

/-- **What every instance is shown as.** A name that is marked and put between a hardware id and a
service type is shown as it was, whatever it is made of; without a hardware id this is so if it has
no `@`. And whatever the full name is, what is shown is the part between the two, in one pass
without the backslashes that stand directly before a blank or a point. -/
theorem displayName_of_marked_instance (serviceType : String) :
    (∀ id name : String, '@' ∉ id.toList → name ≠ "" →
      displayName (id ++ "@" ++ markedName name ++ "." ++ serviceType) serviceType = name) ∧
    (∀ name : String, '@' ∉ name.toList →
      displayName (markedName name ++ "." ++ serviceType) serviceType = name) ∧
    ∀ fullname : String, ∃ label name, LabelOf serviceType.toList fullname.toList label ∧
      NameOf label name ∧
      displayName fullname serviceType = String.ofList (withoutMarks isMarked name) := by
  have hplain (name : String) :
      String.ofList (withoutMarks isMarked (marked isMarked name.toList)) = name := by
    rw [withoutMarks_marked rfl, String.ofList_toList]
  refine ⟨?_, ?_, ?_⟩
  · intro id name hid hname
    have hn : marked isMarked name.toList ≠ [] := marked_ne_nil (by simpa using hname)
    have hfull : (id ++ "@" ++ markedName name ++ "." ++ serviceType).toList =
        (id.toList ++ '@' :: marked isMarked name.toList) ++ '.' :: serviceType.toList := by
      simp [markedName]
    have hl : LabelOf serviceType.toList
        (id ++ "@" ++ markedName name ++ "." ++ serviceType).toList
        (id.toList ++ '@' :: marked isMarked name.toList) := by
      rw [hfull]
      exact .typed _
    rw [displayName_eq hl (.behind hid hn), hplain]
  · intro name hname
    have hfull : (markedName name ++ "." ++ serviceType).toList =
        marked isMarked name.toList ++ '.' :: serviceType.toList := by
      simp [markedName]
    have hl : LabelOf serviceType.toList (markedName name ++ "." ++ serviceType).toList
        (marked isMarked name.toList) := by
      rw [hfull]
      exact .typed _
    rw [displayName_eq hl (.whole (at_not_mem_marked hname)), hplain]
  · intro fullname
    have hl := labelOf_strip serviceType.toList fullname.toList
    exact ⟨_, _, hl, nameOf_strip _, displayName_eq hl (nameOf_strip _)⟩

theorem displayName_keeps_backslash_and_at :
    '@' ∉ "0050C212A23F".toList ∧ "Mr. X\\@ Den." ≠ "" ∧ '@' ∉ "Mr. X\\ Den.".toList ∧
      displayName "0050C212A23F@Mr\\.\\ X\\@\\ Den\\.._raop._tcp.local." "_raop._tcp.local." =
        "Mr. X\\@ Den." ∧
      displayName "Mr\\.\\ X\\\\ Den\\.._raop._tcp.local." "_raop._tcp.local." =
        "Mr. X\\ Den." := by
  obtain ⟨hwith, hwithout, -⟩ := displayName_of_marked_instance "_raop._tcp.local."
  have hid : '@' ∉ "0050C212A23F".toList := by decide
  have hname : '@' ∉ "Mr. X\\ Den.".toList := by decide
  refine ⟨hid, by decide, hname, ?_, ?_⟩
  · exact hwith "0050C212A23F" "Mr. X\\@ Den." hid (by decide)
  · exact hwithout "Mr. X\\ Den." hname

end AirLoop
