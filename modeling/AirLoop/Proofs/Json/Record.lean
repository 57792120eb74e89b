import AirLoop.Receiver
import AirLoop.Proofs.Json.Scan
import AirLoop.Proofs.Net.AddressText

/-!
# Records survive their JSON form

The compact text of an object is read member by member: each fills the slot of its own field and
leaves the others as they are (`readNamed_member`), so that in the end all are filled with what was
written (`readRecord_compact`). Receivers and formats are records whose values fit their fields, and
an address is read back from its text. So the reader takes every one of them back, and no two have
the same text (`record_json_roundTrip`).
-/

namespace AirLoop

/-! ## Values that fit a field -/

/-- The JSON form of a field's value. -/
def FieldValue.toJson : FieldValue → JsonValue
  | natural n => .natural n
  | text s => .text s

/-- A value is of the kind that is asked for. -/
def FieldKind.Fits : FieldKind → FieldValue → Prop
  | natural bits, .natural n => bits ≤ 64 ∧ n < 2 ^ bits
  | text accepts, .text s => accepts s = true
  | _, _ => False

/-- A field of a record with a value that fits it. -/
structure RecordEntry where
  name : String
  kind : FieldKind
  value : FieldValue
  fits : kind.Fits value

namespace RecordEntry

/-- The declaration of the field. -/
def field (e : RecordEntry) : String × FieldKind := (e.name, e.kind)

/-- The field with its value in JSON. -/
def member (e : RecordEntry) : String × JsonValue := (e.name, e.value.toJson)

end RecordEntry

namespace Json

/-! ## Reading one value -/

theorem skipBlanks_cons {c : Char} (h : isBlank c = false) (cs : List Char) :
    skipBlanks (c :: cs) = c :: cs :=
  List.dropWhile_cons_of_neg (by simp [h])

theorem isBlank_quote : isBlank '"' = false := by decide

theorem isBlank_colon : isBlank ':' = false := by decide

theorem isBlank_comma : isBlank ',' = false := by decide

theorem isBlank_of_isDigit {c : Char} (h : c.isDigit = true) : isBlank c = false := by
  simp only [isBlank, Bool.or_eq_false_iff, decide_eq_false_iff_not]
  refine ⟨⟨⟨?_, ?_⟩, ?_⟩, ?_⟩ <;> rintro rfl <;> exact absurd h (by decide)

theorem readNatural_digits {bits n : Nat} (hbits : bits ≤ 64) (hn : n < 2 ^ bits)
    {rest : List Char} (hrest : Delimited rest) :
    readNatural bits (decimalDigits n ++ rest) = .ok (.natural n, rest) := by
  have hpow : 2 ^ bits ≤ 2 ^ 64 := Nat.pow_le_pow_right (by decide) hbits
  have hread := readNumeral_digits (n := n) (by rw [maxSignificand]; omega) hrest
  obtain ⟨c, ds, hds, hc, -⟩ := decimalDigits_cons n
  have hminus : c ≠ '-' := by
    rintro rfl
    exact absurd hc (by decide)
  rw [hds, List.cons_append] at hread ⊢
  simp only [readNatural, skipBlanks_cons (isBlank_of_isDigit hc), if_neg hminus, if_pos hc, hread,
    if_pos hn]

theorem quote_append (cs rest : List Char) :
    quote cs ++ rest = '"' :: (escape cs ++ '"' :: rest) := by
  simp [quote]

theorem readText_quote {accepts : String → Bool} {s : String} (h : accepts s = true)
    (rest : List Char) : readText accepts (quote s.toList ++ rest) = .ok (.text s, rest) := by
  rw [quote_append]
  simp only [readText, skipBlanks_cons isBlank_quote, if_pos, readString_escape,
    String.ofList_toList, h]

/-- **A value is read back by its own field.** -/
theorem readField_toJson {kind : FieldKind} {v : FieldValue} (h : kind.Fits v) {rest : List Char}
    (hrest : Delimited rest) : readField kind (compact v.toJson ++ rest) = .ok (v, rest) := by
  cases kind with
  | natural bits =>
    cases v with
    | natural n =>
      obtain ⟨hbits, hn⟩ := h
      rw [FieldValue.toJson, JsonValue.natural, compact, String.toList_ofList]
      exact readNatural_digits hbits hn hrest
    | text s => exact h.elim
  | text accepts =>
    cases v with
    | natural n => exact h.elim
    | text s =>
      rw [FieldValue.toJson, compact]
      exact readText_quote h rest

/-! ## Reading one member -/

/-- The slots of a record of which some entries have been read and some not. -/
def slotsOf (done todo : List RecordEntry) : Slots :=
  done.map (fun e => (e.field, some e.value)) ++ todo.map fun e => (e.field, none)

section
variable {done todo : List RecordEntry} {e : RecordEntry}

theorem names_ne (h : ((done ++ e :: todo).map RecordEntry.name).Nodup) :
    (∀ d ∈ done, d.name ≠ e.name) ∧ ∀ d ∈ todo, d.name ≠ e.name := by
  rw [List.map_append, List.map_cons, List.nodup_append, List.nodup_cons] at h
  obtain ⟨-, ⟨htodo, -⟩, hdone⟩ := h
  refine ⟨?_, ?_⟩
  · intro d hd
    exact hdone d.name (List.mem_map_of_mem hd) e.name List.mem_cons_self
  · intro d hd heq
    exact htodo (heq ▸ List.mem_map_of_mem hd)

theorem find?_slotsOf (hdone : ∀ d ∈ done, d.name ≠ e.name) :
    (slotsOf done (e :: todo)).find? (fun s => s.1.1 = e.name) = some (e.field, none) := by
  have hnone : (done.map fun d => (d.field, some d.value)).find? (fun s => s.1.1 = e.name) =
      none := by
    simpa [List.find?_eq_none, RecordEntry.field] using hdone
  rw [slotsOf, List.find?_append, hnone, List.map_cons,
    List.find?_cons_of_pos (by simp [RecordEntry.field])]
  rfl

theorem fill_slotsOf (hdone : ∀ d ∈ done, d.name ≠ e.name) (htodo : ∀ d ∈ todo, d.name ≠ e.name) :
    (slotsOf done (e :: todo)).fill e.name e.value = slotsOf (done ++ [e]) todo := by
  -- the other slots are those of other fields
  have hbefore : ∀ d ∈ done, (if d.field.1 = e.name then (d.field, some e.value)
      else (d.field, some d.value)) = (d.field, some d.value) := fun d hd => if_neg (hdone d hd)
  have hafter : ∀ d ∈ todo, (if d.field.1 = e.name then (d.field, some e.value)
      else (d.field, none)) = (d.field, none) := fun d hd => if_neg (htodo d hd)
  simp only [slotsOf, Slots.fill, List.map_append, List.map_map, List.map_cons, Function.comp_def,
    List.map_congr_left hbefore, List.map_congr_left hafter, List.map_nil, List.append_assoc,
    List.cons_append, List.nil_append]
  rw [if_pos (show e.field.1 = e.name from rfl)]

/-- **A member fills the slot of its field.** -/
theorem readNamed_member (hnames : ((done ++ e :: todo).map RecordEntry.name).Nodup)
    {rest : List Char} (hrest : Delimited rest) :
    readNamed (slotsOf done (e :: todo))
      (escape e.name.toList ++ '"' :: ':' :: (compact e.value.toJson ++ rest)) =
        .ok (slotsOf (done ++ [e]) todo, rest) := by
  obtain ⟨hdone, htodo⟩ := names_ne hnames
  rw [readNamed, readString_escape]
  simp only [String.ofList_toList, readMember, find?_slotsOf hdone, RecordEntry.field,
    skipBlanks_cons isBlank_colon, if_pos, readField_toJson e.fits hrest,
    Except.map, fill_slotsOf hdone htodo]

end

/-! ## Reading all members -/

/-- The members after one of them, and the end of the object. -/
def laterMembers : List RecordEntry → List Char
  | [] => ['\x7d']
  | e :: rest =>
    ',' :: quote e.name.toList ++ ':' :: (compact e.value.toJson ++ laterMembers rest)

theorem compactFields_cons (e : RecordEntry) (es : List RecordEntry) :
    compactFields ((e :: es).map RecordEntry.member) =
      quote e.name.toList ++ ':' :: (compact e.value.toJson ++ laterMembers es) := by
  induction es generalizing e with
  | nil => simp [compactFields, laterMembers, RecordEntry.member]
  | cons f es ih =>
    have hrest := ih f
    rw [List.map_cons] at hrest
    rw [List.map_cons, List.map_cons, RecordEntry.member, compactFields, hrest, laterMembers]
    simp

theorem delimited_laterMembers (es : List RecordEntry) : Delimited (laterMembers es) := by
  cases es with
  | nil => exact ⟨_, _, rfl, .inr rfl⟩
  | cons e es => exact ⟨_, _, rfl, .inl rfl⟩

theorem length_le_laterMembers (es : List RecordEntry) : es.length ≤ (laterMembers es).length := by
  induction es with
  | nil => exact Nat.zero_le _
  | cons e es ih =>
    simp only [laterMembers, List.length_cons, List.length_append]
    omega

/-- **The members fill all slots**, if the fields have different names. -/
theorem readMembers_laterMembers {done todo : List RecordEntry} {rounds : Nat}
    (hnames : ((done ++ todo).map RecordEntry.name).Nodup) (hrounds : todo.length < rounds) :
    readMembers rounds (slotsOf done todo) (laterMembers todo) =
      .ok (slotsOf (done ++ todo) [], []) := by
  induction todo generalizing done rounds with
  | nil =>
    cases rounds with
    | zero => exact absurd hrounds (Nat.not_lt_zero _)
    | succ rounds =>
      rw [List.append_nil]
      rfl
  | cons e todo ih =>
    cases rounds with
    | zero => exact absurd hrounds (Nat.not_lt_zero _)
    | succ rounds =>
      have hnamed := readNamed_member hnames (delimited_laterMembers todo)
      rw [List.append_cons] at hnames ⊢
      rw [laterMembers, List.cons_append, quote_append, readMembers, skipBlanks_cons isBlank_comma]
      simp only [skipBlanks_cons isBlank_quote, hnamed, Char.reduceEq, ↓reduceIte, ne_eq,
        not_true_eq_false]
      exact ih hnames (Nat.lt_of_succ_lt_succ hrounds)

theorem values_slotsOf (es : List RecordEntry) :
    (slotsOf es []).values = .ok (es.map RecordEntry.value) := by
  rw [slotsOf, List.map_nil, List.append_nil]
  induction es with
  | nil => rfl
  | cons e es ih =>
    unfold Slots.values at ih ⊢
    rw [List.map_cons, List.mapM_cons, ih]
    rfl

theorem readObject_compactFields {es : List RecordEntry} (hnames : (es.map RecordEntry.name).Nodup) :
    readObject (slotsOf [] es) (compactFields (es.map RecordEntry.member)) =
      .ok (slotsOf es [], []) := by
  cases es with
  | nil => rfl
  | cons e es =>
    have hnamed : readNamed (slotsOf [] (e :: es)) _ = .ok (slotsOf [e] es, _) :=
      readNamed_member hnames (delimited_laterMembers es)
    rw [compactFields_cons, quote_append, readObject, skipBlanks_cons isBlank_quote]
    simp only [hnamed, Char.reduceEq, ↓reduceIte, ne_eq, not_true_eq_false]
    -- there are as many rounds as characters, and no member is empty
    have hrounds : es.length < (laterMembers es).length + 1 :=
      Nat.lt_succ_of_le (length_le_laterMembers es)
    exact readMembers_laterMembers hnames hrounds

/-- **A record is read back from its compact text**, if its fields have different names. -/
theorem readRecord_compact (es : List RecordEntry) (hnames : (es.map RecordEntry.name).Nodup) :
    readRecord (es.map RecordEntry.field) (compact (.object (es.map RecordEntry.member))) =
      .ok (es.map RecordEntry.value) := by
  have hslots : (es.map RecordEntry.field).map (fun f => (f, none)) = slotsOf [] es := by
    simp [slotsOf]
  rw [compact, readRecord, skipBlanks_cons (by decide)]
  simp only [hslots, ↓reduceIte, readObject_compactFields hnames]
  change (slotsOf es []).values.bind (fun values => (endText []).bind fun _ => .ok values) = _
  rw [values_slotsOf]
  rfl

end Json

/-! ## Receivers and formats -/

namespace Receiver

/-- The fields of a receiver with its values. -/
def entries (r : Receiver) : List RecordEntry :=
  [⟨"display_name", .text fun _ => true, .text r.displayName, rfl⟩,
    ⟨"address", .text fun s => (IpAddress.parse? s).isSome, .text r.address.render, by
      simp [FieldKind.Fits, IpAddress.parse?_render]⟩,
    ⟨"port", .natural 16, .natural r.port.toNat, by decide, r.port.toNat_lt⟩,
    ⟨"host_name", .text fun _ => true, .text r.hostName, rfl⟩]

/-- **A receiver is read back from its compact text.** -/
theorem ofJson_toJson (r : Receiver) : ofJson (Json.render r.toJson) = .ok r := by
  have hread := Json.readRecord_compact r.entries (by
    change ["display_name", "address", "port", "host_name"].Nodup
    decide)
  rw [ofJson, Json.render, String.toList_ofList]
  change Json.readRecord fields (Json.compact r.toJson) = _ at hread
  rw [hread]
  change ofValues [.text r.displayName, .text r.address.render, .natural r.port.toNat,
    .text r.hostName] = _
  rw [ofValues, IpAddress.parse?_render, UInt16.ofNat_toNat]

end Receiver

namespace AudioFormat

/-- The fields of a format with its values. -/
def entries (f : AudioFormat) : List RecordEntry :=
  [⟨"sample_rate_hz", .natural 32, .natural f.sampleRateHz.toNat, by decide,
      f.sampleRateHz.toNat_lt⟩,
    ⟨"bits_per_sample", .natural 16, .natural f.bitsPerSample.toNat, by decide,
      f.bitsPerSample.toNat_lt⟩,
    ⟨"channel_count", .natural 16, .natural f.channelCount.toNat, by decide,
      f.channelCount.toNat_lt⟩]

/-- **A format is read back from its compact text.** -/
theorem ofJson_toJson (f : AudioFormat) : ofJson (Json.render f.toJson) = .ok f := by
  have hread := Json.readRecord_compact f.entries (by
    change ["sample_rate_hz", "bits_per_sample", "channel_count"].Nodup
    decide)
  rw [ofJson, Json.render, String.toList_ofList]
  change Json.readRecord fields (Json.compact f.toJson) = _ at hread
  rw [hread]
  change ofValues [.natural f.sampleRateHz.toNat, .natural f.bitsPerSample.toNat,
    .natural f.channelCount.toNat] = _
  rw [ofValues, UInt32.ofNat_toNat, UInt16.ofNat_toNat, UInt16.ofNat_toNat]

end AudioFormat

/-- **Every record survives its JSON form**: receivers with any names, any address and any port, and
formats. So two records with the same text are equal. -/
theorem record_json_roundTrip :
    (∀ r : Receiver, Receiver.ofJson (Json.render r.toJson) = .ok r) ∧
    (∀ f : AudioFormat, AudioFormat.ofJson (Json.render f.toJson) = .ok f) ∧
    Function.Injective (fun r : Receiver => Json.render r.toJson) ∧
    Function.Injective (fun f : AudioFormat => Json.render f.toJson) := by
  refine ⟨Receiver.ofJson_toJson, AudioFormat.ofJson_toJson, ?_, ?_⟩
  · intro r r' h
    have hr := congrArg Receiver.ofJson h
    dsimp only at hr
    rw [Receiver.ofJson_toJson, Receiver.ofJson_toJson] at hr
    exact Except.ok.inj hr
  · intro f f' h
    have hf := congrArg AudioFormat.ofJson h
    dsimp only at hf
    rw [AudioFormat.ofJson_toJson, AudioFormat.ofJson_toJson] at hf
    exact Except.ok.inj hf

end AirLoop
