import AirLoop.Json.Scan

/-!
# Reading JSON records

A record is an object with the given fields in any order, others being passed over, or an array
with the fields' values in the order of their declaration.
-/

namespace AirLoop

/-- What a field of a record holds. -/
inductive FieldKind where
  /-- a whole number below `2 ^ bits` -/
  | natural (bits : Nat)
  /-- a text that passes a test -/
  | text (accepts : String → Bool)

/-- The value of a field. -/
inductive FieldValue where
  | natural (n : Nat)
  | text (s : String)
  deriving DecidableEq

namespace Json

/-! ## Values of a field -/

/-- The error of a value of another kind than the one asked for: the value is still read as far as
its first problem. -/
def otherKind (cs : List Char) : ReadError :=
  let after {α : Type} (r : Except ReadError α) : ReadError :=
    match r with
    | .error e => e
    | .ok _ => .mismatched
  match cs with
  | [] => .malformed
  | c :: rest =>
    if c = 'n' then after (word ['u', 'l', 'l'] rest)
    else if c = 't' then after (word ['r', 'u', 'e'] rest)
    else if c = 'f' then after (word ['a', 'l', 's', 'e'] rest)
    else if c = '-' then after (readNumeral true rest)
    else if c.isDigit then after (readNumeral false cs)
    else if c = '"' then after (readString rest)
    else if c = '[' ∨ c = '\x7b' then .mismatched
    else .malformed

/-- A whole number below `2 ^ bits`. -/
def readNatural (bits : Nat) (cs : List Char) : Reading FieldValue :=
  let check (r : Reading Numeral) : Reading FieldValue :=
    match r with
    | .error e => .error e
    | .ok (.other, _) => .error .mismatched
    | .ok (.natural n, rest) => if n < 2 ^ bits then .ok (.natural n, rest) else .error .mismatched
  match skipBlanks cs with
  | [] => .error .truncated
  | c :: rest =>
    if c = '-' then check (readNumeral true rest)
    else if c.isDigit then check (readNumeral false (c :: rest))
    else .error (otherKind (c :: rest))

/-- A text that passes the test. -/
def readText (accepts : String → Bool) (cs : List Char) : Reading FieldValue :=
  match skipBlanks cs with
  | [] => .error .truncated
  | c :: rest =>
    if c = '"' then
      match readString rest with
      | .error e => .error e
      | .ok (s, after) =>
        if accepts (String.ofList s) then .ok (.text (String.ofList s), after) else .error .mismatched
    else .error (otherKind (c :: rest))

/-- A value of the given kind. -/
def readField : FieldKind → List Char → Reading FieldValue
  | .natural bits, cs => readNatural bits cs
  | .text accepts, cs => readText accepts cs

/-! ## Values that are passed over -/

/-- A container that has been entered. -/
inductive Nesting where
  | array | object
  deriving DecidableEq

/-- Where a reader that passes over a value stands: before a value, or after one. -/
inductive Position where
  | value | afterValue
  deriving DecidableEq

/-- The characters after a field name of an object that is passed over, and its colon. -/
def skipName (cs : List Char) : Except ReadError (List Char) :=
  match skipBlanks cs with
  | [] => .error .truncated
  | c :: rest =>
    if c ≠ '"' then .error .malformed
    else
      match skipString rest with
      | .error e => .error e
      | .ok after =>
        match skipBlanks after with
        | [] => .error .truncated
        | d :: tail => if d = ':' then .ok tail else .error .malformed

/-- The characters after a value that is no container. -/
def skipScalar (cs : List Char) : Except ReadError (List Char) :=
  match cs with
  | [] => .error .truncated
  | c :: rest =>
    if c = 'n' then word ['u', 'l', 'l'] rest
    else if c = 't' then word ['r', 'u', 'e'] rest
    else if c = 'f' then word ['a', 'l', 's', 'e'] rest
    else if c = '-' then skipNumeral rest
    else if c.isDigit then skipNumeral cs
    else if c = '"' then skipString rest
    else .error .malformed

/-- The character that ends a container. -/
def Nesting.closing : Nesting → Char
  | .array => ']'
  | .object => '\x7d'

/-- The position after entering a container: its end, or its first value. -/
def enter (n : Nesting) (cs : List Char) : Except ReadError (Position × List Char) :=
  match skipBlanks cs with
  | [] => .error .truncated
  | c :: rest =>
    if c = n.closing then .ok (.afterValue, rest)
    else
      match n with
      | .array => .ok (.value, c :: rest)
      | .object => (skipName (c :: rest)).map fun after => (.value, after)

/-- The characters after a value that is passed over, given the containers it stands in. Every
round uses up a character, so the length of the text is enough rounds. -/
def skipWithin : Nat → Position → List Nesting → List Char → Except ReadError (List Char)
  | 0, _, _, _ => .error .truncated
  | _ + 1, .afterValue, [], cs => .ok cs
  | rounds + 1, .afterValue, n :: outer, cs =>
    match skipBlanks cs with
    | [] => .error .truncated
    | c :: rest =>
      if c = n.closing then skipWithin rounds .afterValue outer rest
      else if c ≠ ',' then .error .malformed
      else
        match n with
        | .array => skipWithin rounds .value (n :: outer) rest
        | .object =>
          match skipName rest with
          | .error e => .error e
          | .ok after => skipWithin rounds .value (n :: outer) after
  | rounds + 1, .value, within, cs =>
    let inside (n : Nesting) (rest : List Char) : Except ReadError (List Char) :=
      match enter n rest with
      | .error e => .error e
      | .ok (.value, after) => skipWithin rounds .value (n :: within) after
      | .ok (.afterValue, after) => skipWithin rounds .afterValue within after
    match skipBlanks cs with
    | [] => .error .truncated
    | c :: rest =>
      if c = '[' then inside .array rest
      else if c = '\x7b' then inside .object rest
      else
        match skipScalar (c :: rest) with
        | .error e => .error e
        | .ok after => skipWithin rounds .afterValue within after

/-- The characters after a value that is passed over. -/
def skipValue (cs : List Char) : Except ReadError (List Char) :=
  skipWithin (2 * cs.length + 2) .value [] cs

/-! ## Records -/

/-- Declared fields with the value of each that has been read. -/
abbrev Slots := List ((String × FieldKind) × Option FieldValue)

/-- The values of all fields, if none is missing. -/
def Slots.values (slots : Slots) : Except ReadError (List FieldValue) :=
  slots.mapM fun s =>
    match s.2 with
    | some v => .ok v
    | none => .error .mismatched

/-- The slots with the value of one field filled in. -/
def Slots.fill (slots : Slots) (name : String) (v : FieldValue) : Slots :=
  slots.map fun s => if s.1.1 = name then (s.1, some v) else s

/-- The value of the named field, in front of which the colon stands. A field that is not declared
is passed over; one that comes a second time is refused before its value is looked at. -/
def readMember (slots : Slots) (name : String) (cs : List Char) : Reading Slots :=
  let colon : Except ReadError (List Char) :=
    match skipBlanks cs with
    | [] => .error .truncated
    | c :: rest => if c = ':' then .ok rest else .error .malformed
  match slots.find? fun s => s.1.1 = name with
  | none =>
    match colon with
    | .error e => .error e
    | .ok rest => (skipValue rest).map fun after => (slots, after)
  | some (_, some _) => .error .mismatched
  | some ((_, kind), none) =>
    match colon with
    | .error e => .error e
    | .ok rest => (readField kind rest).map fun (v, after) => (slots.fill name v, after)

/-- A field name after its quote, and its value. -/
def readNamed (slots : Slots) (cs : List Char) : Reading Slots :=
  match readString cs with
  | .error e => .error e
  | .ok (name, rest) => readMember slots (String.ofList name) rest

/-- The fields of an object after the first, up to its end. -/
def readMembers : Nat → Slots → List Char → Reading Slots
  | 0, _, _ => .error .truncated
  | rounds + 1, slots, cs =>
    match skipBlanks cs with
    | [] => .error .truncated
    | c :: rest =>
      if c = '\x7d' then .ok (slots, rest)
      else if c ≠ ',' then .error .malformed
      else
        match skipBlanks rest with
        | [] => .error .truncated
        | d :: tail =>
          if d ≠ '"' then .error .malformed
          else
            match readNamed slots tail with
            | .error e => .error e
            | .ok (slots', after) => readMembers rounds slots' after

/-- An object, after its opening brace. -/
def readObject (slots : Slots) (cs : List Char) : Reading Slots :=
  match skipBlanks cs with
  | [] => .error .truncated
  | c :: rest =>
    if c = '\x7d' then .ok (slots, rest)
    else if c ≠ '"' then .error .malformed
    else
      match readNamed slots rest with
      | .error e => .error e
      | .ok (slots', after) => readMembers (after.length + 1) slots' after

/-- The values of an array, in the order of the declared fields. -/
def readItems : Bool → List (String × FieldKind) → List Char → Reading (List FieldValue)
  | _, [], cs => .ok ([], cs)
  | first, (_, kind) :: kinds, cs =>
    let item (rest : List Char) : Reading (List FieldValue) :=
      match readField kind rest with
      | .error e => .error e
      | .ok (v, after) => (readItems false kinds after).map fun (vs, r) => (v :: vs, r)
    match skipBlanks cs with
    | [] => .error .truncated
    | c :: rest =>
      if c = ']' then .error .mismatched
      else if first then item (c :: rest)
      else if c ≠ ',' then .error .malformed
      else
        match skipBlanks rest with
        | [] => .error .truncated
        | d :: tail => if d = ']' then .error .malformed else item (d :: tail)

/-- The end of an array that has all its values. -/
def endArray (cs : List Char) : Except ReadError (List Char) :=
  match skipBlanks cs with
  | [] => .error .truncated
  | c :: rest => if c = ']' then .ok rest else .error .malformed

/-- Nothing but blanks is left. -/
def endText (cs : List Char) : Except ReadError Unit :=
  if skipBlanks cs = [] then .ok () else .error .malformed

/-- A record with the given fields: their values in the order of declaration. -/
def readRecord (fields : List (String × FieldKind)) (cs : List Char) :
    Except ReadError (List FieldValue) :=
  match skipBlanks cs with
  | [] => .error .truncated
  | c :: rest =>
    if c = '\x7b' then do
      let (slots, after) ← readObject (fields.map fun f => (f, none)) rest
      let values ← slots.values
      endText after
      return values
    else if c = '[' then do
      let (values, after) ← readItems true fields rest
      let after ← endArray after
      endText after
      return values
    else .error (otherKind (c :: rest))

end Json

end AirLoop
