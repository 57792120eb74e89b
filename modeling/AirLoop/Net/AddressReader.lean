import AirLoop.Net.Address

/-!
# Reading IP addresses

The strict text forms: an IPv4 octet has at most three digits and no zero in front, an IPv6 group at
most four hexadecimal digits, `::` stands for at least one zero group, and the last two groups may
be written as an IPv4 address. Nothing may follow the address.
-/

namespace AirLoop.IpAddress

/-- Value of a hexadecimal digit in either case. -/
def hexDigit? (c : Char) : Option Nat :=
  if c.isDigit then some (c.toNat - '0'.toNat)
  else if 'a' ≤ c ∧ c ≤ 'f' then some (c.toNat - 'a'.toNat + 10)
  else if 'A' ≤ c ∧ c ≤ 'F' then some (c.toNat - 'A'.toNat + 10)
  else none

/-- The number written in the given digits. -/
def ofDigits (radix : Nat) (digits : List Char) : Nat :=
  digits.foldl (fun n c => n * radix + (hexDigit? c).getD 0) 0

/-- One octet in decimal and what follows it. -/
def readOctet? (cs : List Char) : Option (UInt8 × List Char) :=
  let digits := cs.takeWhile Char.isDigit
  let n := ofDigits 10 digits
  if digits = [] ∨ 3 < digits.length ∨ 255 < n ∨ (1 < digits.length ∧ digits.head? = some '0') then none
  else some (UInt8.ofNat n, cs.dropWhile Char.isDigit)

/-- One group in hexadecimal and what follows it. -/
def readGroup? (cs : List Char) : Option (UInt16 × List Char) :=
  let isHex (c : Char) : Bool := (hexDigit? c).isSome
  let digits := cs.takeWhile isHex
  if digits = [] ∨ 4 < digits.length then none
  else some (UInt16.ofNat (ofDigits 16 digits), cs.dropWhile isHex)

/-- What follows a character that has to come next. -/
def expect? (c : Char) : List Char → Option (List Char)
  | [] => none
  | d :: rest => if d = c then some rest else none

/-- Four octets with points between them, and what follows. -/
def readOctets? (cs : List Char) : Option (Vector UInt8 4 × List Char) := do
  let (a, cs) ← readOctet? cs
  let (b, cs) ← readOctet? (← expect? '.' cs)
  let (c, cs) ← readOctet? (← expect? '.' cs)
  let (d, cs) ← readOctet? (← expect? '.' cs)
  return (#v[a, b, c, d], cs)

/-- The two groups that four octets make. -/
def groupsOfOctets (o : Vector UInt8 4) : List UInt16 :=
  [UInt16.ofNat (o[0].toNat * 2 ^ 8 + o[1].toNat), UInt16.ofNat (o[2].toNat * 2 ^ 8 + o[3].toNat)]

/-- Groups read from the front of a text. -/
structure Groups where
  groups : List UInt16
  /-- the last two were written as an IPv4 address -/
  endsInOctets : Bool
  rest : List Char

/-- As many groups as there are, at most `room`, with colons between them; `first` before the first
one. An IPv4 address takes the room of two and ends them. -/
def readGroups : Nat → Bool → List Char → Groups
  | 0, _, cs => ⟨[], false, cs⟩
  | room + 1, first, cs =>
    match if first then some cs else expect? ':' cs with
    | none => ⟨[], false, cs⟩
    | some inner =>
      match if room = 0 then none else readOctets? inner with
      | some (octets, rest) => ⟨groupsOfOctets octets, true, rest⟩
      | none =>
        match readGroup? inner with
        | none => ⟨[], false, cs⟩
        | some (g, rest) =>
          let more := readGroups room false rest
          { more with groups := g :: more.groups }

/-- Eight groups as an address. -/
def ofGroups? (groups : List UInt16) : Option (Vector UInt16 8) :=
  if h : groups.length = 8 then some ⟨groups.toArray, by simpa using h⟩ else none

/-- Eight groups, some of them left out at a `::`, and what follows. -/
def readV6? (cs : List Char) : Option (Vector UInt16 8 × List Char) := do
  let head := readGroups 8 true cs
  if head.groups.length = 8 then
    return (← ofGroups? head.groups, head.rest)
  else if head.endsInOctets then none
  else
    let rest ← expect? ':' head.rest
    let rest ← expect? ':' rest
    let tail := readGroups (7 - head.groups.length) true rest
    let zeros := List.replicate (8 - head.groups.length - tail.groups.length) 0
    return (← ofGroups? (head.groups ++ zeros ++ tail.groups), tail.rest)

/-- The address whose text this is. -/
def read? (cs : List Char) : Option IpAddress :=
  match readOctets? cs with
  | some (octets, rest) => if rest = [] then some (v4 octets) else none
  | none =>
    match readV6? cs with
    | some (groups, rest) => if rest = [] then some (v6 groups) else none
    | none => none

/-- The address written in a string. -/
def parse? (s : String) : Option IpAddress := read? s.toList

end AirLoop.IpAddress
