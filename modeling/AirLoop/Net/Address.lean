import AirLoop.Numeric.Shortest

/-!
# IP addresses

Addresses of both families, their order, and their canonical text: the four octets of an IPv4
address in decimal; the eight groups of an IPv6 address in lower-case hexadecimal, its longest run
of zero groups shortened to `::`.
-/

namespace AirLoop

/-- An IP address. -/
inductive IpAddress where
  | v4 (octets : Vector UInt8 4)
  | v6 (groups : Vector UInt16 8)
  deriving DecidableEq

namespace IpAddress

/-- An address of the older family. -/
def isV4 : IpAddress → Bool
  | v4 _ => true
  | v6 _ => false

/-- The address as one number, the first part being the most significant. -/
def value : IpAddress → Nat
  | v4 octets => octets.toList.foldl (fun n o => n * 2 ^ 8 + o.toNat) 0
  | v6 groups => groups.toList.foldl (fun n g => n * 2 ^ 16 + g.toNat) 0

/-- The one of two addresses with the smaller number, the first if they are equal. -/
def lower (a b : IpAddress) : IpAddress := if b.value < a.value then b else a

/-- The address with the smallest number, if there is any. -/
def lowest? : List IpAddress → Option IpAddress
  | [] => none
  | a :: rest => some (rest.foldl lower a)

/-! ## Text -/

/-- Texts with a separator between each two. -/
def joined (separator : Char) : List (List Char) → List Char
  | [] => []
  | [t] => t
  | t :: u :: rest => t ++ separator :: joined separator (u :: rest)

/-- Four octets in decimal. -/
def octetsText (octets : List UInt8) : List Char :=
  joined '.' (octets.map fun o => decimalDigits o.toNat)

/-- Groups in hexadecimal. -/
def groupsText (groups : List UInt16) : List Char :=
  joined ':' (groups.map fun g => Nat.toDigits 16 g.toNat)

/-- A run of zero groups: where it starts and how many there are. -/
structure ZeroRun where
  start : Nat
  length : Nat
  deriving DecidableEq

/-- The longest run of zero groups, the first of equals; `current` is the run that ends where the
groups that are left begin. -/
def longestRun (best current : ZeroRun) : List UInt16 → ZeroRun
  | [] => best
  | g :: rest =>
    let next := current.start + current.length + 1
    if g = 0 then
      let grown := { current with length := current.length + 1 }
      longestRun (if best.length < grown.length then grown else best) grown rest
    else longestRun best ⟨next, 0⟩ rest

/-- The two octets of a group. -/
def octetsOfGroup (g : UInt16) : List UInt8 :=
  [UInt8.ofNat (g.toNat / 2 ^ 8), UInt8.ofNat (g.toNat % 2 ^ 8)]

/-- The text of eight groups. The last two are written as an IPv4 address if the address is a
mapped one; else the longest run of two or more zero groups is left out. -/
def v6Text (groups : List UInt16) : List Char :=
  if groups.take 6 = [0, 0, 0, 0, 0, 0xffff] then
    "::ffff:".toList ++ octetsText ((groups.drop 6).flatMap octetsOfGroup)
  else
    let run := longestRun ⟨0, 0⟩ ⟨0, 0⟩ groups
    if run.length < 2 then groupsText groups
    else
      groupsText (groups.take run.start) ++ [':', ':'] ++
        groupsText (groups.drop (run.start + run.length))

/-- The canonical text of an address, as characters. -/
def text : IpAddress → List Char
  | v4 octets => octetsText octets.toList
  | v6 groups => v6Text groups.toList

/-- The canonical text of an address. -/
def render (a : IpAddress) : String := String.ofList a.text

end IpAddress

end AirLoop
