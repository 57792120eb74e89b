/-!
# UTF-16

Text as 16-bit units, as the audio device reports its name. Decoding never fails: a surrogate
without its partner becomes one replacement character.
-/

namespace AirLoop.Utf16

/-- The character put in place of a unit that stands for none. -/
def replacement : Char := '\ufffd'

/-- First unit of a surrogate pair. -/
def isLeading (u : UInt16) : Bool := 0xd800 ≤ u.toNat && u.toNat < 0xdc00

/-- Second unit of a surrogate pair. -/
def isTrailing (u : UInt16) : Bool := 0xdc00 ≤ u.toNat && u.toNat < 0xe000

/-- The character of a surrogate pair. -/
def pair (hi lo : UInt16) : Char :=
  Char.ofNat (0x10000 + (hi.toNat - 0xd800) * 0x400 + (lo.toNat - 0xdc00))

/-- The characters of a sequence of units. -/
def decode : List UInt16 → List Char
  | [] => []
  | [u] => [if isLeading u || isTrailing u then replacement else Char.ofNat u.toNat]
  | u :: v :: rest =>
    if isLeading u then
      if isTrailing v then pair u v :: decode rest
      else replacement :: decode (v :: rest)
    else if isTrailing u then replacement :: decode (v :: rest)
    else Char.ofNat u.toNat :: decode (v :: rest)

/-- The units of one character. -/
def encodeChar (c : Char) : List UInt16 :=
  if c.toNat < 0x10000 then [UInt16.ofNat c.toNat]
  else
    let n := c.toNat - 0x10000
    [UInt16.ofNat (0xd800 + n / 0x400), UInt16.ofNat (0xdc00 + n % 0x400)]

/-- The units of a text. -/
def encode (cs : List Char) : List UInt16 := cs.flatMap encodeChar

end AirLoop.Utf16
