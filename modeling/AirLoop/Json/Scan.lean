import AirLoop.Numeric.Rounding

/-!
# Reading JSON from left to right

The lexical parts of a JSON text: blanks, literal words, strings and numbers. Each reader takes the
characters that are left and gives those after what it read. The first problem met decides the
answer, so a reader looks no further than it has to.
-/

namespace AirLoop

-- the zero of an empty sum, whatever else is imported
attribute [local instance (high)] Zero.ofOfNat0

/-- Why a text is not what was asked for. -/
inductive ReadError where
  /-- no JSON text starts like this -/
  | malformed
  /-- the text ends too early -/
  | truncated
  /-- well formed so far, but not the value that was asked for -/
  | mismatched
  deriving DecidableEq

namespace Json

/-- What a reader answers: a value and the characters after it. -/
abbrev Reading (α : Type) := Except ReadError (α × List Char)

/-- Blanks between the parts of a text. -/
def isBlank (c : Char) : Bool := c = ' ' || c = '\n' || c = '\t' || c = '\r'

/-- The characters from the first that is not blank. -/
def skipBlanks (cs : List Char) : List Char := cs.dropWhile isBlank

/-- The characters after the rest of a literal word. -/
def word : List Char → List Char → Except ReadError (List Char)
  | [], cs => .ok cs
  | _ :: _, [] => .error .truncated
  | w :: ws, c :: cs => if c = w then word ws cs else .error .malformed

/-! ## Strings -/

/-- Value of a hexadecimal digit in either case. -/
def hexValue? (c : Char) : Option Nat :=
  if '0' ≤ c ∧ c ≤ '9' then some (c.toNat - '0'.toNat)
  else if 'a' ≤ c ∧ c ≤ 'f' then some (c.toNat - 'a'.toNat + 10)
  else if 'A' ≤ c ∧ c ≤ 'F' then some (c.toNat - 'A'.toNat + 10)
  else none

/-- The number written in four hexadecimal digits. A text with fewer than four bytes left has
ended too early whatever they are. -/
def hexQuad (cs : List Char) : Except ReadError (Nat × { rest : List Char // rest.length < cs.length }) :=
  match cs with
  | a :: b :: c :: d :: rest =>
    match hexValue? a, hexValue? b, hexValue? c, hexValue? d with
    | some h₃, some h₂, some h₁, some h₀ =>
      .ok (((h₃ * 16 + h₂) * 16 + h₁) * 16 + h₀, ⟨rest, by simp; omega⟩)
    | _, _, _, _ => .error .malformed
  | short => if (short.map Char.utf8Size).sum < 4 then .error .truncated else .error .malformed

/-- The character of a one-letter escape. -/
def escapeLetter? (c : Char) : Option Char :=
  if c = '"' then some '"'
  else if c = '\\' then some '\\'
  else if c = '/' then some '/'
  else if c = 'b' then some '\x08'
  else if c = 'f' then some '\x0c'
  else if c = 'n' then some '\n'
  else if c = 'r' then some '\r'
  else if c = 't' then some '\t'
  else none

/-- The character of a numeric escape whose four digits follow. A number that is the first half of
a surrogate pair needs the other half in an escape right after it; a second half alone is
refused. -/
def numericEscape (cs : List Char) : Except ReadError (Char × { rest : List Char // rest.length < cs.length }) :=
  match hexQuad cs with
  | .error e => .error e
  | .ok (n, ⟨rest, h⟩) =>
    if 0xdc00 ≤ n ∧ n ≤ 0xdfff then .error .malformed
    else if n < 0xd800 ∨ 0xdbff < n then .ok (Char.ofNat n, ⟨rest, h⟩)
    else
      match rest, h with
      | [], _ => .error .truncated
      | ['\\'], _ => .error .truncated
      | '\\' :: 'u' :: tail, h =>
        match hexQuad tail with
        | .error e => .error e
        | .ok (m, ⟨rest, h'⟩) =>
          if m < 0xdc00 ∨ 0xdfff < m then .error .malformed
          else
            .ok (Char.ofNat (0x10000 + (n - 0xd800) * 0x400 + (m - 0xdc00)),
              ⟨rest, by simp only [List.length_cons] at h; omega⟩)
      | _, _ => .error .malformed

/-- The character of an escape, after its backslash. -/
def readEscape (cs : List Char) : Except ReadError (Char × { rest : List Char // rest.length < cs.length }) :=
  match cs with
  | [] => .error .truncated
  | c :: rest =>
    if c = 'u' then
      match numericEscape rest with
      | .error e => .error e
      | .ok (d, ⟨rest', h⟩) => .ok (d, ⟨rest', by simp only [List.length_cons]; omega⟩)
    else
      match escapeLetter? c with
      | some d => .ok (d, ⟨rest, by simp⟩)
      | none => .error .malformed

/-- The characters of a string, after its opening quote. -/
def readString (cs : List Char) : Reading (List Char) :=
  match cs with
  | [] => .error .truncated
  | c :: rest =>
    if c = '"' then .ok ([], rest)
    else if c = '\\' then
      match readEscape rest with
      | .error e => .error e
      | .ok (d, ⟨rest', _⟩) =>
        match readString rest' with
        | .error e => .error e
        | .ok (ds, after) => .ok (d :: ds, after)
    else if c.toNat < 0x20 then .error .malformed
    else
      match readString rest with
      | .error e => .error e
      | .ok (ds, after) => .ok (c :: ds, after)
termination_by cs.length
decreasing_by all_goals simp_all <;> omega

/-- The characters after a string that is not wanted, from behind its opening quote; the numbers of
escapes may be any. -/
def skipString (cs : List Char) : Except ReadError (List Char) :=
  match cs with
  | [] => .error .truncated
  | ['\\'] => .error .truncated
  | c :: rest =>
    if c = '"' then .ok rest
    else if c = '\\' then
      match rest with
      | [] => .error .truncated
      | d :: tail =>
        if d = 'u' then
          match hexQuad tail with
          | .error e => .error e
          | .ok (_, ⟨rest', _⟩) => skipString rest'
        else if (escapeLetter? d).isSome then skipString tail
        else .error .malformed
    else if c.toNat < 0x20 then .error .malformed
    else skipString rest
termination_by cs.length
decreasing_by all_goals simp_all <;> omega

/-! ## Numbers -/

/-- A number: a natural one below `2 ^ 64`, or any other. -/
inductive Numeral where
  | natural (n : Nat)
  | other
  deriving DecidableEq

/-- Value of a decimal digit. -/
def digitValue (c : Char) : Nat := c.toNat - '0'.toNat

/-- Largest significand that is kept. -/
def maxSignificand : Nat := 2 ^ 64 - 1

/-- A significand read so far and the power of ten that it stands for. -/
structure Significand where
  value : Nat
  exponent : Int
  deriving DecidableEq

/-- The digits of a whole part. Once one more digit would be too many, it and all after it only
raise the exponent. -/
def wholeDigit (s : Significand) (c : Char) : Significand :=
  let next := s.value * 10 + digitValue c
  if 0 < s.exponent ∨ maxSignificand < next then { s with exponent := s.exponent + 1 }
  else { s with value := next }

/-- The digits of a fraction. Once one more digit would be too many, it and all after it are
dropped. -/
def fractionDigits : Significand → List Char → Significand
  | s, [] => s
  | s, c :: cs =>
    let next := s.value * 10 + digitValue c
    if maxSignificand < next then s else fractionDigits ⟨next, s.exponent - 1⟩ cs

/-- Whether a number is beyond the largest double: its significand and the power of ten are each
rounded to fifty-three digits, and their product is at least halfway to `2 ^ 1024`. -/
def exceedsDouble (s : Significand) : Bool :=
  if s.value = 0 ∨ s.exponent < 0 then false
  else if 308 < s.exponent then true
  else
    decide (2 ^ 1024 - 2 ^ 970 ≤ roundDigits 53 s.value * roundDigits 53 (10 ^ s.exponent.toNat))

/-- A number that is no whole one; it has to be within the range of a double. -/
def otherNumeral (s : Significand) (rest : List Char) : Reading Numeral :=
  if exceedsDouble s then .error .malformed else .ok (.other, rest)

/-- Largest exponent that is kept. -/
def maxExponent : Nat := 2 ^ 31 - 1

/-- The value of an exponent's digits, absent when it is too large. -/
def exponentValue : Nat → List Char → Option Nat
  | n, [] => some n
  | n, c :: cs =>
    let next := n * 10 + digitValue c
    if maxExponent < next then none else exponentValue next cs

/-- The exponent of a number, after its letter. -/
def readExponent (s : Significand) (cs : List Char) : Reading Numeral :=
  let negative := cs.head? = some '-'
  let unsigned := if negative ∨ cs.head? = some '+' then cs.drop 1 else cs
  match unsigned with
  | [] => .error .truncated
  | c :: _ =>
    if !c.isDigit then .error .malformed
    else
      let rest := unsigned.dropWhile Char.isDigit
      match exponentValue 0 (unsigned.takeWhile Char.isDigit) with
      | some e => otherNumeral { s with exponent := if negative then s.exponent - e else s.exponent + e } rest
      | none => if s.value ≠ 0 ∧ !negative then .error .malformed else .ok (.other, rest)

/-- What may follow the digits of a number: an exponent or nothing. -/
def readTail (s : Significand) (cs : List Char) : Reading Numeral :=
  match cs with
  | [] => otherNumeral s []
  | c :: rest => if c = 'e' ∨ c = 'E' then readExponent s rest else otherNumeral s cs

/-- The fraction of a number, after its point. -/
def readFraction (s : Significand) (cs : List Char) : Reading Numeral :=
  match cs with
  | [] => .error .truncated
  | c :: _ =>
    if !c.isDigit then .error .malformed
    else readTail (fractionDigits s (cs.takeWhile Char.isDigit)) (cs.dropWhile Char.isDigit)

/-- What follows the digits of a whole part: a fraction, an exponent, or the end of the number. -/
def readAfterWhole (negative : Bool) (s : Significand) (cs : List Char) : Reading Numeral :=
  let whole : Reading Numeral :=
    if 0 < s.exponent then otherNumeral s cs
    else .ok (if negative then .other else .natural s.value, cs)
  match cs with
  | [] => whole
  | c :: rest =>
    if c = '.' then readFraction s rest
    else if c = 'e' ∨ c = 'E' then readExponent s rest
    else whole

/-- A number, after its minus sign if it has one. A zero at the start stands alone. -/
def readNumeral (negative : Bool) (cs : List Char) : Reading Numeral :=
  match cs with
  | [] => .error .truncated
  | c :: rest =>
    if c = '0' then
      if (rest.head?.map Char.isDigit).getD false then .error .malformed
      else readAfterWhole negative ⟨0, 0⟩ rest
    else if c.isDigit then
      readAfterWhole negative ((cs.takeWhile Char.isDigit).foldl wholeDigit ⟨0, 0⟩)
        (cs.dropWhile Char.isDigit)
    else .error .malformed

/-- The characters after the exponent of a number that is not wanted. -/
def skipExponent (cs : List Char) : Except ReadError (List Char) :=
  let unsigned := if cs.head? = some '-' ∨ cs.head? = some '+' then cs.drop 1 else cs
  if (unsigned.head?.map Char.isDigit).getD false then .ok (unsigned.dropWhile Char.isDigit)
  else .error .malformed

/-- What may follow the digits of a number that is not wanted. -/
def skipTail (cs : List Char) : Except ReadError (List Char) :=
  match cs with
  | c :: rest => if c = 'e' ∨ c = 'E' then skipExponent rest else .ok cs
  | [] => .ok []

/-- The characters after the fraction of a number that is not wanted. -/
def skipFraction (cs : List Char) : Except ReadError (List Char) :=
  if (cs.head?.map Char.isDigit).getD false then skipTail (cs.dropWhile Char.isDigit)
  else .error .malformed

/-- The characters after a number that is not wanted; its size does not matter. -/
def skipNumeral (cs : List Char) : Except ReadError (List Char) :=
  match cs with
  | [] => .error .malformed
  | c :: rest =>
    if !c.isDigit then .error .malformed
    else if c = '0' ∧ (rest.head?.map Char.isDigit).getD false then .error .malformed
    else
      let after := if c = '0' then rest else rest.dropWhile Char.isDigit
      match after with
      | d :: tail => if d = '.' then skipFraction tail else skipTail after
      | [] => .ok []

end Json

end AirLoop
