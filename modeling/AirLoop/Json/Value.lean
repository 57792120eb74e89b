import AirLoop.Numeric.Shortest

/-!
# JSON text

Values with their fields in the order in which they are written, and the two forms of their text:
without any blank, and laid out over lines.
-/

namespace AirLoop

/-- A JSON value. A number is kept as its text. -/
inductive JsonValue where
  | null
  | number (text : String)
  | text (s : String)
  | array (items : List JsonValue)
  | object (fields : List (String × JsonValue))

namespace JsonValue

/-- A whole number. -/
def natural (n : Nat) : JsonValue := .number (String.ofList (decimalDigits n))

/-- A value that may be missing. -/
def optional {α : Type} (f : α → JsonValue) : Option α → JsonValue
  | none => .null
  | some a => f a

end JsonValue

namespace Json

/-! ## Strings -/

/-- The hexadecimal digit of a number below sixteen. -/
def hexDigit (n : Nat) : Char := Nat.digitChar n

/-- A character of a string: quote, backslash and controls below a blank are escaped, controls
without a letter of their own by their number. -/
def escapeChar (c : Char) : List Char :=
  if c = '"' then ['\\', '"']
  else if c = '\\' then ['\\', '\\']
  else if c = '\x08' then ['\\', 'b']
  else if c = '\x0c' then ['\\', 'f']
  else if c = '\n' then ['\\', 'n']
  else if c = '\r' then ['\\', 'r']
  else if c = '\t' then ['\\', 't']
  else if c.toNat < 0x20 then
    ['\\', 'u', '0', '0', hexDigit (c.toNat / 16), hexDigit (c.toNat % 16)]
  else [c]

/-- The body of a string. -/
def escape (cs : List Char) : List Char := cs.flatMap escapeChar

/-- A string with its quotes. -/
def quote (cs : List Char) : List Char := '"' :: escape cs ++ ['"']

/-! ## Compact text -/

mutual

/-- The text of a value without any blank. -/
def compact : JsonValue → List Char
  | .null => ['n', 'u', 'l', 'l']
  | .number t => t.toList
  | .text s => quote s.toList
  | .array items => '[' :: compactItems items
  | .object fields => '\x7b' :: compactFields fields

/-- The items of an array and its end. -/
def compactItems : List JsonValue → List Char
  | [] => [']']
  | [v] => compact v ++ [']']
  | v :: w :: rest => compact v ++ ',' :: compactItems (w :: rest)

/-- The fields of an object and its end. -/
def compactFields : List (String × JsonValue) → List Char
  | [] => ['\x7d']
  | [(k, v)] => quote k.toList ++ ':' :: compact v ++ ['\x7d']
  | (k, v) :: f :: rest => quote k.toList ++ ':' :: compact v ++ ',' :: compactFields (f :: rest)

end

/-! ## Text over lines -/

/-- A new line, indented by `depth` steps of two blanks. -/
def newline (depth : Nat) : List Char := '\n' :: List.replicate (2 * depth) ' '

mutual

/-- The text of a value at a depth, each item and field on a line of its own; an empty array or
object stays on its line. -/
def pretty (depth : Nat) : JsonValue → List Char
  | .null => ['n', 'u', 'l', 'l']
  | .number t => t.toList
  | .text s => quote s.toList
  | .array [] => ['[', ']']
  | .array (v :: rest) =>
    '[' :: newline (depth + 1) ++ pretty (depth + 1) v ++ prettyItems depth rest
  | .object [] => ['\x7b', '\x7d']
  | .object ((k, v) :: rest) =>
    '\x7b' :: newline (depth + 1) ++ quote k.toList ++ [':', ' '] ++ pretty (depth + 1) v ++
      prettyFields depth rest

/-- The items after the first and the end of the array. -/
def prettyItems (depth : Nat) : List JsonValue → List Char
  | [] => newline depth ++ [']']
  | v :: rest => ',' :: newline (depth + 1) ++ pretty (depth + 1) v ++ prettyItems depth rest

/-- The fields after the first and the end of the object. -/
def prettyFields (depth : Nat) : List (String × JsonValue) → List Char
  | [] => newline depth ++ ['\x7d']
  | (k, v) :: rest =>
    ',' :: newline (depth + 1) ++ quote k.toList ++ [':', ' '] ++ pretty (depth + 1) v ++
      prettyFields depth rest

end

/-- The compact text of a value. -/
def render (v : JsonValue) : String := String.ofList (compact v)

/-- The text of a value over lines. -/
def renderLines (v : JsonValue) : String := String.ofList (pretty 0 v)

/-! ## Single-precision numbers -/

/-- Numbers are positional while the leading digit's exponent is from -6 to 12, and a whole number
then ends in `.0`. -/
def numberLayout : DecimalLayout :=
  { lowest := -6, highest := 12, wholeMark := ".0", plus := "+" }

/-- A number that is infinite or none is written as null. -/
def ofBinary32 (x : Binary32) : JsonValue :=
  if x.isNaN || x.isInfinite then .null else .number (x.render numberLayout)

end Json

end AirLoop
