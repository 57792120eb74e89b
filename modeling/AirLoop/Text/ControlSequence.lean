/-!
# Control sequences

Text without what would steer a terminal: colours, cursor moves, titles, bells. A text is read as a
video terminal reads it, character by character, and only what the terminal would show, with white
space, is kept. A character outside ASCII shows between sequences and does not show within one; one
whose UTF-8 form holds the string terminator of the eight-bit code ends a device or message string.
-/

namespace AirLoop.Text

/-! ## The reader of a terminal -/

/-- Where a terminal stands in its input. -/
inductive TerminalState where
  /-- between sequences -/
  | ground
  /-- after an escape -/
  | escape
  /-- in an escape sequence of more characters -/
  | escapeTail
  /-- in a control sequence: parameters, then one final character -/
  | control
  /-- at the start of a device control string -/
  | deviceStart
  /-- in the parameters of a device control string -/
  | deviceParameters
  /-- in the intermediate characters of a device control string -/
  | deviceTail
  /-- in the body of a device control string, or in a message -/
  | message
  /-- in a command for the operating system, such as a title -/
  | command
  deriving DecidableEq

/-- The character that begins a sequence, wherever it stands. -/
def escapeChar : Char := '\x1b'

/-- The characters that break a sequence off. -/
def isCancel (c : Char) : Bool := c = '\x18' || c = '\x1a'

/-- The bell, which ends a command. -/
def bell : Char := '\x07'

/-- The delete character, which never shows. -/
def deleteChar : Char := '\x7f'

/-- White space of ASCII. -/
def isAsciiSpace (c : Char) : Bool :=
  c = ' ' || c = '\t' || c = '\n' || c = '\x0c' || c = '\r'

/-- The byte that ends a string in the eight-bit code. -/
def stringTerminator : UInt8 := 0x9c

/-- A character outside ASCII with that byte in its UTF-8 form. -/
def holdsTerminator (c : Char) : Bool := (String.utf8EncodeChar c).contains stringTerminator

/-- Code points from `lo` to `hi`. -/
def isWithin (lo hi : Nat) (c : Char) : Bool := decide (lo ≤ c.toNat) && decide (c.toNat ≤ hi)

/-- Characters of parameters and between them and the final one. -/
def isIntermediate (c : Char) : Bool := isWithin 0x20 0x2f c

/-- The state after a character that follows an escape. -/
def afterEscape (c : Char) : TerminalState :=
  if c = '[' then .control
  else if c = ']' then .command
  else if c = 'P' then .deviceStart
  else if c = 'X' || c = '^' || c = '_' then .message
  else if isIntermediate c then .escapeTail
  else if isWithin 0x30 0x7e c then .ground
  else .escape

/-- The state after a character, from any state but the one between sequences. -/
def TerminalState.step (s : TerminalState) (c : Char) : TerminalState :=
  match s with
  | ground => ground
  | escape => afterEscape c
  | escapeTail => if isWithin 0x30 0x7e c then ground else escapeTail
  | control => if isWithin 0x40 0x7e c then ground else control
  | deviceStart =>
    if isIntermediate c then deviceTail
    else if isWithin 0x30 0x3f c then deviceParameters
    else if isWithin 0x40 0x7e c then message
    else deviceStart
  | deviceParameters =>
    if isIntermediate c then deviceTail
    else if isWithin 0x3c 0x7e c then message
    else deviceParameters
  | deviceTail => if isWithin 0x30 0x7e c then message else deviceTail
  | message => if holdsTerminator c then ground else message
  | command => if c = bell then ground else command

/-- The state after a character. An escape begins a new sequence, and a cancel ends any. -/
def TerminalState.next (s : TerminalState) (c : Char) : TerminalState :=
  if c = escapeChar then .escape else if isCancel c then .ground else s.step c

/-- A character that shows between sequences. -/
def isShown (c : Char) : Bool :=
  isWithin 0x20 0x7e c || isAsciiSpace c || decide (deleteChar.toNat < c.toNat)

/-- Whether a character gets through in a state: within a sequence white space of a line does, and
within a string nothing. -/
def TerminalState.lets (s : TerminalState) (c : Char) : Bool :=
  match s with
  | ground => isShown c
  | escape | escapeTail | control => isAsciiSpace c && decide (c ≠ ' ')
  | _ => false

/-! ## What is kept -/

/-- What white space within a sequence, and all that shows after it, does to the sequence: in a text
that is whole it ends it; on a stream, where more may come at any time, it only puts it off. -/
inductive Interruption where
  | ends | putsOff
  deriving DecidableEq

/-- The state in which the reader goes on after a stretch that was begun in a state. -/
def Interruption.resume (i : Interruption) (s : TerminalState) : TerminalState :=
  match i with
  | ends => .ground
  | putsOff => s

/-- The state after a shown character: one outside ASCII ends whatever was begun. -/
def TerminalState.afterShown (s : TerminalState) (c : Char) : TerminalState :=
  if decide (deleteChar.toNat < c.toNat) then .ground else s

/-- The characters that get through. With the first that does begins a stretch (`shown`) in which
everything that shows is kept; the first that does not show ends the stretch, and is read in the
state that the stretch leaves. -/
def keepShown (i : Interruption) (s : TerminalState) (shown : Bool) : List Char → List Char
  | [] => []
  | c :: rest =>
    if shown && isShown c then c :: keepShown i (s.afterShown c) true rest
    else if s.lets c then c :: keepShown i ((i.resume (s.next c)).afterShown c) true rest
    else keepShown i (s.next c) false rest

/-- A text without control sequences and controls. -/
def plain (text : String) : String :=
  String.ofList (keepShown .ends .ground false text.toList)

/-- What a stream that is no terminal takes of a text. -/
def streamed (text : String) : String :=
  String.ofList (keepShown .putsOff .ground false text.toList)

end AirLoop.Text
