import AirLoop.CommandLine.Basic

/-!
# Reading command lines (`raop_sender::cli`)

Arguments are read from left to right, and the first problem decides. A setting that was named
without a value takes the next argument that does not begin with a hyphen, and is applied only when
another setting or switch is met or the arguments are over; an argument that is refused outright is
refused first.
-/

namespace AirLoop

/-! ## Values -/

/-- The value of decimal digits after the number `n`. The first character that is no digit, or with
which the number gets too large, decides. -/
def readDigits (limit n : Nat) : List Char → Except NumberProblem Nat
  | [] => .ok n
  | c :: rest =>
    if c.isDigit then
      let m := n * 10 + (c.toNat - '0'.toNat)
      if limit ≤ m then .error .tooLarge else readDigits limit m rest
    else .error .strayCharacter

/-- A number of 64 bits, which may have a plus sign. -/
def readNatural (text : String) : Except NumberProblem Nat :=
  match text.toList with
  | [] => .error .empty
  | '+' :: c :: rest => readDigits (2 ^ 64) 0 (c :: rest)
  | cs => readDigits (2 ^ 64) 0 cs

/-- The number in the value of a setting. -/
def settingNumber (s : Setting) (value : String) : Except Halt Nat :=
  match readNatural value with
  | .ok n => .ok n
  | .error p => .error (.refused (.invalidValue s value p))

namespace CommandLine

/-- The configuration with a setting at a value (`Args::session_configuration`). -/
def configure (c : Configuration) (s : Setting) (value : String) : Except Halt Configuration :=
  match s with
  | .serviceType => .ok { c with serviceType := value }
  | .timeoutSecs => do
    let n ← settingNumber s value
    return { c with discoveryTimeout := .ofSeconds n }
  | .pollMillis => do
    let n ← settingNumber s value
    return { c with pollInterval := .ofMillis n }
  | .meterWidth => do
    let n ← settingNumber s value
    return { c with meterWidth := n }

/-- A setting is applied, once. -/
def assign (l : CommandLine) (s : Setting) (value : String) : Except Halt CommandLine :=
  if s ∈ l.given then .error (.refused (.repeatedSetting s))
  else do
    let configuration ← configure l.configuration s value
    return { l with configuration, given := l.given ++ [s] }

/-- A switch is thrown. -/
def throwSwitch (l : CommandLine) : Switch → Except Halt CommandLine
  | .help => .error .help
  | .version => .error .version
  | .verbose => .ok { l with verbosity := min maxVerbosity (l.verbosity + 1) }
  | .summaryJson =>
    if l.summaryJson then .error (.refused (.repeatedSwitch .summaryJson))
    else .ok { l with summaryJson := true }

/-! ## The arguments -/

/-- A command line on the way: what it says so far, and the setting that was named last, with its
value once that has come, until it is applied. -/
structure Reading where
  line : CommandLine := {}
  pending : Option (Setting × Option String) := none
  deriving DecidableEq

namespace Reading

/-- Apply the pending setting. -/
def settle (r : Reading) : Except Halt CommandLine :=
  match r.pending with
  | none => .ok r.line
  | some (s, none) => .error (.refused (.missingValue s))
  | some (s, some value) => r.line.assign s value

/-- A switch, after what is pending. -/
def takeSwitch (r : Reading) (s : Switch) : Except Halt Reading := do
  let line ← r.settle
  let line ← line.throwSwitch s
  return { line }

/-- A name with what may stand behind an equals sign. -/
def splitValue (cs : List Char) : String × Option String :=
  (String.ofList (cs.takeWhile (· ≠ '=')),
    match cs.dropWhile (· ≠ '=') with
    | [] => none
    | _ :: value => some (String.ofList value))

/-- An argument with two hyphens. -/
def takeNamed (r : Reading) (cs : List Char) : Except Halt Reading :=
  let (name, value) := splitValue cs
  match Setting.ofName? name, Switch.ofName? name, value with
  | some s, _, some v => do
    let line ← r.settle
    let line ← line.assign s v
    return { line }
  | some s, _, none => do
    let line ← r.settle
    return { line, pending := some (s, none) }
  | none, some s, some v => .error (.refused (.unexpectedValue s v))
  | none, some s, none => r.takeSwitch s
  | none, none, _ => .error (.refused (.unexpectedArgument ("--" ++ name)))

/-- The letters after one hyphen. -/
def takeLetters (r : Reading) : List Char → Except Halt Reading
  | [] => .ok r
  | c :: rest =>
    match Switch.ofLetter? c with
    | none => .error (.refused (.unexpectedArgument (String.ofList ['-', c])))
    | some s => do
      let r ← r.takeSwitch s
      r.takeLetters rest

/-- An argument that is no option: the value that a setting waits for. -/
def takeValue (r : Reading) (value : String) : Except Halt Reading :=
  match r.pending with
  | some (s, none) => .ok { r with pending := some (s, some value) }
  | _ => .error (.refused (.unexpectedArgument value))

/-- The arguments up to the end of the line. After a lone pair of hyphens nothing is expected. -/
def takeAll (r : Reading) : List String → Except Halt Reading
  | [] => .ok r
  | a :: rest =>
    match a.toList with
    | ['-', '-'] =>
      match rest with
      | [] => .ok r
      | b :: _ => .error (.refused (.unexpectedArgument b))
    | '-' :: '-' :: cs => do
      let r ← r.takeNamed cs
      r.takeAll rest
    | '-' :: c :: cs => do
      let r ← r.takeLetters (c :: cs)
      r.takeAll rest
    | _ => do
      let r ← r.takeValue a
      r.takeAll rest

end Reading

/-- Read the arguments of a command line. -/
def read (args : List String) : Except Halt CommandLine := do
  let r ← ({} : Reading).takeAll args
  r.settle

end CommandLine

end AirLoop
