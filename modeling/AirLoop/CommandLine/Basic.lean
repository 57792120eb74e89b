import AirLoop.Configuration
import AirLoop.Log
import AirLoop.Text.ControlSequence

/-!
# The command line (`raop_sender::cli`)

What a command line can say: settings that are given with a value, switches that are given without
one, and why a command line is refused.
-/

namespace AirLoop

/-! ## Settings and switches -/

/-- A setting, given with a value. -/
inductive Setting where
  | serviceType | timeoutSecs | pollMillis | meterWidth
  deriving DecidableEq

/-- A switch, given without a value. -/
inductive Switch where
  | summaryJson | verbose | help | version
  deriving DecidableEq

namespace Setting

/-- All settings. -/
def all : List Setting := [serviceType, timeoutSecs, pollMillis, meterWidth]

/-- The name by which a setting is given. -/
def name : Setting → String
  | serviceType => "service-type"
  | timeoutSecs => "timeout-secs"
  | pollMillis => "poll-ms"
  | meterWidth => "meter-width"

/-- What stands for a setting's value. -/
def placeholder : Setting → String
  | serviceType => "SERVICE_TYPE"
  | timeoutSecs => "TIMEOUT_SECS"
  | pollMillis => "POLL_MS"
  | meterWidth => "METER_WIDTH"

/-- A setting in a message. -/
def label (s : Setting) : String := s!"--{s.name} <{s.placeholder}>"

/-- The setting of a name. -/
def ofName? (n : String) : Option Setting := all.find? (·.name = n)

end Setting

namespace Switch

/-- All switches. -/
def all : List Switch := [summaryJson, verbose, help, version]

/-- The name by which a switch is given. -/
def name : Switch → String
  | summaryJson => "summary-json"
  | verbose => "verbose"
  | help => "help"
  | version => "version"

/-- The letter by which a switch is given. -/
def letter? : Switch → Option Char
  | summaryJson => none
  | verbose => some 'v'
  | help => some 'h'
  | version => some 'V'

/-- A switch in a message; one that may be repeated has points behind it. -/
def label (s : Switch) : String := s!"--{s.name}" ++ if s = verbose then "..." else ""

/-- The switch of a name. -/
def ofName? (n : String) : Option Switch := all.find? (·.name = n)

/-- The switch of a letter. -/
def ofLetter? (c : Char) : Option Switch := all.find? (·.letter? = some c)

end Switch

/-! ## Refusals -/

/-- Why a text is no number. -/
inductive NumberProblem where
  | empty | strayCharacter | tooLarge
  deriving DecidableEq

/-- The text of a problem. -/
def NumberProblem.message : NumberProblem → String
  | empty => "cannot parse integer from empty string"
  | strayCharacter => "invalid digit found in string"
  | tooLarge => "number too large to fit in target type"

/-- Why a command line is refused. -/
inductive Refusal where
  | unexpectedArgument (argument : String)
  | unexpectedValue (s : Switch) (value : String)
  | missingValue (s : Setting)
  | repeatedSetting (s : Setting)
  | repeatedSwitch (s : Switch)
  | invalidValue (s : Setting) (value : String) (problem : NumberProblem)
  deriving DecidableEq

/-- The text of a refusal, with what was typed as `clean` leaves it. -/
def Refusal.message (clean : String → String) : Refusal → String
  | unexpectedArgument a => s!"unexpected argument '{clean a}' found"
  | unexpectedValue s v =>
    s!"unexpected value '{clean v}' for '{s.label}' found; no more were expected"
  | missingValue s => s!"a value is required for '{s.label}' but none was supplied"
  | repeatedSetting s => s!"the argument '{s.label}' cannot be used multiple times"
  | repeatedSwitch s => s!"the argument '{s.label}' cannot be used multiple times"
  | invalidValue s v p => s!"invalid value '{clean v}' for '{s.label}': {p.message}"

/-- What stands under the reason why a command line is refused. -/
def helpHint : String := "\nFor more information, try '--help'.\n"

/-- All that is said about a refusal, as a text. -/
def Refusal.describe (r : Refusal) : String :=
  "error: " ++ r.message Text.plain ++ "\n" ++ helpHint

/-- All that is said about a refusal, as the error output takes it. -/
def Refusal.printed (r : Refusal) : String :=
  "error: " ++ r.message Text.streamed ++ "\n" ++ helpHint

/-- Why a command line does not lead to a session. -/
inductive Halt where
  | refused (r : Refusal)
  /-- it asks for help -/
  | help
  /-- it asks for the version -/
  | version
  deriving DecidableEq

/-- The program's name. -/
def programName : String := "raop-sender"

/-- The program's version. -/
def versionText : String := programName ++ " 0.1.0\n"

/-- The program's help. -/
def helpText : String := String.join (List.map (· ++ "\n")
  [ "Discover AirPlay receivers and meter whatever this machine is playing",
    "",
    "Usage: " ++ programName ++ " [OPTIONS]",
    "",
    "Options:",
    "      --service-type <SERVICE_TYPE>  mDNS service type to browse for [default: " ++
      raopServiceType ++ "]",
    "      --timeout-secs <TIMEOUT_SECS>  Seconds to wait for discovery replies [default: 3]",
    "      --poll-ms <POLL_MS>            Milliseconds between checks for the quit key [default: 100]",
    "      --meter-width <METER_WIDTH>    Width of the level meter in bars [default: 50]",
    "      --summary-json                 Print a JSON session summary on exit",
    "  -v, --verbose...                   Increase logging verbosity -v = info, -vv = debug, -vvv = trace",
    "  -h, --help                         Print help",
    "  -V, --version                      Print version" ])

/-! ## What was said -/

/-- What a command line says (`Args`). -/
structure CommandLine where
  configuration : Configuration := {}
  /-- settings that were given -/
  given : List Setting := []
  /-- print the summary at the end -/
  summaryJson : Bool := false
  /-- how often more logging was asked for -/
  verbosity : Nat := 0
  deriving DecidableEq

/-- Greatest verbosity; asking for more changes nothing. -/
def maxVerbosity : Nat := 255

/-- The least severe level that is logged (`Args::log_level`). -/
def CommandLine.logLevel (l : CommandLine) : LogLevel :=
  match l.verbosity with
  | 0 => .warn
  | 1 => .info
  | 2 => .debug
  | _ => .trace

end AirLoop
