import AirLoop.Text.ControlSequence

/-!
# Log lines

Diagnostic text for whoever runs the program, apart from what the operator sees.
-/

namespace AirLoop

/-- Severity of a log line. -/
inductive LogLevel where
  | error | warn | info | debug | trace
  deriving DecidableEq

/-- One line of the log. -/
structure LogLine where
  level : LogLevel
  text : String
  deriving DecidableEq

namespace LogLevel

/-- The level's name. -/
def name : LogLevel → String
  | error => "error"
  | warn => "warn"
  | info => "info"
  | debug => "debug"
  | trace => "trace"

/-- Place of a level, the most severe first. -/
def severity : LogLevel → Nat
  | error => 0
  | warn => 1
  | info => 2
  | debug => 3
  | trace => 4

end LogLevel

namespace LogLine

/-- Blanks before each further line of a text. -/
def indentation : List Char := List.replicate 4 ' '

/-- A text with its further lines set in. -/
def indent (text : String) : String :=
  String.ofList (text.toList.flatMap fun c => if c = '\n' then c :: indentation else [c])

/-- A log line as it is printed. Its level stands in brackets, and control sequences are left out,
down to the end of the line. -/
def render (l : LogLine) : String :=
  Text.streamed ("[" ++ l.level.name.toUpper ++ "] " ++ indent l.text ++ "\n")

end LogLine

end AirLoop
