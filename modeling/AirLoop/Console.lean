import AirLoop.Audio.Meter
import AirLoop.Journal

/-!
# The console (`raop_sender::console`)

What an operator sees: status lines, and a level meter that is redrawn in place. A status line never
lands on a line that holds a meter.
-/

namespace AirLoop

/-- A console with a meter of the given width (`ConsoleReporter`). -/
structure Console where
  width : Nat
  /-- the cursor stands at the end of a meter -/
  meterActive : Bool := false
  /-- audio was captured at some time -/
  captured : Bool := false
  /-- what is written gets lost -/
  failing : Bool := false
  deriving DecidableEq

namespace Console

/-- What reaches the screen of a text that is written. -/
def shown (c : Console) (text : String) : String := if c.failing then "" else text

/-- Status lines, after the end of a meter line (`ConsoleReporter::print_lines`). -/
def printLines (c : Console) (lines : List String) : Console × String :=
  let text := (if c.meterActive then "\n" else "") ++ String.join (lines.map (· ++ "\n"))
  ({ c with meterActive := false }, c.shown text)

/-- A redrawn meter (`ConsoleReporter::show_level`). -/
def showLevel (c : Console) (reading : LevelReading) : Console × String :=
  ({ c with meterActive := true }, c.shown (meterLine c.width reading))

/-- The line for the receivers found (`ConsoleReporter::on_devices_found`). -/
def deviceLines (devices : List Receiver) : List String :=
  if devices = [] then ["No devices found."]
  else s!"Found {devices.length} devices:" :: devices.map fun d => " - " ++ d.describe

/-- The line for the source of the captured audio (`ConsoleReporter::on_capture_started`). -/
def sourceLine (format : AudioFormat) : Option String → String
  | some name => s!"Source: {format.describe} ({name})"
  | none => s!"Source: {format.describe}"

/-- The line for the end of a session that captured audio. -/
def stoppedLine : String := "Capture stopped."

/-- The status lines that a report calls for; `captured` tells whether audio was captured before. -/
def statusLines (captured : Bool) : Report → List String
  | .state s => if s.isTerminal && captured then [stoppedLine] else []
  | .discoveryStarted t => [s!"1. Scanning for AirPlay devices ({t})..."]
  | .devicesFound devices => deviceLines devices
  | .acknowledgementRequired =>
    ["Press Enter to start loopback capture anyway (local test), or 'q' + Enter to abort..."]
  | .captureStarted format name =>
    ["", "2. Loopback capture running.", sourceLine format name,
      "Capture started! Play some music to see the level meter.", "Type 'q' + Enter to quit."]
  | .level _ => []
  | .error f => ["Error: " ++ f.message]

/-- The console after a report, and what it writes (the other methods of `ConsoleReporter`). One
that calls for no status line leaves the meter alone. -/
def report (c : Console) (r : Report) : Console × String :=
  match r with
  | .state .capturing => ({ c with captured := true }, "")
  | .level reading => c.showLevel reading
  | r =>
    match statusLines c.captured r with
    | [] => (c, "")
    | lines => c.printLines lines

/-- The console after some reports, and all that it writes. -/
def reportAll (c : Console) : List Report → Console × String
  | [] => (c, "")
  | r :: rest =>
    let (c, text) := c.report r
    let (c, more) := c.reportAll rest
    (c, text ++ more)

theorem reportAll_append (c : Console) (xs ys : List Report) :
    c.reportAll (xs ++ ys) =
      (((c.reportAll xs).1.reportAll ys).1,
        (c.reportAll xs).2 ++ ((c.reportAll xs).1.reportAll ys).2) := by
  induction xs generalizing c with
  | nil => simp [reportAll]
  | cons r xs ih => simp [reportAll, ih, String.append_assoc]

/-- The lines that a console logs for a report. -/
def log : Report → List LogLine
  | .state s => [⟨.debug, "Session state: " ++ s.name⟩]
  | _ => []

end Console

end AirLoop
