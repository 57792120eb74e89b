import AirLoop.CommandLine.Reader
import AirLoop.Console
import AirLoop.Numeric.Fixed
import AirLoop.Session.Run

/-!
# The program (`raop_sender::main`)

From a command line to an exit code: one session, shown on a console. The exit code is 0 for a
session that ended well, 2 for one that failed before it captured anything, and 1 for any other
failure.
-/

namespace AirLoop

/-- What a run of the program leaves behind. -/
structure Completion where
  exitCode : UInt8
  /-- standard output -/
  output : String := ""
  /-- the error output, the log before anything else -/
  errors : String := ""
  deriving DecidableEq

namespace Program

/-- Exit code of success. -/
def successCode : UInt8 := 0

/-- Exit code of a failure after capture began, or for want of a valid configuration. -/
def failureCode : UInt8 := 1

/-- Exit code of a failure before capture, and of a refused command line. -/
def unavailableCode : UInt8 := 2

/-- Exit code of a crash. -/
def crashCode : UInt8 := 101

/-- The first line that a session prints (`run`). -/
def banner : String := "=== RAOP Loopback Sender ===\n"

/-- The end of a program whose command line leads to no session. -/
def haltCompletion : Halt → Completion
  | .help => { exitCode := successCode, output := helpText }
  | .version => { exitCode := successCode, output := versionText }
  | .refused r => { exitCode := unavailableCode, errors := r.printed }

/-- The exit code for what a session came to (the end of `run`). -/
def exitCode : Except Fault Summary → UInt8
  | .ok _ => successCode
  | .error f => if f.isPreCapture then unavailableCode else failureCode

variable {σ ι : Type}

/-- What the console shows of a session. -/
def screen (s : Session σ ι) : String :=
  (({ width := s.config.meterWidth } : Console).reportAll s.journal.reports).2

/-- The summary, if it is wanted and there is one. -/
def summaryText (wanted : Bool) (s : Session σ ι) : String :=
  match wanted, s.summary with
  | true, some summary => summary.render ++ "\n"
  | _, _ => ""

/-- What is logged last of a session that ended well. -/
def farewell : Except Fault Summary → List LogLine
  | .ok summary =>
    [⟨.info, "Session " ++ Summary.idText summary.stamp.id ++ " ran " ++
      Binary64.fixed 1 summary.durationSeconds ++ "s, " ++
      toString summary.diagnostics.buffersDelivered.toNat ++ " buffers, max peak " ++
      Binary32.fixed 2 summary.maxPeak⟩]
  | .error _ => []

/-- Those of some log lines that a command line asks for, as they are printed. -/
def logText (l : CommandLine) (lines : List LogLine) : String :=
  String.join ((lines.filter fun line => line.level.severity ≤ l.logLevel.severity).map
    LogLine.render)

/-- What was logged in the course of a session. -/
def sessionLog (s : Session σ ι) : List LogLine := s.journal.log Console.log

/-- The end of a session that came to `r`. -/
def sessionCompletion (l : CommandLine) (r : Except Fault Summary) (s : Session σ ι) : Completion :=
  { exitCode := exitCode r
    output := banner ++ screen s ++ summaryText l.summaryJson s
    errors := logText l (sessionLog s ++ farewell r) }

/-- The end of a session that crashed while it looked for receivers. -/
def crashCompletion (l : CommandLine) (s : Session σ ι) (log : List LogLine) : Completion :=
  let s := s.announce.logAll log
  { exitCode := crashCode
    output := banner ++ screen s
    errors := logText l (sessionLog s) ++ deadlineOverflowText ++ "\n" }

variable [CaptureSource σ] [Operator ι]

/-- One session, as a command line says (`run`). -/
def runSession (l : CommandLine) (network : Network) (source : σ) (operator : ι) (polls : Nat)
    (stamp : SessionStamp) : Option Completion :=
  match Session.new l.configuration network.directory source operator with
  | .error f =>
    some
      { exitCode := failureCode
        output := banner
        errors := "Error: invalid session configuration: " ++ f.message ++ "\n" }
  | .ok s =>
    let sweep := network.discover l.configuration.serviceType l.configuration.discoveryTimeout
    if sweep.ending = .deadlineOverflow then some (crashCompletion l s sweep.log)
    else (s.run polls stamp).map fun (r, s) => sessionCompletion l r s

/-- Run the program; nothing if its session is not over after that many polls of the operator
(`main`). -/
def run (args : List String) (network : Network) (source : σ) (operator : ι) (polls : Nat)
    (stamp : SessionStamp) : Option Completion :=
  match CommandLine.read args with
  | .error h => some (haltCompletion h)
  | .ok l => runSession l network source operator polls stamp

end Program

end AirLoop
