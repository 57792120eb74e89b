import AirLoop.Audio.Meter
import AirLoop.Capture.Gate
import AirLoop.Capture.Rehearsal
import AirLoop.Loopback.Capture
import AirLoop.Loopback.Simulation
import AirLoop.Session.Patience
import AirLoop.Main
import AirLoop.Proofs.Capture.Life
import AirLoop.Proofs.Capture.Calls
import AirLoop.Proofs.Capture.Silence
import AirLoop.Proofs.Capture.Release
import AirLoop.Proofs.Capture.Tick
import AirLoop.Proofs.Session.Course
import AirLoop.Proofs.Session.Endings
import AirLoop.Proofs.Session.Teardown
import AirLoop.Proofs.Capture.Latch
import AirLoop.Proofs.Session.Outcome
import AirLoop.Proofs.Capture.Intake
import AirLoop.Proofs.Capture.Exchange
import AirLoop.Proofs.Capture.Account
import AirLoop.Proofs.Capture.Notice
import AirLoop.Proofs.Capture.Revival
import AirLoop.Proofs.Session.Trace
import AirLoop.Proofs.Audio.Peak
import AirLoop.Proofs.Audio.Measure
import AirLoop.Proofs.Capture.Metered
import AirLoop.Proofs.Session.Reckoning
import AirLoop.Proofs.Loopback.Fetch
import AirLoop.Proofs.Loopback.Interplay
import AirLoop.Proofs.Loopback.Situation
import AirLoop.Proofs.Loopback.Accord
import AirLoop.Proofs.Loopback.Chronicle
import AirLoop.Proofs.Loopback.Ledger
import AirLoop.Proofs.Loopback.Return
import AirLoop.Proofs.Loopback.Agreement
import AirLoop.Proofs.Loopback.Custody
import AirLoop.Proofs.Loopback.Settlement
import AirLoop.Proofs.Loopback.Callbacks
import AirLoop.Proofs.Loopback.Serial
import AirLoop.Proofs.Session.Candor
import AirLoop.Proofs.Program.ExitCode
import AirLoop.Proofs.Discovery.Roster
import AirLoop.Proofs.Operator.Dialogue
import AirLoop.Proofs.Session.Attendance
import AirLoop.Proofs.Console.Closing
import AirLoop.Proofs.Discovery.PlainName
import AirLoop.Proofs.Discovery.Preference
import AirLoop.Proofs.Discovery.Cleanup
import AirLoop.Proofs.Discovery.Deadline
import AirLoop.Proofs.Text.Utf16
import AirLoop.Proofs.Loopback.FriendlyName
import AirLoop.Proofs.Numeric.Rounding
import AirLoop.Proofs.Numeric.Binary32
import AirLoop.Proofs.Audio.Bars
import AirLoop.Proofs.Numeric.Value
import AirLoop.Proofs.Audio.Monitor
import AirLoop.Proofs.Text.Digits
import AirLoop.Proofs.Net.AddressText
import AirLoop.Proofs.Json.Scan
import AirLoop.Proofs.Json.Record
