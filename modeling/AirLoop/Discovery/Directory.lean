import AirLoop.Discovery.Sweep

/-!
# Directories of receivers (`raop_sender_core::traits::device_directory`)

Whom a session asks for receivers: a network that is swept, or anything else that answers alike.
-/

namespace AirLoop

/-- The answer of a directory of receivers, and the log of getting it. -/
structure Lookup where
  answer : Except Fault (List Receiver)
  log : List LogLine := []

/-- A directory of receivers: asked for a service type, with the time that it may take
(`DeviceDirectory`). -/
abbrev Directory := String → Duration → Lookup

/-- What a look around tells. One whose deadline the clock cannot hold tells nothing; where such a
deadline can be given, its end is looked at first, and it never comes to this answer. -/
def DiscoveryEnd.answer : DiscoveryEnd → Except Fault (List Receiver)
  | found devices => .ok devices
  | failed f => .error f
  | deadlineOverflow => .error (.discoveryFailure deadlineOverflowText)

/-- The directory that looks around a network. -/
def Network.directory (n : Network) : Directory := fun serviceType timeout =>
  let d := n.discover serviceType timeout
  ⟨d.ending.answer, d.log⟩

end AirLoop
