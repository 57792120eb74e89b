/-!
# Session states (`raop_sender_core::models::state`)

The states that a session runs through, and which may follow which. None comes twice in one run.
-/

namespace AirLoop

/-- A state of a session (`SessionState`). -/
inductive SessionState where
  | idle | discovering | awaitingOperator | capturing | stopping | stopped
  deriving DecidableEq

namespace SessionState

/-- The state's name (`SessionState::as_str`). -/
def name : SessionState → String
  | idle => "idle"
  | discovering => "discovering"
  | awaitingOperator => "awaiting_operator"
  | capturing => "capturing"
  | stopping => "stopping"
  | stopped => "stopped"

/-- Audio is being captured (`SessionState::is_capturing`). -/
def isCapturing (s : SessionState) : Bool := s = capturing

/-- The session is over (`SessionState::is_terminal`). -/
def isTerminal (s : SessionState) : Bool := s = stopped

/-- Whether `next` may follow a state: the next one on the way forward, or `stopping` from any state
between the start and the end of the work (`SessionState::can_transition_to`). -/
def canFollow : SessionState → SessionState → Bool
  | idle, discovering => true
  | discovering, awaitingOperator => true
  | discovering, stopping => true
  | awaitingOperator, capturing => true
  | awaitingOperator, stopping => true
  | capturing, stopping => true
  | stopping, stopped => true
  | _, _ => false

end SessionState

end AirLoop
