import AirLoop.Log
import AirLoop.Time.Duration

/-!
# The operator (`raop_sender_core::traits::operator_input`)

Whoever sits at the terminal: asked once whether to go on without receivers, and then again and
again whether to quit.
-/

namespace AirLoop

/-- Answer to the question whether to go on without receivers (`Acknowledgement`). -/
inductive Acknowledgement where
  | proceed | abort
  deriving DecidableEq

/-- An answer, the log of getting it, and the operator afterwards. -/
structure Consulted (ι α : Type) where
  answer : α
  log : List LogLine := []
  operator : ι

/-- An operator with states `ι` (`OperatorInput`). -/
class Operator (ι : Type) where
  /-- whether to go on without receivers -/
  acknowledge : ι → Consulted ι Acknowledgement
  /-- whether to quit, waiting at most this long for an answer -/
  quitRequested : Duration → ι → Consulted ι Bool

/-! ## Scripted operators -/

/-- An operator who answers from a script, and wants to quit at its end. -/
structure ScriptedOperator where
  acknowledgement : Acknowledgement := .proceed
  polls : List Bool := []
  deriving DecidableEq

instance : Operator ScriptedOperator where
  acknowledge s := { answer := s.acknowledgement, operator := s }
  quitRequested _ s :=
    match s.polls with
    | [] => { answer := true, operator := s }
    | quit :: later => { answer := quit, operator := { s with polls := later } }

/-- Polls after which a scripted operator has asked to quit. -/
def ScriptedOperator.patience (s : ScriptedOperator) : Nat := s.polls.length + 1

end AirLoop
