/-! The states of a session. -/

namespace TunerControl.Session

/-- Where a session stands between two stretches of idleness. -/
inductive State where
  | idle
  | connecting
  | active
  | stopping
  deriving DecidableEq, Repr

namespace State

/-- All states. -/
def all : List State :=
  [idle, connecting, active, stopping]

/-- The name of a state in sentences. -/
def name : State → String
  | idle => "Idle"
  | connecting => "Connecting"
  | active => "Active"
  | stopping => "Stopping"

/-- The name of a state in records. -/
def tag : State → String
  | idle => "idle"
  | connecting => "connecting"
  | active => "active"
  | stopping => "stopping"

/-- Whether a session in this state may be started and stopped. -/
def acceptsControl : State → Bool
  | connecting | active => true
  | idle | stopping => false

end State

end TunerControl.Session
