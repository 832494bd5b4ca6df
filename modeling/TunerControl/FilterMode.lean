import TunerControl.Failure
import TunerControl.Json.Value

/-! How the decoder engine filters talkgroups. -/

namespace TunerControl

open Json (Value)

/-- Which talkgroups pass: all, the listed ones, or all but the listed ones. -/
inductive FilterMode where
  | disabled
  | allowList
  | blockList
  deriving DecidableEq, Repr

namespace FilterMode

/-- The number that the engine knows a mode by. -/
def raw : FilterMode → Int32
  | disabled => 0
  | allowList => 1
  | blockList => 2

/-- The mode that the engine knows by a number. -/
def ofRaw (n : Int32) : Except Failure FilterMode :=
  if n = 0 then .ok disabled
  else if n = 1 then .ok allowList
  else if n = 2 then .ok blockList
  else .error (.invalidArgument ("unknown filter mode: " ++ toString n.toInt))

/-- The name of a mode in records. -/
def tag : FilterMode → String
  | disabled => "disabled"
  | allowList => "allowList"
  | blockList => "blockList"

/-- The mode with the given name. -/
def ofTag? (s : String) : Option FilterMode :=
  if s = "disabled" then some disabled
  else if s = "allowList" then some allowList
  else if s = "blockList" then some blockList
  else none

/-- The mode as JSON. -/
def toJson (m : FilterMode) : Value :=
  .text m.tag

/-- The mode that a value names, alone or as the one key of an object with no content. -/
def ofJson? : Value → Option FilterMode
  | .string (some s) => ofTag? s
  | .object [(some key, .null)] => ofTag? key
  | _ => none

end FilterMode

end TunerControl
