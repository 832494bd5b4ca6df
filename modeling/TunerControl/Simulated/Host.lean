import TunerControl.Usb.Host

/-! A USB service whose devices, permissions and answers are set from outside. -/

namespace TunerControl.Simulated

open Usb (Attached Prompt)

/-- The attached devices in order, the permitted paths, and how prompts and opens go. -/
structure Service where
  devices : List Attached := []
  permitted : List String := []
  refusing : Bool := false
  nextFd : Int32 := 20
  promptFailure : Option Failure := none
  autoAnswer : Option Bool := none
  reportsAnswers : Bool := true
  deriving DecidableEq, Repr

namespace Service

/-- The first device at a path. -/
def find? (s : Service) (path : String) : Option Attached :=
  s.devices.find? (·.path = path)

/-- Permits a path. -/
def permit (s : Service) (path : String) : Service :=
  if path ∈ s.permitted then s else { s with permitted := path :: s.permitted }

/-- Takes the permission for a path away. -/
def revoke (s : Service) (path : String) : Service :=
  { s with permitted := s.permitted.filter (· ≠ path) }

/-- Attaches a device. -/
def attach (s : Service) (d : Attached) (permitted : Bool) : Service :=
  let s := { s with devices := s.devices ++ [d] }
  if permitted then s.permit d.path else s

/-- Detaches all devices at a path. -/
def detach (s : Service) (path : String) : Service :=
  { s with devices := s.devices.filter (·.path ≠ path) }

/-- A prompt is answered at once if the service is told to. -/
def prompt (s : Service) (path : String) : Prompt Service :=
  let shown := if s.autoAnswer = some true then s.permit path else s
  match s.autoAnswer.filter fun _ => s.reportsAnswers with
  | none => .ended s.promptFailure shown
  | some granted => .answered path granted shown fun _ s => .ended s.promptFailure s

/-- Opens a permitted path under the next file descriptor. -/
def openPath (s : Service) (path : String) : Option Int32 × Service :=
  if s.refusing ∨ path ∉ s.permitted then (none, s)
  else (some s.nextFd, { s with nextFd := s.nextFd + 1 })

end Service

instance : Usb.Host Service where
  attached := Service.devices
  find := Service.find?
  permitted s path := path ∈ s.permitted
  prompt := Service.prompt
  openPath := Service.openPath
  release s _ := s

end TunerControl.Simulated
