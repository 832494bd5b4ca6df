/-! The phases of acquiring a USB device. -/

namespace TunerControl.Usb

/-- How far the acquisition of a device has come. -/
inductive Phase where
  | idle
  | enumerating
  | permissionRequested
  | opened
  | closed
  deriving DecidableEq, Repr

namespace Phase

/-- All phases. -/
def all : List Phase :=
  [idle, enumerating, permissionRequested, opened, closed]

/-- The name of a phase in sentences. -/
def name : Phase → String
  | idle => "Idle"
  | enumerating => "Enumerating"
  | permissionRequested => "PermissionRequested"
  | opened => "Opened"
  | closed => "Closed"

/-- The name of a phase in records. -/
def tag : Phase → String
  | idle => "idle"
  | enumerating => "enumerating"
  | permissionRequested => "permission_requested"
  | opened => "opened"
  | closed => "closed"

end Phase

end TunerControl.Usb
