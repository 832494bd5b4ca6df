import TunerControl.Failure
import TunerControl.Usb.Device

/-! The platform's USB service, as far as an acquisition uses it. -/

namespace TunerControl.Usb

/-- A permission prompt being asked for. Before the call ends the service may report answers, each
of which tells it whether a request was settled, and it may change at any time. -/
inductive Prompt (H : Type) where
  | ended (failure : Option Failure) (host : H)
  | answered (path : String) (granted : Bool) (host : H) (rest : Bool → H → Prompt H)

/-- A USB service in a state of its own. Prompting, opening and closing may change the state. -/
class Host (H : Type) where
  /-- The devices that are attached, in order. -/
  attached : H → List Attached
  /-- The device that is attached at a path. -/
  find : H → String → Option Attached
  /-- Whether the device at a path may be opened. -/
  permitted : H → String → Bool
  /-- Shows the permission prompt for a path. -/
  prompt : H → String → Prompt H
  /-- Opens the device at a path and gives the file descriptor, unless the service refuses. -/
  openPath : H → String → Option Int32 × H
  /-- Closes an open connection. -/
  release : H → Handle → H

/-- What an acquisition had a USB service do, and how re-entrant answers were received. -/
inductive HostCall where
  | prompted (path : String)
  | answered (resolved : Bool)
  | opened (path : String) (fd : Int32)
  | refused (path : String)
  | closed (fd : Int32) (path : String)
  deriving DecidableEq, Repr

/-- The call with its outcome on one line. -/
def HostCall.line : HostCall → String
  | prompted path => "request " ++ path
  | answered resolved => "answered " ++ toString resolved
  | opened path fd => "open " ++ path ++ " " ++ toString fd.toInt
  | refused path => "open " ++ path ++ " refused"
  | closed fd path => "close " ++ toString fd.toInt ++ " " ++ path

/-- The attached devices of some models, with their permissions. -/
def scan {H : Type} [Host H] (host : H) (models : List DeviceId) : List Descriptor :=
  ((Host.attached host).filter fun d => models.contains d.id).map fun d =>
    .ofAttached d (Host.permitted host d.path)

end TunerControl.Usb
