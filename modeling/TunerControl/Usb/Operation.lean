import TunerControl.Usb.Acquisition

/-! Runs of an acquisition: all that its users and the platform can do to it, one after another. -/

namespace TunerControl.Usb

/-- Something that is done to an acquisition. Between operations the service may change at will,
as devices and permissions come and go. -/
inductive Operation (H : Type) where
  | list
  | acquire (d : Descriptor)
  | acquirePath (path : String)
  | permissionResult (path : String) (granted : Bool)
  | failPending (path : String) (failure : Failure)
  | close
  | reset
  | poll (request : Nat)
  | hostChange (host : H)

/-- Whether an operation neither opens nor closes anything, nor asks for the permission to. -/
def Operation.isQuiet {H : Type} : Operation H → Bool
  | list | failPending .. | poll _ | hostChange _ => true
  | acquire _ | acquirePath _ | permissionResult .. | close | reset => false

namespace Acquisition

variable {H : Type} [Host H]

/-- The acquisition after an operation. -/
def perform (a : Acquisition H) : Operation H → Acquisition H
  | .list => a.list.2
  | .acquire d => (a.acquire d).2
  | .acquirePath path => (a.acquirePath path).2
  | .permissionResult path granted => (a.permissionResult path granted).2
  | .failPending path failure => (a.failPending path failure).2
  | .close => a.close
  | .reset => a.reset
  | .poll request => (a.poll request).2
  | .hostChange host => { a with host }

/-- The acquisition after some operations, one by one. -/
def afterAll (a : Acquisition H) (operations : List (Operation H)) : Acquisition H :=
  operations.foldl perform a

/-- A new acquisition after a run of operations. -/
def afterRun (host : H) (models : List DeviceId) (operations : List (Operation H)) :
    Acquisition H :=
  operations.foldl perform { host, models }

/-- What the service was asked for so far, in order. -/
def calls {H : Type} (a : Acquisition H) : List HostCall :=
  a.log.map Prod.snd

end Acquisition

namespace HostCall

/-- The connection that the service opened. -/
def opening? : HostCall → Option Handle
  | opened path fd => some ⟨fd, path⟩
  | _ => none

/-- The connection that was closed. -/
def closing? : HostCall → Option Handle
  | closed fd path => some ⟨fd, path⟩
  | _ => none

/-- The path of the device that the service was asked to open, with or without success. -/
def attempt? : HostCall → Option String
  | opened path _ | refused path => some path
  | _ => none

/-- Whether the service was asked to show a prompt. -/
def isPrompt : HostCall → Bool
  | prompted _ => true
  | _ => false

/-- Whether the service was asked to open a device, with or without success. -/
def isAttempt : HostCall → Bool
  | opened .. | refused .. => true
  | _ => false

end HostCall

end TunerControl.Usb
