import TunerControl.Request
import TunerControl.Usb.Host
import TunerControl.Usb.Phase

/-! Acquiring a USB device: find it, ask for permission, open it, and hand it on. At most one
permission request is outstanding, and at most one connection is open. -/

namespace TunerControl.Usb

/-- The state of an acquisition, with the service it uses. The log tells what it had the service
do, and the state that the service was in each time. -/
structure Acquisition (H : Type) where
  host : H
  models : List DeviceId
  phase : Phase := .idle
  handle : Option Handle := none
  requests : Requests String Handle := { }
  log : List (H × HostCall) := []

/-- What an accepted open gives: the open device, or the number of the request for permission. -/
inductive OpenReply where
  | ready (handle : Handle)
  | pending (request : Nat)
  deriving DecidableEq, Repr

namespace Acquisition

variable {H : Type}

/-- Writes a call into the log, before the service changes its state. -/
def note (a : Acquisition H) (call : HostCall) : Acquisition H :=
  { a with log := a.log ++ [(a.host, call)] }

/-- Leaves the prompt: back to what the handle says. -/
def settlePhase (a : Acquisition H) : Acquisition H :=
  { a with phase := if a.handle.isSome then .opened else .enumerating }

/-- Settles the outstanding request for a path without opening anything. -/
def failPending (a : Acquisition H) (path : String) (failure : Failure) : Bool × Acquisition H :=
  match a.requests.takeFor path with
  | (none, _) => (false, a)
  | (some request, requests) =>
    (true, { a with requests := requests.finish request (.error failure) }.settlePhase)

variable [Host H]

/-- Closes the open connection, if there is one. -/
def close (a : Acquisition H) : Acquisition H :=
  match a.handle with
  | none => a
  | some handle =>
    { a.note (.closed handle.fd handle.devicePath) with
      host := Host.release a.host handle, handle := none, phase := .closed }

/-- Cancels the outstanding request and closes the connection. -/
def reset (a : Acquisition H) : Acquisition H :=
  let (_, requests) := a.requests.resolve (.error (.invalidState "USB acquisition reset"))
  { { a with requests }.close with phase := .idle }

/-- Opens the device at a path in place of the one that is open. -/
def openNow (a : Acquisition H) (path : String) : Outcome Handle × Acquisition H :=
  let a := a.close
  match Host.openPath a.host path with
  | (none, host) =>
    (.error (.openFailed path), { a.note (.refused path) with host, phase := .enumerating })
  | (some fd, host) =>
    let handle : Handle := ⟨fd, path⟩
    (.ok handle,
      { a.note (.opened path fd) with host, handle := some handle, phase := .opened })

/-- Takes the user's answer for a path, and tells whether it settled a request. -/
def permissionResult (a : Acquisition H) (path : String) (granted : Bool) : Bool × Acquisition H :=
  match a.requests.takeFor path with
  | (none, _) => (false, a)
  | (some request, requests) =>
    let a := { a with requests }
    if granted then
      let (outcome, a) := a.openNow path
      (true, { a with requests := a.requests.finish request outcome })
    else
      let a := a.settlePhase
      (true, { a with requests := a.requests.finish request (.error .permissionDenied) })

/-- The attached devices that can be acquired. -/
def list (a : Acquisition H) : List Descriptor × Acquisition H :=
  let a := match a.phase with
    | .idle | .closed => { a with phase := .enumerating }
    | _ => a
  (scan a.host a.models, a)

/-- Takes the answers that the service reports before its call ends. -/
def converse (a : Acquisition H) : Prompt H → Option Failure × Acquisition H
  | .ended failure host => (failure, { a with host })
  | .answered path granted host rest =>
    let (settled, a) := { a with host }.permissionResult path granted
    (a.note (.answered settled)).converse (rest settled a.host)

/-- Asks the host for permission. Answers may come before the call returns. -/
def askPermission (a : Acquisition H) (path : String) : Option Failure × Acquisition H :=
  (a.note (.prompted path)).converse (Host.prompt a.host path)

/-- Opens a device, or asks for the permission to do so. The descriptor may be out of date, so the
device is looked up again. -/
def acquire (a : Acquisition H) (d : Descriptor) : Except Failure OpenReply × Acquisition H :=
  if !d.isOn a.models then (.error (.deviceNotApplicable d.path), a)
  else
    match Host.find a.host d.path with
    | none => (.error (.deviceNotFound d.path), a)
    | some attached =>
      if attached.id ≠ d.id then (.error (.deviceNotApplicable d.path), a)
      else if d.hasPermission || Host.permitted a.host d.path then
        let (outcome, a) := a.openNow d.path
        (outcome.map .ready, a)
      else
        -- The request is in the slot before the user can answer.
        let (request, requests) := a.requests.arm d.path
        let a := { a with requests, phase := .permissionRequested }
        match a.askPermission d.path with
        | (none, a) => (.ok (.pending request), a)
        | (some failure, a) =>
          -- An answer that came before the failure has taken the request already.
          let (_, requests) := a.requests.resolveFor d.path (.error failure)
          (.error failure, { a with requests }.settlePhase)

/-- Opens the device that is attached at a path. -/
def acquirePath (a : Acquisition H) (path : String) : Except Failure OpenReply × Acquisition H :=
  match Host.find a.host path with
  | none => (.error (.deviceNotFound path), a)
  | some attached => a.acquire (.ofAttached attached (Host.permitted a.host path))

/-- Asks for the outcome of a request. -/
def poll (a : Acquisition H) (request : Nat) : Option (Outcome Handle) × Acquisition H :=
  let (outcome, requests) := a.requests.poll request
  (outcome, { a with requests })

end Acquisition

end TunerControl.Usb
