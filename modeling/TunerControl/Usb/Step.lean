import TunerControl.Request.Operation
import TunerControl.Usb.Operation

/-! The single steps of an acquisition. An operation takes several of them when the service answers
before its call ends. -/

namespace TunerControl.Usb

/-- One step of an acquisition. An answer that comes while the service is asked for something is a
step of its own, and so is what changes in the service meanwhile. -/
inductive Step (H : Type) where
  | list
  | ask (path : String)
  | askFailed (path : String) (failure : Failure)
  | openNow (path : String)
  | permissionResult (path : String) (granted : Bool)
  | told (settled : Bool)
  | failPending (path : String) (failure : Failure)
  | close
  | reset
  | poll (request : Nat)
  | hostChange (host : H)

/-- Whether a step decides on a request for a path that is in the slot. A newer request and a reset
do so whatever the path. -/
def Step.concerns {H : Type} (path : String) : Step H → Bool
  | ask _ | reset => true
  | askFailed other _ | permissionResult other _ | failPending other _ => other = path
  | list | openNow _ | told _ | close | poll _ | hostChange _ => false

namespace Acquisition

variable {H : Type}

/-- Puts a request for a path into the slot, and has the service show the prompt. -/
def ask (a : Acquisition H) (path : String) : Acquisition H :=
  { a with requests := (a.requests.arm path).2, phase := .permissionRequested }.note (.prompted path)

/-- Settles the request for a path whose prompt the service could not show. -/
def askFailed (a : Acquisition H) (path : String) (failure : Failure) : Acquisition H :=
  { a with requests := (a.requests.resolveFor path (.error failure)).2 }.settlePhase

variable [Host H]

/-- The acquisition after a step. -/
def advance (a : Acquisition H) : Step H → Acquisition H
  | .list => a.list.2
  | .ask path => a.ask path
  | .askFailed path failure => a.askFailed path failure
  | .openNow path => (a.openNow path).2
  | .permissionResult path granted => (a.permissionResult path granted).2
  | .told settled => a.note (.answered settled)
  | .failPending path failure => (a.failPending path failure).2
  | .close => a.close
  | .reset => a.reset
  | .poll request => (a.poll request).2
  | .hostChange host => { a with host }

/-- The acquisition after some steps, one by one. -/
def afterSteps (a : Acquisition H) (steps : List (Step H)) : Acquisition H :=
  steps.foldl advance a

/-- The steps that are taken while the service shows the prompt for a path. -/
def promptSteps (a : Acquisition H) (path : String) : Prompt H → List (Step H)
  | .ended none host => [.hostChange host]
  | .ended (some failure) host => [.hostChange host, .askFailed path failure]
  | .answered answered granted host rest =>
    let (settled, heard) := { a with host }.permissionResult answered granted
    .hostChange host :: .permissionResult answered granted :: .told settled ::
      (heard.note (.answered settled)).promptSteps path (rest settled heard.host)

/-- The steps that are taken to open a device. None are when the device is not found or not one of
the models. -/
def acquireSteps (a : Acquisition H) (d : Descriptor) : List (Step H) :=
  if !d.isOn a.models then []
  else
    match Host.find a.host d.path with
    | none => []
    | some attached =>
      if attached.id ≠ d.id then []
      else if d.hasPermission || Host.permitted a.host d.path then [.openNow d.path]
      else .ask d.path :: (a.ask d.path).promptSteps d.path (Host.prompt a.host d.path)

/-- The device that an operation is to open, as far as it is known. -/
def wanted? (a : Acquisition H) : Operation H → Option Descriptor
  | .acquire d => some d
  | .acquirePath path =>
    (Host.find a.host path).map fun attached => .ofAttached attached (Host.permitted a.host path)
  | _ => none

/-- The steps that an operation takes. -/
def steps (a : Acquisition H) : Operation H → List (Step H)
  | .list => [.list]
  | .acquire d => a.acquireSteps d
  | .acquirePath path => (a.wanted? (.acquirePath path)).elim [] a.acquireSteps
  | .permissionResult path granted => [.permissionResult path granted]
  | .failPending path failure => [.failPending path failure]
  | .close => [.close]
  | .reset => [.reset]
  | .poll request => [.poll request]
  | .hostChange host => [.hostChange host]

/-- The steps that some operations take, one after another. -/
def allSteps (a : Acquisition H) : List (Operation H) → List (Step H)
  | [] => []
  | operation :: rest => a.steps operation ++ (a.perform operation).allSteps rest

/-- What the owner of a request is told by a step, if that asks for its outcome. -/
def answer? (a : Acquisition H) (request : Nat) : Step H → Option (Option (Outcome Handle))
  | .poll asked => a.requests.answer? request (.poll asked : Requests.Operation String Handle)
  | _ => none

/-- What the owner of a request is told in some steps, in order. -/
def answers (a : Acquisition H) (request : Nat) : List (Step H) → List (Option (Outcome Handle))
  | [] => []
  | step :: rest => (a.answer? request step).toList ++ (a.advance step).answers request rest

end Acquisition

end TunerControl.Usb
