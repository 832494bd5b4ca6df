import TunerControl.Console
import TunerControl.Session.Operation

/-! Runs of a console: all that a host and the surroundings can do to it, one after another. -/

namespace TunerControl

open Event (Kind Raw Subscriber)
open Session (Command Engine HackRfDriver)
open Usb (Host)

/-- Whether a console passes an operation on to its controller as it is. The host cleans up by
shutting down, starts a HackRF with default gains, and has commands of its own for the dongle and
the engine. -/
def Session.Operation.isPassedOn {H G D : Type} : Session.Operation H G D → Bool
  | connect (.hackRf _) | cleanup | startHackRf _ | aside .. => false
  | acquisition (.poll _) | acquisition (.hostChange _) => true
  | acquisition _ => false
  | _ => true

namespace Console

/-- Something that is done to a console, or that happens around it. -/
inductive Operation (H G D : Type) where
  | session (operation : Session.Operation H G D) (passedOn : operation.isPassedOn = true)
  | startHackRf (frequency : UInt64) (sampleRate : UInt32)
  | shutdown
  | listDongles
  | openDongle (path : String)
  | closeDongle
  | permissionResult (path : String) (granted : Bool)
  | setFilterMode (n : Int32)
  | setting (command : Command) (isSetting : command.isSetting = true)
  | subscribe (kind : Kind) (subscriber : Subscriber)
  | unsubscribe (kind : Kind)
  | pump
  | pumpTimeout (milliseconds : Nat)
  | emit (event : Raw)
  | emitLate (event : Raw)

/-- Whether an operation has the engine close its dongle. -/
def Operation.closesDongle {H G D : Type} : Operation H G D → Bool
  | session .stop _ | session .disconnectRtlUsb _ | shutdown => true
  | _ => false

variable {H G D : Type} [Host H] [Engine G] [HackRfDriver D]

/-- The console after an operation. -/
def perform (c : Console H G D) : Operation H G D → Console H G D
  | .session operation _ => { c with controller := c.controller.perform operation }
  | .startHackRf frequency sampleRate => (c.startHackRf frequency sampleRate).2
  | .shutdown => c.shutdown
  | .listDongles => c.listDongles.2
  | .openDongle path => (c.openDongle path).2
  | .closeDongle => c.closeDongle.2
  | .permissionResult path granted => (c.permissionResult path granted).2
  | .setFilterMode n => (c.setFilterMode n).2
  | .setting command _ => c.tell command
  | .subscribe kind subscriber => c.subscribe kind subscriber
  | .unsubscribe kind => c.unsubscribe kind
  | .pump => c.pump.2
  | .pumpTimeout milliseconds => (c.pumpTimeout milliseconds).2
  | .emit event => c.emit event
  | .emitLate event => c.emitLate event

/-- The console after some operations, one by one. -/
def afterAll (c : Console H G D) (operations : List (Operation H G D)) : Console H G D :=
  operations.foldl perform c

end Console

end TunerControl
