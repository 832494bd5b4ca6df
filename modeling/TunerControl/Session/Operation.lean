import TunerControl.Session.Controller
import TunerControl.Session.Log
import TunerControl.Usb.Operation

/-! Runs of a controller: all that its owner and its surroundings can do, one after another. -/

namespace TunerControl.Session

open Samples (Activity Bytes)

/-- Something that is done to a controller, or that happens around it. Others may use the
acquisition and give the engine commands that have no part in a session; the driver reports when it
likes; and the engine and the driver may change at will. -/
inductive Operation (H G D : Type) where
  | connect (backend : Backend)
  | start
  | stop
  | cleanup
  | disconnectRtlUsb
  | setRtlFrequency (frequency : UInt64)
  | setRtlGain (gain : Int32)
  | startHackRf (tuning : HackRfTuning)
  | stopHackRf
  | setFrequency (frequency : UInt64)
  | setSampleRate (rate : UInt32)
  | setLnaGain (gain : UInt32)
  | setVgaGain (gain : UInt32)
  | startReceiving
  | stopReceiving
  | feed (samples : Bytes)
  | pollInit (request : Nat)
  | initReported (session : Nat) (report : Except String Unit)
  | background (activities : List Activity)
  | acquisition (operation : Usb.Operation H)
  | aside (command : Command) (free : command.isAside = true)
  | engineChange (engine : G)
  | driverChange (driver : D)

/-- Whether an operation ends the sessions on a kind of front end. -/
def Operation.ends {H G D : Type} (operation : Operation H G D) (kind : BackendKind) : Bool :=
  match operation with
  | .stop | .cleanup => true
  | .disconnectRtlUsb => kind = .rtlUsb
  | .stopHackRf => kind = .hackRf
  | _ => false

namespace Controller

variable {H G D : Type} [Usb.Host H] [Engine G] [HackRfDriver D]

/-- The controller after an operation. -/
def perform (c : Controller H G D) : Operation H G D → Controller H G D
  | .connect backend => (c.connect backend).2
  | .start => c.start.2
  | .stop => c.stop.2
  | .cleanup => c.cleanup
  | .disconnectRtlUsb => c.disconnectRtlUsb
  | .setRtlFrequency frequency => (c.setRtlFrequency frequency).2
  | .setRtlGain gain => (c.setRtlGain gain).2
  | .startHackRf tuning => (c.startHackRf tuning).2
  | .stopHackRf => c.stopHackRf
  | .setFrequency frequency => (c.setFrequency frequency).2
  | .setSampleRate rate => (c.setSampleRate rate).2
  | .setLnaGain gain => (c.setLnaGain gain).2
  | .setVgaGain gain => (c.setVgaGain gain).2
  | .startReceiving => c.startReceiving.2
  | .stopReceiving => c.stopReceiving.2
  | .feed samples => (c.feed samples).2
  | .pollInit request => (c.pollInit request).2
  | .initReported session report => c.initReported session report
  | .background activities => c.background activities
  | .acquisition operation => { c with usb := c.usb.perform operation }
  | .aside command _ => c.tell command
  | .engineChange engine => { c with engine }
  | .driverChange driver => { c with driver := c.driver.map fun _ => driver }

/-- The controller after some operations, one by one. -/
def afterAll (c : Controller H G D) (operations : List (Operation H G D)) : Controller H G D :=
  operations.foldl perform c

/-- A new controller after a run of operations. -/
def afterRun (usb : Usb.Acquisition H) (engine : G) (driver : Option D) (config : PipelineConfig)
    (operations : List (Operation H G D)) : Controller H G D :=
  (new usb engine driver config).afterAll operations

end Controller

end TunerControl.Session
