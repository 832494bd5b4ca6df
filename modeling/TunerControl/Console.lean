import TunerControl.Event.Dispatcher
import TunerControl.Session.Controller

/-! The commands of a host: one session, the dongle it may run on, the decoder engine's settings,
and the delivery of the engine's events. -/

namespace TunerControl

open Event (Dispatcher Kind Raw Subscriber)
open Samples (Bytes)
open Session (Command Controller Engine HackRfDriver)
open Usb (Acquisition Descriptor HackRfBoard Host OpenReply)

/-- A controller and a dispatcher. The engine's events reach the dispatcher while it is listening. -/
structure Console (H G D : Type) where
  controller : Controller H G D
  dispatcher : Dispatcher := { }
  listening : Bool := false

namespace Console

variable {H G D : Type}

/-- What is done to the dongle when it is opened, for a refusal. -/
def openingDongle : String := "open an RTL-SDR device"

/-- What is done to the dongle when it is closed, for a refusal. -/
def closingDongle : String := "close the RTL-SDR device"

/-- Lets the engine emit an event. -/
def emit (c : Console H G D) (event : Raw) : Console H G D :=
  if c.listening then { c with dispatcher := c.dispatcher.post event } else c

/-- Lets an event arrive from an engine thread that still holds the handler. -/
def emitLate (c : Console H G D) (event : Raw) : Console H G D :=
  { c with dispatcher := c.dispatcher.post event }

/-- Installs a subscriber. -/
def subscribe (c : Console H G D) (kind : Kind) (subscriber : Subscriber) : Console H G D :=
  { c with dispatcher := c.dispatcher.subscribe kind subscriber }

/-- Clears a subscriber's slot. -/
def unsubscribe (c : Console H G D) (kind : Kind) : Console H G D :=
  { c with dispatcher := c.dispatcher.unsubscribe kind }

/-- Delivers the events that have arrived. -/
def pump (c : Console H G D) : Nat × Console H G D :=
  let (handled, dispatcher) := c.dispatcher.pump
  (handled, { c with dispatcher })

/-- Waits for an event, and delivers the events that have arrived. -/
def pumpTimeout (c : Console H G D) (milliseconds : Nat) : Nat × Console H G D :=
  let (handled, dispatcher) := c.dispatcher.pumpTimeout milliseconds
  (handled, { c with dispatcher })

/-- Changes the controller by an operation that has an answer. -/
def control {α : Type} (c : Console H G D) (operation : Controller H G D → α × Controller H G D) :
    α × Console H G D :=
  let (answer, controller) := operation c.controller
  (answer, { c with controller })

/-- Changes the acquisition by an operation that has an answer. -/
def acquire {α : Type} (c : Console H G D) (operation : Acquisition H → α × Acquisition H) :
    α × Console H G D :=
  c.control fun controller =>
    let (answer, usb) := operation controller.usb
    (answer, { controller with usb })

section Usb

variable [Host H]

/-- The dongles that can be opened. -/
def listDongles (c : Console H G D) : List Descriptor × Console H G D :=
  c.acquire Acquisition.list

/-- The HackRF boards that are attached. -/
def listBoards (c : Console H G D) : List HackRfBoard :=
  (Usb.scan c.controller.usb.host Usb.hackRfModels).zipIdx.map fun (d, index) =>
    .ofDescriptor index d

/-- Opens a dongle, unless a session is using one. -/
def openDongle (c : Console H G D) (path : String) :
    Except Failure OpenReply × Console H G D :=
  match c.controller.requireDongleFree openingDongle with
  | .error failure => (.error failure, c)
  | .ok () => c.acquire fun usb => usb.acquirePath path

/-- Closes the dongle, unless a session is using it. -/
def closeDongle (c : Console H G D) : Outcome Unit × Console H G D :=
  match c.controller.requireDongleFree closingDongle with
  | .error failure => (.error failure, c)
  | .ok () => c.acquire fun usb => (.ok (), usb.close)

/-- Takes the user's answer to a permission prompt. While a session is using a dongle the answer
fails the request for another one. -/
def permissionResult (c : Console H G D) (path : String) (granted : Bool) :
    Bool × Console H G D :=
  match c.controller.requireDongleFree openingDongle with
  | .error failure => c.acquire fun usb => usb.failPending path failure
  | .ok () => c.acquire fun usb => usb.permissionResult path granted

end Usb

section Engine

variable [Engine G]

/-- Gives a command to the engine. -/
def issue (c : Console H G D) (command : Command) : Outcome Unit × Console H G D :=
  c.control fun controller => controller.issue command

/-- Gives a command to the engine that it cannot refuse. -/
def tell (c : Console H G D) (command : Command) : Console H G D :=
  (c.issue command).2

/-- A console that listens to the engine's events. The configuration must be valid. -/
def new (usb : H) (engine : G) (driver : Option D) (config : Config) :
    Except Failure (Console H G D) :=
  match config.validate with
  | .error fault => .error (.invalidArgument fault.message)
  | .ok () =>
    let acquisition : Acquisition H := { host := usb, models := Usb.rtlSdrModels }
    let controller := Controller.new acquisition engine driver config.pipeline
    .ok ({ ({ controller } : Console H G D).tell .setEventHandler with listening := true })

/-- Sets the engine's filter to the mode with a number. -/
def setFilterMode (c : Console H G D) (n : Int32) : Outcome Unit × Console H G D :=
  match FilterMode.ofRaw n with
  | .error failure => (.error failure, c)
  | .ok mode => (.ok (), c.tell (.setFilterMode mode.raw))

/-- The mode of the engine's filter. -/
def filterMode (c : Console H G D) : Except Failure FilterMode :=
  FilterMode.ofRaw (Engine.filterMode c.controller.engine)

variable [HackRfDriver D]

/-- Opens a session on a HackRF with the default gains. -/
def startHackRf (c : Console H G D) (frequency : UInt64) (sampleRate : UInt32) :
    Except Failure Nat × Console H G D :=
  c.control fun controller => controller.startHackRf { frequency, sampleRate }

/-- Ends everything, and delivers the events that had arrived. -/
def shutdown [Host H] (c : Console H G D) : Console H G D :=
  let c := { c with controller := c.controller.cleanup }.tell .clearEventHandler
  ({ c with listening := false }.pump).2

end Engine

end Console

end TunerControl
