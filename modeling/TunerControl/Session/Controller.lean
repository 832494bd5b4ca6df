import TunerControl.Session.Command
import TunerControl.Session.State
import TunerControl.Usb.Acquisition

/-! The one hardware session: which operations are allowed when, and the commands that each of them
gives to the decoder engine, the driver and the USB acquisition. -/

namespace TunerControl.Session

open Samples (Activity Bytes Plant Stats StopReport)
open Usb (Acquisition Host)

/-- A session and all that it works with. The pipeline is the first one of the plant. Sessions are
numbered as they are tried, and a session's number is the key of its initialisation request. -/
structure Controller (H G D : Type) where
  usb : Acquisition H
  engine : G
  driver : Option D
  plant : Plant
  state : State := .idle
  backend : Option BackendKind := none
  session : Option Nat := none
  sessions : Nat := 0
  inits : Requests Nat Unit := { }
  ready : Bool := false
  commands : List Issued := []
  driverCalls : List DriverCall := []

namespace Controller

variable {H G D : Type}

/-- The number of the one pipeline. -/
def pipeline : Nat := 0

/-- A controller without a session. Its pipeline is made as the configuration says, which is taken to
be one that was checked, so that its queue has room (see `Plant.admits`). -/
def new (usb : Acquisition H) (engine : G) (driver : Option D) (config : PipelineConfig) :
    Controller H G D :=
  { usb, engine, driver, plant := ({ } : Plant).addLine config }

/-- The counters of the pipeline. -/
def stats (c : Controller H G D) : Stats :=
  match c.plant.lines[pipeline]? with
  | some l => l.stats
  | none => { }

/-- Whether samples are being received. -/
def isReceiving (c : Controller H G D) : Bool :=
  c.plant.isRunning pipeline

/-- Allows an operation on a session that accepts control. -/
def requireControl (c : Controller H G D) (operation : String) : Outcome Unit :=
  if c.state.acceptsControl then .ok ()
  else .error (.invalidState ("cannot " ++ operation ++ " while session is " ++ c.state.name))

/-- Whether there is a session on a kind of front end that accepts control. -/
def isLiveOn (c : Controller H G D) (kind : BackendKind) : Bool :=
  c.backend = some kind && c.state.acceptsControl

/-- Allows an operation on a session on a kind of front end. -/
def requireBackend (c : Controller H G D) (kind : BackendKind) : Outcome Unit :=
  if c.isLiveOn kind then .ok ()
  else .error (.invalidState ("no active " ++ kind.name ++ " session"))

/-- Allows an operation on the acquired dongle while no session uses it. -/
def requireDongleFree (c : Controller H G D) (operation : String) : Outcome Unit :=
  if c.isLiveOn .rtlUsb then
    .error (.invalidState
      ("cannot " ++ operation ++ " while the RTL-SDR session is " ++ c.state.name))
  else .ok ()

/-- Allows an operation on the driver once it is initialised. -/
def requireDriver (c : Controller H G D) : Except Failure D :=
  match c.driver with
  | none => .error .contextUnavailable
  | some driver => if c.ready then .ok driver else .error (.invalidState "HackRF not initialised")

/-- Takes the driver's report on the initialisation for a session. A report for a session that has
ended settles nothing. Taking the request out of the slot, sending the outcome and noting that the
driver is ready are one step here, as the arming of a new request is one: no other operation comes
between them. -/
def initReported (c : Controller H G D) (session : Nat) (report : Except String Unit) :
    Controller H G D :=
  let outcome : Outcome Unit := match report with
    | .ok () => .ok ()
    | .error reason => .error (.initFailed reason)
  let ready := match report with
    | .ok () => true
    | .error _ => c.ready
  { c with ready, inits := (c.inits.resolveFor session outcome).2 }

/-- Lets some activities at the plant happen. -/
def background (c : Controller H G D) (activities : List Activity) : Controller H G D :=
  { c with plant := c.plant.afterAll activities }

section Engine

variable [Engine G]

/-- Gives a command to the engine. -/
def issue (c : Controller H G D) (command : Command) : Outcome Unit × Controller H G D :=
  let (outcome, engine) := Engine.issue c.engine command
  let issued : Issued := ⟨command, outcome.isOk, c.usb.log.length⟩
  (outcome, { c with engine, commands := c.commands ++ [issued] })

/-- Gives a command to the engine that it cannot refuse. -/
def tell (c : Controller H G D) (command : Command) : Controller H G D :=
  (c.issue command).2

/-- Stops the pipeline: asks the worker to end, waits, and discards what is queued. -/
def stopPipeline (c : Controller H G D) : StopReport × Controller H G D :=
  let c := { c with plant := c.plant.requestStop pipeline }
  let (activities, engine) := Engine.meanwhile c.engine c.plant
  let (report, plant) := (c.plant.afterAll activities).completeStop pipeline
  (report, { c with engine, plant })

/-- Has the engine connect to a backend. -/
def issueConnect (c : Controller H G D) : Backend → Outcome Unit × Controller H G D
  | .network t => c.issue (.connectNetwork t)
  | .rtlUsb t =>
    if Engine.supportsRtlUsb c.engine then c.issue (.openRtlUsb t)
    else (.error (.operationFailed "decoder engine built without RTL-SDR USB support"), c)
  | .hackRf t =>
    match c.issue (.startHackRfMode t.frequency t.sampleRate) with
    | (.ok (), c) => (.ok (), c)
    -- Whatever the engine says, callers learn that there is no sample pipe.
    | (.error _, c) => (.error .pipeSetupFailed, c)

/-- Opens a session on a backend. There must be none, and the backend must be valid. -/
def connect (c : Controller H G D) (backend : Backend) : Outcome Unit × Controller H G D :=
  if c.state ≠ .idle then
    (.error (.invalidState ("can only connect from idle state (currently " ++ c.state.name ++ ")")),
      c)
  else
    match backend.validate with
    | .error fault => (.error (.invalidArgument fault.message), c)
    | .ok () =>
      -- The session has its number before the engine is asked, and loses it on a refusal.
      let c := { c with session := some c.sessions, sessions := c.sessions + 1, state := .connecting }
      match c.issueConnect backend with
      | (.ok (), c) => (.ok (), { c with backend := some backend.kind, state := .active })
      | (.error failure, c) => (.error failure, { c with session := none, state := .idle })

/-- Starts decoding. -/
def start (c : Controller H G D) : Outcome Unit × Controller H G D :=
  match c.requireControl "start" with
  | .error failure => (.error failure, c)
  | .ok () => c.issue .start

/-- Tunes the dongle of the session. -/
def setRtlFrequency (c : Controller H G D) (frequency : UInt64) :
    Outcome Unit × Controller H G D :=
  match c.requireBackend .rtlUsb with
  | .error failure => (.error failure, c)
  | .ok () => c.issue (.setRtlFrequency frequency)

/-- Sets the gain of the dongle of the session. -/
def setRtlGain (c : Controller H G D) (gain : Int32) : Outcome Unit × Controller H G D :=
  match c.requireBackend .rtlUsb with
  | .error failure => (.error failure, c)
  | .ok () => c.issue (.setRtlGain gain)

/-- Hands samples to the engine past the pipeline. -/
def feed (c : Controller H G D) (samples : Bytes) : Outcome Unit × Controller H G D :=
  match c.requireBackend .hackRf with
  | .error failure => (.error failure, c)
  | .ok () => c.issue (.feedSamples samples)

section Driver

variable [HackRfDriver D]

/-- Gives a command to a driver. -/
def drive (c : Controller H G D) (driver : D) (call : DriverCall) :
    Outcome Unit × Controller H G D :=
  let (outcome, driver) := HackRfDriver.issue driver call
  (outcome, { c with driver := some driver, driverCalls := c.driverCalls ++ [call] })

/-- Tunes the driver's hardware. -/
def setFrequency (c : Controller H G D) (frequency : UInt64) : Outcome Unit × Controller H G D :=
  match c.requireDriver with
  | .error failure => (.error failure, c)
  | .ok driver => c.drive driver (.setFrequency frequency)

/-- Sets the sample rate of the driver's hardware, if it supports the rate. -/
def setSampleRate (c : Controller H G D) (rate : UInt32) : Outcome Unit × Controller H G D :=
  match c.requireDriver with
  | .error failure => (.error failure, c)
  | .ok driver =>
    if HackRfTuning.supportsRate rate then c.drive driver (.setSampleRate rate)
    else (.error (.invalidArgument ("sample rate " ++ toString rate.toNat ++ " out of range")), c)

/-- Sets the LNA gain of the driver's hardware, if it supports the gain. -/
def setLnaGain (c : Controller H G D) (gain : UInt32) : Outcome Unit × Controller H G D :=
  match c.requireDriver with
  | .error failure => (.error failure, c)
  | .ok driver =>
    match HackRfTuning.validateLnaGain gain with
    | .error fault => (.error (.invalidArgument fault.message), c)
    | .ok () => c.drive driver (.setLnaGain gain)

/-- Sets the VGA gain of the driver's hardware, if it supports the gain. -/
def setVgaGain (c : Controller H G D) (gain : UInt32) : Outcome Unit × Controller H G D :=
  match c.requireDriver with
  | .error failure => (.error failure, c)
  | .ok driver =>
    match HackRfTuning.validateVgaGain gain with
    | .error fault => (.error (.invalidArgument fault.message), c)
    | .ok () => c.drive driver (.setVgaGain gain)

/-- Starts the pipeline and has the driver fill it. The pipeline is stopped again if the driver
refuses. -/
def startReceiving (c : Controller H G D) : Outcome Unit × Controller H G D :=
  match c.requireDriver, c.requireBackend .hackRf with
  | .error failure, _ => (.error failure, c)
  | .ok _, .error failure => (.error failure, c)
  | .ok driver, .ok () =>
    match c.plant.start pipeline with
    | (.error failure, _) => (.error failure, c)
    | (.ok run, plant) =>
      let (reply, driver) := HackRfDriver.receive driver run plant
      let c := { c with
        plant := plant.afterAll reply.activities
        driver := some driver
        driverCalls := c.driverCalls ++ [.startRx] }
      match reply.outcome with
      | .ok () => (.ok (), c)
      | .error failure => (.error failure, c.stopPipeline.2)

/-- Has the driver stop if the pipeline is running, and stops the pipeline in any case. -/
def stopReceiving (c : Controller H G D) : Outcome Unit × Controller H G D :=
  let (outcome, c) := match c.driver with
    | some driver => if c.isReceiving then c.drive driver .stop else (.ok (), c)
    | none => (.ok (), c)
  (outcome, c.stopPipeline.2)

/-- Begins to initialise the driver for the session with the given number, and tells the number of
the request. A driver that cannot even begin leaves no request behind. -/
def beginInit (c : Controller H G D) (driver : D) (session : Nat) :
    Except Failure Nat × Controller H G D :=
  let (request, inits) := c.inits.arm session
  let (reply, driver) := HackRfDriver.begin driver session
  let c := { c with inits, driver := some driver, driverCalls := c.driverCalls ++ [.init] }
  let c := match reply.report with
    | some report => c.initReported session report
    | none => c
  match reply.failure with
  | none => (.ok request, c)
  | some failure =>
    -- Any failure to begin is one of the initialisation.
    let failure := match failure with
      | .initFailed reason => .initFailed reason
      | other => .initFailed other.message
    (.error failure, { c with inits := (c.inits.resolveFor session (.error failure)).2 })

/-- Opens a session on a HackRF and sees to it that its driver is initialised. Tells the number of
the request that is settled once it is. -/
def startHackRf (c : Controller H G D) (tuning : HackRfTuning) :
    Except Failure Nat × Controller H G D :=
  match c.connect (.hackRf tuning) with
  | (.error failure, c) => (.error failure, c)
  | (.ok (), c) =>
    if c.ready then
      -- An initialised driver stays so, and nothing is asked of it.
      let (request, inits) := c.inits.ready (.ok ())
      (.ok request, { c with inits })
    else
      match c.driver, c.session with
      | some driver, some session => c.beginInit driver session
      | _, _ => (.error .contextUnavailable, c)

/-- Asks for the outcome of an initialisation request. -/
def pollInit (c : Controller H G D) (request : Nat) :
    Option (Outcome Unit) × Controller H G D :=
  let (outcome, inits) := c.inits.poll request
  (outcome, { c with inits })

section Release

variable [Host H]

/-- Ends what the backend of the session holds, and forgets the session. -/
def releaseBackend (c : Controller H G D) : Controller H G D :=
  let held := c.backend
  let c := { c with backend := none }
  let c := match held with
    | some .hackRf => c.stopReceiving.2.tell .stopHackRfMode
    | some .rtlUsb =>
      -- The engine lets go of the connection before the connection is closed.
      let c := c.tell .closeRtlUsb
      { c with usb := c.usb.close }
    | some .network => c
    | none => c
  { c with session := none }

/-- Stops decoding and ends the session. -/
def stop (c : Controller H G D) : Outcome Unit × Controller H G D :=
  match c.requireControl "stop" with
  | .error failure => (.error failure, c)
  | .ok () =>
    let c := { c with state := .stopping }.tell .stop
    (.ok (), { c.releaseBackend with state := .idle })

/-- Ends the session and everything that is outstanding, whatever the state. -/
def cleanup (c : Controller H G D) : Controller H G D :=
  let (_, inits) := c.inits.resolve (.error (.invalidState "session cleaned up"))
  let c := { c with inits }
  let c := if c.state.acceptsControl then c.tell .stop else c
  let c := c.releaseBackend
  let c := { c with usb := c.usb.reset }.tell .cleanup
  { c with state := .idle }

/-- Ends a session on a dongle. Without one, only the acquired dongle is closed. -/
def disconnectRtlUsb (c : Controller H G D) : Controller H G D :=
  if c.backend = some .rtlUsb then { c.releaseBackend with state := .idle }
  else { c with usb := c.usb.close }

/-- Ends a session on a HackRF. Without one, nothing happens. -/
def stopHackRf (c : Controller H G D) : Controller H G D :=
  if c.backend = some .hackRf then
    let (_, inits) := c.inits.resolve (.error (.invalidState "HackRF mode stopped"))
    { { c with inits }.releaseBackend with state := .idle }
  else c

end Release

end Driver

end Engine

end Controller

end TunerControl.Session
