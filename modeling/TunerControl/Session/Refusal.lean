import TunerControl.Session.Operation

/-! What an operation on a session needs, how it is refused without that, and what it passes on to
the engine or the driver otherwise. -/

namespace TunerControl.Session

/-- Something that an operation needs, and its failure without it. -/
structure Need where
  met : Bool
  failure : Failure

/-- The failure of the first need that is not met. -/
def Need.refusal? (needs : List Need) : Option Failure :=
  (needs.find? fun need => !need.met).map (·.failure)

/-- What is said of all that is needed. -/
def Need.outcome (needs : List Need) : Outcome Unit :=
  match Need.refusal? needs with
  | some failure => .error failure
  | none => .ok ()

namespace DriverCall

/-- Whether the values of a command are within what the hardware supports. -/
def isSupported : DriverCall → Bool
  | setSampleRate rate => 1 ≤ rate.toNat ∧ rate.toNat ≤ 20000000
  | setLnaGain gain => gain.toNat ≤ 40 ∧ 8 ∣ gain.toNat
  | setVgaGain gain => gain.toNat ≤ 62 ∧ 2 ∣ gain.toNat
  | _ => true

/-- What is said of values that are not supported. -/
def reproach : DriverCall → String
  | setSampleRate rate => "sample rate " ++ toString rate.toNat ++ " out of range"
  | setLnaGain gain =>
    "unsupported LNA gain: " ++ toString gain.toNat ++ " (0-40 dB, 8 dB steps)"
  | setVgaGain gain =>
    "unsupported VGA gain: " ++ toString gain.toNat ++ " (0-62 dB, 2 dB steps)"
  | _ => ""

end DriverCall

/-- Whether what a command connects to can be connected to: a host that is not blank, with a port and
a frequency; an open connection to a dongle at some path, with a sample rate; or a HackRF at a sample
rate that it supports. -/
def Command.isSound : Command → Bool
  | connectNetwork t => !Text.isBlank t.host ∧ t.port ≠ 0 ∧ t.frequency ≠ 0
  | openRtlUsb t => 0 ≤ t.fd.toInt ∧ t.devicePath ≠ "" ∧ t.sampleRate ≠ 0
  | startHackRfMode _ rate => 1 ≤ rate.toNat ∧ rate.toNat ≤ 20000000
  | _ => true

/-- The command that has the engine connect to a backend. -/
def Command.connecting : Backend → Command
  | .network t => .connectNetwork t
  | .rtlUsb t => .openRtlUsb t
  | .hackRf t => .startHackRfMode t.frequency t.sampleRate

/-- How the engine's refusal to connect to a kind of front end is told. -/
def connectFailure (kind : BackendKind) (refusal : Failure) : Failure :=
  if kind = .hackRf then .pipeSetupFailed else refusal

namespace Operation

variable {H G D : Type}

/-- The command that an operation passes on to the engine. -/
def command? : Operation H G D → Option Command
  | .start => some .start
  | .setRtlFrequency frequency => some (.setRtlFrequency frequency)
  | .setRtlGain gain => some (.setRtlGain gain)
  | .feed samples => some (.feedSamples samples)
  | _ => none

/-- The command that an operation passes on to the driver. -/
def call? : Operation H G D → Option DriverCall
  | .setFrequency frequency => some (.setFrequency frequency)
  | .setSampleRate rate => some (.setSampleRate rate)
  | .setLnaGain gain => some (.setLnaGain gain)
  | .setVgaGain gain => some (.setVgaGain gain)
  | _ => none

end Operation

namespace Controller

variable {H G D : Type}

/-- An operation on the session needs one that is active. -/
def activeNeed (c : Controller H G D) (operation : String) : Need :=
  ⟨c.state = .active,
    .invalidState ("cannot " ++ operation ++ " while session is " ++ c.state.name)⟩

/-- An operation on a front end needs a session that is active on its kind. -/
def backendNeed (c : Controller H G D) (kind : BackendKind) : Need :=
  ⟨c.state = .active ∧ c.backend = some kind,
    .invalidState ("no active " ++ kind.name ++ " session")⟩

/-- An operation on the driver needs that there is one, and that it is initialised. -/
def driverNeeds (c : Controller H G D) : List Need :=
  [⟨c.driver.isSome, .contextUnavailable⟩, ⟨c.ready, .invalidState "HackRF not initialised"⟩]

/-- A command to the driver needs values that the hardware supports. -/
def valueNeed (call : DriverCall) : Need :=
  ⟨call.isSupported, .invalidArgument call.reproach⟩

/-- Receiving needs that the pipeline is not running. -/
def restNeed (c : Controller H G D) : Need :=
  ⟨!c.isReceiving, .invalidState "sample pipeline already running"⟩

/-- Connecting needs a valid backend. -/
def validNeed (backend : Backend) : Need :=
  match backend.validate with
  | .ok () => ⟨true, .invalidArgument ""⟩
  | .error fault => ⟨false, .invalidArgument fault.message⟩

/-- What connecting needs, in the order in which it is looked at: that there is no session, a valid
backend, and an engine that can use dongles if it is to use one. -/
def connectNeeds [Engine G] (c : Controller H G D) (backend : Backend) : List Need :=
  [⟨c.state = .idle,
      .invalidState ("can only connect from idle state (currently " ++ c.state.name ++ ")")⟩,
    validNeed backend,
    ⟨backend.kind = .rtlUsb → Engine.supportsRtlUsb c.engine,
      .operationFailed "decoder engine built without RTL-SDR USB support"⟩]

/-- Nothing speaks against connecting to a backend: there is no session, the backend is valid, and the
engine can use dongles if it is to use one. -/
structure Connectable [Engine G] (c : Controller H G D) (backend : Backend) : Prop where
  idle : c.state = .idle
  valid : backend.validate = .ok ()
  supported : backend.kind = .rtlUsb → Engine.supportsRtlUsb c.engine = true

/-- A controller is the same but for what was tried: what has become of the engine, what it was told,
and how many sessions were numbered. -/
def Unmoved (c after : Controller H G D) : Prop :=
  after = { c with
    engine := after.engine, commands := after.commands, sessions := after.sessions }

/-- What comes of an attempt to connect. The engine is asked, and asked once, exactly if nothing speaks
against it, and the attempt succeeds exactly if the engine accepts. Whatever the engine says of a
HackRF, callers learn that there is no sample pipe; what it says of other backends they learn as it is. -/
structure Attempt [Engine G] (c : Controller H G D) (backend : Backend) (answer : Outcome Unit)
    (after : Controller H G D) : Prop where
  asked : c.Connectable backend → after.commands = c.commands ++
    [⟨.connecting backend, (Engine.issue c.engine (.connecting backend)).1.isOk, c.usb.log.length⟩]
  accepted : c.Connectable backend →
    (answer = .ok () ↔ (Engine.issue c.engine (.connecting backend)).1 = .ok ())
  declined : c.Connectable backend → ∀ refusal,
    (Engine.issue c.engine (.connecting backend)).1 = .error refusal →
    answer = .error (connectFailure backend.kind refusal)
  unasked : ¬c.Connectable backend → after.commands = c.commands ∧ after.engine = c.engine
  refused : ¬c.Connectable backend →
    ∃ failure, Need.refusal? (c.connectNeeds backend) = some failure ∧ answer = .error failure
  succeeded : answer = .ok () →
    after.state = .active ∧ after.backend = some backend.kind ∧ after.session = some c.sessions
  failed : ∀ failure, answer = .error failure → c.Unmoved after

/-- Each of some attempts to connect fails, one after another. -/
def AllFail [Engine G] (c : Controller H G D) : List Backend → Prop
  | [] => True
  | backend :: rest =>
    (∃ failure, (c.connect backend).1 = .error failure) ∧ (c.connect backend).2.AllFail rest

/-- What an operation on a session, a front end or the driver needs, in the order in which it is
looked at. -/
def needs (c : Controller H G D) : Operation H G D → List Need
  | .start => [c.activeNeed "start"]
  | .stop => [c.activeNeed "stop"]
  | .setRtlFrequency _ => [c.backendNeed .rtlUsb]
  | .setRtlGain _ => [c.backendNeed .rtlUsb]
  | .feed _ => [c.backendNeed .hackRf]
  | .setFrequency _ => c.driverNeeds
  -- Values are looked at once there is a driver to give them to.
  | .setSampleRate rate => c.driverNeeds ++ [valueNeed (.setSampleRate rate)]
  | .setLnaGain gain => c.driverNeeds ++ [valueNeed (.setLnaGain gain)]
  | .setVgaGain gain => c.driverNeeds ++ [valueNeed (.setVgaGain gain)]
  -- The session and the pipeline are looked at after the driver.
  | .startReceiving => c.driverNeeds ++ [c.backendNeed .hackRf, c.restNeed]
  | _ => []

variable [Usb.Host H] [Engine G] [HackRfDriver D]

/-- How an operation ends for its caller, if it can fail and tells no more. -/
def answer? (c : Controller H G D) : Operation H G D → Option (Outcome Unit)
  | .connect backend => some (c.connect backend).1
  | .start => some c.start.1
  | .stop => some c.stop.1
  | .setRtlFrequency frequency => some (c.setRtlFrequency frequency).1
  | .setRtlGain gain => some (c.setRtlGain gain).1
  | .setFrequency frequency => some (c.setFrequency frequency).1
  | .setSampleRate rate => some (c.setSampleRate rate).1
  | .setLnaGain gain => some (c.setLnaGain gain).1
  | .setVgaGain gain => some (c.setVgaGain gain).1
  | .startReceiving => some c.startReceiving.1
  | .stopReceiving => some c.stopReceiving.1
  | .feed samples => some (c.feed samples).1
  | _ => none

end Controller

end TunerControl.Session
