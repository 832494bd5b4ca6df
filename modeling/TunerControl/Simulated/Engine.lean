import TunerControl.Session.Controller
import TunerControl.Simulated.Gate

/-! A decoder engine and a HackRF driver whose answers are set from outside. -/

namespace TunerControl.Simulated

open Samples (Plant)
open Session (Command Controller DriverCall InitReply ReceiveReply)

/-- What the engine reports, which commands it refuses, and the gate of its sink. -/
structure Engine where
  refusals : List (String × Failure) := []
  supportsRtlUsb : Bool := true
  filterMode : Int32 := 0
  pipeFd : Int32 := -1
  gate : Gate := { }
  sinkFailure : Failure := .rejected "feed"
  deriving DecidableEq, Repr

/-- The cause with a name, about a path or for a reason. -/
def namedFailure? (name detail : String) : Option Failure :=
  match name with
  | "PermissionDenied" => some .permissionDenied
  | "DeviceNotFound" => some (.deviceNotFound detail)
  | "DeviceNotApplicable" => some (.deviceNotApplicable detail)
  | "OpenFailed" => some (.openFailed detail)
  | "PipeSetupFailed" => some .pipeSetupFailed
  | "ContextUnavailable" => some .contextUnavailable
  | "NativeInitFailed" => some (.initFailed detail)
  | "NativeOperationFailed" => some (.operationFailed detail)
  | "DriverLaunchFailed" => some (.launchFailed detail)
  | "InvalidState" => some (.invalidState detail)
  | "InvalidArgument" => some (.invalidArgument detail)
  | "PermissionSuperseded" => some .superseded
  | _ => none

/-- A table of refusals with another entry for a word, or with none. -/
def setRefusal (refusals : List (String × Failure)) (word : String) (failure : Option Failure) :
    List (String × Failure) :=
  let others := refusals.filter (·.1 ≠ word)
  match failure with
  | none => others
  | some failure => (word, failure) :: others

/-- The answer to the command with a word. -/
def answerTo (refusals : List (String × Failure)) (word : String) : Outcome Unit :=
  match refusals.lookup word with
  | some failure => .error failure
  | none => .ok ()

namespace Engine

/-- Answers a command. Samples that are handed over directly do not wait at the gate. -/
def issue (e : Engine) (command : Command) : Outcome Unit × Engine :=
  match command with
  | .feedSamples _ => (if e.gate.reply = .refused then .error e.sinkFailure else .ok (), e)
  | .setFilterMode mode => (.ok (), { e with filterMode := mode })
  | _ => (answerTo e.refusals command.word, e)

end Engine

instance : Session.Engine Engine where
  issue := Engine.issue
  supportsRtlUsb := Engine.supportsRtlUsb
  filterMode := Engine.filterMode
  pipeFd := Engine.pipeFd
  meanwhile e p :=
    let (activities, gate) := e.gate.moves p Controller.pipeline
    (activities, { e with gate })

/-- How a driver takes the request to initialise. -/
inductive InitMode where
  | succeed
  | defer
  | fail (reason : String)
  | refuse (failure : Failure)
  deriving DecidableEq, Repr

/-- How the driver answers, the sessions whose reports it deferred, and the run that it receives
into. A report that was made or dropped is `none`. -/
structure Driver where
  initMode : InitMode := .succeed
  refusals : List (String × Failure) := []
  deferred : List (Option Nat) := []
  run : Option Nat := none
  deriving DecidableEq, Repr

namespace Driver

/-- Takes the request to initialise for a session. -/
def begin (d : Driver) (session : Nat) : InitReply × Driver :=
  match d.initMode with
  | .succeed => (⟨some (.ok ()), none⟩, d)
  | .defer => (⟨none, none⟩, { d with deferred := d.deferred ++ [some session] })
  | .fail reason => (⟨some (.error reason), none⟩, d)
  | .refuse failure => (⟨none, some failure⟩, d)

/-- Takes the request to receive into a run. -/
def receive (d : Driver) (run : Nat) : ReceiveReply × Driver :=
  match answerTo d.refusals DriverCall.startRx.word with
  | .ok () => (⟨[], .ok ()⟩, { d with run := some run })
  | .error failure => (⟨[], .error failure⟩, d)

/-- The session of a deferred report, which is taken away. -/
def takeDeferred (d : Driver) (n : Nat) : Option Nat × Driver :=
  (d.deferred[n]?.join, { d with deferred := d.deferred.set n none })

end Driver

instance : Session.HackRfDriver Driver where
  issue d call := (answerTo d.refusals call.word, d)
  begin := Driver.begin
  receive d run _ := d.receive run

/-- Lets the workers of a controller's pipeline move until nothing moves. -/
def settle {H D : Type} (c : Controller H Engine D) : Controller H Engine D :=
  let (activities, gate) := c.engine.gate.moves c.plant Controller.pipeline
  { c.background activities with engine := { c.engine with gate } }

end TunerControl.Simulated
