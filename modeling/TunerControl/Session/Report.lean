import TunerControl.Request.Operation
import TunerControl.Session.Operation

/-! What becomes of the request for a session's initialisation: which operations settle it, and what
its owner is told. -/

namespace TunerControl.Session

/-- What the driver's report says to the request that it is for. -/
def reportOutcome : Except String Unit → Outcome Unit
  | .ok () => .ok ()
  | .error reason => .error (.initFailed reason)

namespace Controller

variable {H G D : Type} [Engine G]

/-- Whether opening a session on a HackRF has the driver begin to initialise: the session is opened,
and there is a driver that is not initialised yet. -/
def asksDriver (c : Controller H G D) (tuning : HackRfTuning) : Bool :=
  (c.connect (.hackRf tuning)).1.isOk && !c.ready && c.driver.isSome

/-- What an operation says to the request for a session if that is in the slot: what the driver
reports for that very session, that a newer request takes its place, or that it is cancelled. -/
def initVerdict? (c : Controller H G D) (session : Nat) : Operation H G D → Option (Outcome Unit)
  | .initReported reported report => if reported = session then some (reportOutcome report) else none
  | .startHackRf tuning => if c.asksDriver tuning then some (.error .superseded) else none
  | .stopHackRf =>
    if c.backend = some .hackRf then some (.error (.invalidState "HackRF mode stopped")) else none
  | .cleanup => some (.error (.invalidState "session cleaned up"))
  | _ => none

/-- What the owner of a request is told by an operation, if that asks for its outcome. -/
def initAnswer? (c : Controller H G D) (request : Nat) :
    Operation H G D → Option (Option (Outcome Unit))
  | .pollInit asked => c.inits.answer? request (.poll asked : Requests.Operation Nat Unit)
  | _ => none

variable [Usb.Host H] [HackRfDriver D]

/-- What the owner of a request is told in some operations, in order. -/
def initAnswers (c : Controller H G D) (request : Nat) :
    List (Operation H G D) → List (Option (Outcome Unit))
  | [] => []
  | operation :: rest =>
    (c.initAnswer? request operation).toList ++ (c.perform operation).initAnswers request rest

end Controller

end TunerControl.Session
