import TunerControl.Session.Log
import TunerControl.Session.Operation

/-! What is left of a session once all is cleaned up, and what the engine was told for it. -/

namespace TunerControl

open Usb (HostCall)

/-- Nothing is left to settle: the slot is empty, and whoever asks for an outcome is answered. -/
structure Requests.AllSettled {κ α : Type} (s : Requests κ α) : Prop where
  empty : s.waiting = none
  answered : ∀ request, (s.poll request).1 ≠ none

namespace Session

variable {H G D : Type}

namespace Controller

/-- Nothing is left of any session: none is live, the pipeline is at rest with nothing queued, no
request for an initialisation or for permission is outstanding, and no connection is open. -/
structure Blank (c : Controller H G D) : Prop where
  state : c.state = .idle
  backend : c.backend = none
  session : c.session = none
  resting : c.isReceiving = false
  queues : ∀ run ∈ c.plant.runs, run.queue = []
  inits : c.inits.AllSettled
  permissions : c.usb.requests.AllSettled
  phase : c.usb.phase = .idle
  handle : c.usb.handle = none
  connections : c.usb.calls.filterMap HostCall.opening? = c.usb.calls.filterMap HostCall.closing?

/-- What the engine is told when all is cleaned up: to stop decoding if a session is active, to let go
of the front end of the session if it has one to let go of, and to clean up itself. -/
def cleanupCommands (c : Controller H G D) : List Command :=
  (if c.state = .active then [.stop] else []) ++
    ((c.backend.bind Command.releaseOf?).toList ++ [.cleanup])

variable [Usb.Host H] [Engine G] [HackRfDriver D]

/-- Cleaning up leaves nothing of a session. Requests that were outstanding are cancelled, each with its
own reason, and the engine is told what is needed, once. Cleaning up again does no more than to tell the
engine to clean up. -/
structure CleansUp (c : Controller H G D) : Prop where
  blank : c.cleanup.Blank
  init : ∀ session request, c.inits.waiting = some (session, request) →
    (c.cleanup.pollInit request).1 = some (.error (.invalidState "session cleaned up"))
  permission : ∀ path request, c.usb.requests.waiting = some (path, request) →
    (c.cleanup.usb.poll request).1 = some (.error (.invalidState "USB acquisition reset"))
  commands : ∃ issued, c.cleanup.commands = c.commands ++ issued ∧
    issued.map (·.command) = c.cleanupCommands
  again : c.cleanup.cleanup = c.cleanup.tell .cleanup

end Controller

end Session

end TunerControl
