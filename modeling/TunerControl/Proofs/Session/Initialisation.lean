import TunerControl.Proofs.Session.Boundary
import TunerControl.Simulated.Engine
import TunerControl.Simulated.Host

/-! The request for a HackRF's initialisation is outstanding in its session, or after a stop. -/

namespace TunerControl.Session.Controller

open Usb (Host)

variable {H G D : Type}

/-- A request for a session on a HackRF was outstanding when the session was stopped. -/
def LeftByStop (run : List (Operation H G D) → Controller H G D)
    (operations : List (Operation H G D)) (key request : Nat) : Prop :=
  ∃ before after, operations = before ++ .stop :: after ∧
    (run before).standing = .live .hackRf key ∧ (run before).inits.waiting = some (key, request)

/-- What a stop left behind is still what that stop left behind. -/
theorem LeftByStop.concat {run : List (Operation H G D) → Controller H G D}
    {operations : List (Operation H G D)} {key request : Nat}
    (left : LeftByStop run operations key request) (operation : Operation H G D) :
    LeftByStop run (operations ++ [operation]) key request := by
  -- The stop is where it was, with one more operation behind it.
  obtain ⟨before, after, rfl, live, waits⟩ := left
  exact ⟨before, after ++ [operation], by simp, live, waits⟩

variable [Host H] [Engine G] [HackRfDriver D]

/-- After every run, a request that is outstanding is for the session on a HackRF that is live, or
was left behind when such a session was stopped. Stopping settles no request; cleaning up and
stopping the mode of a HackRF leave none. -/
theorem afterRun_outstanding (usb : Usb.Acquisition H) (engine : G) (driver : Option D)
    (config : PipelineConfig) (operations : List (Operation H G D)) :
    let run := afterRun usb engine driver config
    let c := run operations
    (∀ key request, c.inits.waiting = some (key, request) →
      c.standing = .live .hackRf key ∨ LeftByStop run operations key request) ∧
    c.stop.2.inits = c.inits ∧ c.cleanup.inits.waiting = none ∧
    (c.backend = some .hackRf → c.stopHackRf.inits.waiting = none) := by
  -- The other parts are about single operations; the first one is by induction on the run.
  intro run c
  refine ⟨?_, c.inits_stop, c.waiting_cleanup, waiting_stopHackRf⟩
  refine afterRun_induction (P := fun operations c => ∀ key request,
    c.inits.waiting = some (key, request) →
      c.standing = .live .hackRf key ∨ LeftByStop run operations key request)
    (fun _ _ waits => by simp [new] at waits) ?_ operations
  intro earlier operation after c sound outstanding change key request waits
  -- A request that was outstanding before stays as it was, as long as its session does.
  have settle : c.inits.waiting = some (key, request) →
      c.standing = .live .hackRf key ∨ LeftByStop run (earlier ++ [operation]) key request :=
    fun before => (outstanding key request before).imp_right fun left => left.concat operation
  cases change with
  | stayed news goesOn standing commands keeps usb inits attended =>
    rw [standing]
    exact settle (inits _ waits)
  | opened kind opening vacant opens hostCalls standing commands usb inits plant =>
    rcases inits _ waits with before | ⟨rfl, rfl⟩
    · -- No session was live before, so that an older request can only be left over.
      rcases settle before with live | left
      · simp [vacant, Standing.vacant, Standing.live] at live
      · exact Or.inr left
    · exact Or.inl standing
  | ended kind session stopping release finishing ends live standing commands stops releases
      finishes hostCalls usb inits resting =>
    obtain ⟨before, stopped⟩ := inits _ waits
    rcases settle before with onHackRf | left
    · -- The session of the request was live until now, so that a stop must have ended it.
      have same : kind = .hackRf :=
        Option.some.inj ((backend_of_live live).symm.trans (backend_of_live onHackRf))
      obtain rfl : operation = .stop := stopped.resolve_right fun other => other same
      exact Or.inr ⟨earlier, [], rfl, onHackRf, before⟩
    · exact Or.inr left

/-- A driver that reports later. -/
def deferringDriver : Simulated.Driver :=
  { initMode := .defer }

/-- The request for a session that was stopped is still outstanding when there is no session, and
whoever asks is told that it is. -/
theorem stop_leaves_request :
    (let c := afterRun { host := ({ } : Simulated.Service), models := Usb.rtlSdrModels }
      ({ } : Simulated.Engine) (some deferringDriver) { } [.startHackRf { }, .stop]
    (c.inits.waiting, c.standing, (c.pollInit 0).1)) = (some (0, 0), .vacant, none) := by
  decide

end TunerControl.Session.Controller
