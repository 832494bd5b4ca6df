import TunerControl.Samples.Journal
import TunerControl.Session.Operation

/-! What is left of a run that a driver declined to receive into, or that was stopped. -/

namespace TunerControl.Session.Controller

open Samples (Activity Plant)

variable {H G D : Type}

/-- The controller once a driver was asked to receive into a run that was begun for it, whatever the
driver says. -/
def asked [HackRfDriver D] (c : Controller H G D) (driver : D) (run : Nat) (begun : Plant) :
    Controller H G D :=
  { c with
    plant := begun.afterAll (HackRfDriver.receive driver run begun).1.activities
    driver := some (HackRfDriver.receive driver run begun).2
    driverCalls := c.driverCalls ++ [.startRx] }

/-- The plant when the pipeline was told to stop, and its worker had the time that it gets. -/
def waited [Engine G] (c : Controller H G D) : Plant :=
  (c.plant.requestStop pipeline).afterAll
    (Engine.meanwhile c.engine (c.plant.requestStop pipeline)).1

variable [Usb.Host H] [Engine G] [HackRfDriver D]

/-- The pipeline is at rest, and free to be started again. No run that was ever begun has anything in
its queue or takes a buffer from a producer, whatever is done later. All that was accepted was fed or
discarded, and the pool has just those loans out that are in callers' hands or inside sink calls. -/
structure AtRest (c : Controller H G D) : Prop where
  still : c.isReceiving = false
  startable : ∀ activities, ∃ run begun,
    (c.background activities).plant.start pipeline = (.ok run, begun)
  closed : ∀ run < c.plant.runs.length, ∀ later,
    let p := (c.afterAll later).plant
    p.queued run = [] ∧
      ∀ serial, (p.submit run serial).1 = false ∧ (p.submit run serial).2.held = p.held
  fates : ∀ run, (c.plant.journal.story run).accepted =
    (c.plant.journal.story run).fed ++ (c.plant.journal.story run).discarded
  account : ∃ q, c.plant.pools = [q] ∧ q.alive = true ∧
    q.loaned = q.returned + q.writtenOff + q.outstanding ∧
    q.outstanding = (c.plant.held ++ c.plant.runs.flatMap (·.worker.buffers)).length

/-- What is left of a run that was begun for a driver which then declined. What was queued when its
worker had had its time was discarded, and the pool has written off each of these buffers. Nothing is
told to the engine, the session is as it was, and whoever tries to receive again gets to the driver. -/
structure Abandoned (c : Controller H G D) (driver : D) (run : Nat) (begun : Plant)
    (after : Controller H G D) : Prop where
  rests : after.AtRest
  handed : run < after.plant.runs.length
  discards : (after.plant.journal.story run).discarded =
    (c.asked driver run begun).waited.queued run
  writesOff : ∃ before q, (c.asked driver run begun).waited.pools = [before] ∧
    after.plant.pools = [q] ∧
    q.writtenOff = before.writtenOff + (after.plant.journal.story run).discarded.length
  session : after = { c with
    plant := after.plant
    engine := after.engine
    driver := after.driver
    driverCalls := c.driverCalls ++ [.startRx] }
  again : ∀ activities, (after.background activities).startReceiving.2.driverCalls =
    after.driverCalls ++ [.startRx]

end TunerControl.Session.Controller
