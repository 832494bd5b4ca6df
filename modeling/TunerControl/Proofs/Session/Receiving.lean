import TunerControl.Proofs.Samples.Discarding
import TunerControl.Proofs.Session.Tending
import TunerControl.Simulated.Engine
import TunerControl.Simulated.Host

/-! A driver that declines to receive leaves the pipeline at rest, as a stop does. -/

namespace TunerControl.Session.Controller

open Samples (Activity Move Plant lentBy)
open Usb (Host)

variable {H G D : Type} {c : Controller H G D}

/-- With the same driver and the same session, nothing is missing as long as the pipeline is still. -/
theorem refusal?_startReceiving_of_same {after : Controller H G D}
    (allowed : Need.refusal? (c.needs .startReceiving) = none)
    (driver : after.driver.isSome = c.driver.isSome) (ready : after.ready = c.ready)
    (standing : after.standing = c.standing) (still : after.isReceiving = false) :
    Need.refusal? (after.needs .startReceiving) = none := by
  -- Each need looks at one of the things that stayed the same.
  obtain ⟨state, backend, -⟩ := Standing.mk.inj standing
  simp only [needs, driverNeeds, backendNeed, restNeed, Need.refusal?_eq_none, List.forall_mem_append,
    List.forall_mem_cons, driver, ready, state, backend, still] at allowed ⊢
  exact ⟨allowed.1, allowed.2.1, rfl, by simp⟩

/-- A stop discards what is queued of the run that it ends, and the pool writes that off. -/
theorem stopPipeline_discards [Engine G] {run : Nat} (consistent : c.plant.Consistent)
    (furnished : c.plant.Furnished)
    (current : c.plant.currentRun? pipeline = some run) :
    run < c.stopPipeline.2.plant.runs.length ∧
    (c.stopPipeline.2.plant.journal.story run).discarded = c.waited.queued run ∧
    ∃ before q, c.waited.pools = [before] ∧ c.stopPipeline.2.plant.pools = [q] ∧
      q.writtenOff = before.writtenOff + (c.waited.queued run).length := by
  have stops : c.stopPipeline.2.plant = (c.waited.completeStop pipeline).2 := rfl
  -- A history leads on to the plant at which the queue is discarded.
  obtain ⟨stopping, stood⟩ := c.plant.moves_of_requestStop furnished.owns
    (Engine.meanwhile c.engine (c.plant.requestStop pipeline)).1
  have waited : c.waited.Consistent := by
    have reached : c.waited = stopping.foldl Plant.step c.plant := stood
    rw [reached]
    exact consistent.steps stopping
  have kept : c.waited.currentRun? pipeline = some run :=
    ((Plant.afterAll_sameDuty _ _).currentRun? pipeline).trans
      ((c.plant.currentRun?_requestStop pipeline pipeline).trans current)
  have furnished' : c.waited.Furnished :=
    (Plant.afterAll_furniture _ _).trans ((c.plant.requestStop_furniture pipeline).trans furnished)
  obtain ⟨before, single, alive⟩ := furnished'.pool
  obtain ⟨q, single', total⟩ := Plant.completeStop_writtenOff waited kept single alive
  obtain ⟨r, found, -⟩ := waited.scheduled.known pipeline run kept
  rw [stops]
  refine ⟨?_, Plant.completeStop_discarded waited kept, before, q, single, single', total⟩
  rw [Plant.length_runs_completeStop]
  exact (List.getElem?_eq_some_iff.mp found).1

section Driver

variable [HackRfDriver D]

/-- A run that was begun for a driver is the current one while it is asked. -/
theorem currentRun?_asked (tended : Tended c.plant) (driver : D) {run : Nat} {begun : Plant}
    (started : c.plant.start pipeline = (.ok run, begun)) :
    (c.asked driver run begun).plant.currentRun? pipeline = some run := by
  -- The driver's activities end no run.
  have present : pipeline < c.plant.lines.length := by
    rw [tended.single]
    exact Nat.one_pos
  exact ((begun.afterAll_sameDuty _).currentRun? pipeline).trans
    (Plant.currentRun?_start present started)

variable [Engine G]

/-- What nothing is missing for is tried with the driver. -/
theorem startReceiving_asked (settled : c.Settled)
    (allowed : Need.refusal? (c.needs .startReceiving) = none) :
    ∃ driver run begun, c.driver = some driver ∧ c.plant.start pipeline = (.ok run, begun) ∧
      c.startReceiving = match (HackRfDriver.receive driver run begun).1.outcome with
        | .ok () => (.ok (), c.asked driver run begun)
        | .error failure => (.error failure, (c.asked driver run begun).stopPipeline.2) := by
  -- The needs are gone through as the operation does, and all are met.
  rw [needs, Need.refusal?_append] at allowed
  rcases c.requireDriver_cases with ⟨failure, missing, -⟩ | ⟨driver, complete, has, ready⟩
  · simp [missing] at allowed
  · rw [complete, Option.none_or, Need.refusal?_eq_none] at allowed
    have live : c.requireBackend .hackRf = .ok () := by
      rw [settled.requireBackend, Need.outcome_singleton, if_pos (allowed _ (by simp))]
    have still : c.plant.isRunning pipeline = false := by
      simpa [restNeed, isReceiving] using allowed c.restNeed (by simp)
    have started := Plant.start_of_still still
    refine ⟨driver, _, _, has, started, ?_⟩
    unfold startReceiving
    rw [ready, live, started]
    rfl

/-- However that ends, the driver was asked once. -/
theorem driverCalls_startReceiving (settled : c.Settled)
    (allowed : Need.refusal? (c.needs .startReceiving) = none) :
    c.startReceiving.2.driverCalls = c.driverCalls ++ [.startRx] := by
  -- The call is logged before the driver's answer is looked at.
  obtain ⟨driver, run, begun, -, -, asked⟩ := startReceiving_asked settled allowed
  rw [asked]
  split <;> rfl

/-- The driver is asked to stop exactly if samples are received, and its answer is the caller's. -/
theorem stopReceiving_spec (c : Controller H G D)
    (manned : c.isReceiving = true → ∃ driver, c.driver = some driver) :
    c.stopReceiving.2.driverCalls = c.driverCalls ++ (if c.isReceiving then [.stop] else []) ∧
    (c.isReceiving = true → ∃ driver, c.driver = some driver ∧
      c.stopReceiving.1 = (HackRfDriver.issue driver .stop).1) ∧
    (c.isReceiving = false → c.stopReceiving.1 = .ok ()) := by
  -- Whether samples are received decides if the driver, which there is then, is called.
  unfold stopReceiving
  cases receiving : c.isReceiving with
  | true =>
    obtain ⟨driver, has⟩ := manned receiving
    rw [has]
    exact ⟨rfl, fun _ => ⟨driver, rfl, rfl⟩, by simp⟩
  | false =>
    cases c.driver with
    | none => exact ⟨(List.append_nil _).symm, by simp, fun _ => rfl⟩
    | some driver => exact ⟨(List.append_nil _).symm, by simp, fun _ => rfl⟩

variable [Host H]

/-- Whatever happens with a controller, the books of its plant are in order. -/
theorem afterRun_consistent (usb : Usb.Acquisition H) (engine : G) (driver : Option D)
    (config : PipelineConfig) (operations : List (Operation H G D)) :
    (afterRun usb engine driver config operations).plant.Consistent := by
  -- They are once it has been given its pipeline, and a history goes on from there.
  have begun : (({ } : Plant).addLine config).Consistent :=
    Plant.Consistent.nothing.change (.lineAdded config)
  obtain ⟨moves, reached⟩ := afterAll_moves (new_sound usb engine driver config) rfl operations
  rw [afterRun, reached]
  exact begun.steps moves

/-- While the pipeline has no run to stop, it is at rest in every other respect. -/
theorem atRest_of_unmanned (usb : Usb.Acquisition H) (engine : G) (driver : Option D)
    (config : PipelineConfig) (operations : List (Operation H G D))
    (unmanned : (afterRun usb engine driver config operations).plant.currentRun? pipeline = none) :
    (afterRun usb engine driver config operations).AtRest := by
  have sound := afterRun_sound usb engine driver config operations
  have tended := afterRun_tended usb engine driver config operations
  have furnished := afterRun_furnished usb engine driver config operations
  have consistent := afterRun_consistent usb engine driver config operations
  generalize afterRun usb engine driver config operations = c at *
  have still : c.plant.isRunning pipeline = false := by simp [Plant.isRunning, unmanned]
  have queues := tended.queue_eq_nil unmanned
  refine ⟨still, ?_, ?_, ?_, ?_⟩
  · -- What goes on in the background starts nothing.
    intro activities
    exact ⟨_, _, Plant.start_of_still
      (((c.plant.afterAll_sameDuty activities).isRunning pipeline).trans still)⟩
  · -- A run that was begun is over for ever, so that nothing is queued of it or accepted for it.
    intro run begun later
    obtain ⟨after, reached⟩ := afterAll_moves sound furnished later
    have ended := (tended.ended unmanned begun).steps after
    rw [← reached] at ended
    exact ⟨ended.queued, ended.submit⟩
  · -- All that was accepted was fed or discarded, as nothing is queued.
    intro run
    have empty : c.plant.queued run = [] := by
      unfold Plant.queued
      split
      · rename_i r found
        exact queues r (List.mem_of_getElem? found)
      · rfl
    rw [(consistent.chronicled.outcome run).1, empty, List.append_nil]
  · -- With nothing in any queue, what is on loan is in callers' hands or inside sink calls.
    obtain ⟨q, single, alive⟩ := furnished.pool
    have found : c.plant.pools[0]? = some q := by rw [single]; rfl
    obtain ⟨outstanding, account, -, -⟩ := consistent.accounted.balanced 0 q found alive
    have places := tended.scheduled.buffers_perm unmanned
    rw [tended.scheduled.queuedElsewhere_eq unmanned, List.flatMap_eq_nil_iff.mpr queues,
      List.append_nil] at places
    have all : lentBy 0 c.plant.buffers = c.plant.buffers.length :=
      List.countP_eq_length.mpr fun b member => by
        simp [(consistent.accounted.own single member).1]
    rw [← outstanding] at account
    exact ⟨q, single, alive, account, outstanding.trans (all.trans places.length_eq)⟩

/-- So it is after an operation that leaves the pipeline without a run to stop. -/
theorem perform_atRest (usb : Usb.Acquisition H) (engine : G) (driver : Option D)
    (config : PipelineConfig) (operations : List (Operation H G D)) (operation : Operation H G D)
    (unmanned : ((afterRun usb engine driver config operations).perform operation).plant.currentRun?
      pipeline = none) :
    ((afterRun usb engine driver config operations).perform operation).AtRest := by
  -- The operation is the last one of a longer run.
  rw [← afterRun_concat] at unmanned ⊢
  exact atRest_of_unmanned usb engine driver config _ unmanned

/-- A run that was begun for a driver which then declined is stopped like any other. -/
theorem abandoned_of_declined (usb : Usb.Acquisition H) (engine : G) (driver? : Option D)
    (config : PipelineConfig) (operations : List (Operation H G D)) {driver : D} {run : Nat}
    {begun : Plant} {failure : Failure} :
    let c := afterRun usb engine driver? config operations
    Need.refusal? (c.needs .startReceiving) = none → c.driver = some driver →
      c.plant.start pipeline = (.ok run, begun) →
      c.startReceiving = (.error failure, (c.asked driver run begun).stopPipeline.2) →
      c.Abandoned driver run begun c.startReceiving.2 := by
  -- The stop that follows the refusal is an ordinary one, with the driver's activities before it.
  intro c allowed has started declined
  have sound : c.Sound := afterRun_sound usb engine driver? config operations
  have tended : Tended c.plant := afterRun_tended usb engine driver? config operations
  have furnished : c.plant.Furnished := afterRun_furnished usb engine driver? config operations
  have consistent : c.plant.Consistent :=
    afterRun_consistent usb engine driver? config operations
  have tends := (asked_works has started).tends
  obtain ⟨starting, reached⟩ := tends.moves sound.attended.manned furnished.owns
  have unmanned : c.startReceiving.2.plant.currentRun? pipeline = none := by
    rw [declined]
    exact stopPipeline_rests (tends.manned sound.attended.manned)
  have rests : c.startReceiving.2.AtRest :=
    perform_atRest usb engine driver? config operations .startReceiving unmanned
  have settled : c.startReceiving.2.Settled :=
    ((perform_change sound .startReceiving).sound sound).settled
  have filled : (c.asked driver run begun).plant.Consistent := by
    rw [reached]
    exact consistent.steps starting
  obtain ⟨handed, discards, before, q, single, single', total⟩ := stopPipeline_discards filled
    (tends.furniture.trans furnished) (currentRun?_asked tended driver started)
  rw [declined] at rests settled ⊢
  refine ⟨rests, handed, discards, ⟨before, q, single, single', discards ▸ total⟩, rfl, ?_⟩
  -- Nothing is missing for another try, as long as nobody starts the pipeline.
  intro activities
  refine driverCalls_startReceiving settled (refusal?_startReceiving_of_same allowed ?_ rfl rfl ?_)
  · rw [has]
    rfl
  · obtain ⟨next, resumed, restarts⟩ := rests.startable activities
    exact Plant.still_of_start restarts

/-- In every state that a run can lead to, the start and the stop of receiving take effect on the
pipeline as a whole. If nothing is missing, the driver is asked to fill a run that was begun for it,
and its answer is the caller's. If it agrees, the pipeline runs, with that run; if it declines, nothing
is left of the run, whatever the driver has done with it. After a stop the pipeline is at rest,
whatever the driver says, which is asked to stop exactly if the pipeline was running. -/
theorem afterRun_receiving (usb : Usb.Acquisition H) (engine : G) (driver? : Option D)
    (config : PipelineConfig) (operations : List (Operation H G D)) :
    let c := afterRun usb engine driver? config operations
    (Need.refusal? (c.needs .startReceiving) = none → ∃ driver run begun,
      c.driver = some driver ∧ c.plant.start pipeline = (.ok run, begun) ∧
      c.startReceiving.1 = (HackRfDriver.receive driver run begun).1.outcome ∧
      c.startReceiving.2.driverCalls = c.driverCalls ++ [.startRx] ∧
      (c.startReceiving.1 = .ok () → c.startReceiving.2.isReceiving = true ∧
        c.startReceiving.2.plant.currentRun? pipeline = some run) ∧
      ∀ failure, c.startReceiving.1 = .error failure →
        c.Abandoned driver run begun c.startReceiving.2) ∧
    c.stopReceiving.2.AtRest ∧
    c.stopReceiving.2.driverCalls = c.driverCalls ++ (if c.isReceiving then [.stop] else []) ∧
    (c.isReceiving = true → ∃ driver, c.driver = some driver ∧
      c.stopReceiving.1 = (HackRfDriver.issue driver .stop).1) ∧
    (c.isReceiving = false → c.stopReceiving.1 = .ok ()) := by
  intro c
  have sound : c.Sound := afterRun_sound usb engine driver? config operations
  have tended : Tended c.plant := afterRun_tended usb engine driver? config operations
  refine ⟨?_, ?_, c.stopReceiving_spec (driver_of_receiving usb engine driver? config operations)⟩
  · intro allowed
    obtain ⟨driver, run, begun, has, started, asked⟩ := startReceiving_asked sound.settled allowed
    have calls := driverCalls_startReceiving sound.settled allowed
    refine ⟨driver, run, begun, has, started, ?_⟩
    cases reply : (HackRfDriver.receive driver run begun).1.outcome with
    | ok =>
      rw [reply] at asked
      -- The run is the current one, so that the pipeline is running.
      have current := currentRun?_asked tended driver started
      have manned := (asked_works has started).tends.manned sound.attended.manned
      have running : (c.asked driver run begun).isReceiving = true := by
        rw [isReceiving, ← manned, current]
        rfl
      rw [asked] at calls ⊢
      exact ⟨rfl, calls, fun _ => ⟨running, current⟩, by simp⟩
    | error failure =>
      rw [reply] at asked
      -- The run is stopped when the driver declines, as any other is.
      refine ⟨by rw [asked], calls, by simp [asked], fun told _ => ?_⟩
      exact abandoned_of_declined usb engine driver? config operations allowed has started asked
  · exact perform_atRest usb engine driver? config operations .stopReceiving
      (stopReceiving_rests sound.attended.manned)

end Driver

/-- A driver that is not prepared at first: it queues two buffers, waits until one of them is inside a
sink call, and declines. It is prepared then, and receives when it is asked again, but cannot stop. -/
structure HastyDriver where
  prepared : Bool := false
  deriving DecidableEq, Repr

instance : HackRfDriver HastyDriver where
  issue d call := (if call = .stop then .error (.operationFailed "stop") else .ok (), d)
  begin d _ := (⟨some (.ok ()), none⟩, d)
  receive d run plant :=
    if d.prepared then (⟨[], .ok ()⟩, d)
    else
      (⟨[.loan run, .loan run, .submit run plant.loans, .submit run (plant.loans + 1), .work run,
          .work run],
        .error (.operationFailed "start_rx")⟩, { d with prepared := true })

/-- A session on a HackRF with such a driver. -/
def hastySession (operations : List (Operation Simulated.Service Simulated.Engine HastyDriver)) :
    Controller Simulated.Service Simulated.Engine HastyDriver :=
  afterRun { host := { }, models := Usb.rtlSdrModels } { } (some { })
    { bufferCount := 4, bufferSize := 2, queueCapacity := 2 } (.startHackRf { } :: operations)

/-- When the driver declines, the buffer that was inside the sink call is fed, and the other one is
written off. Once it receives, the pipeline is stopped though the driver says that it cannot stop. -/
theorem hastySession_receiving :
    let declined := (hastySession []).startReceiving
    let stopped := (hastySession [.startReceiving, .startReceiving]).stopReceiving
    declined.1 = .error (.operationFailed "start_rx") ∧ declined.2.AtRest ∧
    (declined.2.plant.journal.story 0).fed.map (·.serial) = [0] ∧
    (declined.2.plant.journal.story 0).discarded.map (·.serial) = [1] ∧
    (∀ activities, (declined.2.background activities).startReceiving.2.driverCalls =
      declined.2.driverCalls ++ [.startRx]) ∧
    stopped.1 = .error (.operationFailed "stop") ∧ stopped.2.AtRest := by
  -- What follows for every such session is taken from the theorem; the rest is seen in this one.
  obtain ⟨starts, -⟩ := afterRun_receiving
    { host := ({ } : Simulated.Service), models := Usb.rtlSdrModels } ({ } : Simulated.Engine)
    (some ({ } : HastyDriver)) { bufferCount := 4, bufferSize := 2, queueCapacity := 2 }
    [.startHackRf { }]
  obtain ⟨-, rests, -, stops, -⟩ := afterRun_receiving
    { host := ({ } : Simulated.Service), models := Usb.rtlSdrModels } ({ } : Simulated.Engine)
    (some ({ } : HastyDriver)) { bufferCount := 4, bufferSize := 2, queueCapacity := 2 }
    [.startHackRf { }, .startReceiving, .startReceiving]
  obtain ⟨driver, run, begun, -, -, -, -, -, declines⟩ := starts (by decide)
  have declined : (hastySession []).startReceiving.1 = .error (.operationFailed "start_rx") := by
    decide
  have abandoned : (hastySession []).Abandoned driver run begun (hastySession []).startReceiving.2 :=
    declines _ declined
  obtain ⟨stopping, -, answer⟩ := stops (by decide)
  have stopped : (HackRfDriver.issue stopping .stop).1 = .error (.operationFailed "stop") := rfl
  exact ⟨declined, abandoned.rests, by decide, by decide, abandoned.again, answer.trans stopped,
    rests⟩

end TunerControl.Session.Controller
