import TunerControl.Proofs.Session.Vetting
import TunerControl.Simulated.Engine
import TunerControl.Simulated.Host

/-! Operations that lack something that they need do nothing, and the others pass on what they are
told. -/

namespace TunerControl.Session.Controller

open Usb (Host)

variable {H G D : Type}

/-- An operation that has a command for the driver needs that there is one. -/
theorem driver_of_allowed {c : Controller H G D} {operation : Operation H G D} {call : DriverCall}
    (passed : operation.call? = some call)
    (allowed : Need.refusal? (c.needs operation) = none) : ∃ driver, c.driver = some driver := by
  -- The driver's own needs are among those of each such operation.
  have needed : ∀ need ∈ c.driverNeeds, need ∈ c.needs operation := by
    cases operation with
    | setFrequency frequency => exact fun _ member => member
    | setSampleRate rate => exact fun _ member => List.mem_append_left _ member
    | setLnaGain gain => exact fun _ member => List.mem_append_left _ member
    | setVgaGain gain => exact fun _ member => List.mem_append_left _ member
    | _ => cases passed
  -- That there is a driver comes first.
  have there := Need.refusal?_eq_none.mp allowed _ (needed _ List.mem_cons_self)
  exact Option.isSome_iff_exists.mp there

/-- What comes of an operation that passes on a command, to the engine or to the driver. -/
inductive Forwards [Engine G] [HackRfDriver D] (c : Controller H G D)
    (operation : Operation H G D) : Outcome Unit × Controller H G D → Prop where
  | issues (command : Command) (passed : operation.command? = some command) :
    Forwards c operation (c.issue command)
  | instructs (call : DriverCall) (passed : operation.call? = some call) :
    Forwards c operation (c.instruct call)

variable [Host H] [Engine G] [HackRfDriver D] {c : Controller H G D}

/-- Whatever passes on a command does so behind a gate, which is what it needs. -/
theorem Settled.perform_gated (settled : c.Settled) {operation : Operation H G D}
    {goes : Outcome Unit × Controller H G D} (forwards : Forwards c operation goes) :
    ∃ result, Gated c (c.needs operation) goes result ∧
      c.answer? operation = some result.1 ∧ c.perform operation = result.2 := by
  cases forwards with
  | issues command passed =>
    -- Only four operations have a command for the engine.
    cases operation with
    | start =>
      obtain rfl := Option.some.inj passed
      exact ⟨_, start_gated settled, rfl, rfl⟩
    | setRtlFrequency frequency =>
      obtain rfl := Option.some.inj passed
      exact ⟨_, setRtlFrequency_gated settled frequency, rfl, rfl⟩
    | setRtlGain gain =>
      obtain rfl := Option.some.inj passed
      exact ⟨_, setRtlGain_gated settled gain, rfl, rfl⟩
    | feed samples =>
      obtain rfl := Option.some.inj passed
      exact ⟨_, feed_gated settled samples, rfl, rfl⟩
    | _ => cases passed
  | instructs call passed =>
    -- Only four others have one for the driver.
    cases operation with
    | setFrequency frequency =>
      obtain rfl := Option.some.inj passed
      exact ⟨_, c.setFrequency_gated frequency, rfl, rfl⟩
    | setSampleRate rate =>
      obtain rfl := Option.some.inj passed
      exact ⟨_, c.setSampleRate_gated rate, rfl, rfl⟩
    | setLnaGain gain =>
      obtain rfl := Option.some.inj passed
      exact ⟨_, c.setLnaGain_gated gain, rfl, rfl⟩
    | setVgaGain gain =>
      obtain rfl := Option.some.inj passed
      exact ⟨_, c.setVgaGain_gated gain, rfl, rfl⟩
    | _ => cases passed

/-- What lacks something that it needs is answered with that, and changes nothing. -/
theorem Settled.perform_refused (settled : c.Settled) {operation : Operation H G D}
    {failure : Failure} (refused : Need.refusal? (c.needs operation) = some failure) :
    c.answer? operation = some (.error failure) ∧ c.perform operation = c := by
  -- Whatever passes on a command is refused at its gate.
  have silent : ∀ goes, Forwards c operation goes →
      c.answer? operation = some (.error failure) ∧ c.perform operation = c := by
    intro goes forwards
    obtain ⟨result, gated, answer, performed⟩ := settled.perform_gated forwards
    rw [answer, performed, gated.refused failure refused]
    exact ⟨rfl, rfl⟩
  -- Stopping and receiving need something as well, but pass nothing on as it is.
  cases operation with
  | start => exact silent _ (.issues _ rfl)
  | stop =>
    rw [answer?, perform, stop_refused settled failure refused]
    exact ⟨rfl, rfl⟩
  | setRtlFrequency frequency => exact silent _ (.issues _ rfl)
  | setRtlGain gain => exact silent _ (.issues _ rfl)
  | feed samples => exact silent _ (.issues _ rfl)
  | setFrequency frequency => exact silent _ (.instructs _ rfl)
  | setSampleRate rate => exact silent _ (.instructs _ rfl)
  | setLnaGain gain => exact silent _ (.instructs _ rfl)
  | setVgaGain gain => exact silent _ (.instructs _ rfl)
  | startReceiving =>
    rw [answer?, perform, startReceiving_refused settled failure refused]
    exact ⟨rfl, rfl⟩
  | _ => simp [needs, Need.refusal?] at refused

/-- What lacks nothing passes its command on once, and is answered as that is. -/
theorem Settled.perform_forwards (settled : c.Settled) {operation : Operation H G D}
    {goes : Outcome Unit × Controller H G D} (forwards : Forwards c operation goes)
    (allowed : Need.refusal? (c.needs operation) = none) :
    c.answer? operation = some goes.1 ∧ c.perform operation = goes.2 := by
  -- What it needs is its gate, which is open.
  obtain ⟨result, gated, answer, performed⟩ := settled.perform_gated forwards
  rw [answer, performed, gated.allowed allowed]
  exact ⟨rfl, rfl⟩

/-- In every state that a run can lead to, an operation on the session, a front end or the driver that
lacks something that it needs is answered with the first thing that it lacks, and changes nothing at
all. An operation that has a command for the engine or for the driver and lacks nothing gives that
command once, with its own values, and is answered as the command is. So the driver is only ever given
values that the hardware supports. -/
theorem afterRun_refusals (usb : Usb.Acquisition H) (engine : G) (driver : Option D)
    (config : PipelineConfig) (operations : List (Operation H G D)) :
    let c := afterRun usb engine driver config operations
    (∀ operation,
      (∀ failure, Need.refusal? (c.needs operation) = some failure →
        c.answer? operation = some (.error failure) ∧ c.perform operation = c) ∧
      (Need.refusal? (c.needs operation) = none →
        (∀ command, operation.command? = some command →
          c.answer? operation = some (Engine.issue c.engine command).1 ∧
          c.perform operation = { c with
            engine := (Engine.issue c.engine command).2
            commands := c.commands ++
              [⟨command, (Engine.issue c.engine command).1.isOk, c.usb.log.length⟩] }) ∧
        (∀ call, operation.call? = some call → ∃ driver, c.driver = some driver ∧
          c.answer? operation = some (HackRfDriver.issue driver call).1 ∧
          c.perform operation = { c with
            driver := some (HackRfDriver.issue driver call).2
            driverCalls := c.driverCalls ++ [call] }))) ∧
    (∀ gain, DriverCall.setLnaGain gain ∈ c.driverCalls → gain.toNat ≤ 40 ∧ 8 ∣ gain.toNat) ∧
    (∀ gain, DriverCall.setVgaGain gain ∈ c.driverCalls → gain.toNat ≤ 62 ∧ 2 ∣ gain.toNat) ∧
    (∀ rate, DriverCall.setSampleRate rate ∈ c.driverCalls →
      1 ≤ rate.toNat ∧ rate.toNat ≤ 20000000) := by
  intro c
  have settled : c.Settled := (afterRun_sound usb engine driver config operations).settled
  have vetted : c.Vetted := vetted_afterRun usb engine driver config operations
  refine ⟨fun operation => ⟨fun failure => settled.perform_refused, fun allowed => ⟨?_, ?_⟩⟩,
    ?_, ?_, ?_⟩
  · -- What is allowed and has a command goes the way of that command.
    intro command passed
    exact settled.perform_forwards (.issues command passed) allowed
  · -- A command to the driver goes to the driver that there is.
    intro call passed
    obtain ⟨driver, has⟩ := driver_of_allowed passed allowed
    obtain ⟨answer, performed⟩ := settled.perform_forwards (.instructs call passed) allowed
    rw [instruct, has] at answer performed
    exact ⟨driver, has, answer, performed⟩
  -- Whatever the driver was given was vetted on the way.
  · intro gain given
    exact of_decide_eq_true (vetted.calls _ given)
  · intro gain given
    exact of_decide_eq_true (vetted.calls _ given)
  · intro rate given
    exact of_decide_eq_true (vetted.calls _ given)

/-- A session on a HackRF that receives. -/
def receivingSession : Controller Simulated.Service Simulated.Engine Simulated.Driver :=
  afterRun { host := { }, models := Usb.rtlSdrModels } { } (some { }) { }
    [.startHackRf { }, .setLnaGain 16, .startReceiving]

/-- While samples are received, a gain that the hardware does not support is refused, as is a command
to a dongle and another start; a gain that it supports is passed on. -/
theorem receivingSession_refusals :
    let c := receivingSession
    (c.answer? (.setLnaGain 12) =
        some (.error (.invalidArgument "unsupported LNA gain: 12 (0-40 dB, 8 dB steps)")) ∧
      c.perform (.setLnaGain 12) = c) ∧
    (c.answer? (.setRtlGain 5) = some (.error (.invalidState "no active RtlUsb session")) ∧
      c.perform (.setRtlGain 5) = c) ∧
    (c.answer? .startReceiving = some (.error (.invalidState "sample pipeline already running")) ∧
      c.perform .startReceiving = c) ∧
    (c.perform (.setLnaGain 24)).driverCalls = c.driverCalls ++ [.setLnaGain 24] ∧
    (16 : UInt32).toNat ≤ 40 ∧ 8 ∣ (16 : UInt32).toNat := by
  -- Each clause is what the theorem says of one operation.
  intro c
  obtain ⟨each, gains, -, -⟩ := afterRun_refusals
    { host := ({ } : Simulated.Service), models := Usb.rtlSdrModels } ({ } : Simulated.Engine)
    (some ({ } : Simulated.Driver)) { } [.startHackRf { }, .setLnaGain 16, .startReceiving]
  refine ⟨(each _).1 _ (by decide), (each _).1 _ (by decide), (each _).1 _ (by decide), ?_, ?_⟩
  · obtain ⟨driver, -, -, performed⟩ := ((each (.setLnaGain 24)).2 (by decide)).2 _ rfl
    exact congrArg Controller.driverCalls performed
  · exact gains 16 (by decide)

end TunerControl.Session.Controller
