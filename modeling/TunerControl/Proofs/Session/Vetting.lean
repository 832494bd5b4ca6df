import TunerControl.Proofs.Session.Connecting

/-! The engine is only told to connect to what can be connected to, and the driver only given values
that the hardware supports. -/

namespace TunerControl.Session

open Usb (Host)

/-- Checks one after another are passed if each of them is. -/
theorem unless_ok {good : Bool} {fault : ConfigFault} {rest : Except ConfigFault Unit}
    (passed : (do fault.unless good; rest) = .ok ()) : good = true ∧ rest = .ok () := by
  -- A check that is not good stops the ones after it.
  unfold ConfigFault.unless at passed
  cases good with
  | true => exact ⟨rfl, passed⟩
  | false => simp [bind, Except.bind] at passed

/-- The last check is passed if it is good. -/
theorem unless_eq_ok {good : Bool} {fault : ConfigFault} (passed : fault.unless good = .ok ()) :
    good = true := by
  -- A check that is not good is an error.
  unfold ConfigFault.unless at passed
  cases good with
  | true => rfl
  | false => simp at passed

/-- A valid backend can be connected to. -/
theorem isSound_of_validate {backend : Backend} (valid : backend.validate = .ok ()) :
    (Command.connecting backend).isSound = true := by
  -- Each check of a backend is one part of what makes its command sound.
  cases backend with
  | network t =>
    obtain ⟨host, others⟩ := unless_ok valid
    obtain ⟨port, last⟩ := unless_ok others
    have frequency := unless_eq_ok last
    simp only [ne_eq, decide_eq_true_eq] at port frequency
    exact decide_eq_true ⟨host, port, frequency⟩
  | rtlUsb t =>
    obtain ⟨fd, others⟩ := unless_ok valid
    obtain ⟨path, last⟩ := unless_ok others
    have rate := unless_eq_ok last
    simp only [ne_eq, decide_eq_true_eq] at fd path rate
    exact decide_eq_true ⟨fd, path, rate⟩
  | hackRf t =>
    obtain ⟨rate, -⟩ := unless_ok valid
    obtain ⟨positive, most⟩ := Bool.and_eq_true_iff.mp rate
    have positive : t.sampleRate.toNat ≠ 0 := of_decide_eq_true positive
    have most : t.sampleRate.toNat ≤ 20000000 := of_decide_eq_true most
    exact decide_eq_true ⟨by omega, most⟩

namespace Controller

variable {H G D : Type} {c : Controller H G D}

/-- All that the engine was told to connect to can be connected to, and all values that the driver
was given are supported. -/
structure Vetted (c : Controller H G D) : Prop where
  commands : ∀ i ∈ c.commands, i.command.isSound = true
  calls : ∀ call ∈ c.driverCalls, call.isSupported = true

namespace Vetted

/-- The driver was given one more command, with values that are supported. -/
theorem of_call {after : Controller H G D} (vetted : c.Vetted) {call : DriverCall}
    (supported : call.isSupported = true) (commands : after.commands = c.commands)
    (calls : after.driverCalls = c.driverCalls ++ [call]) : after.Vetted := by
  -- Each command is the new one, or was vetted before.
  refine ⟨commands ▸ vetted.commands, ?_⟩
  intro other member
  rw [calls] at member
  rcases List.mem_append.mp member with before | new
  · exact vetted.calls other before
  · rw [List.mem_singleton.mp new]
    exact supported

/-- The engine was given one more command, which is sound. -/
theorem of_issued {after : Controller H G D} (vetted : c.Vetted) {issued : Issued}
    (sound : issued.command.isSound = true) (commands : after.commands = c.commands ++ [issued])
    (calls : after.driverCalls = c.driverCalls) : after.Vetted := by
  -- As with the driver: each command is the new one, or was vetted before.
  refine ⟨?_, calls ▸ vetted.calls⟩
  intro other member
  rw [commands] at member
  rcases List.mem_append.mp member with before | new
  · exact vetted.commands other before
  · rw [List.mem_singleton.mp new]
    exact sound

/-- An operation behind a gate tells nothing unless the gate is open. -/
theorem gate {needs : List Need} {goes result : Outcome Unit × Controller H G D}
    (vetted : c.Vetted) (gated : Gated c needs goes result)
    (passes : Need.refusal? needs = none → goes.2.Vetted) : result.2.Vetted := by
  -- The gate is closed, and nothing has changed; or it is open.
  cases refused : Need.refusal? needs with
  | some failure =>
    rw [gated.refused failure refused]
    exact vetted
  | none =>
    rw [gated.allowed refused]
    exact passes refused

section Driver

variable [HackRfDriver D]

/-- A command for the driver that there is, or for none. -/
theorem instruct (vetted : c.Vetted) {call : DriverCall} (supported : call.isSupported = true) :
    (c.instruct call).2.Vetted := by
  -- Without a driver there is nothing to be told.
  unfold Controller.instruct
  cases c.driver with
  | none => exact vetted
  | some driver => exact vetted.of_call supported rfl rfl

/-- A command for the driver is only given if its values are supported. -/
theorem instruct_of_needs (vetted : c.Vetted) {call : DriverCall}
    (allowed : Need.refusal? (c.driverNeeds ++ [valueNeed call]) = none) :
    (c.instruct call).2.Vetted :=
  vetted.instruct (Need.refusal?_eq_none.mp allowed (valueNeed call) (by simp))

/-- A driver that begins to initialise is given no values. -/
theorem beginInit (vetted : c.Vetted) (driver : D) (session : Nat) :
    (c.beginInit driver session).2.Vetted := by
  unfold Controller.beginInit
  dsimp only
  -- Neither the report of the driver nor its failure tells anyone anything.
  obtain ⟨⟨report, failure⟩, driver⟩ := HackRfDriver.begin driver session
  have supported : DriverCall.init.isSupported = true := rfl
  cases report <;> cases failure <;> exact vetted.of_call supported rfl rfl

end Driver

section Engine

variable [Engine G]

/-- The engine is given a sound command. -/
theorem issue (vetted : c.Vetted) (command : Command) (sound : command.isSound = true) :
    (c.issue command).2.Vetted :=
  vetted.of_issued sound rfl rfl

/-- Connecting gives the engine the command for a valid backend, if any. -/
theorem connect (vetted : c.Vetted) (settled : c.Settled) (backend : Backend) :
    (c.connect backend).2.Vetted := by
  -- The engine is not asked at all, or asked for what was looked at before.
  rcases settled.connect_outcome backend with ⟨_, _, -, -, answer⟩ | ⟨connectable, -, answer⟩ |
    ⟨_, connectable, -, answer⟩
  · rw [answer]
    exact ⟨vetted.commands, vetted.calls⟩
  -- Whether or not the engine accepts, it is asked for a valid backend.
  · rw [answer]
    exact vetted.of_issued (isSound_of_validate connectable.valid) rfl rfl
  · rw [answer]
    exact vetted.of_issued (isSound_of_validate connectable.valid) rfl rfl

/-- Stopping the pipeline tells nobody anything. -/
theorem stopPipeline (vetted : c.Vetted) : c.stopPipeline.2.Vetted :=
  ⟨vetted.commands, vetted.calls⟩

/-- What the engine is told once the front end is released connects to nothing. -/
theorem wiped [Host H] (vetted : c.Vetted) : c.wiped.Vetted := by
  -- Resetting the acquisition comes first, and the one command after it.
  have reset : ({ c with usb := c.usb.reset } : Controller H G D).Vetted :=
    ⟨vetted.commands, vetted.calls⟩
  have told := reset.issue .cleanup rfl
  exact ⟨told.commands, told.calls⟩

section Driver

variable [HackRfDriver D]

/-- A driver that is to receive is given no values. -/
theorem startReceiving (vetted : c.Vetted) : c.startReceiving.2.Vetted := by
  -- It is refused, or the driver is told to receive.
  have supported : DriverCall.startRx.isSupported = true := rfl
  unfold Controller.startReceiving
  split
  · exact vetted
  · exact vetted
  · split
    · exact vetted
    · dsimp only
      -- The pipeline is stopped again if the driver declines, which tells nobody anything.
      split
      · exact vetted.of_call supported rfl rfl
      · exact vetted.of_call supported rfl rfl

/-- A driver that is to stop is given no values. -/
theorem stopReceiving (vetted : c.Vetted) : c.stopReceiving.2.Vetted := by
  -- The driver is told if there is one and samples are received.
  have supported : DriverCall.stop.isSupported = true := rfl
  unfold Controller.stopReceiving
  cases c.driver with
  | none => exact vetted.stopPipeline
  | some driver =>
    cases c.isReceiving with
    | false => exact vetted.stopPipeline
    | true => exact vetted.of_call supported rfl rfl

/-- A session on a HackRF is opened on a valid tuning, and its driver may begin to initialise. -/
theorem startHackRf (vetted : c.Vetted) (settled : c.Settled) (tuning : HackRfTuning) :
    (c.startHackRf tuning).2.Vetted := by
  -- Without a connection, or with a driver that is initialised, the driver is told nothing.
  have connected := vetted.connect settled (.hackRf tuning)
  unfold Controller.startHackRf
  cases asked : c.connect (.hackRf tuning) with
  | mk answer d =>
    rw [asked] at connected
    cases answer with
    | error failure => exact connected
    | ok =>
      dsimp only
      split
      · exact ⟨connected.commands, connected.calls⟩
      · split
        · exact connected.beginInit _ _
        · exact connected

variable [Host H]

/-- What is told to release a front end connects to nothing. -/
theorem releaseBackend (vetted : c.Vetted) : c.releaseBackend.Vetted := by
  -- On a dongle and on a HackRF one command is given, and on the network none.
  unfold Controller.releaseBackend
  dsimp only
  cases c.backend with
  | none => exact ⟨vetted.commands, vetted.calls⟩
  | some kind =>
    have forgotten : ({ c with backend := none } : Controller H G D).Vetted :=
      ⟨vetted.commands, vetted.calls⟩
    cases kind with
    | network => exact ⟨vetted.commands, vetted.calls⟩
    | rtlUsb =>
      have told := forgotten.issue .closeRtlUsb rfl
      exact ⟨told.commands, told.calls⟩
    | hackRf =>
      have told := forgotten.stopReceiving.issue .stopHackRfMode rfl
      exact ⟨told.commands, told.calls⟩

/-- Neither does what is told to stop a session. -/
theorem stop (vetted : c.Vetted) : c.stop.2.Vetted := by
  -- It is refused, or the engine is told to stop before the release.
  unfold Controller.stop
  split
  · exact vetted
  · have stopping : ({ c with state := .stopping } : Controller H G D).Vetted :=
      ⟨vetted.commands, vetted.calls⟩
    have released := (stopping.issue .stop rfl).releaseBackend
    exact ⟨released.commands, released.calls⟩

/-- Neither does what is told to clean up. -/
theorem cleanup (vetted : c.Vetted) : c.cleanup.Vetted := by
  -- The engine is told to stop if a session is live, then to let go, and then to clean up.
  have cancelled : c.cancelled.Vetted := ⟨vetted.commands, vetted.calls⟩
  show (if c.cancelled.state.acceptsControl then c.cancelled.tell .stop
    else c.cancelled).releaseBackend.wiped.Vetted
  apply Vetted.wiped
  apply Vetted.releaseBackend
  split
  · exact cancelled.issue .stop rfl
  · exact cancelled

/-- Neither does what is told to end a session on a dongle. -/
theorem disconnectRtlUsb (vetted : c.Vetted) : c.disconnectRtlUsb.Vetted := by
  -- With a session on a dongle its front end is released, and without one nothing is told.
  unfold Controller.disconnectRtlUsb
  split
  · exact ⟨vetted.releaseBackend.commands, vetted.releaseBackend.calls⟩
  · exact ⟨vetted.commands, vetted.calls⟩

/-- Neither does what is told to end a session on a HackRF. -/
theorem stopHackRf (vetted : c.Vetted) : c.stopHackRf.Vetted := by
  -- With a session on a HackRF its front end is released, and without one nothing is told.
  unfold Controller.stopHackRf
  split
  · have settled : ({ c with inits :=
        (c.inits.resolve (.error (.invalidState "HackRF mode stopped"))).2 } :
        Controller H G D).Vetted := ⟨vetted.commands, vetted.calls⟩
    exact ⟨settled.releaseBackend.commands, settled.releaseBackend.calls⟩
  · exact vetted

end Driver

end Engine

end Vetted

variable [Host H] [Engine G] [HackRfDriver D]

/-- Commands that have no part in a session connect to nothing. -/
theorem isSound_of_isAside {command : Command} (free : command.isAside = true) :
    command.isSound = true := by
  -- Only what connects could be unsound.
  cases command <;> first | rfl | simp [Command.isAside, Command.connects?] at free

/-- Nothing unsound is told in any operation. -/
theorem perform_vetted (settled : c.Settled) (vetted : c.Vetted) (operation : Operation H G D) :
    (c.perform operation).Vetted := by
  -- Commands with values of the caller's are behind gates; the others carry none.
  cases operation with
  | connect backend => exact vetted.connect settled backend
  | start => exact vetted.gate (start_gated settled) fun _ => vetted.issue .start rfl
  | stop => exact vetted.stop
  | cleanup => exact vetted.cleanup
  | disconnectRtlUsb => exact vetted.disconnectRtlUsb
  | setRtlFrequency frequency =>
    exact vetted.gate (setRtlFrequency_gated settled frequency) fun _ => vetted.issue _ rfl
  | setRtlGain gain =>
    exact vetted.gate (setRtlGain_gated settled gain) fun _ => vetted.issue _ rfl
  | startHackRf tuning => exact vetted.startHackRf settled tuning
  | stopHackRf => exact vetted.stopHackRf
  | setFrequency frequency =>
    exact vetted.gate (c.setFrequency_gated frequency) fun _ => vetted.instruct rfl
  | setSampleRate rate => exact vetted.gate (c.setSampleRate_gated rate) vetted.instruct_of_needs
  | setLnaGain gain => exact vetted.gate (c.setLnaGain_gated gain) vetted.instruct_of_needs
  | setVgaGain gain => exact vetted.gate (c.setVgaGain_gated gain) vetted.instruct_of_needs
  | startReceiving => exact vetted.startReceiving
  | stopReceiving => exact vetted.stopReceiving
  | feed samples => exact vetted.gate (feed_gated settled samples) fun _ => vetted.issue _ rfl
  | pollInit request => exact ⟨vetted.commands, vetted.calls⟩
  | initReported session report => exact ⟨vetted.commands, vetted.calls⟩
  | background activities => exact ⟨vetted.commands, vetted.calls⟩
  | acquisition acquiring => exact ⟨vetted.commands, vetted.calls⟩
  | aside command free => exact vetted.issue command (isSound_of_isAside free)
  | engineChange engine => exact ⟨vetted.commands, vetted.calls⟩
  | driverChange driver => exact ⟨vetted.commands, vetted.calls⟩

/-- Nothing unsound is told in any run. -/
theorem vetted_afterRun (usb : Usb.Acquisition H) (engine : G) (driver : Option D)
    (config : PipelineConfig) (operations : List (Operation H G D)) :
    (afterRun usb engine driver config operations).Vetted := by
  -- At first nothing was told; and each operation finds a sound controller, which is settled.
  have begun : (new usb engine driver config).Vetted := ⟨by simp [new], by simp [new]⟩
  have both : (afterRun usb engine driver config operations).Sound ∧
      (afterRun usb engine driver config operations).Vetted := by
    refine afterAll_rule (P := fun d => d.Sound ∧ d.Vetted) ⟨new_sound _ _ _ _, begun⟩ ?_ operations
    rintro d operation ⟨sound, vetted⟩
    exact ⟨(perform_change sound operation).sound sound,
      perform_vetted sound.settled vetted operation⟩
  exact both.2

end Controller

end TunerControl.Session
