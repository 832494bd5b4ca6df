import TunerControl.Proofs.Samples.Upkeep
import TunerControl.Proofs.Session.Gates
import TunerControl.Session.Receiving

/-! Whatever a session does at its plant is what the owner of a pipeline does who keeps it, so that it
is a history of the plant. -/

namespace TunerControl.Session.Controller

open Samples (Move Plant)
open Usb (Host)

variable {H G D : Type}

/-- At the plant, no more is done than the owner of the pipeline does who keeps it, and who starts it
only for a driver. The driver stays. -/
structure Works (c after : Controller H G D) : Prop where
  tends : Plant.Tends pipeline c.driver.isSome c.plant after.plant
  driver : after.driver.isSome = c.driver.isSome

namespace Works

variable {c d after : Controller H G D}

/-- The plant is left alone. -/
theorem of_same (plant : after.plant = c.plant) (driver : after.driver.isSome = c.driver.isSome) :
    Works c after :=
  ⟨plant ▸ .refl _, driver⟩

/-- Whoever does nothing does no more than the owner may do. -/
theorem refl (c : Controller H G D) : Works c c :=
  of_same rfl rfl

/-- What the owner does twice is what the owner does. -/
theorem trans (first : Works c d) (second : Works d after) : Works c after :=
  ⟨first.tends.trans (first.driver ▸ second.tends), second.driver.trans first.driver⟩

/-- What is neither the plant nor the driver may change in any way before and after. -/
theorem around {e : Controller H G D} (works : Works d e) (plant : d.plant = c.plant)
    (driver : d.driver = c.driver) (plant' : after.plant = e.plant) (driver' : after.driver = e.driver) :
    Works c after :=
  -- On both sides of what is done at the plant, the plant is left alone.
  ((of_same plant (congrArg _ driver)).trans works).trans (of_same plant' (congrArg _ driver'))

end Works

variable {c : Controller H G D}

/-- The driver that may be used is the one that there is. -/
theorem driver_of_requireDriver {driver : D} (ready : c.requireDriver = .ok driver) :
    c.driver = some driver := by
  -- It was looked for, and found.
  rcases c.requireDriver_cases with ⟨failure, -, answer⟩ | ⟨other, -, has, answer⟩
  · simp [answer] at ready
  · rw [has, Except.ok.inj (answer.symm.trans ready)]

/-- An operation on the driver is tried only if there is one. -/
theorem withDriver_works {result : D → Outcome Unit × Controller H G D}
    (works : ∀ driver, c.driver = some driver → Works c (result driver).2) :
    Works c (c.withDriver result).2 := by
  -- Without a driver nothing is done.
  unfold withDriver
  split
  · exact .refl c
  · rename_i driver ready
    exact works driver (driver_of_requireDriver ready)

section Engine

variable [Engine G]

/-- Stopping the pipeline is a matter of its owner. -/
theorem stopPipeline_works (c : Controller H G D) : Works c c.stopPipeline.2 :=
  ⟨.stop c.plant _, rfl⟩

/-- Connecting leaves the driver alone. -/
theorem connect_driver (c : Controller H G D) (backend : Backend) :
    (c.connect backend).2.driver = c.driver := by
  -- The engine may be asked or not, and accept or decline: the driver hears of none of it.
  rcases c.connect_cases backend with ⟨failure, refused⟩ | ⟨-, asked⟩
  · rw [refused]
  · -- The engine may be asked, which the driver does not hear of.
    rw [asked]
    rcases c.trying.issueConnect_cases backend with
      ⟨failure, unasked⟩ | ⟨command, -, ⟨-, answer⟩ | ⟨-, failure, answer⟩⟩
    · rw [unasked]
      rfl
    · rw [answer]
      rfl
    · rw [answer]
      rfl

/-- Connecting leaves the plant alone. -/
theorem connect_plant (settled : c.Settled) (backend : Backend) :
    (c.connect backend).2.plant = c.plant := by
  -- A refusal changes no more than the engine's log, and so does a session that is opened.
  cases asked : c.connect backend with
  | mk answer d =>
    cases answer with
    | error failure => exact (connect_error settled asked).2.2.2.1
    | ok =>
      obtain ⟨-, opening, -, -, -, -, -, -, plant⟩ := connect_ok asked
      exact plant

/-- Connecting does nothing at the plant. -/
theorem connect_works (settled : c.Settled) (backend : Backend) :
    Works c (c.connect backend).2 :=
  .of_same (connect_plant settled backend) (congrArg _ (c.connect_driver backend))

/-- A command behind a guard is for the engine alone. -/
theorem guarded_works (guard : Outcome Unit) (command : Command) :
    Works c (c.guarded guard (c.issue command)).2 := by
  -- It is refused, or the engine hears of it.
  unfold guarded
  split
  · exact .refl c
  · exact .of_same rfl rfl

end Engine

section Driver

variable [HackRfDriver D]

/-- A command to the driver that there is does nothing at the plant. -/
theorem drive_works {driver : D} (has : c.driver = some driver) (call : DriverCall) :
    Works c (c.drive driver call).2 :=
  .of_same rfl (by rw [has]; rfl)

/-- Setting the frequency does nothing at the plant. -/
theorem setFrequency_works (c : Controller H G D) (frequency : UInt64) :
    Works c (c.setFrequency frequency).2 :=
  withDriver_works fun _ has => drive_works has _

/-- Setting the rate does nothing at the plant. -/
theorem setSampleRate_works (c : Controller H G D) (rate : UInt32) :
    Works c (c.setSampleRate rate).2 := by
  -- The driver is told, or the rate is refused.
  refine withDriver_works fun driver has => ?_
  split
  · exact drive_works has _
  · exact .refl c

/-- Setting the gain of the low-noise amplifier does nothing at the plant. -/
theorem setLnaGain_works (c : Controller H G D) (gain : UInt32) :
    Works c (c.setLnaGain gain).2 := by
  -- The gain is refused, or the driver is told.
  refine withDriver_works fun driver has => ?_
  split
  · exact .refl c
  · exact drive_works has _

/-- Setting the gain of the variable amplifier does nothing at the plant. -/
theorem setVgaGain_works (c : Controller H G D) (gain : UInt32) :
    Works c (c.setVgaGain gain).2 := by
  -- Again the gain is refused, or the driver is told.
  refine withDriver_works fun driver has => ?_
  split
  · exact .refl c
  · exact drive_works has _

/-- The driver uses the run that was begun for it before its call returns, however that ends. -/
theorem asked_works {driver : D} (has : c.driver = some driver) {run : Nat} {begun : Plant}
    (started : c.plant.start pipeline = (.ok run, begun)) : Works c (c.asked driver run begun) :=
  ⟨(Plant.Tends.start (by rw [has]; rfl) started).trans (.background begun _), by rw [has]; rfl⟩

/-- A driver that begins to initialise is still there. -/
theorem isSome_driver_beginInit (c : Controller H G D) (driver : D) (session : Nat) :
    (c.beginInit driver session).2.driver.isSome = true := by
  -- Whatever it reports, and whether it can begin.
  unfold beginInit
  dsimp only
  obtain ⟨⟨report, failure⟩, driver⟩ := HackRfDriver.begin driver session
  cases report <;> cases failure <;> rfl

variable [Engine G]

/-- Opening a session on a HackRF does nothing at the plant. -/
theorem startHackRf_works (settled : c.Settled) (tuning : HackRfTuning) :
    Works c (c.startHackRf tuning).2 := by
  -- The connection leaves the plant alone, and so does the driver that begins to initialise.
  have opening := connect_works settled (.hackRf tuning)
  unfold startHackRf
  split
  · rename_i failure d refused
    rw [refused] at opening
    exact opening
  · rename_i d opened
    rw [opened] at opening
    refine opening.trans ?_
    -- Only a driver that is not ready is asked, and a request may be outstanding afterwards.
    split
    · exact .of_same rfl rfl
    · split
      · rename_i driver session has numbered
        refine .of_same (d.beginInit_spec driver session).2.2.2.1 ?_
        rw [d.isSome_driver_beginInit driver session, has]
        rfl
      · exact .refl d

/-- The pipeline is started for a driver, and stopped again if that declines. -/
theorem startReceiving_works (c : Controller H G D) : Works c c.startReceiving.2 := by
  -- It is refused, or the driver is asked with a run that was begun for it.
  unfold startReceiving
  split
  · exact .refl c
  · exact .refl c
  · rename_i driver ready _
    have has := driver_of_requireDriver ready
    split
    · exact .refl c
    · rename_i run plant started
      have begun := asked_works has started
      dsimp only
      split
      · exact begun
      · exact begun.trans (stopPipeline_works _)

/-- The end of receiving is a stop of the pipeline. -/
theorem stopReceiving_works (c : Controller H G D) : Works c c.stopReceiving.2 := by
  -- The driver may be told before that.
  unfold stopReceiving
  cases has : c.driver with
  | none => exact c.stopPipeline_works
  | some driver =>
    dsimp only
    split
    · exact (drive_works has .stop).trans (stopPipeline_works _)
    · exact c.stopPipeline_works

variable [Host H]

/-- Receiving is stopped when a session on a HackRF is released. -/
theorem releaseBackend_works (c : Controller H G D) : Works c c.releaseBackend := by
  -- No other front end has to do with the plant.
  unfold releaseBackend
  dsimp only
  cases c.backend with
  | none => exact .of_same rfl rfl
  | some kind =>
    cases kind with
    | network => exact .of_same rfl rfl
    | rtlUsb => exact .of_same rfl rfl
    | hackRf =>
      have stopped := ({ c with backend := none } : Controller H G D).stopReceiving_works
      exact stopped.around rfl rfl rfl rfl

/-- Cleaning up stops the pipeline if a session on a HackRF is live. -/
theorem cleanup_works (c : Controller H G D) : Works c c.cleanup := by
  -- Before the release a command may be given, and after it one is.
  have told : Works c (if c.cancelled.state.acceptsControl then c.cancelled.tell .stop
      else c.cancelled) := by
    split <;> exact .of_same rfl rfl
  exact told.trans ((releaseBackend_works _).around rfl rfl rfl rfl)

/-- Every operation does at the plant what the owner of the pipeline does. -/
theorem perform_works (sound : c.Sound) (operation : Operation H G D) :
    Works c (c.perform operation) := by
  -- The pipeline is started for the driver and stopped, by itself or with what ends a session; no
  -- other operation does anything at the plant but let things go on.
  cases operation with
  | connect backend => exact connect_works sound.settled backend
  | start => exact guarded_works _ _
  | stop =>
    simp only [perform, stop]
    split
    · exact .refl c
    · exact (releaseBackend_works ({ c with state := .stopping }.tell .stop)).around rfl rfl rfl rfl
  | cleanup => exact c.cleanup_works
  | disconnectRtlUsb =>
    simp only [perform, disconnectRtlUsb]
    split
    · exact c.releaseBackend_works.around rfl rfl rfl rfl
    · exact .of_same rfl rfl
  | setRtlFrequency frequency => exact guarded_works _ _
  | setRtlGain gain => exact guarded_works _ _
  | startHackRf tuning => exact startHackRf_works sound.settled tuning
  | stopHackRf =>
    simp only [perform, stopHackRf]
    split
    · exact (releaseBackend_works { c with
        inits := (c.inits.resolve (.error (.invalidState "HackRF mode stopped"))).2 }).around
        rfl rfl rfl rfl
    · exact .refl c
  | setFrequency frequency => exact c.setFrequency_works frequency
  | setSampleRate rate => exact c.setSampleRate_works rate
  | setLnaGain gain => exact c.setLnaGain_works gain
  | setVgaGain gain => exact c.setVgaGain_works gain
  | startReceiving => exact c.startReceiving_works
  | stopReceiving => exact c.stopReceiving_works
  | feed samples => exact guarded_works _ _
  | background activities => exact ⟨.background c.plant activities, rfl⟩
  | driverChange driver => exact .of_same rfl Option.isSome_map
  | _ => exact .of_same rfl rfl

/-- So does a run. -/
theorem afterAll_works (sound : c.Sound) (operations : List (Operation H G D)) :
    Works c (c.afterAll operations) := by
  -- Each operation finds a sound controller, which is what its work at the plant rests on.
  have both : (c.afterAll operations).Sound ∧ Works c (c.afterAll operations) := by
    refine afterAll_rule (P := fun d => d.Sound ∧ Works c d) ⟨sound, .refl c⟩ ?_ operations
    rintro d operation ⟨sound, earlier⟩
    exact ⟨(perform_change sound operation).sound sound,
      earlier.trans (perform_works sound operation)⟩
  exact both.2

/-- The plant of a new controller is furnished with its pipeline, and stays so. -/
theorem afterRun_furnished (usb : Usb.Acquisition H) (engine : G) (driver : Option D)
    (config : PipelineConfig) (operations : List (Operation H G D)) :
    (afterRun usb engine driver config operations).plant.Furnished :=
  (afterAll_works (new_sound usb engine driver config) operations).tends.furniture

/-- However a session goes on, what it does at its plant is a history of the plant. -/
theorem afterAll_moves (sound : c.Sound) (furnished : c.plant.Furnished)
    (operations : List (Operation H G D)) :
    ∃ moves : List Move, (c.afterAll operations).plant = moves.foldl Plant.step c.plant :=
  (afterAll_works sound operations).tends.moves sound.attended.manned furnished.owns

/-- Without a driver nothing is ever received. -/
theorem driver_of_receiving (usb : Usb.Acquisition H) (engine : G) (driver : Option D)
    (config : PipelineConfig) (operations : List (Operation H G D)) :
    let c := afterRun usb engine driver config operations
    c.isReceiving = true → ∃ driver, c.driver = some driver := by
  -- The driver is there from the start, or never.
  intro c receiving
  obtain ⟨tends, kept⟩ := afterAll_works (new_sound usb engine driver config) operations
  cases has : c.driver with
  | some driver => exact ⟨driver, rfl⟩
  | none =>
    -- Nobody could ever start the pipeline, which was at rest in the beginning.
    have without : (new usb engine driver config).driver.isSome = false :=
      kept.symm.trans (congrArg Option.isSome has)
    rw [without] at tends
    have resting : c.plant.currentRun? pipeline = none := tends.rests rfl
    simp [isReceiving, Plant.isRunning, resting] at receiving

end Driver

end TunerControl.Session.Controller
