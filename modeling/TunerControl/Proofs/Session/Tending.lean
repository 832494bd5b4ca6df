import TunerControl.Proofs.Samples.Retirement
import TunerControl.Proofs.Session.Working

/-! A controller tends its one pipeline: between operations nothing is queued but for the run that it
still has to stop. -/

namespace TunerControl.Session

open Controller (pipeline)
open Samples (Activity Plant)
open Usb (Host)

/-- There is one pipeline, and whatever is queued is queued for its current run. -/
structure Tended (plant : Plant) : Prop where
  scheduled : plant.Scheduled
  single : plant.lines.length = 1

namespace Tended

variable {plant after : Plant}

/-- The plant of a new controller has its pipeline, and no run of it. -/
theorem new (config : PipelineConfig) : Tended (({ } : Plant).addLine config) where
  -- It has no run yet, so that nothing can be queued.
  scheduled := by
    refine Plant.Scheduled.of_same (p := { }) ⟨?_, ?_⟩ (Plant.currentRun?_addLine _ config) rfl
    · simp [Plant.currentRun?]
    · simp
  single := rfl

/-- What is done to the plant keeps it tended if no pipeline is added by it. -/
theorem change (tended : Tended plant) (change : Samples.Change plant after)
    (same : after.furniture = plant.furniture) : Tended after :=
  -- What is queued is looked after by the change; that there is one pipeline is furniture.
  ⟨tended.scheduled.change change, (Plant.length_lines_of_furniture same).trans tended.single⟩

/-- Whatever goes on beside the owner's commands keeps the plant tended. -/
theorem afterAll (tended : Tended plant) (activities : List Activity) :
    Tended (plant.afterAll activities) := by
  -- No activity takes the furniture away or queues for a run that is over.
  induction activities generalizing plant with
  | nil => exact tended
  | cons activity rest ih =>
    exact ih (tended.change (plant.after_change activity) (plant.after_furniture activity))

/-- A start takes the place of no run. -/
theorem start (tended : Tended plant) (manned : plant.Manned pipeline) {run : Nat}
    (started : plant.start pipeline = (.ok run, after)) : Tended after := by
  -- The pipeline had no run, so that the new one takes no other's place.
  have idle := manned.currentRun?_of_start started
  have present : pipeline < plant.lines.length := by
    rw [tended.single]
    exact Nat.one_pos
  unfold Plant.start at started
  split at started
  · simp at started
  · obtain ⟨-, rfl⟩ := Prod.mk.inj started
    exact ⟨tended.scheduled.start present idle, by simpa using tended.single⟩

/-- A stop empties the queue of the run that it ends, whatever goes on while it waits. -/
theorem stop (tended : Tended plant) (activities : List Activity) :
    Tended (((plant.requestStop pipeline).afterAll activities).completeStop pipeline).2 := by
  -- A stop is told, waited for and completed, and each part keeps the plant tended.
  have told : Tended (plant.requestStop pipeline) :=
    tended.change (plant.requestStop_change pipeline) (plant.requestStop_furniture pipeline)
  have waited := (plant.requestStop pipeline).afterAll_sameDuty activities
  have stopped : ((plant.requestStop pipeline).afterAll activities).isRunning pipeline = false :=
    (waited.isRunning pipeline).trans (plant.isRunning_requestStop pipeline)
  exact (told.afterAll activities).change (Plant.completeStop_change _ pipeline stopped)
    (Plant.completeStop_furniture _ pipeline)

/-- All that is done by the owner of the pipeline who keeps it keeps the plant tended. -/
theorem tends (tended : Tended plant) (manned : plant.Manned pipeline) {may : Bool}
    (tends : Plant.Tends pipeline may plant after) : Tended after := by
  -- By induction on what the owner does.
  induction tends with
  | background p activities => exact tended.afterAll activities
  | start allowed started => exact tended.start manned started
  | stop p activities => exact tended.stop activities
  | trans first second ih again => exact again (ih tended manned) (first.manned manned)

/-- Every run is over while the pipeline is at rest. -/
theorem ended (tended : Tended plant) (resting : plant.currentRun? pipeline = none) {run : Nat}
    (begun : run < plant.runs.length) : plant.Ended run := by
  -- A run that is not over would be the current one of its pipeline.
  refine ⟨plant.runs[run], List.getElem?_eq_getElem begun, ?_⟩
  rcases tended.scheduled.finished run _ (List.getElem?_eq_getElem begun) with current | ended
  · -- There is no other pipeline that could have a run.
    have one := tended.single
    have none_ : plant.currentRun? (plant.runs[run]).line = none := by
      cases own : (plant.runs[run]).line with
      | zero => exact resting
      | succ n =>
        rw [Plant.currentRun?, List.getElem?_eq_none (by omega)]
        rfl
    exact absurd (none_.symm.trans current) (by simp)
  · exact ended

/-- Nothing is queued while the pipeline is at rest. -/
theorem queue_eq_nil (tended : Tended plant) (resting : plant.currentRun? pipeline = none) :
    ∀ run ∈ plant.runs, run.queue = [] := by
  -- Each run is over, and a run that is over has nothing queued.
  intro r member
  obtain ⟨run, inside, rfl⟩ := List.getElem_of_mem member
  obtain ⟨r, found, -, empty⟩ := tended.ended resting inside
  rwa [Option.some.inj ((List.getElem?_eq_getElem inside).symm.trans found)]

end Tended

namespace Controller

variable {H G D : Type} [Engine G] [HackRfDriver D] [Host H] {c : Controller H G D}

/-- Cleaning up keeps the plant tended. -/
theorem cleanup_tended (sound : c.Sound) (tended : Tended c.plant) : Tended c.cleanup.plant :=
  tended.tends sound.attended.manned c.cleanup_works.tends

/-- After every run, the plant is tended. -/
theorem afterRun_tended (usb : Usb.Acquisition H) (engine : G) (driver : Option D)
    (config : PipelineConfig) (operations : List (Operation H G D)) :
    Tended (afterRun usb engine driver config operations).plant := by
  -- All that was done at it is what the owner of the pipeline does.
  have sound := new_sound usb engine driver config
  exact (Tended.new config).tends sound.attended.manned (afterAll_works sound operations).tends

end Controller

end TunerControl.Session
