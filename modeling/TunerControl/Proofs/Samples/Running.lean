import TunerControl.Proofs.Samples.Recovery

/-! Between the commands of its owner, a pipeline has a run to stop exactly while it is running. -/

namespace TunerControl.Samples

namespace Plant

/-- The same runs accept buffers, and the pipelines know the same runs. -/
structure SameDuty (p after : Plant) : Prop where
  accepting : after.runs.map Run.accepting = p.runs.map Run.accepting
  current : after.lines.map Line.current = p.lines.map Line.current

namespace SameDuty

variable {p q after : Plant}

/-- Where nothing changes, duties stay the same. -/
theorem refl (p : Plant) : SameDuty p p :=
  ⟨rfl, rfl⟩

/-- Duties that stay the same twice stay the same. -/
theorem trans (first : SameDuty p q) (second : SameDuty q after) : SameDuty p after :=
  ⟨second.accepting.trans first.accepting, second.current.trans first.current⟩

/-- What is not looked at may change in any way. -/
theorem of_same (runs : after.runs = p.runs) (lines : after.lines = p.lines) :
    SameDuty p after :=
  ⟨congrArg _ runs, congrArg _ lines⟩

/-- A run may change otherwise than by ending, and a pipeline's counters may change. -/
theorem of_modify {run line : Nat} {change : Run → Run} {adjust : Line → Line}
    (runs : after.runs = p.runs.modify run change)
    (lines : after.lines = p.lines.modify line adjust)
    (accepting : ∀ r, (change r).accepting = r.accepting)
    (current : ∀ l, (adjust l).current = l.current) : SameDuty p after :=
  -- Both lists are changed in one place, in what is no duty.
  ⟨runs ▸ map_modify_of_same Run.accepting accepting p.runs run,
    lines ▸ map_modify_of_same Line.current current p.lines line⟩

/-- The duties tell which run a pipeline knows. -/
theorem currentRun? (same : SameDuty p after) (line : Nat) :
    after.currentRun? line = p.currentRun? line := by
  -- Only what the pipelines know is looked up.
  have look : ∀ q : Plant, q.currentRun? line = ((q.lines.map Line.current)[line]?).join := by
    intro q
    rw [Plant.currentRun?, List.getElem?_map]
    cases q.lines[line]? <;> rfl
  rw [look, look, same.current]

/-- The duties tell which runs there are. -/
theorem exists_run (same : SameDuty p after) {run : Nat} {r : Run} (found : p.runs[run]? = some r) :
    ∃ s, after.runs[run]? = some s := by
  -- There are as many runs as before.
  have inside := (List.getElem?_eq_some_iff.mp found).1
  have length : after.runs.length = p.runs.length := by
    simpa using congrArg List.length same.accepting
  exact ⟨_, List.getElem?_eq_getElem (length ▸ inside)⟩

/-- The duties tell whether a run accepts. -/
theorem isAccepting (same : SameDuty p after) (run : Nat) :
    after.isAccepting run = p.isAccepting run := by
  -- Only whether the runs accept is looked up.
  have look : ∀ q : Plant, q.isAccepting run = ((q.runs.map Run.accepting)[run]?).getD false := by
    intro q
    rw [Plant.isAccepting, List.getElem?_map]
    cases q.runs[run]? <;> rfl
  rw [look, look, same.accepting]

/-- The duties tell whether a pipeline is running. -/
theorem isRunning (same : SameDuty p after) (line : Nat) :
    after.isRunning line = p.isRunning line := by
  -- It is running if the run that it knows accepts.
  rw [Plant.isRunning, Plant.isRunning, same.currentRun? line]
  cases p.currentRun? line with
  | none => rfl
  | some run => exact same.isAccepting run

end SameDuty

/-- Lending is no matter of runs. -/
theorem lend_sameDuty (p : Plant) (pool : Nat) : SameDuty p (p.lend pool).2 := by
  unfold lend
  split
  · exact .refl p
  · exact .of_same rfl rfl

/-- A submission begins and ends no run. -/
theorem submit_sameDuty (p : Plant) (run serial : Nat) : SameDuty p (p.submit run serial).2 := by
  unfold submit
  split
  · dsimp only
    -- A buffer that is accepted moves into the queue; only a counter changes otherwise.
    split
    · exact .of_modify rfl rfl (fun _ => rfl) (fun _ => rfl)
    · exact .of_modify (List.modify_id 0 p.runs).symm rfl (fun _ => rfl) (fun _ => rfl)
  · exact .refl p

/-- A worker that moves begins and ends no run. -/
theorem work_sameDuty (p : Plant) (run : Nat) : SameDuty p (p.work run) := by
  -- Whatever it does, it changes itself and its queue.
  have lines := (List.modify_id 0 p.lines).symm
  unfold work
  split
  · exact .refl p
  · split
    · exact .of_modify rfl lines (fun _ => rfl) (fun _ => rfl)
    · exact .of_modify rfl lines (fun _ => rfl) (fun _ => rfl)
    · exact .of_modify rfl lines (fun _ => rfl) (fun _ => rfl)
    · exact .refl p

/-- A worker that is gone leaves the duty of its run behind. -/
theorem answer_sameDuty (p : Plant) (run : Nat) (a : SinkAnswer) : SameDuty p (p.answer run a) := by
  -- Pools, counters and the worker change, however the sink call ends.
  unfold answer
  split
  · exact .refl p
  · split
    · dsimp only
      split
      · exact .of_modify rfl rfl (fun _ => rfl) (fun _ => rfl)
      · exact .of_modify rfl rfl (fun _ => rfl) (fun _ => rfl)
    · exact .refl p

/-- Nothing that goes on beside the owner's commands begins or ends a run. -/
theorem after_sameDuty (p : Plant) (activity : Activity) : SameDuty p (p.after activity) := by
  -- An activity changes buffers, pools, queues and workers, but no line and no run's being told to
  -- stop.
  cases activity with
  | loan run =>
    simp only [after, loan]
    split
    · exact .refl p
    · exact p.lend_sameDuty _
  | fill serial source => exact .of_same rfl rfl
  | write serial start source => exact .of_same rfl rfl
  | setLength serial length => exact .of_same rfl rfl
  | submit run serial => exact p.submit_sameDuty run serial
  | discard serial =>
    simp only [after, discard]
    split
    · exact .refl p
    · exact .of_same rfl rfl
  | work run => exact p.work_sameDuty run
  | answer run a => exact p.answer_sameDuty run a

/-- However much goes on beside the owner's commands, no run begins or ends. -/
theorem afterAll_sameDuty (p : Plant) (activities : List Activity) :
    SameDuty p (p.afterAll activities) := by
  -- Each activity leaves the duties as the ones before it found them.
  induction activities generalizing p with
  | nil => exact .refl p
  | cons activity rest ih => exact (p.after_sameDuty activity).trans (ih (p.after activity))

/-- A pipeline has a run to stop exactly while it is running. -/
def Manned (p : Plant) (line : Nat) : Prop :=
  (p.currentRun? line).isSome = p.isRunning line

namespace Manned

variable {p after : Plant} {line run : Nat}

/-- Whether a pipeline has a run to stop is a matter of the duties. -/
theorem of_sameDuty (manned : p.Manned line) (same : SameDuty p after) : after.Manned line := by
  rw [Manned, same.currentRun? line, same.isRunning line]
  exact manned

/-- A pipeline that knows no run has none to stop and is not running. -/
theorem of_none (resting : p.currentRun? line = none) : p.Manned line := by
  rw [Manned, isRunning, resting]
  rfl

/-- A pipeline that was started knows its new run, which accepts. -/
theorem of_start (started : p.start line = (.ok run, after)) : after.Manned line := by
  -- The run is the last of all runs, and it accepts.
  unfold Plant.start at started
  split at started
  · simp at started
  · obtain ⟨-, rfl⟩ := Prod.mk.inj started
    cases found : p.lines[line]? with
    | none =>
      -- A pipeline that is not there knows no run, whatever is started for it.
      exact of_none (by simp [currentRun?, found])
    | some l => simp [Manned, currentRun?, isRunning, isAccepting, found]

/-- A start takes the place of no run. -/
theorem currentRun?_of_start (manned : p.Manned line)
    (started : p.start line = (.ok run, after)) : p.currentRun? line = none := by
  -- A pipeline that knows a run is running, and would refuse to start.
  unfold Plant.start at started
  split at started
  · simp at started
  · rename_i resting
    have unmanned : (p.currentRun? line).isSome = false :=
      manned.trans (Bool.eq_false_iff.mpr resting)
    simpa using unmanned

/-- The run that a pipeline knows accepts, so that it is there. -/
theorem exists_run (manned : p.Manned line) (current : p.currentRun? line = some run) :
    ∃ r, p.runs[run]? = some r := by
  -- A run that is not there would not accept.
  have accepting : p.isAccepting run = true := by
    rw [Manned, isRunning, current] at manned
    exact manned.symm
  cases found : p.runs[run]? with
  | none => simp [isAccepting, found] at accepting
  | some r => exact ⟨r, rfl⟩

/-- A stop that returns leaves its pipeline without a run, whatever goes on while it waits. -/
theorem stop (manned : p.Manned line) (activities : List Activity) :
    (((p.requestStop line).afterAll activities).completeStop line).2.currentRun? line = none := by
  have waited := (p.requestStop line).afterAll_sameDuty activities
  generalize (p.requestStop line).afterAll activities = q at waited
  cases current : p.currentRun? line with
  | none =>
    have resting : q.currentRun? line = none := by
      rw [waited.currentRun? line, requestStop, current]
      exact current
    simp only [completeStop, resting]
  | some run =>
    -- The run was there before it was told to end, and still is when the stop goes on.
    obtain ⟨r, found⟩ := manned.exists_run current
    have told : (p.requestStop line).runs[run]? = some { r with accepting := false } := by
      simp [requestStop, current, changeRun, found]
    obtain ⟨s, present⟩ := waited.exists_run told
    have known : q.currentRun? line = some run := by
      rw [waited.currentRun? line, requestStop, current]
      exact current
    simp only [completeStop, known, present, discardAll_eq]
    refine Eq.trans (q.currentRun?_stop known ?_ line) (if_pos rfl)
    exact fun _ => rfl

end Manned

end Plant

end TunerControl.Samples
