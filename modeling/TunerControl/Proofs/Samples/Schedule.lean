import TunerControl.Proofs.Samples.Change
import TunerControl.Proofs.Samples.Lists

/-! Each pipeline has at most one run that is not over, and the pipeline knows it. -/

namespace TunerControl.Samples

namespace Plant

/-- The run that a pipeline still has to stop is one of its own. Every other run accepts nothing and
has nothing in its queue. -/
structure Scheduled (p : Plant) : Prop where
  known : ∀ (line run : Nat), p.currentRun? line = some run →
    ∃ r, p.runs[run]? = some r ∧ r.line = line
  finished : ∀ (run : Nat) (r : Run), p.runs[run]? = some r →
    p.currentRun? r.line = some run ∨ r.accepting = false ∧ r.queue = []

/-- A pipeline without a current run has nothing in the queues of its runs. -/
theorem Scheduled.queue_eq_nil {p : Plant} (scheduled : p.Scheduled) {line : Nat}
    (idle : p.currentRun? line = none) {r : Run} (member : r ∈ p.runs) (on : r.line = line) :
    r.queue = [] := by
  -- No run of the pipeline is the current one, and every other run has an empty queue.
  obtain ⟨run, inside, rfl⟩ := List.getElem_of_mem member
  rcases scheduled.finished run _ (List.getElem?_eq_getElem inside) with current | ⟨-, empty⟩
  · rw [on, idle] at current
    simp at current
  · exact empty

/-- A pipeline that has an owner is there. -/
theorem lt_length_of_owns (p : Plant) {line : Nat} (owned : p.owns line = true) :
    line < p.lines.length :=
  -- A pipeline that is not there has no owner.
  Nat.lt_of_not_le fun missing => by simp [owns, List.getElem?_eq_none missing] at owned

/-- A new pipeline has no current run, and the others know theirs. -/
theorem currentRun?_addLine (p : Plant) (config : PipelineConfig) (line : Nat) :
    (p.addLine config).currentRun? line = p.currentRun? line := by
  simp only [currentRun?, addLine, addPool, List.getElem?_append]
  split
  · rfl
  · -- Beyond those that were there, it is the new one, or none.
    rename_i beyond
    rw [List.getElem?_eq_none (Nat.le_of_not_lt beyond)]
    cases line - p.lines.length <;> rfl

/-- What is done to a pipeline apart from its current run leaves the current runs alone. -/
theorem currentRun?_modify (p : Plant) (line : Nat) {change : Line → Line}
    (same : ∀ l, (change l).current = l.current) (other : Nat) :
    (p.lines.modify line change)[other]?.bind (·.current) = p.currentRun? other := by
  rw [currentRun?, List.getElem?_modify]
  -- A pipeline that is changed keeps its current run, and the others are not touched.
  cases p.lines[other]? with
  | none => rfl
  | some l =>
    show (if line = other then change l else l).current = l.current
    split
    · exact same l
    · rfl

/-- A pipeline that was told its current run knows it, and the others know theirs. -/
theorem currentRun?_tell (lines : List Line) (line : Nat) (current : Option Nat) (other : Nat)
    (present : line < lines.length) :
    (lines.modify line fun l => { l with current })[other]?.bind (·.current) =
      if other = line then current else lines[other]?.bind (·.current) := by
  -- The pipeline is the one that was told, or another.
  rw [List.getElem?_modify]
  by_cases same : other = line
  · subst same
    simp [List.getElem?_eq_getElem present]
  · rw [if_neg same]
    cases lines[other]? with
    | none => rfl
    | some l => simp [Ne.symm same]

/-- A pipeline whose stop returns has no current run, and the others know theirs. -/
theorem currentRun?_stop (p : Plant) {line run : Nat} (isCurrent : p.currentRun? line = some run)
    {change : Line → Line} (same : ∀ l, (change l).current = l.current) (other : Nat) :
    ((p.lines.modify line change).modify line fun l => { l with current := none })[other]?.bind
        (·.current) =
      if other = line then none else p.currentRun? other := by
  -- Its counters change first, and then it forgets its run.
  have present : line < p.lines.length := Nat.lt_of_not_le fun missing => by
    simp [currentRun?, List.getElem?_eq_none missing] at isCurrent
  rw [currentRun?_tell _ line none other (by simpa using present)]
  split
  · rfl
  · exact p.currentRun?_modify line same other

/-- A plant with the same runs and the same current ones is scheduled as well. -/
theorem Scheduled.of_same {p after : Plant} (scheduled : p.Scheduled)
    (current : ∀ line, after.currentRun? line = p.currentRun? line) (runs : after.runs = p.runs) :
    after.Scheduled := by
  -- Both facts are about runs and current runs.
  refine ⟨?_, ?_⟩
  · intro line run isCurrent
    rw [current] at isCurrent
    rw [runs]
    exact scheduled.known line run isCurrent
  · intro run r found
    rw [runs] at found
    rw [current]
    exact scheduled.finished run r found

/-- A plant whose current runs are the same stays scheduled when one of its runs changes, if that
stays on its pipeline and stays over once it is. -/
theorem Scheduled.changeRun {p after : Plant} (scheduled : p.Scheduled) {n : Nat}
    {change : Run → Run} (current : ∀ line, after.currentRun? line = p.currentRun? line)
    (runs : after.runs = p.runs.modify n change) (line : ∀ r, (change r).line = r.line)
    (stays : ∀ r, p.runs[n]? = some r → r.accepting = false → r.queue = [] →
      (change r).accepting = false ∧ (change r).queue = []) : after.Scheduled := by
  refine ⟨?_, ?_⟩
  · -- The changed run is still there, and still of the same pipeline.
    intro l run isCurrent
    rw [current] at isCurrent
    obtain ⟨r, found, on⟩ := scheduled.known l run isCurrent
    refine ⟨if n = run then change r else r, ?_, ?_⟩
    · rw [runs, List.getElem?_modify, found]
      rfl
    · split
      · rw [line r, on]
      · exact on
  · intro run changed present
    rw [runs] at present
    obtain ⟨r, found, rfl⟩ := exists_of_getElem?_modify present
    have on : (if n = run then change r else r).line = r.line := by
      split
      · exact line r
      · rfl
    rw [current, on]
    rcases scheduled.finished run r found with isCurrent | ⟨closed, empty⟩
    · exact Or.inl isCurrent
    · refine Or.inr ?_
      split
      · rename_i same
        exact stays r (same ▸ found) closed empty
      · exact ⟨closed, empty⟩

/-- A pipeline without a current run that starts one is scheduled with it. -/
theorem Scheduled.start {p : Plant} (scheduled : p.Scheduled) {line : Nat}
    (present : line < p.lines.length) (idle : p.currentRun? line = none) :
    ({ p with
      runs := p.runs ++ [{ line }]
      lines := p.lines.modify line fun l => { l with current := some p.runs.length } } :
        Plant).Scheduled := by
  have current := fun other =>
    currentRun?_tell p.lines line (some p.runs.length) other present
  refine ⟨?_, ?_⟩
  · -- A current run is the new one, or one that was current before.
    intro other run isCurrent
    rw [currentRun?, current] at isCurrent
    split at isCurrent
    · rename_i same
      refine ⟨{ line }, ?_, same.symm⟩
      rw [← Option.some.inj isCurrent]
      simp
    · obtain ⟨r, found, on⟩ := scheduled.known other run isCurrent
      refine ⟨r, ?_, on⟩
      rw [List.getElem?_append_left (List.getElem?_eq_some_iff.mp found).1]
      exact found
  · intro run r found
    rw [currentRun?, current]
    rw [List.getElem?_append] at found
    split at found
    · rcases scheduled.finished run r found with isCurrent | closed
      · -- The run's pipeline has a current run already, so it is another pipeline.
        have other : r.line ≠ line := fun same => by simp [same, idle] at isCurrent
        rw [if_neg other]
        exact Or.inl isCurrent
      · exact Or.inr closed
    · -- The new run is the only one behind those that were there.
      obtain ⟨inside, same⟩ := List.getElem?_eq_some_iff.mp found
      simp only [List.length_cons, List.length_nil] at inside
      have new : r = { line } := by simpa using same.symm
      have last : run = p.runs.length := by omega
      simp [new, last]

/-- A pipeline whose stop returns has no current run, and the run that it had is over. -/
theorem Scheduled.stop {p after : Plant} (scheduled : p.Scheduled) {line run : Nat} {r : Run}
    (isCurrent : p.currentRun? line = some run) (found : p.runs[run]? = some r)
    (closed : r.accepting = false)
    (current : ∀ other, after.currentRun? other =
      if other = line then none else p.currentRun? other)
    (runs : after.runs = p.runs.modify run fun r => { r with queue := [] }) :
    after.Scheduled := by
  refine ⟨?_, ?_⟩
  · -- Runs that are still current are those of other pipelines.
    intro other n isOther
    rw [current] at isOther
    split at isOther
    · simp at isOther
    · obtain ⟨r, present, on⟩ := scheduled.known other n isOther
      refine ⟨if run = n then { r with queue := [] } else r, ?_, ?_⟩
      · rw [runs, List.getElem?_modify, present]
        rfl
      · split <;> exact on
  · intro n changed present
    rw [runs] at present
    obtain ⟨s, at_, rfl⟩ := exists_of_getElem?_modify present
    by_cases same : run = n
    · subst same
      have : s = r := Option.some.inj (at_.symm.trans found)
      rw [if_pos rfl]
      exact Or.inr ⟨this ▸ closed, rfl⟩
    · rw [if_neg same, current]
      rcases scheduled.finished n s at_ with isOther | finished
      · -- Another run is the current one of another pipeline.
        have other : s.line ≠ line := by
          intro both
          rw [both, isCurrent] at isOther
          exact same (Option.some.inj isOther)
        rw [if_neg other]
        exact Or.inl isOther
      · exact Or.inr finished

/-- Every change of a plant keeps it scheduled. -/
theorem Scheduled.change {p after : Plant} (scheduled : p.Scheduled) (change : Change p after) :
    after.Scheduled := by
  cases change with
  | nothing => exact scheduled
  | poolAdded capacity blockSize => exact ⟨scheduled.known, scheduled.finished⟩
  | lineAdded config => exact scheduled.of_same (p.currentRun?_addLine config) rfl
  | poolGone pool unused => exact ⟨scheduled.known, scheduled.finished⟩
  | lineDropped line idle => exact scheduled.of_same (p.currentRun?_modify line fun l => rfl) rfl
  | lent found lends => exact ⟨scheduled.known, scheduled.finished⟩
  | edited serial same => exact ⟨scheduled.known, scheduled.finished⟩
  | givenUp held => exact ⟨scheduled.known, scheduled.finished⟩
  | rejected line => exact scheduled.of_same (p.currentRun?_modify line fun l => rfl) rfl
  | accepted found held accepting room =>
    -- A run that accepts was not over.
    refine scheduled.changeRun (p.currentRun?_modify _ fun l => rfl) rfl (fun r => rfl) ?_
    intro r present closed empty
    have same := Option.some.inj (present.symm.trans found)
    rw [same, accepting] at closed
    simp at closed
  | moved found moves =>
    exact scheduled.changeRun (fun line => rfl) rfl (fun r => rfl)
      fun r present closed empty => ⟨closed, empty⟩
  | fed found receiving queued =>
    -- Neither was one with a buffer in its queue.
    refine scheduled.changeRun (fun line => rfl) rfl (fun r => rfl) ?_
    intro r present closed empty
    have same := Option.some.inj (present.symm.trans found)
    rw [same, queued] at empty
    simp at empty
  | answered found feeding own returned =>
    exact scheduled.changeRun (p.currentRun?_modify _ fun l => rfl) rfl (fun r => rfl)
      fun r present closed empty => ⟨closed, empty⟩
  | crashed found feeding =>
    exact scheduled.changeRun (p.currentRun?_modify _ fun l => rfl) rfl (fun r => rfl)
      fun r present closed empty => ⟨closed, empty⟩
  | started owned idle => exact scheduled.start (p.lt_length_of_owns owned) idle
  | told current found =>
    exact scheduled.changeRun (fun line => rfl) rfl (fun r => rfl)
      fun r present closed empty => ⟨rfl, empty⟩
  | stopped isCurrent found finished =>
    exact scheduled.stop isCurrent found finished (p.currentRun?_stop isCurrent fun l => rfl) rfl

/-- A plant is scheduled after every history. -/
theorem afterMoves_scheduled (moves : List Move) : (afterMoves moves).Scheduled := by
  -- By induction on the history. At the start there are no runs.
  refine afterMoves_induction ?_ ?_ moves
  · exact ⟨by simp [currentRun?], by simp⟩
  · intro p m scheduled admitted
    exact scheduled.change (p.perform_change m admitted)

end Plant

end TunerControl.Samples
