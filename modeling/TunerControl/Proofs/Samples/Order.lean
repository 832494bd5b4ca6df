import TunerControl.Proofs.Samples.Accounting
import TunerControl.Proofs.Samples.Schedule
import TunerControl.Samples.Journal

/-! Every run feeds what it accepts, in the order of acceptance. -/

namespace TunerControl.Samples

namespace Journal

/-- What is entered for a run continues its story. -/
@[simp] theorem story_enter (j : Journal) (run : Nat) (happenings : List Happening) :
    Journal.story (j ++ happenings.map (run, ·)) run = j.story run ++ happenings := by
  -- Every entry is one of the run.
  have own : (fun entry : Nat × Happening => if entry.1 = run then some entry.2 else none) ∘
      (run, ·) = some := funext fun h => if_pos rfl
  rw [story, List.filterMap_append, List.filterMap_map, own, List.filterMap_some]
  rfl

/-- What is entered for one run leaves the stories of the others alone. -/
theorem story_enter_other (j : Journal) {run other : Nat} (happenings : List Happening)
    (apart : run ≠ other) :
    Journal.story (j ++ happenings.map (run, ·)) other = j.story other := by
  -- No entry is one of the other run.
  rw [story, List.filterMap_append, List.filterMap_map]
  have none : happenings.filterMap
      ((fun entry : Nat × Happening => if entry.1 = other then some entry.2 else none) ∘
        (run, ·)) = [] := by
    simp [apart]
  rw [none, List.append_nil]
  rfl

end Journal

/-- What the story of a run says, given what is in its queue. A buffer that was accepted was fed,
was discarded or is still queued, in this order, and a report is made of what was discarded. -/
structure Recorded (s : Story) (r : Run) : Prop where
  order : s.accepted = s.fed ++ s.discarded ++ r.queue
  report : s.reports = [] ∧ s.discarded = [] ∨
    r.accepting = false ∧ r.queue = [] ∧
      ∃ report, s.reports = [report] ∧ report.dropped = s.discarded.length

namespace Recorded

variable {s : Story} {r : Run} {b : Buffer} {rest : List Buffer}

/-- A run that has not begun has no story. -/
theorem new (line : Nat) : Recorded [] { line } :=
  -- Nothing happened in it, and its queue is empty.
  ⟨rfl, Or.inl ⟨rfl, rfl⟩⟩

/-- Nothing was discarded yet in a run that goes on. -/
theorem undiscarded (recorded : Recorded s r) (open_ : r.accepting = true ∨ r.queue ≠ []) :
    s.reports = [] ∧ s.discarded = [] := by
  -- A run with a report accepts no more and has nothing queued.
  rcases recorded.report with early | ⟨closed, empty, -⟩
  · exact early
  · rcases open_ with accepting | waiting
    · rw [closed] at accepting
      simp at accepting
    · exact absurd empty waiting

/-- An accepted buffer comes last. -/
theorem accept (recorded : Recorded s r) (accepting : r.accepting = true) :
    Recorded (s ++ [.accepted b]) { r with queue := r.queue ++ [b] } := by
  -- A run that accepts was not stopped, so nothing stands between what was fed and the queue.
  obtain ⟨unreported, undiscarded⟩ := recorded.undiscarded (Or.inl accepting)
  refine ⟨?_, Or.inl ?_⟩
  · simp [recorded.order, undiscarded, List.filterMap_cons]
  · simp [unreported, undiscarded, List.filterMap_cons]

/-- The first queued buffer is the next to be fed. -/
theorem feed (recorded : Recorded s r) (queued : r.queue = b :: rest) :
    Recorded (s ++ [.fed b]) { r with worker := .feeding b, queue := rest } := by
  -- The queue was not discarded, so its first buffer follows the last one that was fed.
  obtain ⟨unreported, undiscarded⟩ := recorded.undiscarded (Or.inr (by simp [queued]))
  refine ⟨?_, Or.inl ?_⟩
  · simp [recorded.order, undiscarded, queued, List.filterMap_cons]
  · simp [unreported, undiscarded, List.filterMap_cons]

/-- An answer of the sink says nothing about which buffers were accepted or fed. -/
theorem answer (recorded : Recorded s r) (a : SinkAnswer) (worker : Worker) :
    Recorded (s ++ [.answered b a]) { r with worker } := by
  -- None of the readings looks at answers.
  obtain ⟨order, report⟩ := recorded
  refine ⟨?_, ?_⟩
  · simpa [List.filterMap_cons] using order
  · simpa [List.filterMap_cons] using report

/-- A stop that returns discards what is queued, and reports how much that is. -/
theorem stop (recorded : Recorded s r) (unreported : s.reports = [])
    (finished : r.accepting = false) (joined : Bool) :
    Recorded (s ++ r.queue.map .discarded ++ [.stopped ⟨joined, r.queue.length⟩])
      { r with queue := [] } := by
  have undiscarded : s.discarded = [] := by
    rcases recorded.report with early | ⟨-, -, report, reported, -⟩
    · exact early.2
    · rw [unreported] at reported
      simp at reported
  -- Entries of discarded buffers are neither acceptances nor feeds nor reports.
  have gone : Story.discarded (r.queue.map .discarded) = r.queue := by
    simp [List.filterMap_map, Function.comp_def]
  have accepted : Story.accepted (r.queue.map .discarded) = [] :=
    List.filterMap_eq_nil_iff.mpr (by simp)
  have fed : Story.fed (r.queue.map .discarded) = [] := List.filterMap_eq_nil_iff.mpr (by simp)
  have reports : Story.reports (r.queue.map .discarded) = [] :=
    List.filterMap_eq_nil_iff.mpr (by simp)
  refine ⟨?_, Or.inr ⟨finished, rfl, ⟨joined, r.queue.length⟩, ?_, ?_⟩⟩
  · simp [recorded.order, undiscarded, gone, accepted, fed, List.filterMap_cons]
  · simp [unreported, reports]
  · simp [undiscarded, gone, List.filterMap_cons]

end Recorded

namespace Plant

/-- The journal of a plant tells the story of each of its runs, and of no others. A run that a
pipeline still has to stop has no report. -/
structure Chronicled (p : Plant) : Prop where
  recorded : ∀ (run : Nat) (r : Run), p.runs[run]? = some r → Recorded (p.journal.story run) r
  silent : ∀ run, p.runs.length ≤ run → p.journal.story run = []
  pending : ∀ (line run : Nat), p.currentRun? line = some run →
    (p.journal.story run).reports = []

/-- Changing one run and entering what happened in it leaves the other stories alone. -/
theorem Chronicled.enter {p after : Plant} (chronicled : p.Chronicled) {n : Nat} {r : Run}
    {change : Run → Run} {happenings : List Happening} (found : p.runs[n]? = some r)
    (runs : after.runs = p.runs.modify n change)
    (journal : after.journal = p.journal ++ happenings.map (n, ·))
    (recorded : Recorded (p.journal.story n ++ happenings) (change r))
    (pending : ∀ (line run : Nat), after.currentRun? line = some run →
      p.currentRun? line = some run ∧ (run = n → Story.reports happenings = [])) :
    after.Chronicled := by
  have inside : n < p.runs.length := (List.getElem?_eq_some_iff.mp found).1
  refine ⟨?_, ?_, ?_⟩
  · -- The changed run has a longer story, and every other run the one that it had.
    intro run changed present
    rw [runs] at present
    obtain ⟨s, at_, rfl⟩ := exists_of_getElem?_modify present
    rw [journal]
    by_cases same : n = run
    · subst same
      have : s = r := Option.some.inj (at_.symm.trans found)
      rw [if_pos rfl, Journal.story_enter, this]
      exact recorded
    · rw [if_neg same, Journal.story_enter_other _ _ same]
      exact chronicled.recorded run s at_
  · intro run beyond
    rw [runs, List.length_modify] at beyond
    rw [journal, Journal.story_enter_other _ _ (by omega)]
    exact chronicled.silent run beyond
  · intro line run isCurrent
    obtain ⟨before, unreported⟩ := pending line run isCurrent
    have earlier := chronicled.pending line run before
    rw [journal]
    by_cases same : n = run
    · subst same
      rw [Journal.story_enter, Story.reports, List.filterMap_append]
      simp [earlier, unreported rfl]
    · rw [Journal.story_enter_other _ _ same]
      exact earlier

/-- A plant with the same runs, current runs and journal is chronicled as well. -/
theorem Chronicled.of_same {p after : Plant} (chronicled : p.Chronicled)
    (current : ∀ line, after.currentRun? line = p.currentRun? line) (runs : after.runs = p.runs)
    (journal : after.journal = p.journal) : after.Chronicled := by
  -- All three facts are about the runs, the current ones and the journal.
  obtain ⟨recorded, silent, pending⟩ := chronicled
  refine ⟨?_, ?_, ?_⟩
  · rw [runs, journal]
    exact recorded
  · rw [runs, journal]
    exact silent
  · intro line run isCurrent
    rw [journal]
    exact pending line run (current line ▸ isCurrent)

/-- A run that changes without a stop keeps the plant chronicled. -/
theorem Chronicled.changeRun {p after : Plant} (chronicled : p.Chronicled) {n : Nat} {r : Run}
    {change : Run → Run} (happenings : List Happening) (found : p.runs[n]? = some r)
    (runs : after.runs = p.runs.modify n change)
    (journal : after.journal = p.journal ++ happenings.map (n, ·))
    (recorded : Recorded (p.journal.story n ++ happenings) (change r))
    (current : ∀ line, after.currentRun? line = p.currentRun? line)
    (unreported : Story.reports happenings = []) : after.Chronicled :=
  -- The current runs are the same, and nothing is reported.
  chronicled.enter found runs journal recorded fun line _ isCurrent =>
    ⟨current line ▸ isCurrent, fun _ => unreported⟩

/-- A start adds a run without a story. -/
theorem Chronicled.start {p : Plant} (chronicled : p.Chronicled) {line : Nat}
    (owned : p.owns line = true) :
    ({ p with
      runs := p.runs ++ [{ line }]
      lines := p.lines.modify line fun l => { l with current := some p.runs.length } } :
        Plant).Chronicled := by
  refine ⟨?_, ?_, ?_⟩
  · -- The new run is the last one, and has no story.
    intro run r found
    rw [List.getElem?_append] at found
    split at found
    · exact chronicled.recorded run r found
    · obtain ⟨inside, same⟩ := List.getElem?_eq_some_iff.mp found
      have new : r = { line } := by simpa using same.symm
      rw [chronicled.silent run (by omega), new]
      exact Recorded.new line
  · intro run beyond
    rw [List.length_append] at beyond
    exact chronicled.silent run (by omega)
  · intro other run isCurrent
    rw [currentRun?, currentRun?_tell _ _ _ _ (p.lt_length_of_owns owned)] at isCurrent
    split at isCurrent
    · -- The new run has no story yet.
      rw [← Option.some.inj isCurrent, chronicled.silent _ (Nat.le_refl _)]
      rfl
    · exact chronicled.pending other run isCurrent

/-- Every change of a plant is chronicled. -/
theorem Chronicled.change {p after : Plant} (chronicled : p.Chronicled) (scheduled : p.Scheduled)
    (change : Change p after) : after.Chronicled := by
  have recorded := chronicled.recorded
  cases change with
  | nothing => exact chronicled
  | poolAdded capacity blockSize => exact chronicled.of_same (fun line => rfl) rfl rfl
  | lineAdded config => exact chronicled.of_same (p.currentRun?_addLine config) rfl rfl
  | poolGone pool unused => exact chronicled.of_same (fun line => rfl) rfl rfl
  | lineDropped line idle =>
    exact chronicled.of_same (p.currentRun?_modify line fun l => rfl) rfl rfl
  | lent found lends => exact chronicled.of_same (fun line => rfl) rfl rfl
  | edited serial same => exact chronicled.of_same (fun line => rfl) rfl rfl
  | givenUp held => exact chronicled.of_same (fun line => rfl) rfl rfl
  | rejected line =>
    exact chronicled.of_same (p.currentRun?_modify line fun l => rfl) rfl rfl
  | accepted found held accepting room =>
    exact chronicled.changeRun [.accepted _] found rfl rfl ((recorded _ _ found).accept accepting)
      (p.currentRun?_modify _ fun l => rfl) rfl
  | moved found moves =>
    refine chronicled.changeRun [] found rfl (by simp) ?_ (fun line => rfl) rfl
    rw [List.append_nil]
    exact ⟨(recorded _ _ found).order, (recorded _ _ found).report⟩
  | fed found receiving queued =>
    exact chronicled.changeRun [.fed _] found rfl rfl ((recorded _ _ found).feed queued)
      (fun line => rfl) rfl
  | answered found feeding own returned =>
    exact chronicled.changeRun [.answered _ _] found rfl rfl ((recorded _ _ found).answer _ _)
      (p.currentRun?_modify _ fun l => rfl) rfl
  | crashed found feeding =>
    exact chronicled.changeRun [.answered _ _] found rfl rfl ((recorded _ _ found).answer _ _)
      (p.currentRun?_modify _ fun l => rfl) rfl
  | started owned idle => exact chronicled.start owned
  | told current found =>
    -- A run that is told to end may be one that has its report.
    refine chronicled.changeRun [] found rfl (by simp) ?_ (fun line => rfl) rfl
    rw [List.append_nil]
    -- A run that has a report was told so before.
    refine ⟨(recorded _ _ found).order, ?_⟩
    rcases (recorded _ _ found).report with early | ⟨-, late⟩
    · exact Or.inl early
    · exact Or.inr ⟨rfl, late⟩
  | @stopped line n r isCurrent found finished =>
    have unreported := chronicled.pending line n isCurrent
    refine chronicled.enter found rfl rfl ?_ ?_
    · have stop := (recorded n r found).stop unreported finished r.worker.isGone
      rwa [List.append_assoc] at stop
    · intro other run isOther
      have current : (if other = line then none else p.currentRun? other) = some run := by
        refine (p.currentRun?_stop isCurrent ?_ other).symm.trans isOther
        intro l
        rfl
      split at current
      · simp at current
      · rename_i different
        refine ⟨current, fun same => ?_⟩
        -- A run is the current one of no other pipeline than its own.
        obtain ⟨_, first, onLine⟩ := scheduled.known line n isCurrent
        obtain ⟨_, second, onOther⟩ := scheduled.known other run current
        rw [same] at second
        have one := Option.some.inj (first.symm.trans second)
        exact absurd (onOther.symm.trans (one ▸ onLine)) different

/-- A plant is chronicled after every history. -/
theorem afterMoves_chronicled (moves : List Move) : (afterMoves moves).Chronicled := by
  -- Whether a stop discards twice depends on the current runs, so both invariants go together.
  have both : (afterMoves moves).Scheduled ∧ (afterMoves moves).Chronicled := by
    refine afterMoves_induction (motive := fun p => p.Scheduled ∧ p.Chronicled) ?_ ?_ moves
    · exact ⟨⟨by simp [currentRun?], by simp⟩, by simp, fun run _ => rfl, by simp [currentRun?]⟩
    · intro p m ⟨scheduled, chronicled⟩ admitted
      have change := p.perform_change m admitted
      exact ⟨scheduled.change change, chronicled.change scheduled change⟩
  exact both.2

/-- What a run accepted was fed, was discarded when it was stopped, or is still in its queue. -/
theorem Chronicled.outcome {p : Plant} (chronicled : p.Chronicled) (run : Nat) :
    let story := p.journal.story run
    story.accepted = story.fed ++ story.discarded ++ p.queued run ∧
    (story.reports = [] ∧ story.discarded = [] ∨
      ∃ report, story.reports = [report] ∧ report.dropped = story.discarded.length ∧
        p.queued run = []) := by
  unfold queued
  cases found : p.runs[run]? with
  | none =>
    -- A run that never began accepted nothing.
    have silent := chronicled.silent run (List.getElem?_eq_none_iff.mp found)
    rw [silent]
    exact ⟨rfl, Or.inl ⟨rfl, rfl⟩⟩
  | some r =>
    -- For any other run it is what its record says.
    obtain ⟨order, report⟩ := chronicled.recorded run r found
    refine ⟨order, ?_⟩
    rcases report with early | ⟨-, empty, report, reported, counted⟩
    · exact Or.inl early
    · exact Or.inr ⟨report, reported, counted, empty⟩

end Plant

end TunerControl.Samples
