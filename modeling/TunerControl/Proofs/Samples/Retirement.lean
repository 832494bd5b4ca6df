import TunerControl.Proofs.Samples.Order
import TunerControl.Proofs.Samples.Wiring

/-! What is left of a run once it was stopped: at most one buffer, inside a sink call that the worker
had begun before. -/

namespace TunerControl.Samples

namespace Plant

variable {p after : Plant} {run : Nat} {r : Run}

/-- A run that is over: it accepts nothing, and has nothing in its queue. -/
def Ended (p : Plant) (run : Nat) : Prop :=
  ∃ r, p.runs[run]? = some r ∧ r.accepting = false ∧ r.queue = []

/-- A run that is over stays so when a run changes, if no change is one that only a run makes that is
not over. -/
theorem Ended.changeRun (ended : p.Ended run) {n : Nat} {change : Run → Run}
    (runs : after.runs = p.runs.modify n change)
    (stays : ∀ r, p.runs[n]? = some r → r.accepting = false → r.queue = [] →
      (change r).accepting = false ∧ (change r).queue = []) : after.Ended run := by
  -- The run that changes is this one, or another.
  obtain ⟨r, found, closed, empty⟩ := ended
  refine ⟨if n = run then change r else r, ?_, ?_⟩
  · rw [runs, List.getElem?_modify, found]
    rfl
  · split
    · rename_i same
      exact stays r (same ▸ found) closed empty
    · exact ⟨closed, empty⟩

/-- A plant with the same runs has the same ones over. -/
theorem Ended.of_same (ended : p.Ended run) (runs : after.runs = p.runs) : after.Ended run := by
  -- Being over is a matter of the run alone.
  rw [Ended, runs]
  exact ended

/-- What is over stays over. -/
theorem Ended.change (ended : p.Ended run) (change : Change p after) : after.Ended run := by
  cases change with
  | accepted found held accepting room =>
    -- A run that accepts is not over.
    refine ended.changeRun rfl fun r present closed empty => ?_
    rw [Option.some.inj (present.symm.trans found), accepting] at closed
    simp at closed
  | fed found receiving queued =>
    -- Neither is one with something in its queue.
    refine ended.changeRun rfl fun r present closed empty => ?_
    rw [Option.some.inj (present.symm.trans found), queued] at empty
    simp at empty
  | moved found moves => exact ended.changeRun rfl fun r present closed empty => ⟨closed, empty⟩
  | answered found feeding own returned =>
    exact ended.changeRun rfl fun r present closed empty => ⟨closed, empty⟩
  | crashed found feeding => exact ended.changeRun rfl fun r present closed empty => ⟨closed, empty⟩
  | told current found => exact ended.changeRun rfl fun r present closed empty => ⟨rfl, empty⟩
  | stopped current found finished =>
    -- A stop empties the queue, which may be that of this run or of another.
    exact ended.changeRun rfl fun r present closed empty => ⟨closed, rfl⟩
  | started owned idle =>
    -- A new run comes behind those that were there.
    obtain ⟨r, found, closed, empty⟩ := ended
    refine ⟨r, ?_, closed, empty⟩
    rw [List.getElem?_append_left (List.getElem?_eq_some_iff.mp found).1]
    exact found
  | _ => exact ended.of_same rfl

/-- What is over stays over, however a history goes on. -/
theorem Ended.steps (ended : p.Ended run) (later : List Move) :
    (later.foldl Plant.step p).Ended run := by
  -- What is over stays over at each step, so that it does in a history.
  induction later generalizing p with
  | nil => exact ended
  | cons m rest ih => exact ih (ended.change (p.step_change m))

/-- A run that is over has nothing in its queue. -/
theorem Ended.queued (ended : p.Ended run) : p.queued run = [] := by
  obtain ⟨r, found, -, empty⟩ := ended
  simp [Plant.queued, found, empty]

/-- A run that is over turns down every buffer, and leaves it with the caller. -/
theorem Ended.submit (ended : p.Ended run) (serial : Nat) :
    (p.submit run serial).1 = false ∧ (p.submit run serial).2.held = p.held := by
  -- The run is looked at before its queue is.
  obtain ⟨r, found, closed, -⟩ := ended
  unfold Plant.submit
  rw [found]
  cases p.held? serial with
  | none => exact ⟨rfl, rfl⟩
  | some b => simp [closed, count]

/-- A run that is over for ever: it accepts nothing, has nothing in its queue, and is not the one
that a pipeline still has to stop. -/
structure Retired (p : Plant) (run : Nat) (r : Run) : Prop where
  found : p.runs[run]? = some r
  closed : r.accepting = false
  empty : r.queue = []
  former : ∀ line, p.currentRun? line ≠ some run

/-- A run is over for ever once its stop has returned. -/
theorem Chronicled.retired (chronicled : p.Chronicled)
    (stopped : (p.journal.story run).reports ≠ []) : ∃ r, p.Retired run r := by
  -- A run that has a report was begun, and its report says that it is over.
  cases found : p.runs[run]? with
  | none =>
    have silent := chronicled.silent run (List.getElem?_eq_none_iff.mp found)
    rw [silent] at stopped
    exact absurd rfl stopped
  | some r =>
    rcases (chronicled.recorded run r found).report with ⟨none, -⟩ | ⟨closed, empty, -⟩
    · exact absurd none stopped
    · refine ⟨r, found, closed, empty, ?_⟩
      intro line current
      exact stopped (chronicled.pending line run current)

/-- What became of a run that was over: the sink call of its worker has not come to its end, or it
has, and the buffer inside of it is gone. -/
inductive Aftermath (p after : Plant) (run : Nat) : Prop where
  | same (feeding : after.feeding run = p.feeding run)
      (story : after.journal.story run = p.journal.story run)
  | done {b : Buffer} {a : SinkAnswer} (held : p.feeding run = [b]) (gone : after.feeding run = [])
      (story : after.journal.story run = p.journal.story run ++ [.answered b a])

/-- What became of a run over a while is what became of it first and what became of it then. -/
theorem Aftermath.trans {between : Plant} (first : Aftermath p between run)
    (second : Aftermath between after run) : Aftermath p after run := by
  cases first with
  | same feeding story =>
    cases second with
    | same unchanged untold => exact .same (unchanged.trans feeding) (untold.trans story)
    | done held gone told => exact .done (feeding ▸ held) gone (story ▸ told)
  | done held gone told =>
    cases second with
    | same unchanged untold => exact .done held (unchanged.trans gone) (untold.trans told)
    | done again _ _ =>
      -- The sink call came to its end, so that it cannot do so once more.
      rw [gone] at again
      simp at again

/-- What is told of a run that was over, apart from ends of sink calls, is told already. -/
theorem Aftermath.story_of_silent {α : Type} (aftermath : Aftermath p after run)
    (reading : Happening → Option α) (silent : ∀ b a, reading (.answered b a) = none) :
    (after.journal.story run).filterMap reading = (p.journal.story run).filterMap reading := by
  -- If anything is told, it is the one end of a sink call.
  cases aftermath with
  | same feeding story => rw [story]
  | done held gone story =>
    rw [story, List.filterMap_append, List.filterMap_cons_none (silent _ _), List.filterMap_nil,
      List.append_nil]

/-- A change of another run leaves a run as it is. -/
theorem Aftermath.of_other {n : Nat} {change : Run → Run} (happenings : List Happening)
    (apart : n ≠ run) (runs : after.runs = p.runs.modify n change)
    (journal : after.journal = p.journal ++ happenings.map (n, ·)) : Aftermath p after run := by
  -- Neither its worker nor its story is touched.
  refine .same ?_ ?_
  · unfold feeding
    rw [runs, List.getElem?_modify]
    simp [apart]
  · rw [journal]
    exact p.journal.story_enter_other happenings apart

/-- A plant with the same runs and journal leaves a run as it is. -/
theorem Aftermath.of_same (runs : after.runs = p.runs) (journal : after.journal = p.journal) :
    Aftermath p after run := by
  -- As before, with nothing changed at all.
  refine .same ?_ ?_
  · unfold feeding
    rw [runs]
  · rw [journal]

/-- A worker whose sink call comes to its end has the buffer no more. -/
theorem Aftermath.answer {b : Buffer} {a : SinkAnswer} {worker : Worker}
    (found : p.runs[run]? = some r) (feeding : r.worker = .feeding b) (gone : worker.buffers = [])
    (runs : after.runs = p.runs.modify run fun r => { r with worker })
    (journal : after.journal = p.journal ++ [(run, .answered b a)]) : Aftermath p after run := by
  refine .done (b := b) (a := a) ?_ ?_ ?_
  · -- Before, the worker was inside the sink call.
    rw [Plant.feeding, found]
    show r.worker.buffers = [b]
    rw [feeding]
    rfl
  · -- Afterwards, it is inside none.
    rw [Plant.feeding, runs, List.getElem?_modify, found]
    simpa using gone
  · rw [journal]
    exact p.journal.story_enter run [.answered b a]

/-- A change of a plant lets the worker of a run that is over end its sink call, and nothing else. -/
theorem Retired.change (retired : p.Retired run r) (change : Change p after) :
    Aftermath p after run := by
  -- A change is of another run, of no run at all, or of one of which the run is not.
  have same : ∀ n s, p.runs[n]? = some s → n = run → s = r := by
    rintro n s found rfl
    exact Option.some.inj (found.symm.trans retired.found)
  cases change with
  | @accepted n serial s b found held accepting room =>
    refine .of_other [.accepted b] ?_ rfl rfl
    intro here
    rw [same n s found here, retired.closed] at accepting
    simp at accepting
  | @moved n s worker found moves =>
    -- The worker may be that of the run, or another.
    by_cases here : n = run
    · -- No move that leaves the queue alone begins or ends a sink call.
      subst here
      refine .same ?_ rfl
      have idle : s.worker.buffers = worker.buffers := by
        cases moves with
        | goesOn checking accepting => rw [checking]; rfl
        | ends checking finished => rw [checking]; rfl
        | givesUp receiving empty => rw [receiving]; rfl
      rw [feeding, feeding, List.getElem?_modify, found]
      simp [idle]
    · exact .of_other [] here rfl (List.append_nil _).symm
  | @fed n s b rest found receiving queued =>
    refine .of_other [.fed b] ?_ rfl rfl
    intro here
    rw [same n s found here, retired.empty] at queued
    simp at queued
  | @answered n pool s b a found feeding own returned =>
    by_cases here : n = run
    · subst here
      exact .answer found feeding rfl rfl rfl
    · exact .of_other [.answered b a] here rfl rfl
  | @crashed n s b found feeding =>
    by_cases here : n = run
    · subst here
      exact .answer found feeding rfl rfl rfl
    · exact .of_other [.answered b .crashed] here rfl rfl
  | @started line owned idle =>
    refine .same ?_ rfl
    have inside := (List.getElem?_eq_some_iff.mp retired.found).1
    rw [feeding, feeding, List.getElem?_append_left inside]
  | @told line n s current found =>
    refine .of_other [] ?_ rfl (List.append_nil _).symm
    -- It is not the run that is to be stopped.
    rintro rfl
    exact retired.former line current
  | @stopped line n s current found finished =>
    refine .of_other _ ?_ rfl rfl
    rintro rfl
    exact retired.former line current
  | _ => exact .of_same rfl rfl

/-- A run whose stop has returned, at a plant that a history led to. -/
structure Stopped (p : Plant) (run : Nat) : Prop where
  scheduled : p.Scheduled
  chronicled : p.Chronicled
  reported : (p.journal.story run).reports ≠ []

/-- A run that was stopped is over for ever. -/
theorem Stopped.retired (stopped : p.Stopped run) : ∃ r, p.Retired run r :=
  stopped.chronicled.retired stopped.reported

/-- A step lets the worker of a stopped run end its sink call, and the run stays stopped. -/
theorem Stopped.step (stopped : p.Stopped run) (m : Move) :
    Aftermath p (p.step m) run ∧ (p.step m).Stopped run := by
  -- It is over for ever, so that a change can do no more.
  obtain ⟨r, retired⟩ := stopped.retired
  have change := p.step_change m
  have aftermath := retired.change change
  refine ⟨aftermath, stopped.scheduled.change change,
    stopped.chronicled.change stopped.scheduled change, ?_⟩
  -- The end of a sink call is no report, and takes none back.
  have told := aftermath.story_of_silent Happening.report? fun b a => rfl
  exact ne_of_eq_of_ne told stopped.reported

/-- However a history goes on, the worker of a stopped run can only end the sink call that it was
inside of. -/
theorem Stopped.steps (stopped : p.Stopped run) (later : List Move) :
    Aftermath p (later.foldl Plant.step p) run ∧ (later.foldl Plant.step p).Stopped run := by
  -- By induction on the history, step by step.
  induction later generalizing p with
  | nil => exact ⟨.of_same rfl rfl, stopped⟩
  | cons m rest ih =>
    obtain ⟨first, still⟩ := stopped.step m
    obtain ⟨then_, ever⟩ := ih still
    exact ⟨first.trans then_, ever⟩

/-- A run that is over for ever is over. -/
theorem Retired.ended (retired : p.Retired run r) : p.Ended run :=
  ⟨r, retired.found, retired.closed, retired.empty⟩

/-- A run that is over for ever does so as well. -/
theorem Retired.submit (retired : p.Retired run r) (serial : Nat) :
    (p.submit run serial).1 = false ∧ (p.submit run serial).2.held = p.held :=
  retired.ended.submit serial

/-- A sink call that comes to its end gives its buffer back to the pool of its pipeline, or gives it
up with the worker. Either way the buffer is on loan no more. -/
theorem Wired.answer (wired : p.Wired) {b : Buffer} (found : p.runs[run]? = some r)
    (feeding : r.worker = .feeding b) (a : SinkAnswer) :
    ∃ l, p.lines[r.line]? = some l ∧
      (p.answer run a).pools =
        (if a = .crashed then p.pools.writeOff b else p.pools.giveBack l.pool b) ∧
      (p.answer run a).journal = p.journal ++ [(run, .answered b a)] ∧
      p.buffers.Perm (b :: (p.answer run a).buffers) := by
  -- The pipeline of the run is there, so that there is a pool to give the buffer back to.
  have present := wired.lines r (List.mem_of_getElem? found)
  have there := List.getElem?_eq_getElem present
  have own : p.poolOfRun? run = some (p.lines[r.line]).pool := by
    simp [poolOfRun?, found, there]
  refine ⟨_, there, ?_⟩
  obtain ⟨others, before, changed⟩ := p.buffers_perm_of_run found
  rw [Run.buffers, feeding] at before
  unfold Plant.answer
  simp only [found, feeding, own]
  -- Whether the buffer is given back or up, it is the one that the run loses.
  split
  · exact ⟨rfl, rfl, before.trans ((changed fun r => { r with worker := .crashed }).symm.cons b)⟩
  · exact ⟨rfl, rfl, before.trans ((changed fun r => { r with worker := .checking }).symm.cons b)⟩

end Plant

end TunerControl.Samples
