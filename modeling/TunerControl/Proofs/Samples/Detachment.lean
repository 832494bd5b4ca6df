import Mathlib.Data.List.Basic
import TunerControl.Proofs.Samples.Delivery
import TunerControl.Proofs.Samples.Outline

/-! A run that was stopped is over for ever, and what its worker is still doing then has no influence
on the runs that come after it. -/

namespace TunerControl.Samples

namespace Plant

variable {run : Nat}

/-- The steps of a history tell what the earlier ones tell, and then what the later ones do. -/
theorem answers_append {α : Type} (question : Plant → Move → Option α) (p : Plant)
    (earlier later : List Move) : p.answers question (earlier ++ later) =
      p.answers question earlier ++ (earlier.foldl step p).answers question later := by
  -- The later steps are answered by the plant that the earlier ones lead to.
  induction earlier generalizing p with
  | nil => rfl
  | cons m rest ih =>
    rw [List.cons_append, answers, answers, ih, List.append_assoc]
    rfl

/-- A step of a worker asks for no loan and submits nothing. -/
theorem silent_of_own (p : Plant) {m : Move} (own : m.isOf run = true) :
    p.lends? m = none ∧ p.accepts? m = none := by
  -- What a worker does is to work or to come back from a sink call.
  unfold Move.isOf at own
  split at own
  · exact ⟨rfl, rfl⟩
  · exact ⟨rfl, rfl⟩
  · simp at own

/-- The steps of a worker ask for no loans and submit nothing. -/
theorem answers_of_own (p : Plant) {moves : List Move} (own : ∀ m ∈ moves, m.isOf run = true) :
    p.answers lends? moves = [] ∧ p.answers accepts? moves = [] := by
  -- By induction on the steps, none of which says anything.
  induction moves generalizing p with
  | nil => exact ⟨rfl, rfl⟩
  | cons m rest ih =>
    have silent := p.silent_of_own (own m List.mem_cons_self)
    rw [answers, answers, silent.1, silent.2]
    exact ih (p.step m) fun other member => own other (List.mem_cons_of_mem m member)

/-- Whether a step asks for a loan is up to the step, so that answers to the same steps are the same
one by one. -/
theorem lends?_of_append {p q : Plant} {m : Move} {one two : List Bool}
    (same : (p.lends? m).toList ++ one = (q.lends? m).toList ++ two) :
    p.lends? m = q.lends? m ∧ one = two := by
  have asks : (p.lends? m).isSome = (q.lends? m).isSome := by
    unfold lends?
    split <;> rfl
  -- Either both steps ask, and the first answers are the same, or neither does.
  cases first : p.lends? m with
  | none =>
    cases second : q.lends? m with
    | none => simpa [first, second] using same
    | some made => simp [first, second] at asks
  | some got =>
    cases second : q.lends? m with
    | none => simp [first, second] at asks
    | some made => simpa [first, second] using same

/-- Whatever the worker of a stopped run does, the same is told of the plant. -/
theorem Stopped.outline_of_own {p : Plant} (stopped : p.Stopped run) {moves : List Move}
    (own : ∀ m ∈ moves, m.isOf run = true) :
    (moves.foldl Plant.step p).outline run = p.outline run := by
  -- Each step of its own leaves the run stopped, and the outline as it was.
  induction moves generalizing p with
  | nil => rfl
  | cons m rest ih =>
    obtain ⟨r, retired⟩ := stopped.retired
    rw [← retired.outline_step m (own m List.mem_cons_self)]
    exact ih (stopped.step m).2 fun other member => own other (List.mem_cons_of_mem m member)

/-- Two histories that differ only in what the worker of a stopped run does, and in which the same
loans are made, tell the same, and have the same buffers accepted. -/
theorem Stopped.outline_steps {p q : Plant} (stopped : p.Stopped run) (ended : q.Stopped run)
    (same : p.outline run = q.outline run) {one two : List Move}
    (alike : one.filter (fun m => !m.isOf run) = two.filter fun m => !m.isOf run)
    (lends : p.answers lends? one = q.answers lends? two) :
    (one.foldl Plant.step p).outline run = (two.foldl Plant.step q).outline run ∧
      p.answers accepts? one = q.answers accepts? two := by
  induction one generalizing p q two with
  | nil =>
    -- All that is left of the other history are steps of the worker.
    have own : ∀ m ∈ two, m.isOf run = true := by
      simpa using List.filter_eq_nil_iff.mp alike.symm
    rw [ended.outline_of_own own, (q.answers_of_own own).2]
    exact ⟨same, rfl⟩
  | cons m rest ih =>
    by_cases own : m.isOf run = true
    · -- A step of the worker is left out of the one history.
      obtain ⟨r, retired⟩ := stopped.retired
      have silent := p.silent_of_own own
      rw [List.filter_cons_of_neg (by simp [own])] at alike
      rw [answers, silent.1] at lends
      rw [answers, silent.2]
      exact ih (stopped.step m).2 ended ((retired.outline_step m own).trans same) alike lends
    · -- Any other step is taken in the other history as well, behind some steps of the worker.
      rw [List.filter_cons_of_pos (by simp [own])] at alike
      obtain ⟨skipped, behind, rfl, hidden, -, alike⟩ := List.filter_eq_cons_iff.mp alike.symm
      have hidden : ∀ m ∈ skipped, m.isOf run = true := by simpa using hidden
      obtain ⟨-, still⟩ := ended.steps skipped
      have told := same.trans (ended.outline_of_own hidden).symm
      have silent := q.answers_of_own hidden
      rw [answers_append, silent.1, List.nil_append] at lends
      rw [answers_append, silent.2, List.nil_append, List.foldl_append]
      obtain ⟨loan, loans⟩ := lends?_of_append lends
      obtain ⟨next, accepted⟩ := step_of_outline_eq told m (by simpa using own) loan
      obtain ⟨last, others⟩ := ih (stopped.step m).2 (still.step m).2 next alike.symm loans
      refine ⟨last, ?_⟩
      rw [answers, answers, accepted, others]

/-- The story of another run is told, but for the content of the buffers. -/
theorem outline_story (p : Plant) {other : Nat} (apart : other ≠ run) :
    (p.outline run).journal.story other = (p.journal.story other).map Happening.tag := by
  -- The entries of the other run are all there, and nothing but their buffers is left out.
  unfold Journal.story outline
  rw [List.filterMap_map, List.filterMap_filter, List.map_filterMap]
  apply List.filterMap_congr
  intro entry member
  by_cases here : entry.1 = other
  · subst here
    simp [apart]
  · simp [here]

/-- What a story tells of numbers of buffers it tells without their content. -/
theorem serials_map_tag (reading : Happening → Option Buffer)
    (tagged : ∀ h, reading h.tag = (reading h).map Buffer.tag) (s : Story) :
    ((s.map Happening.tag).filterMap reading).map Buffer.serial =
      (s.filterMap reading).map Buffer.serial := by
  -- A tag keeps the number of a buffer.
  rw [List.filterMap_map, List.map_filterMap, List.map_filterMap]
  apply List.filterMap_congr
  intro h member
  show (reading h.tag).map Buffer.serial = (reading h).map Buffer.serial
  rw [tagged, Option.map_map]
  rfl

/-- The numbers of the buffers on loan are told, but for that of the buffer inside the sink call of
the hidden worker. -/
theorem outline_buffers (p : Plant) :
    (p.buffers.map Buffer.serial).Perm
      ((p.outline run).buffers.map Buffer.serial ++ (p.feeding run).map Buffer.serial) := by
  -- All runs are told with their workers, and then the one worker is hidden.
  have sketched : (p.outline run).runs =
      (p.runs.map (Run.sketch false)).modify run fun r => { r with worker := .ended } := by
    apply List.ext_getElem?
    intro n
    rw [outline_runs, List.getElem?_modify, List.getElem?_map]
    cases p.runs[n]? with
    | none => rfl
    | some r =>
      by_cases here : n = run
      · simp [here, Run.sketch, Worker.sketch]
      · simp [here, Ne.symm here]
  have holds : ∀ r : Run, (r.sketch false).buffers.map Buffer.serial =
      r.buffers.map Buffer.serial := by
    rintro ⟨line, accepting, queue, worker⟩
    cases worker <;> simp [Run.sketch, Worker.sketch, Run.buffers, Worker.buffers]
  have runs : (p.runs.flatMap Run.buffers).map Buffer.serial =
      (p.runs.map (Run.sketch false)).flatMap fun r => r.buffers.map Buffer.serial := by
    rw [List.map_flatMap, List.flatMap_map]
    simp only [holds]
  have held : (p.outline run).held.map Buffer.serial = p.held.map Buffer.serial := by
    simp [outline]
  rw [buffers, buffers, List.map_append, List.map_append, held, List.append_assoc, runs, sketched,
    List.map_flatMap]
  apply List.Perm.append_left
  cases found : p.runs[run]? with
  | none =>
    rw [List.modify_eq_self (by simpa using found), feeding, found]
    simp
  | some r =>
    have present : (p.runs.map (Run.sketch false))[run]? = some (r.sketch false) := by
      simp [found]
    obtain ⟨others, whole, rest⟩ :=
      flatMap_modify_perm (fun r : Run => r.buffers.map Buffer.serial) present
    have rest := rest fun r => { r with worker := .ended }
    have queued : ({ r.sketch false with worker := .ended } : Run).buffers.map Buffer.serial =
        r.queue.map Buffer.serial := by
      simp [Run.sketch, Run.buffers, Worker.buffers]
    have inside : p.feeding run = r.worker.buffers := by
      rw [feeding, found]
    rw [queued] at rest
    rw [holds, Run.buffers, List.map_append, ← inside, List.append_assoc] at whole
    exact whole.trans (List.perm_append_comm.trans (rest.symm.append_right _))

/-- Two plants look alike but for what the worker of a run has done: each other run has accepted and
fed the same buffers, and the same buffers are on loan but for the one that the worker may have. -/
structure AlikeApart (run : Nat) (q q' : Plant) : Prop where
  accepted : ∀ other, other ≠ run →
    (q'.journal.story other).accepted.map Buffer.serial =
      (q.journal.story other).accepted.map Buffer.serial
  fed : ∀ other, other ≠ run →
    (q'.journal.story other).fed.map Buffer.serial = (q.journal.story other).fed.map Buffer.serial
  loans : ((q'.buffers ++ q.feeding run).map Buffer.serial).Perm
    ((q.buffers ++ q'.feeding run).map Buffer.serial)

/-- Plants of which the same is told look alike, but for what the hidden worker has done. -/
theorem alikeApart_of_outline_eq {p q : Plant} (same : p.outline run = q.outline run) :
    AlikeApart run q p := by
  -- What is told of a run's story is enough for the numbers that any reading of it finds.
  have agree : ∀ reading : Happening → Option Buffer,
      (∀ h, reading h.tag = (reading h).map Buffer.tag) → ∀ other, other ≠ run →
        ((p.journal.story other).filterMap reading).map Buffer.serial =
          ((q.journal.story other).filterMap reading).map Buffer.serial := by
    intro reading tagged other apart
    have stories : (p.journal.story other).map Happening.tag =
        (q.journal.story other).map Happening.tag := by
      rw [← p.outline_story apart, same, q.outline_story apart]
    rw [← serials_map_tag _ tagged, stories, serials_map_tag _ tagged]
  refine ⟨agree Happening.accepted? ?_, agree Happening.fed? ?_, ?_⟩
  · -- A reading looks at the kind of happening, which its tag keeps.
    intro h
    cases h <;> rfl
  · intro h
    cases h <;> rfl
  · -- Either plant has what is told and what its own worker has.
    refine List.perm_iff_count.mpr fun serial => ?_
    have mine := (@outline_buffers run p).count_eq serial
    have others := (@outline_buffers run q).count_eq serial
    rw [same] at mine
    simp only [List.map_append, List.count_append] at mine others ⊢
    omega

/-- A run whose stop returns is stopped. -/
theorem afterMoves_stopped (earlier : List Move) {line run : Nat}
    (current : (afterMoves earlier).currentRun? line = some run)
    (returns : (afterMoves earlier).admits (.completeStop line) = true) :
    (afterMoves (earlier ++ [.completeStop line])).Stopped run := by
  have scheduled := afterMoves_scheduled (earlier ++ [.completeStop line])
  have chronicled := afterMoves_chronicled (earlier ++ [.completeStop line])
  refine ⟨scheduled, chronicled, ?_⟩
  obtain ⟨r, found, -⟩ := (afterMoves_scheduled earlier).known line run current
  have entered := (afterMoves earlier).completeStop_journal current found
  have step : afterMoves (earlier ++ [.completeStop line]) =
      ((afterMoves earlier).completeStop line).2 := by
    rw [afterMoves_append]
    exact if_pos returns
  -- The report is the last that is entered for the run.
  rw [step, entered, Journal.story_enter, Story.reports, List.filterMap_append,
    List.filterMap_append]
  simp

/-- What is left of a run in a plant that comes after the one that its stop led to. -/
structure Detached (p q : Plant) (run : Nat) : Prop where
  /-- The producers' handles say that the run is over. -/
  closed : q.isAccepting run = false
  /-- They turn down every buffer, which stays with the caller. -/
  rejects : ∀ serial, (q.submit run serial).1 = false ∧ (q.submit run serial).2.held = q.held
  /-- At most the sink call that the worker was inside of has come to its end. -/
  course : (q.journal.story run = p.journal.story run ∧ q.feeding run = p.feeding run) ∨
    ∃ b a, p.feeding run = [b] ∧ q.feeding run = [] ∧
      q.journal.story run = p.journal.story run ++ [.answered b a]
  /-- No further buffer was passed to the sink. -/
  fed : (q.journal.story run).fed = (p.journal.story run).fed
  /-- No buffer that was passed to the sink was accepted by another run. -/
  apart : ∀ other, other ≠ run → ∀ b ∈ (q.journal.story run).fed,
    ∀ c ∈ (q.journal.story other).accepted, c.serial ≠ b.serial
  /-- Once the sink call is over, no other comes to its end. -/
  spent : ∀ a, q.feeding run = [] → q.answer run a = q
  /-- When it ends, the one buffer is given back, or up if the call does not return. -/
  returns : ∀ a b, q.feeding run = [b] → ∃ r l, q.runs[run]? = some r ∧
    q.lines[r.line]? = some l ∧
    (q.answer run a).pools =
      (if a = .crashed then q.pools.writeOff b else q.pools.giveBack l.pool b) ∧
    (q.answer run a).journal = q.journal ++ [(run, .answered b a)] ∧
    q.buffers.Perm (b :: (q.answer run a).buffers)

/-- However a history goes on that has led to the stop of a run, nothing else is left of the run. -/
theorem Stopped.detached {p : Plant} (stopped : p.Stopped run) (later : List Move)
    (once : (later.foldl Plant.step p).AcceptsOnce) (wired : (later.foldl Plant.step p).Wired) :
    p.Detached (later.foldl Plant.step p) run := by
  obtain ⟨aftermath, still⟩ := stopped.steps later
  generalize later.foldl Plant.step p = q at *
  obtain ⟨r, retired⟩ := still.retired
  have inside : q.feeding run = r.worker.buffers := by
    rw [feeding, retired.found]
  refine ⟨?_, retired.submit, ?_, aftermath.story_of_silent Happening.fed? fun b a => rfl, ?_, ?_, ?_⟩
  · -- Every handle of a retired run reads the same flag.
    rw [isAccepting, retired.found]
    exact retired.closed
  · -- All that can have happened is that the sink call came to its end.
    cases aftermath with
    | same feeding story => exact Or.inl ⟨story, feeding⟩
    | done held gone story => exact Or.inr ⟨_, _, held, gone, story⟩
  · -- What was fed was accepted by the run, and no other run accepted it.
    intro other apart b fed c accepted
    have order := (still.chronicled.outcome run).1
    refine once.apart apart ?_ accepted
    rw [order]
    exact List.mem_append_left _ (List.mem_append_left _ fed)
  · -- Only a worker inside a sink call can have one that ends.
    intro a idle
    rw [inside] at idle
    unfold Plant.answer
    simp only [retired.found]
    cases worker : r.worker with
    | feeding b => simp [worker, Worker.buffers] at idle
    | _ => rfl
  · -- The pipeline of the run is still there, and so is its pool.
    intro a b busy
    rw [inside] at busy
    have feeding : r.worker = .feeding b := by
      cases worker : r.worker with
      | feeding c => simpa [worker, Worker.buffers] using busy
      | _ => simp [worker, Worker.buffers] at busy
    obtain ⟨l, there, answered⟩ := wired.answer retired.found feeding a
    exact ⟨r, l, retired.found, there, answered⟩

/-- What holds of a run from then on that its stop has returned, however the history goes on. Its
producers' handles turn down every buffer and say that it is over. Its worker passes no further
buffer to the sink: the most it does is to end the sink call that it was inside of, which gives the
one buffer back, or up if the call does not return. Other runs do not depend on it: if the history
goes on in another way in which only the steps of this worker are others and the same loans are made,
the same submissions are accepted, and each run accepts and feeds the same buffers in the same order.
The buffers on loan are the same then, but for the one that the worker may still have. -/
theorem afterMoves_detachment (earlier later : List Move) {line run : Nat}
    (current : (afterMoves earlier).currentRun? line = some run)
    (returns : (afterMoves earlier).admits (.completeStop line) = true) :
    let before := earlier ++ [.completeStop line]
    let p := afterMoves before
    let q := afterMoves (before ++ later)
    p.Detached q run ∧
    ∀ instead, instead.filter (fun m => !m.isOf run) = later.filter (fun m => !m.isOf run) →
      p.answers lends? instead = p.answers lends? later →
      p.answers accepts? instead = p.answers accepts? later ∧
      AlikeApart run q (afterMoves (before ++ instead)) := by
  intro before p q
  have stopped : p.Stopped run := afterMoves_stopped earlier current returns
  have later_eq : q = later.foldl Plant.step p := afterMoves_append before later
  have once : q.AcceptsOnce := afterMoves_acceptsOnce (before ++ later)
  have wired : q.Wired := afterMoves_wired (before ++ later)
  rw [later_eq] at once wired ⊢
  refine ⟨stopped.detached later once wired, fun instead alike lends => ?_⟩
  -- Both histories go on from the same stopped run, and tell the same of everything else.
  rw [afterMoves_append before instead]
  obtain ⟨same, accepted⟩ := stopped.outline_steps stopped rfl alike lends
  exact ⟨accepted, alikeApart_of_outline_eq same⟩

/-- A run whose worker is stuck with a buffer while another one is queued, up to where its stop gives
up waiting. -/
def stuckHistory : List Move :=
  [.addLine { bufferCount := 3, bufferSize := 2, queueCapacity := 2 }, .start 0] ++
    ([.loan 0, .loan 0, .submit 0 0, .submit 0 1, .work 0, .work 0].map .background) ++
    [.requestStop 0]

/-- A second run of the pipeline, which is refused nothing. -/
def secondRun : List Move :=
  [.start 0] ++ [.loan 1, .loan 1, .submit 1 2, .work 1, .work 1, .submit 1 3].map .background

/-- Whether or not the stuck worker returns its buffer at last, the second run has its two buffers
accepted. -/
theorem stuckHistory_detachment :
    let before := stuckHistory ++ [.completeStop 0]
    let returning := secondRun ++ [.background (.answer 0 .taken)]
    let p := afterMoves before
    let q := afterMoves (before ++ returning)
    let stuck := afterMoves (before ++ secondRun)
    q.isAccepting 0 = false ∧ (q.journal.story 0).fed = (p.journal.story 0).fed ∧
    p.answers accepts? secondRun = p.answers accepts? returning ∧
    p.answers accepts? secondRun = [true, true] ∧
    ((stuck.buffers ++ q.feeding 0).map Buffer.serial).Perm
      ((q.buffers ++ stuck.feeding 0).map Buffer.serial) ∧
    (stuck.feeding 0).map Buffer.serial = [0] ∧ q.feeding 0 = [] := by
  -- What the two histories come to is known from the theorem, and what their steps tell is
  -- computed.
  intro before returning p q stuck
  obtain ⟨detached, apart⟩ :=
    @afterMoves_detachment stuckHistory returning 0 0 (by decide) (by decide)
  obtain ⟨accepted, alike⟩ := apart secondRun (by decide) (by decide)
  exact ⟨detached.closed, detached.fed, accepted, by decide, alike.loans, by decide, by decide⟩

end Plant

end TunerControl.Samples
