import Mathlib.Data.List.Basic
import TunerControl.Proofs.Samples.Wiring
import TunerControl.Samples.Account

/-! The counters of a pipeline agree with what happened in its runs, so that they account for every
buffer that was accepted. -/

namespace TunerControl.Samples

/-- The entries of a kind are a changed one, if it is of the kind, and the others, whatever it
becomes within its kind. -/
theorem filter_modify_perm {α : Type} (kind : α → Bool) {l : List α} {n : Nat} {a : α}
    (found : l[n]? = some a) :
    ∃ others, (l.filter kind).Perm ((if kind a then [a] else []) ++ others) ∧
      ∀ f : α → α, kind (f a) = kind a →
        ((l.modify n f).filter kind).Perm ((if kind a then [f a] else []) ++ others) := by
  -- A filter takes each entry of the kind, and nothing for any other one.
  have taken : ∀ l : List α, l.filter kind = l.flatMap fun a => if kind a then [a] else [] := by
    intro l
    induction l with
    | nil => rfl
    | cons a rest ih =>
      rw [List.flatMap_cons, ← ih, List.filter_cons]
      split <;> rfl
  obtain ⟨others, before, after⟩ := flatMap_modify_perm (fun a => if kind a then [a] else []) found
  refine ⟨others, taken l ▸ before, ?_⟩
  intro f same
  rw [taken]
  have changed := after f
  rwa [same] at changed

/-- What the counters of a pipeline say of the story of its runs, and where the buffers are that the
runs accepted. -/
structure Books (s : Story) (stats : Stats) (runs : List Run) : Prop where
  submitted : stats.submitted = s.accepted.length
  completed : stats.forwarded + stats.sinkErrors = s.completed.length
  dropped : stats.droppedAtStop = s.discarded.length
  places : s.accepted.Perm (s.completed ++ s.lost ++ s.discarded ++ runs.flatMap Run.buffers)
  wrecks : s.lost.length = runs.countP (·.worker = .crashed)

namespace Books

variable {s : Story} {stats : Stats} {runs : List Run} {r changed : Run}

/-- It does not matter in which order the runs are. -/
theorem perm (books : Books s stats runs) {others : List Run} (moved : runs.Perm others) :
    Books s stats others where
  -- Only where the buffers are depends on the runs, and on which of them there are.
  submitted := books.submitted
  completed := books.completed
  dropped := books.dropped
  places := books.places.trans ((moved.flatMap_right _).append_left _)
  wrecks := books.wrecks.trans (moved.countP_eq _)

/-- What happens in a run is entered into the books if the counters count it, and if every buffer
that comes to the run or goes is in its place. -/
theorem enter (books : Books s stats (r :: runs)) (news : Story) {after : Stats}
    (submitted : after.submitted = stats.submitted + news.accepted.length)
    (completed : after.forwarded + after.sinkErrors =
      stats.forwarded + stats.sinkErrors + news.completed.length)
    (dropped : after.droppedAtStop = stats.droppedAtStop + news.discarded.length)
    (places : (r.buffers ++ news.accepted).Perm
      (news.completed ++ news.lost ++ news.discarded ++ changed.buffers))
    (wrecks : [changed].countP (·.worker = .crashed) =
      [r].countP (·.worker = .crashed) + news.lost.length) :
    Books (s ++ news) after (changed :: runs) := by
  -- Each reading of the longer story is that of the story so far with that of the news behind it.
  have read : ∀ reading : Happening → Option Buffer, ((s ++ news).filterMap reading).length =
      (s.filterMap reading).length + (news.filterMap reading).length := by
    intro reading
    rw [List.filterMap_append, List.length_append]
  refine ⟨?_, ?_, ?_, ?_, ?_⟩
  · rw [submitted, books.submitted, read]
  · rw [completed, books.completed, read]
  · rw [dropped, books.dropped, read]
  · -- A buffer is as often among the places as it was accepted, before and in what happens.
    refine List.perm_iff_count.mpr fun b => ?_
    have before := books.places.count_eq b
    have moved := places.count_eq b
    simp only [Story.accepted, Story.completed, Story.lost, Story.discarded, List.filterMap_append,
      List.flatMap_cons, List.count_append] at before moved ⊢
    omega
  · have before := books.wrecks
    rw [List.countP_cons] at before ⊢
    rw [List.countP_singleton, List.countP_singleton] at wrecks
    have told : (s ++ news).lost.length = s.lost.length + news.lost.length := read _
    omega

/-- A run that changes without anything to tell keeps its buffers. -/
theorem change (books : Books s stats (r :: runs)) (kept : changed.buffers = r.buffers)
    (wrecks : changed.worker = .crashed ↔ r.worker = .crashed) : Books s stats (changed :: runs) where
  -- Its buffers are in the same place, and it is as lost as before.
  submitted := books.submitted
  completed := books.completed
  dropped := books.dropped
  places := by
    rw [List.flatMap_cons, kept]
    exact books.places
  wrecks := by
    have before := books.wrecks
    rw [List.countP_cons] at before ⊢
    simpa [wrecks] using before

/-- A buffer that is accepted comes to the queue. -/
theorem accept (books : Books s stats (r :: runs)) (b : Buffer) :
    Books (s ++ [.accepted b]) { stats with submitted := stats.submitted + 1 }
      ({ r with queue := r.queue ++ [b] } :: runs) := by
  -- One more is submitted and in the queue, and nothing else is told.
  apply books.enter
  · rfl
  · rfl
  · rfl
  · show (r.worker.buffers ++ r.queue ++ [b]).Perm (r.worker.buffers ++ (r.queue ++ [b]))
    rw [List.append_assoc]
  · rfl

/-- A buffer that is fed goes from the queue into the sink call. -/
theorem feed (books : Books s stats (r :: runs)) {b : Buffer} {rest : List Buffer}
    (receiving : r.worker = .receiving) (queued : r.queue = b :: rest) :
    Books (s ++ [.fed b]) stats ({ r with worker := .feeding b, queue := rest } :: runs) := by
  -- The buffer stays with the run.
  apply books.enter
  · rfl
  · rfl
  · rfl
  · show (r.worker.buffers ++ r.queue ++ []).Perm ([b] ++ rest)
    rw [receiving, queued, List.append_nil]
    exact List.Perm.refl _
  · rw [List.countP_singleton, List.countP_singleton, receiving]
    rfl

/-- A buffer whose sink call returns is counted by how that ended, and gone. -/
theorem answer (books : Books s stats (r :: runs)) {b : Buffer} {a : SinkAnswer}
    (feeding : r.worker = .feeding b) (returned : a ≠ .crashed) :
    Books (s ++ [.answered b a]) (stats.afterAnswer a) ({ r with worker := .checking } :: runs) := by
  -- The buffer leaves the run for those that came back.
  have gone : (r.worker.buffers ++ r.queue ++ []).Perm ([b] ++ [] ++ [] ++ ([] ++ r.queue)) := by
    rw [feeding, List.append_nil]
    exact List.Perm.refl _
  have sound : [({ r with worker := .checking } : Run)].countP (·.worker = .crashed) =
      [r].countP (·.worker = .crashed) + 0 := by
    rw [List.countP_singleton, List.countP_singleton, feeding]
    rfl
  cases a with
  -- One counter or the other is for buffers whose sink calls return.
  | taken => exact books.enter _ rfl (Nat.add_right_comm ..) rfl gone sound
  | refused => exact books.enter _ rfl rfl rfl gone sound
  | crashed => exact absurd rfl returned

/-- A buffer whose sink call does not return is lost with the worker. -/
theorem crash (books : Books s stats (r :: runs)) {b : Buffer} (feeding : r.worker = .feeding b) :
    Books (s ++ [.answered b .crashed]) (stats.afterAnswer .crashed)
      ({ r with worker := .crashed } :: runs) := by
  -- The buffer leaves the run for those that were lost, of which there is one for each crashed
  -- worker.
  apply books.enter
  · rfl
  · rfl
  · rfl
  · show (r.worker.buffers ++ r.queue ++ []).Perm ([] ++ [b] ++ [] ++ ([] ++ r.queue))
    rw [feeding, List.append_nil]
    exact List.Perm.refl _
  · rw [List.countP_singleton, List.countP_singleton, feeding]
    rfl

/-- A reading that looks neither for discarded buffers nor for reports finds nothing in a stop. -/
theorem stop_silent {α : Type} (reading : Happening → Option α)
    (discards : ∀ b, reading (.discarded b) = none) (queue : List Buffer) (report : StopReport)
    (stops : reading (.stopped report) = none) :
    (queue.map Happening.discarded ++ [Happening.stopped report]).filterMap reading = [] := by
  -- Entry by entry: a discarded buffer, or the report.
  refine List.filterMap_eq_nil_iff.mpr fun happening member => ?_
  rcases List.mem_append.mp member with discarded | stopped
  · obtain ⟨b, -, rfl⟩ := List.mem_map.mp discarded
    exact discards b
  · rw [List.mem_singleton.mp stopped]
    exact stops

/-- What is queued at a stop is discarded. -/
theorem stop (books : Books s stats (r :: runs)) (report : StopReport) :
    Books (s ++ (r.queue.map .discarded ++ [.stopped report]))
      { stats with droppedAtStop := stats.droppedAtStop + r.queue.length }
      ({ r with queue := [] } :: runs) := by
  have discarded : Story.discarded (r.queue.map Happening.discarded ++
      [Happening.stopped report]) = r.queue := by
    simp [Function.comp_def, List.filterMap_cons]
  -- Of all readings of these entries, only that of discarded buffers finds anything.
  have accepted := stop_silent Happening.accepted? (fun _ => rfl) r.queue report rfl
  have completed := stop_silent Happening.completed? (fun _ => rfl) r.queue report rfl
  have lost := stop_silent Happening.lost? (fun _ => rfl) r.queue report rfl
  apply books.enter
  · rw [Story.accepted, accepted]
    rfl
  · rw [Story.completed, completed]
    rfl
  · rw [discarded]
  · rw [discarded, Story.accepted, accepted, Story.completed, completed, Story.lost, lost]
    show (r.worker.buffers ++ r.queue ++ []).Perm ([] ++ [] ++ r.queue ++ (r.worker.buffers ++ []))
    simpa using List.perm_append_comm
  · rw [Story.lost, lost]
    rfl

end Books

namespace Plant

variable {p after : Plant}

/-- What happens in a run is told by the story of its pipeline, and of no other. -/
theorem storyOn_enter {n : Nat} {r : Run} {change : Run → Run} (found : p.runs[n]? = some r)
    (happenings : List Happening) (runs : after.runs = p.runs.modify n change)
    (moves : ∀ r, (change r).line = r.line)
    (journal : after.journal = p.journal ++ happenings.map (n, ·)) (line : Nat) :
    after.storyOn line = p.storyOn line ++ if r.line = line then happenings else [] := by
  have same : ∀ run : Nat, after.runs[run]?.map Run.line = p.runs[run]?.map Run.line := by
    intro run
    rw [← List.getElem?_map, ← List.getElem?_map, runs, p.runLines_modify n moves]
  unfold storyOn
  rw [journal, List.filterMap_append]
  simp only [same]
  congr 1
  -- All that is new is of the one run.
  simp only [List.filterMap_map, Function.comp_def, found, Option.map_some, Option.some.injEq]
  split
  · exact List.filterMap_some
  · exact List.filterMap_eq_nil_iff.mpr fun _ _ => rfl

/-- A run that begins has no story yet. -/
theorem storyOn_start (wired : p.Wired) (new : Run)
    (runs : after.runs = p.runs ++ [new]) (journal : after.journal = p.journal) (line : Nat) :
    after.storyOn line = p.storyOn line := by
  -- No entry is of the new run, so that its pipeline makes no difference.
  unfold storyOn
  rw [journal]
  apply List.filterMap_congr
  intro entry member
  -- Every entry is of a run that was there before.
  show (if (after.runs[entry.1]?.map Run.line) = some line then some entry.2 else none) = _
  rw [runs, List.getElem?_append_left (wired.entries entry member)]

/-- Nothing happened in the runs of a pipeline that is not there yet. -/
theorem Wired.storyOn_beyond (wired : p.Wired) {line : Nat} (beyond : ¬line < p.lines.length) :
    p.storyOn line = [] := by
  -- Every entry is of a run, and every run is of a pipeline that is there.
  refine List.filterMap_eq_nil_iff.mpr fun entry member => if_neg fun same => ?_
  obtain ⟨r, there, rfl⟩ := Option.map_eq_some_iff.mp same
  exact beyond (wired.lines r (List.mem_of_getElem? there))

/-- The runs of a pipeline are a changed one, if it is of the pipeline, and the others. -/
theorem runsOn_perm {n : Nat} {r : Run} (found : p.runs[n]? = some r) (line : Nat) :
    ∃ others, (p.runsOn line).Perm ((if r.line = line then [r] else []) ++ others) ∧
      ∀ (change : Run → Run), (∀ r, (change r).line = r.line) →
        ((p.runs.modify n change).filter (·.line = line)).Perm
          ((if r.line = line then [change r] else []) ++ others) := by
  -- The runs of a pipeline are filtered out of all, and a run stays of its pipeline.
  obtain ⟨others, before, changed⟩ := filter_modify_perm (fun r : Run => r.line = line) found
  refine ⟨others, by simpa [runsOn] using before, ?_⟩
  intro change same
  simpa using changed change (by simp [same])

/-- The counters of each pipeline agree with the story of its runs. -/
def Booked (p : Plant) : Prop :=
  ∀ (line : Nat) (l : Line), p.lines[line]? = some l →
    Books (p.storyOn line) l.stats (p.runsOn line)

/-- Every pipeline afterwards was there before, with counters that were adjusted if it is a given
one. -/
def Adjusted (p after : Plant) (line : Nat) (adjust : Stats → Stats) : Prop :=
  ∀ (i : Nat) (l : Line), after.lines[i]? = some l →
    ∃ before, p.lines[i]? = some before ∧ l.pool = before.pool ∧
      l.stats = if line = i then adjust before.stats else before.stats

/-- Counters that are left alone are adjusted by nothing. -/
theorem Adjusted.of_same (lines : after.lines = p.lines) (line : Nat) : Adjusted p after line id := by
  -- Nothing comes of adjusting by nothing.
  intro i l found
  refine ⟨l, lines ▸ found, rfl, ?_⟩
  rw [id, ite_self]

/-- A pipeline that is changed in its place has its counters adjusted. -/
theorem Adjusted.of_modify {line : Nat} {adjust : Stats → Stats} {change : Line → Line}
    (lines : after.lines = p.lines.modify line change) (pool : ∀ l, (change l).pool = l.pool)
    (stats : ∀ l, (change l).stats = adjust l.stats) : Adjusted p after line adjust := by
  -- It keeps its pool, and the others keep all they have.
  intro i l found
  rw [lines] at found
  obtain ⟨before, present, rfl⟩ := exists_of_getElem?_modify found
  refine ⟨before, present, ?_, ?_⟩
  · split
    · exact pool before
    · rfl
  · split
    · exact stats before
    · rfl

/-- A plant with the same runs and journal is booked as well if the counters are, as they were
adjusted. -/
theorem Booked.of_same (booked : p.Booked) {line : Nat} {adjust : Stats → Stats}
    (runs : after.runs = p.runs) (journal : after.journal = p.journal)
    (lines : Adjusted p after line adjust)
    (same : ∀ s stats runs, Books s stats runs → Books s (adjust stats) runs) : after.Booked := by
  -- Story and runs of each pipeline are the same, and its counters are adjusted or not.
  intro i l found
  obtain ⟨before, present, -, stats⟩ := lines i l found
  have books := booked i before present
  have story : after.storyOn i = p.storyOn i := by
    unfold storyOn
    rw [runs, journal]
  have sameRuns : after.runsOn i = p.runsOn i := congrArg _ runs
  rw [story, sameRuns, stats]
  split
  · exact same _ _ _ books
  · exact books

/-- A run that changes keeps the plant booked if its pipeline's books enter what happens. -/
theorem Booked.changeRun (booked : p.Booked) {n : Nat} {r : Run} {change : Run → Run}
    (news : Story) (adjust : Stats → Stats) (found : p.runs[n]? = some r)
    (runs : after.runs = p.runs.modify n change) (line : ∀ r, (change r).line = r.line)
    (journal : after.journal = p.journal ++ news.map (n, ·))
    (lines : Adjusted p after r.line adjust)
    (enters : ∀ s stats others, Books s stats (r :: others) →
      Books (s ++ news) (adjust stats) (change r :: others)) : after.Booked := by
  -- The runs of a pipeline are taken in an order in which the changed one is the first.
  intro i l present
  obtain ⟨before, earlier, -, stats⟩ := lines i l present
  obtain ⟨others, parted, changed⟩ := runsOn_perm found i
  have books := (booked i before earlier).perm parted
  have last := (changed change line).symm
  rw [storyOn_enter found news runs line journal i, stats, runsOn, runs]
  by_cases own : r.line = i
  · -- The books of the run's own pipeline enter what happens in it.
    rw [if_pos own] at books last ⊢
    rw [if_pos own]
    exact (enters _ _ _ books).perm last
  · -- The books of the other pipelines know nothing of it.
    rw [if_neg own] at books last ⊢
    rw [if_neg own, List.append_nil]
    exact books.perm last

/-- A new pipeline has counted nothing, and has no runs in which anything happened. -/
theorem Booked.addLine (booked : p.Booked) (wired : p.Wired) (config : PipelineConfig) :
    (p.addLine config).Booked := by
  intro i l found
  change (p.lines ++ [_])[i]? = some l at found
  rw [List.getElem?_append] at found
  split at found
  · exact booked i l found
  · -- No run is of a pipeline that is not there yet.
    rename_i beyond
    have new : l.stats = { } := by
      obtain ⟨-, rfl⟩ := List.getElem?_eq_some_iff.mp found
      simp
    have empty : (p.addLine config).storyOn i = [] := wired.storyOn_beyond beyond
    have none : (p.addLine config).runsOn i = [] := by
      refine List.filter_eq_nil_iff.mpr fun r member same => ?_
      have := wired.lines r member
      have := of_decide_eq_true same
      omega
    rw [new, empty, none]
    exact ⟨rfl, rfl, rfl, List.Perm.refl _, rfl⟩

/-- A run that begins adds nothing to the books of its pipeline. -/
theorem Booked.start (booked : p.Booked) (wired : p.Wired) {line : Nat} {new : Run}
    (idle : new.buffers = []) (sound : new.worker ≠ .crashed)
    (runs : after.runs = p.runs ++ [new]) (journal : after.journal = p.journal)
    (lines : Adjusted p after line id) : after.Booked := by
  intro i l present
  obtain ⟨before, earlier, -, stats⟩ := lines i l present
  have books := booked i before earlier
  rw [id, ite_self] at stats
  rw [storyOn_start wired _ runs journal, stats, runsOn, runs, List.filter_append]
  -- Whether or not the new run is of the pipeline, there is nothing in it to account for.
  refine ⟨books.submitted, books.completed, books.dropped, ?_, ?_⟩
  · -- It holds no buffers.
    have nothing : ([new].filter (·.line = i)).flatMap Run.buffers = [] := by
      rw [List.filter_cons, List.filter_nil]
      split <;> simp [idle]
    rw [List.flatMap_append, nothing, List.append_nil]
    exact books.places
  · have nothing : ([new].filter (·.line = i)).countP (·.worker = .crashed) = 0 := by
      rw [List.filter_cons, List.filter_nil]
      split <;> simp [sound]
    rw [List.countP_append, nothing, Nat.add_zero]
    exact books.wrecks

/-- Every change of a plant keeps it booked. -/
theorem Booked.change (booked : p.Booked) (wired : p.Wired) (scheduled : p.Scheduled)
    (change : Change p after) : after.Booked := by
  -- Whatever a counter counts happens in a single run, and moves a buffer from or to a place in it.
  cases change with
  | nothing => exact booked
  | poolAdded capacity blockSize => exact booked
  | lineAdded config => exact booked.addLine wired config
  | poolGone pool unused => exact booked
  | lineDropped line idle =>
    have lines : Adjusted p (p.dropLine line) line id :=
      .of_modify rfl (fun _ => rfl) fun _ => rfl
    exact booked.of_same rfl rfl lines fun s stats runs books => books
  | lent found lends => exact booked
  | edited serial same => exact booked
  | givenUp held => exact booked
  | rejected line =>
    -- A submission that is turned down is only counted as such.
    have lines : Adjusted p (p.count line fun s => { s with rejected := s.rejected + 1 }) line
        fun s => { s with rejected := s.rejected + 1 } :=
      .of_modify rfl (fun _ => rfl) fun _ => rfl
    exact booked.of_same rfl rfl lines fun s stats runs books =>
      ⟨books.submitted, books.completed, books.dropped, books.places, books.wrecks⟩
  | accepted found held accepting room =>
    exact booked.changeRun [.accepted _]
      (fun stats => { stats with submitted := stats.submitted + 1 }) found rfl (fun _ => rfl) rfl
      (.of_modify rfl (fun _ => rfl) fun _ => rfl) fun s stats others books => books.accept _
  | moved found moves =>
    refine booked.changeRun [] id found rfl (fun _ => rfl) (List.append_nil _).symm
      (.of_same rfl _) fun s stats others books => ?_
    rw [List.append_nil]
    -- A worker that moves without its queue has no buffer, before or after.
    cases moves with
    | goesOn checking accepting =>
      exact books.change (by simp [Run.buffers, checking, Worker.buffers]) (by simp [checking])
    | ends checking finished =>
      exact books.change (by simp [Run.buffers, checking, Worker.buffers]) (by simp [checking])
    | givesUp receiving empty =>
      exact books.change (by simp [Run.buffers, receiving, Worker.buffers]) (by simp [receiving])
  | fed found receiving queued =>
    exact booked.changeRun [.fed _] id found rfl (fun _ => rfl) rfl (.of_same rfl _)
      fun s stats others books => books.feed receiving queued
  | @answered run pool r b a found feeding own returned =>
    exact booked.changeRun [.answered b a] (·.afterAnswer a) found rfl (fun _ => rfl) rfl
      (.of_modify rfl (fun _ => rfl) fun _ => rfl)
      fun s stats others books => books.answer feeding returned
  | crashed found feeding =>
    exact booked.changeRun [.answered _ .crashed] (·.afterAnswer .crashed) found rfl
      (fun _ => rfl) rfl (.of_modify rfl (fun _ => rfl) fun _ => rfl)
      fun s stats others books => books.crash feeding
  | started owned idle =>
    refine booked.start wired rfl ?_ rfl rfl (.of_modify rfl (fun _ => rfl) fun _ => rfl)
    simp
  | told current found =>
    refine booked.changeRun [] id found rfl (fun _ => rfl) (List.append_nil _).symm
      (.of_same rfl _) fun s stats others books => ?_
    rw [List.append_nil]
    exact books.change rfl Iff.rfl
  | @stopped line run r current found finished =>
    -- The run that a pipeline has to stop is its own, so that its own books are closed.
    obtain ⟨own, present, same⟩ := scheduled.known line run current
    have same : r.line = line := Option.some.inj (found.symm.trans present) ▸ same
    subst same
    refine booked.changeRun (r.queue.map Happening.discarded ++
      [Happening.stopped ⟨r.worker.isGone, r.queue.length⟩])
      (fun stats => { stats with droppedAtStop := stats.droppedAtStop + r.queue.length }) found rfl
      (fun _ => rfl) rfl ?_ ?_
    · -- The pipeline changes twice: in its counters, and in the run that it has to stop.
      intro i l found
      obtain ⟨between, present, rfl⟩ := exists_of_getElem?_modify found
      obtain ⟨before, earlier, rfl⟩ := exists_of_getElem?_modify present
      refine ⟨before, earlier, ?_, ?_⟩ <;> split <;> rfl
    · intro s stats others books
      exact books.stop _

/-- A plant is booked after every history. -/
theorem afterMoves_booked (moves : List Move) : (afterMoves moves).Booked := by
  -- By induction on the history. At the start there are no pipelines.
  refine afterMoves_rule ?_ ?_ moves
  · intro line l found
    simp at found
  · intro earlier after booked change
    exact booked.change (afterMoves_wired earlier) (afterMoves_scheduled earlier) change

end Plant

end TunerControl.Samples
