import TunerControl.Proofs.Samples.Recovery
import TunerControl.Proofs.Samples.Totals

/-! Every block that a pool counts as returned belongs to a buffer whose sink call returned. With the
counters of its pipeline, the pool accounts for all that was submitted. -/

namespace TunerControl.Samples

namespace Plant

variable {p after : Plant}

/-- The pool of each pipeline counts as returned the blocks that it lent of the buffers whose sink
calls returned. -/
def Repaid (p : Plant) : Prop :=
  ∀ (line : Nat) (l : Line), p.lines[line]? = some l →
    (p.pools.map Pool.returned)[l.pool]? =
      some ((p.storyOn line).completed.countP (·.pool = l.pool))

/-- A plant is repaid as before if no sink call returned and no pool counts more. -/
theorem Repaid.of_same (repaid : p.Repaid)
    (completed : ∀ line, (after.storyOn line).completed = (p.storyOn line).completed)
    (lines : after.lines.map Line.pool = p.lines.map Line.pool)
    (pools : ∀ l ∈ p.lines, (after.pools.map Pool.returned)[l.pool]? =
      (p.pools.map Pool.returned)[l.pool]?) : after.Repaid := by
  intro i l present
  -- The pipeline has the pool that it had before.
  have pool : p.lines[i]?.map Line.pool = some l.pool := by
    rw [← List.getElem?_map, ← lines, List.getElem?_map, present]
    rfl
  obtain ⟨before, earlier, same⟩ := Option.map_eq_some_iff.mp pool
  rw [← same, pools before (List.mem_of_getElem? earlier), repaid i before earlier, completed]

/-- What happens in a run completes nothing for any pipeline if no sink call returns in it. -/
theorem completed_enter {n : Nat} {r : Run} {change : Run → Run} (found : p.runs[n]? = some r)
    (news : Story) (runs : after.runs = p.runs.modify n change) (same : ∀ r, (change r).line = r.line)
    (journal : after.journal = p.journal ++ news.map (n, ·)) (silent : news.completed = [])
    (line : Nat) : (after.storyOn line).completed = (p.storyOn line).completed := by
  -- The story goes on by what happened, of which nothing is a completion.
  have story := storyOn_enter found news runs same journal line
  rw [Story.completed, story, List.filterMap_append]
  split
  · rw [show news.filterMap Happening.completed? = [] from silent, List.append_nil]
  · rw [List.filterMap_nil, List.append_nil]

/-- A new pipeline has a new pool, and no sink call of its runs returned. -/
theorem Repaid.addLine (repaid : p.Repaid) (wired : p.Wired) (config : PipelineConfig) :
    (p.addLine config).Repaid := by
  intro i l found
  change (p.lines ++ [_])[i]? = some l at found
  show ((p.pools ++ [Pool.new _ _]).map Pool.returned)[l.pool]? = _
  rw [List.map_append]
  rw [List.getElem?_append] at found
  split at found
  · have inside := wired.pools l (List.mem_of_getElem? found)
    rw [List.getElem?_append_left (by simpa using inside)]
    exact repaid i l found
  · -- No run is of a pipeline that is not there yet.
    rename_i beyond
    have pool : l.pool = p.pools.length := by
      obtain ⟨-, rfl⟩ := List.getElem?_eq_some_iff.mp found
      simp
    have empty : (p.addLine config).storyOn i = [] := wired.storyOn_beyond beyond
    rw [pool, empty, List.getElem?_append_right (by simp)]
    simp [Pool.new]

/-- A block that is given back is counted by the pool of the pipeline whose sink call returned, if
that pool lent it. -/
theorem Repaid.answer (repaid : p.Repaid) (wired : p.Wired) {run pool : Nat} {r : Run} {b : Buffer}
    {a : SinkAnswer} {change : Run → Run} (found : p.runs[run]? = some r) (own : p.poolOfRun? run = some pool)
    (returned : a ≠ .crashed) (runs : after.runs = p.runs.modify run change)
    (moves : ∀ r, (change r).line = r.line)
    (journal : after.journal = p.journal ++ [(run, .answered b a)])
    (lines : after.lines.map Line.pool = p.lines.map Line.pool)
    (pools : after.pools = p.pools.giveBack pool b) : after.Repaid := by
  intro i l present
  have same : p.lines[i]?.map Line.pool = some l.pool := by
    rw [← List.getElem?_map, ← lines, List.getElem?_map, present]
    rfl
  obtain ⟨before, earlier, same⟩ := Option.map_eq_some_iff.mp same
  have paid := repaid i before earlier
  have completed : Happening.completed? (.answered b a) = some b := by
    cases a with
    | taken => rfl
    | refused => rfl
    | crashed => exact absurd rfl returned
  -- The run's pool is that of its pipeline, and of no other.
  have apart : pool = before.pool ↔ r.line = i := by
    simp only [poolOfRun?, found, Option.bind_eq_bind, Option.bind_some] at own
    obtain ⟨mine, there, is⟩ := Option.bind_eq_some_iff.mp own
    rw [← show mine.pool = pool from Option.some.inj is]
    exact wired.pool_eq_iff there earlier
  have story := storyOn_enter found [.answered b a] runs moves journal i
  rw [Story.completed, story, List.filterMap_append, List.countP_append, pools,
    Pools.returned_giveBack, ← same]
  by_cases mine : r.line = i
  · -- The pipeline completes the buffer, which its pool counts if it is the lender.
    have its := apart.mpr mine
    rw [if_pos mine, List.filterMap_cons_some completed, its]
    by_cases lent : b.pool = before.pool
    · rw [if_pos lent, List.getElem?_modify, paid]
      simp [lent]
    · rw [if_neg lent, paid]
      simp [lent]
  · -- Another pipeline's pool counts nothing of it.
    rw [if_neg mine, List.filterMap_nil]
    have other : pool ≠ before.pool := fun its => mine (apart.mp its)
    split
    · simp [other, paid]
    · exact paid

/-- Every change of a plant keeps it repaid. -/
theorem Repaid.change (repaid : p.Repaid) (wired : p.Wired) (change : Change p after) :
    after.Repaid := by
  -- A buffer is completed only where a sink call returns, and only there does a pool count it.
  cases change with
  | nothing => exact repaid
  | poolAdded capacity blockSize =>
    -- The pools that were there stay in their places.
    refine repaid.of_same (fun line => rfl) rfl fun l member => ?_
    have inside := wired.pools l member
    show ((p.pools ++ [_]).map Pool.returned)[l.pool]? = _
    rw [List.map_append, List.getElem?_append_left (by simpa using inside)]
  | lineAdded config => exact repaid.addLine wired config
  | poolGone pool unused =>
    -- A pool that is gone keeps what it has counted.
    refine repaid.of_same (fun line => rfl) rfl fun l member => ?_
    apply congrArg (·[l.pool]?)
    apply map_modify_of_same
    intro q
    rfl
  | lineDropped line idle =>
    exact repaid.of_same (fun line => rfl) (p.linePools_modify line fun l => rfl) fun l member => rfl
  | lent found lends =>
    exact repaid.of_same (fun line => rfl) rfl fun l member => by
      rw [Pools.returned_lend found lends]
  | edited serial same => exact repaid.of_same (fun line => rfl) rfl fun l member => rfl
  | givenUp held =>
    exact repaid.of_same (fun line => rfl) rfl fun l member => by rw [Pools.returned_writeOff]
  | rejected line =>
    exact repaid.of_same (fun line => rfl) (p.linePools_modify line fun l => rfl) fun l member => rfl
  | accepted found held accepting room =>
    refine repaid.of_same ?_ (p.linePools_modify _ fun l => rfl) fun l member => rfl
    exact completed_enter found [.accepted _] rfl (fun r => rfl) rfl rfl
  | moved found moves =>
    refine repaid.of_same ?_ rfl fun l member => rfl
    exact completed_enter found [] rfl (fun r => rfl) (List.append_nil _).symm rfl
  | fed found receiving queued =>
    refine repaid.of_same ?_ rfl fun l member => rfl
    exact completed_enter found [.fed _] rfl (fun r => rfl) rfl rfl
  | answered found feeding own returned =>
    exact repaid.answer wired found own returned rfl (fun r => rfl) rfl
      (p.linePools_modify _ fun l => rfl) rfl
  | crashed found feeding =>
    refine repaid.of_same ?_ (p.linePools_modify _ fun l => rfl) fun l member => by
      rw [Pools.returned_writeOff]
    exact completed_enter found [.answered _ .crashed] rfl (fun r => rfl) rfl rfl
  | started owned idle =>
    refine repaid.of_same ?_ (p.linePools_modify _ fun l => rfl) fun l member => rfl
    intro line
    apply congrArg (List.filterMap Happening.completed?)
    apply storyOn_start wired
    · rfl
    · rfl
  | told current found =>
    refine repaid.of_same ?_ rfl fun l member => rfl
    exact completed_enter found [] rfl (fun r => rfl) (List.append_nil _).symm rfl
  | @stopped line run r current found finished =>
    refine repaid.of_same ?_ ?_ fun l member => by rw [Pools.returned_writeOffAll]
    · exact completed_enter found _ rfl (fun r => rfl) rfl (Books.stop_silent _ (fun b => rfl) r.queue _ rfl)
    · -- The pipeline changes twice: in its counters, and in the run that it has to stop.
      refine (map_modify_of_same Line.pool ?_ _ _).trans (p.linePools_modify line fun l => rfl)
      intro l
      rfl

/-- A plant is repaid after every history. -/
theorem afterMoves_repaid (moves : List Move) : (afterMoves moves).Repaid := by
  -- By induction on the history. At the start there are no pipelines.
  refine afterMoves_rule ?_ ?_ moves
  · intro line l found
    simp at found
  · intro earlier after repaid change
    exact repaid.change (afterMoves_wired earlier) change

/-- After every history, the counters of a pipeline account for all buffers that its runs accepted:
each was handed to the sink and came back from it, was discarded by a stop, is queued, is inside a
sink call, or was lost with its worker. As many sink calls returned as are counted, and the pool of
the pipeline counts those among their buffers as returned that it lent. So when the pipeline is
stopped, no worker of it is left behind or lost and all its buffers were its own, all that was
submitted is counted as forwarded, refused or discarded, and all but the discarded ones came back. -/
theorem afterMoves_totals (moves : List Move) {line : Nat} {l : Line}
    (found : (afterMoves moves).lines[line]? = some l) :
    let p := afterMoves moves
    let story := p.storyOn line
    let runs := p.runsOn line
    l.stats.submitted = l.stats.forwarded + l.stats.sinkErrors + l.stats.droppedAtStop +
      (runs.flatMap Run.queue).length + (runs.flatMap (·.worker.buffers)).length +
      story.lost.length ∧
    l.stats.submitted = story.accepted.length ∧
    story.accepted.Perm
      (story.completed ++ story.lost ++ story.discarded ++ runs.flatMap Run.buffers) ∧
    story.lost.length = runs.countP (·.worker = .crashed) ∧
    l.stats.forwarded + l.stats.sinkErrors = story.completed.length ∧
    ∃ q, p.pools[l.pool]? = some q ∧
      q.returned = story.completed.length - story.completed.countP (·.pool ≠ l.pool) ∧
      (p.currentRun? line = none →
        (∀ r ∈ runs, r.worker.buffers = [] ∧ r.worker ≠ .crashed) →
        (∀ b ∈ story.accepted, b.pool = l.pool) →
        l.stats.submitted = l.stats.forwarded + l.stats.sinkErrors + l.stats.droppedAtStop ∧
        q.returned = l.stats.forwarded + l.stats.sinkErrors) := by
  intro p story runs
  have books : Books story l.stats runs := afterMoves_booked moves line l found
  have scheduled : p.Scheduled := afterMoves_scheduled moves
  have repaid := afterMoves_repaid moves line l found
  rw [List.getElem?_map, Option.map_eq_some_iff] at repaid
  obtain ⟨q, there, returned⟩ := repaid
  have submitted := books.submitted
  have completed := books.completed
  have dropped := books.dropped
  -- Every accepted buffer is in one place, and those that the runs hold are in two kinds of places.
  have places := books.places.length_eq
  have holds : (runs.flatMap Run.buffers).length = (runs.flatMap Run.queue ++
      runs.flatMap (·.worker.buffers)).length := (runs_perm runs).length_eq
  simp only [List.length_append] at places holds
  have foreign : story.completed.length = story.completed.countP (·.pool = l.pool) +
      story.completed.countP (·.pool ≠ l.pool) := by
    simpa using List.length_eq_countP_add_countP _
  refine ⟨by omega, submitted, books.places, books.wrecks, completed, q, there, ?_, ?_⟩
  · have returned : q.returned = story.completed.countP (·.pool = l.pool) := returned
    omega
  · intro stopped idle own
    -- Nothing is in a queue, in a sink call or lost, and all that came back is the pool's own.
    have queues : runs.flatMap Run.queue = [] := by
      refine List.flatMap_eq_nil_iff.mpr fun r member => ?_
      obtain ⟨present, on⟩ := List.mem_filter.mp member
      exact scheduled.queue_eq_nil stopped present (of_decide_eq_true on)
    have sinks : runs.flatMap (·.worker.buffers) = [] :=
      List.flatMap_eq_nil_iff.mpr fun r member => (idle r member).1
    have lost : story.lost.length = 0 := by
      rw [books.wrecks]
      exact List.countP_eq_zero.mpr fun r member => by simpa using (idle r member).2
    have back : story.completed.countP (·.pool = l.pool) = story.completed.length := by
      refine List.countP_eq_length.mpr fun b member => decide_eq_true (own b ?_)
      apply books.places.mem_iff.mpr
      simp only [List.mem_append, member, true_or]
    rw [queues, sinks] at holds
    refine ⟨?_, ?_⟩
    · simp only [List.length_nil] at holds
      omega
    · rw [returned, completed]
      exact back

/-- A pipeline that ran twice. The worker of its first run is stuck with a buffer when that run is
stopped, and returns it during the second one, which forwards a buffer of another pool, loses one
with its worker, and still has one in its queue. -/
def mixedHistory : List Move :=
  let config : PipelineConfig := { bufferCount := 5, bufferSize := 2, queueCapacity := 2 }
  [.addLine config, .addPool 1 2, .start 0] ++
    ([.loan 0, .loan 0, .submit 0 0, .submit 0 1, .work 0, .work 0].map .background) ++
    [.requestStop 0, .completeStop 0, .start 0, .take 1] ++
    ([.submit 1 2, .work 1, .work 1, .answer 0 .refused, .answer 1 .taken, .loan 1, .loan 1,
      .submit 0 3, .submit 1 3, .submit 1 4, .work 1, .work 1, .answer 1 .crashed].map .background)

/-- A pipeline that is stopped while one buffer is forwarded and another one is queued. -/
def stoppedHistory : List Move :=
  let config : PipelineConfig := { bufferCount := 2, bufferSize := 2, queueCapacity := 2 }
  [.addLine config, .start 0] ++
    ([.loan 0, .loan 0, .submit 0 0, .submit 0 1, .work 0, .work 0].map .background) ++
    [.requestStop 0, .background (.answer 0 .taken), .background (.work 0), .completeStop 0]

/-- One sink call of the mixed history returned with a buffer of the pipeline's own pool, and one
with a foreign buffer. In the other history, nothing is left to account for. -/
theorem mixedHistory_totals :
    (∃ q, (afterMoves mixedHistory).pools[0]? = some q ∧ q.returned = 2 - 1) ∧
    5 = 1 + 1 + 1 + ((afterMoves mixedHistory).runsOn 0 |>.flatMap Run.queue).length + 0 + 1 ∧
    ∃ q, (afterMoves stoppedHistory).pools[0]? = some q ∧ 2 = 1 + 0 + 1 ∧ q.returned = 1 + 0 := by
  -- The counters are computed, and what they account for is known from the theorem.
  have mixed : (afterMoves mixedHistory).lines[0]? =
      some { pool := 0, queueCapacity := 2, current := some 1, stats := ⟨5, 1, 1, 1, 1⟩ } := by decide
  have stopped : (afterMoves stoppedHistory).lines[0]? =
      some { pool := 0, queueCapacity := 2, stats := ⟨2, 1, 0, 0, 1⟩ } := by decide
  obtain ⟨submitted, -, -, -, -, q, there, returned, -⟩ := afterMoves_totals mixedHistory mixed
  obtain ⟨-, -, -, -, -, own, present, -, settled⟩ := afterMoves_totals stoppedHistory stopped
  exact ⟨⟨q, there, returned⟩, submitted, own, present,
    settled (by decide) (by decide) (by decide)⟩

end Plant

end TunerControl.Samples
