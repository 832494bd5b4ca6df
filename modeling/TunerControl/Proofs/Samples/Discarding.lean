import TunerControl.Proofs.Samples.Delivery

/-! A stop discards what is queued of its run, and the pool writes it off. This is shown of all plants
whose books are in order, not only of those that a history from nothing leads to. -/

namespace TunerControl.Samples

/-- A pool writes off each buffer of its own that is given up. -/
theorem Pools.writtenOff_writeOffAll (buffers : List Buffer) {before : Pool}
    (alive : before.alive = true) (own : ∀ b ∈ buffers, b.pool = 0 ∧ b.block ≠ []) :
    ∃ q, buffers.foldl Pools.writeOff [before] = [q] ∧
      q.writtenOff = before.writtenOff + buffers.length := by
  -- By induction on the buffers: each of them counts one.
  induction buffers generalizing before with
  | nil => exact ⟨before, rfl, rfl⟩
  | cons b rest ih =>
    obtain ⟨first, stored⟩ := own b (by simp)
    have one : Pools.writeOff [before] b = [before.writeOff] := by
      simp [Pools.writeOff, first, stored]
    have counted : before.writeOff.writtenOff = before.writtenOff + 1 := by
      simp [Pool.writeOff, alive]
    obtain ⟨q, all, total⟩ := ih (before.writeOff_frame.2.trans alive) fun b member =>
      own b (List.mem_cons_of_mem _ member)
    refine ⟨q, ?_, ?_⟩
    · rw [List.foldl_cons, one, all]
    · rw [total, counted, List.length_cons]
      omega

namespace Plant

variable {p : Plant} {line run : Nat}

/-- The books of a plant are in order: its current runs, its journal and its accounts agree with each
other and with what is there. -/
structure Consistent (p : Plant) : Prop where
  scheduled : p.Scheduled
  chronicled : p.Chronicled
  accounted : p.Accounted

/-- Nothing is a consistent plant. -/
theorem Consistent.nothing : ({ } : Plant).Consistent :=
  -- It is what the empty history leads to.
  ⟨afterMoves_scheduled [], afterMoves_chronicled [], afterMoves_accounted []⟩

/-- A change leaves the books in order. -/
theorem Consistent.change (consistent : p.Consistent) {after : Plant} (change : Change p after) :
    after.Consistent where
  -- The journal is kept in step with the runs that are current, and the others by themselves.
  scheduled := consistent.scheduled.change change
  chronicled := consistent.chronicled.change consistent.scheduled change
  accounted := consistent.accounted.change change

/-- So does every history that goes on from a consistent plant. -/
theorem Consistent.steps (consistent : p.Consistent) (moves : List Move) :
    (moves.foldl step p).Consistent := by
  -- The induction is on the history, from any consistent plant.
  induction moves generalizing p with
  | nil => exact consistent
  | cons m rest ih => exact ih (consistent.change (p.step_change m))

/-- A stop that returns gives up what is queued, and nothing else. -/
theorem completeStop_pools (scheduled : p.Scheduled) (current : p.currentRun? line = some run) :
    (p.completeStop line).2.pools = (p.queued run).foldl Pools.writeOff p.pools := by
  -- The current run is there, and its queue is what is discarded.
  obtain ⟨r, found, -⟩ := scheduled.known line run current
  simp only [completeStop, current, found, discardAll_eq, queued]
  rfl

/-- What a stop discards of its run is what is queued. -/
theorem completeStop_discarded (consistent : p.Consistent)
    (current : p.currentRun? line = some run) :
    ((p.completeStop line).2.journal.story run).discarded = p.queued run := by
  obtain ⟨r, found, -⟩ := consistent.scheduled.known line run current
  -- Nothing was discarded before, since the run has no report.
  have undiscarded : (p.journal.story run).filterMap Happening.discarded? = [] := by
    have unreported := consistent.chronicled.pending line run current
    rcases (consistent.chronicled.outcome run).2 with ⟨-, none⟩ | ⟨report, reported, -⟩
    · exact none
    · rw [unreported] at reported
      simp at reported
  rw [completeStop_journal p current found, Journal.story_enter, Story.discarded,
    List.filterMap_append, undiscarded, queued, found]
  simp [List.filterMap_map, Function.comp_def, List.filterMap_cons]

/-- A stop adds no run and takes none away. -/
theorem length_runs_completeStop (p : Plant) (line : Nat) :
    (p.completeStop line).2.runs.length = p.runs.length := by
  -- Runs are changed in their places only.
  unfold completeStop
  split
  · rfl
  · split
    · rfl
    · simp only [discardAll_eq]
      simp [note, count, changeRun]

/-- With one pool, every buffer on loan is its own. -/
theorem Accounted.own (accounted : p.Accounted) {q : Pool} (single : p.pools = [q]) {b : Buffer}
    (member : b ∈ p.buffers) : b.pool = 0 ∧ b.block ≠ [] := by
  -- There is only one pool that can have lent it, and a pool lends no empty blocks.
  obtain ⟨lender, found, size⟩ := accounted.sized b member
  have positive := accounted.positive b.pool lender found
  have inside := (List.getElem?_eq_some_iff.mp found).1
  rw [single, List.length_singleton] at inside
  refine ⟨by omega, fun empty => ?_⟩
  rw [empty, List.length_nil] at size
  omega

/-- The buffers in the queue of a run are on loan. -/
theorem queued_subset_buffers (p : Plant) (run : Nat) : p.queued run ⊆ p.buffers := by
  -- What is queued is held by one of the runs.
  intro b member
  unfold queued at member
  split at member
  · rename_i r found
    refine List.mem_append_right _ (List.mem_flatMap.mpr ⟨r, List.mem_of_getElem? found, ?_⟩)
    exact List.mem_append_right _ member
  · simp at member

/-- With one pool, each buffer that a stop discards is written off by it. -/
theorem completeStop_writtenOff (consistent : p.Consistent)
    (current : p.currentRun? line = some run) {before : Pool} (single : p.pools = [before])
    (alive : before.alive = true) :
    ∃ q, (p.completeStop line).2.pools = [q] ∧
      q.writtenOff = before.writtenOff + (p.queued run).length := by
  -- All that is queued is the pool's own.
  rw [completeStop_pools consistent.scheduled current, single]
  exact Pools.writtenOff_writeOffAll _ alive fun b member =>
    consistent.accounted.own single (p.queued_subset_buffers run member)

end Plant

end TunerControl.Samples
