import TunerControl.Proofs.Samples.Schedule

/-! What belongs to what at a plant: every pipeline has a pool of its own, every run is of a
pipeline, and everything in the journal happened in a run. -/

namespace TunerControl.Samples

namespace Pools

/-- Giving up a buffer counts no pool's block as returned. -/
theorem returned_writeOff (pools : Pools) (b : Buffer) :
    (pools.writeOff b).map Pool.returned = pools.map Pool.returned := by
  unfold writeOff
  split
  · rfl
  · -- The pool of the buffer only loses a loan.
    apply map_modify_of_same
    intro q
    unfold Pool.writeOff
    split <;> rfl

/-- Giving up buffers one after another counts no pool's block as returned. -/
theorem returned_writeOffAll (pools : Pools) (buffers : List Buffer) :
    (buffers.foldl writeOff pools).map Pool.returned = pools.map Pool.returned := by
  -- Giving a buffer up changes its pool, and no pool is added or removed for it.
  induction buffers generalizing pools with
  | nil => rfl
  | cons b rest ih =>
    rw [List.foldl_cons, ih]
    exact returned_writeOff pools b

/-- A pool that a buffer is given back to counts it as returned if it is the one that lent it. -/
theorem returned_giveBack (pools : Pools) (pool : Nat) (b : Buffer) :
    (pools.giveBack pool b).map Pool.returned =
      if b.pool = pool then (pools.map Pool.returned).modify pool (· + 1)
      else pools.map Pool.returned := by
  unfold giveBack
  split
  · -- What is left of the buffer has no storage, so giving it up changes no account.
    rw [returned_writeOff]
    apply List.ext_getElem?
    intro i
    simp only [List.getElem?_map, List.getElem?_modify]
    cases pools[i]? with
    | none => rfl
    | some q =>
      by_cases same : pool = i
      · simp [same, Pool.reclaim]
      · simp [same]
  · exact returned_writeOff pools b

/-- A pool that lends counts no block as returned. -/
theorem returned_lend {pools : Pools} {pool : Nat} {q lender : Pool} {block : Bytes}
    (found : pools[pool]? = some q) (lends : q.lend = some (block, lender)) :
    (pools.set pool lender).map Pool.returned = pools.map Pool.returned := by
  have same : lender.returned = q.returned := by
    unfold Pool.lend at lends
    split at lends
    · simp only [Option.some.injEq, Prod.mk.injEq] at lends
      rw [← lends.2]
    · simp at lends
  -- The lender takes the place of the pool that it was.
  exact map_set_of_same Pool.returned found same

/-- Pools that count as much are as many. -/
theorem length_of_returned {pools others : Pools}
    (same : pools.map Pool.returned = others.map Pool.returned) : pools.length = others.length := by
  -- There is one count for each.
  simpa using congrArg List.length same

end Pools

namespace Plant

/-- A pipeline that changes keeps its pool, whatever else is changed about it. -/
theorem linePools_modify (p : Plant) (line : Nat) {change : Line → Line}
    (pool : ∀ l, (change l).pool = l.pool) :
    (p.lines.modify line change).map Line.pool = p.lines.map Line.pool :=
  -- The changed pipeline has the pool that it had.
  map_modify_of_same Line.pool pool p.lines line

/-- A run that changes stays of its pipeline, if the change leaves that alone. -/
theorem runLines_modify (p : Plant) (n : Nat) {change : Run → Run}
    (line : ∀ r, (change r).line = r.line) :
    (p.runs.modify n change).map Run.line = p.runs.map Run.line :=
  -- The changed run is of the pipeline that it was of.
  map_modify_of_same Run.line line p.runs n

/-- Every pipeline has a pool that no other pipeline has, every run is of a pipeline that is there,
and every entry in the journal is of a run that is there. -/
structure Wired (p : Plant) : Prop where
  pools : ∀ l ∈ p.lines, l.pool < p.pools.length
  apart : (p.lines.map Line.pool).Nodup
  lines : ∀ r ∈ p.runs, r.line < p.lines.length
  entries : ∀ entry ∈ p.journal, entry.1 < p.runs.length

/-- Only a pipeline itself has its pool. -/
theorem Wired.pool_eq_iff {p : Plant} (wired : p.Wired) {i j : Nat} {l k : Line}
    (first : p.lines[i]? = some l) (second : p.lines[j]? = some k) : l.pool = k.pool ↔ i = j := by
  -- The pools of the pipelines are all different.
  have inside : i < (p.lines.map Line.pool).length := by
    simpa using (List.getElem?_eq_some_iff.mp first).1
  have unique := List.getElem?_inj inside wired.apart (j := j)
  rw [List.getElem?_map, first, List.getElem?_map, second] at unique
  simpa using unique

/-- What matters is how many pools there are, which of them the pipelines have, which pipelines the
runs are of, and which runs the entries are of. -/
theorem Wired.of_same {p after : Plant} (wired : p.Wired)
    (pools : after.pools.length = p.pools.length)
    (lines : after.lines.map Line.pool = p.lines.map Line.pool)
    (runs : after.runs.map Run.line = p.runs.map Run.line)
    (entries : ∀ entry ∈ after.journal, entry ∈ p.journal ∨ entry.1 < p.runs.length) :
    after.Wired := by
  have lineCount : after.lines.length = p.lines.length := by
    simpa using congrArg List.length lines
  have runCount : after.runs.length = p.runs.length := by simpa using congrArg List.length runs
  refine ⟨?_, ?_, ?_, ?_⟩
  · intro l member
    -- The pipeline has the pool that one of the earlier pipelines had.
    have named : l.pool ∈ p.lines.map Line.pool := lines ▸ List.mem_map_of_mem member
    obtain ⟨earlier, present, same⟩ := List.mem_map.mp named
    rw [pools, ← same]
    exact wired.pools earlier present
  · rw [lines]
    exact wired.apart
  · intro r member
    have named : r.line ∈ p.runs.map Run.line := runs ▸ List.mem_map_of_mem member
    obtain ⟨earlier, present, same⟩ := List.mem_map.mp named
    rw [lineCount, ← same]
    exact wired.lines earlier present
  · intro entry member
    rw [runCount]
    rcases entries entry member with before | known
    · exact wired.entries entry before
    · exact known

/-- A run that changes stays of its pipeline, and what happened in it is entered for it. -/
theorem Wired.changeRun {p after : Plant} (wired : p.Wired) {n : Nat} {r : Run}
    {change : Run → Run} (happenings : List Happening) (found : p.runs[n]? = some r)
    (pools : after.pools.length = p.pools.length)
    (lines : after.lines.map Line.pool = p.lines.map Line.pool)
    (runs : after.runs = p.runs.modify n change) (line : ∀ r, (change r).line = r.line)
    (journal : after.journal = p.journal ++ happenings.map (n, ·)) : after.Wired := by
  -- Runs and pipelines are in their places, and the new entries are of the run that changed.
  refine wired.of_same pools lines ?_ ?_
  · rw [runs]
    exact p.runLines_modify n line
  · intro entry member
    rw [journal] at member
    rcases List.mem_append.mp member with before | new
    · exact Or.inl before
    · obtain ⟨happening, -, same⟩ := List.mem_map.mp new
      rw [← same]
      exact Or.inr (List.getElem?_eq_some_iff.mp found).1

/-- A new pipeline comes with a new pool. -/
theorem Wired.addLine {p : Plant} (wired : p.Wired) (config : PipelineConfig) :
    (p.addLine config).Wired := by
  have count : (p.addLine config).pools.length = p.pools.length + 1 := by
    simp [Plant.addLine, addPool]
  refine ⟨?_, ?_, ?_, wired.entries⟩
  · intro l member
    rw [count]
    rcases List.mem_append.mp member with before | new
    · have := wired.pools l before
      omega
    · rw [List.mem_singleton.mp new]
      show p.pools.length < p.pools.length + 1
      omega
  · -- The pools of the other pipelines were there before the new one.
    show ((p.lines ++ [_]).map Line.pool).Nodup
    rw [List.map_append, List.nodup_append]
    refine ⟨wired.apart, by simp, ?_⟩
    intro pool before other new
    obtain ⟨l, member, same⟩ := List.mem_map.mp before
    have := wired.pools l member
    simp only [List.map_cons, List.map_nil, List.mem_singleton] at new
    omega
  · intro r member
    have := wired.lines r member
    show r.line < (p.lines ++ [_]).length
    rw [List.length_append]
    omega

/-- A run that begins is of a pipeline that is there. -/
theorem Wired.start {p after : Plant} (wired : p.Wired) {new : Run}
    (line : new.line < p.lines.length) (pools : after.pools = p.pools)
    (lines : after.lines.map Line.pool = p.lines.map Line.pool) (runs : after.runs = p.runs ++ [new])
    (journal : after.journal = p.journal) : after.Wired := by
  have lineCount : after.lines.length = p.lines.length := by
    simpa using congrArg List.length lines
  refine ⟨?_, lines ▸ wired.apart, ?_, ?_⟩
  · intro l member
    have named : l.pool ∈ p.lines.map Line.pool := lines ▸ List.mem_map_of_mem member
    obtain ⟨earlier, present, same⟩ := List.mem_map.mp named
    rw [pools, ← same]
    exact wired.pools earlier present
  · -- The new run is of a pipeline that is there, by assumption.
    intro r member
    rw [runs] at member
    rw [lineCount]
    rcases List.mem_append.mp member with before | begun
    · exact wired.lines r before
    · rw [List.mem_singleton.mp begun]
      exact line
  · -- Nothing has happened in the new run, so that there is no entry for it.
    intro entry member
    rw [journal] at member
    have := wired.entries entry member
    rw [runs, List.length_append]
    omega

/-- Every change of a plant keeps it wired. -/
theorem Wired.change {p after : Plant} (wired : p.Wired) (change : Change p after) :
    after.Wired := by
  have kept : ∀ entry ∈ p.journal, entry ∈ p.journal ∨ entry.1 < p.runs.length :=
    fun entry member => Or.inl member
  -- Most changes leave the pools, pipelines and runs in their places, and enter at most one run.
  cases change with
  | nothing => exact wired
  | poolAdded capacity blockSize =>
    refine ⟨?_, wired.apart, wired.lines, wired.entries⟩
    intro l member
    have := wired.pools l member
    show l.pool < (p.pools ++ [_]).length
    rw [List.length_append]
    omega
  | lineAdded config => exact wired.addLine config
  | poolGone pool unused => exact wired.of_same (List.length_modify ..) rfl rfl kept
  | lineDropped line idle =>
    exact wired.of_same rfl (p.linePools_modify line fun _ => rfl) rfl kept
  | lent found lends =>
    exact wired.of_same (Pools.length_of_returned (Pools.returned_lend found lends)) rfl rfl kept
  | edited serial same => exact wired.of_same rfl rfl rfl kept
  | givenUp held =>
    exact wired.of_same (Pools.length_of_returned (Pools.returned_writeOff p.pools _)) rfl rfl kept
  | rejected line => exact wired.of_same rfl (p.linePools_modify line fun _ => rfl) rfl kept
  | accepted found held accepting room =>
    exact wired.changeRun [.accepted _] found rfl (p.linePools_modify _ fun _ => rfl) rfl
      (fun _ => rfl) rfl
  | moved found moves =>
    exact wired.changeRun [] found rfl rfl rfl (fun _ => rfl) (List.append_nil _).symm
  | fed found receiving queued =>
    exact wired.changeRun [.fed _] found rfl rfl rfl (fun _ => rfl) rfl
  | @answered run pool r b a found feeding own returned =>
    refine wired.changeRun [.answered b a] found ?_ (p.linePools_modify _ fun _ => rfl) rfl
      (fun _ => rfl) rfl
    -- Whichever pool counts the block as returned, there are as many pools as before.
    have counted := congrArg List.length (p.pools.returned_giveBack pool b)
    simpa [apply_ite List.length] using counted
  | crashed found feeding =>
    exact wired.changeRun [.answered _ .crashed] found
      (Pools.length_of_returned (Pools.returned_writeOff p.pools _))
      (p.linePools_modify _ fun _ => rfl) rfl (fun _ => rfl) rfl
  | started owned idle =>
    -- The new run is of a pipeline that has an owner, so that it is there.
    exact wired.start (p.lt_length_of_owns owned) rfl (p.linePools_modify _ fun _ => rfl) rfl rfl
  | told current found =>
    exact wired.changeRun [] found rfl rfl rfl (fun _ => rfl) (List.append_nil _).symm
  | @stopped line run r current found finished =>
    refine wired.changeRun _ found
      (Pools.length_of_returned (Pools.returned_writeOffAll p.pools _)) ?_ rfl (fun _ => rfl) rfl
    -- The pipeline changes twice: in its counters, and in the run that it has to stop.
    refine (map_modify_of_same Line.pool ?_ _ _).trans (p.linePools_modify line fun _ => rfl)
    intro l
    rfl

/-- A plant is wired after every history. -/
theorem afterMoves_wired (moves : List Move) : (afterMoves moves).Wired := by
  -- It holds of nothing, and every change keeps the runs wired.
  refine afterMoves_rule ?_ ?_ moves
  · exact ⟨by simp, by simp, by simp, by simp⟩
  · intro earlier after wired change
    exact wired.change change

end Plant

end TunerControl.Samples
