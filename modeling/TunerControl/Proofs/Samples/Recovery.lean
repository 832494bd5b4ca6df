import TunerControl.Proofs.Samples.Accounting
import TunerControl.Proofs.Samples.Schedule
import TunerControl.Samples.Journal

/-! Every loan is taken off its pool's account once, and a stop leaves none behind in its queue. -/

namespace TunerControl.Samples

/-- A pool keeps its life while buffers are given up. -/
theorem Pools.exists_of_writeOffAll {pools : Pools} (buffers : List Buffer) {i : Nat} {q : Pool}
    (found : pools[i]? = some q) :
    ∃ after, (buffers.foldl Pools.writeOff pools)[i]? = some after ∧ after.alive = q.alive := by
  -- By induction on the buffers: each of them changes an account, and no more.
  induction buffers generalizing pools q with
  | nil => exact ⟨q, found, rfl⟩
  | cons b rest ih =>
    have next : ∃ after, (pools.writeOff b)[i]? = some after ∧ after.alive = q.alive := by
      unfold Pools.writeOff
      split
      · exact ⟨q, found, rfl⟩
      · rw [List.getElem?_modify, found]
        refine ⟨_, rfl, ?_⟩
        split
        · exact q.writeOff_frame.2
        · rfl
    obtain ⟨changed, present, alive⟩ := next
    obtain ⟨after, last, same⟩ := ih present
    exact ⟨after, last, same.trans alive⟩

/-- A living pool lends exactly when not all that it may lend is out. -/
theorem Pool.lend_isSome {q : Pool} (alive : q.alive = true) :
    q.lend.isSome = true ↔ q.outstanding < q.capacity := by
  -- A pool that is alive lends by this one test.
  unfold lend
  by_cases free : q.outstanding < q.capacity
  · simp [alive, free]
  · simp [alive, free]

namespace Plant

/-- The buffers inside sink calls. -/
def inSinks (p : Plant) : List Buffer :=
  p.runs.flatMap (·.worker.buffers)

/-- The buffers in the queues of other pipelines' runs. -/
def queuedElsewhere (p : Plant) (line : Nat) : List Buffer :=
  (p.runs.filter (·.line ≠ line)).flatMap (·.queue)

/-- The buffers whose loans a step ends, in the order in which it ends them. -/
def ending (p : Plant) : Move → List Buffer
  | .background (.discard serial) => (p.held? serial).toList
  | .background (.answer run _) =>
    match p.runs[run]?.map Run.worker, p.poolOfRun? run with
    | some (.feeding b), some _ => [b]
    | _, _ => []
  | .completeStop line =>
    match p.currentRun? line with
    | some run => p.queued run
    | none => []
  | _ => []

/-- The loans that a step ends are ended one by one, each either by giving up the buffer or by
giving it back to one pool. -/
theorem perform_pools (p : Plant) (m : Move) (ends : p.ending m ≠ []) :
    ∃ finish : Pools → Buffer → Pools,
      (finish = Pools.writeOff ∨ ∃ pool, finish = fun pools b => pools.giveBack pool b) ∧
      (p.perform m).pools = (p.ending m).foldl finish p.pools := by
  -- Three steps end loans: a caller's discarding, the end of a sink call, and a stop.
  unfold ending at ends ⊢
  split at ends
  · rename_i serial
    refine ⟨_, Or.inl rfl, ?_⟩
    simp only [perform, after, discard]
    cases p.held? serial with
    | none => rfl
    | some b => rfl
  · rename_i run a
    split at ends
    · rename_i b pool feeding own
      obtain ⟨r, found, worker⟩ := Option.map_eq_some_iff.mp feeding
      simp only [perform, after, answer, found, worker, own]
      split
      · exact ⟨_, Or.inl rfl, rfl⟩
      · exact ⟨_, Or.inr ⟨pool, rfl⟩, rfl⟩
    · exact absurd rfl ends
  · rename_i line
    refine ⟨_, Or.inl rfl, ?_⟩
    simp only [perform, completeStop]
    cases p.currentRun? line with
    | none => rfl
    | some run =>
      simp only [queued]
      cases p.runs[run]? with
      | none => rfl
      | some r =>
        simp only [discardAll_eq]
        rfl
  · exact absurd rfl ends

/-- The loans that a step ends are of different buffers on loan. -/
theorem Accounted.ending_perm {p : Plant} (accounted : p.Accounted) (m : Move) :
    ∃ rest, p.buffers.Perm (p.ending m ++ rest) := by
  -- As for the pools: the buffers are in a caller's hands, in a sink call, or in a queue.
  unfold ending
  split
  · rename_i serial
    cases held : p.held? serial with
    | none => exact ⟨p.buffers, List.Perm.refl _⟩
    | some b => exact ⟨_, accounted.buffers_perm_of_held held⟩
  · rename_i run a
    split
    · rename_i b pool feeding own
      obtain ⟨r, found, worker⟩ := Option.map_eq_some_iff.mp feeding
      obtain ⟨others, before, -⟩ := p.buffers_perm_of_run found
      rw [Run.buffers, worker, Worker.buffers, List.append_assoc] at before
      exact ⟨_, before⟩
    · exact ⟨p.buffers, List.Perm.refl _⟩
  · rename_i line
    split
    · rename_i run current
      unfold queued
      split
      · rename_i r found
        obtain ⟨others, before, -⟩ := p.buffers_perm_of_run found
        refine ⟨r.worker.buffers ++ others, before.trans ?_⟩
        rw [Run.buffers, List.append_assoc]
        exact List.perm_append_comm_assoc _ _ _
      · exact ⟨p.buffers, List.Perm.refl _⟩
    · exact ⟨p.buffers, List.Perm.refl _⟩
  · exact ⟨p.buffers, List.Perm.refl _⟩

/-- When a step ends a loan of a living pool, that has the loan in its account. -/
theorem Accounted.outstanding_pos {p : Plant} (accounted : p.Accounted) {q : Pool} {m : Move}
    {before after : List Buffer} {b : Buffer} (found : p.pools[b.pool]? = some q)
    (alive : q.alive = true) (split : p.ending m = before ++ b :: after) :
    ∃ now, (before.foldl Pools.writeOff p.pools)[b.pool]? = some now ∧ 0 < now.outstanding := by
  obtain ⟨rest, parted⟩ := accounted.ending_perm m
  rw [split, List.append_assoc, List.cons_append] at parted
  -- The loans before it are ended already, and its own is still among those that are not.
  have ledger := (Ledger.perm accounted parted).writeOffAll
  obtain ⟨now, present, same⟩ := Pools.exists_of_writeOffAll before found
  have balanced := ledger.balanced b.pool now present (same.trans alive)
  refine ⟨now, present, ?_⟩
  rw [balanced.outstanding, lentBy, List.countP_cons_of_pos (by simp)]
  exact Nat.succ_pos _

/-- What a run holds is inside its sink call or in its queue. -/
theorem runs_perm (runs : List Run) :
    (runs.flatMap Run.buffers).Perm
      (runs.flatMap (·.queue) ++ runs.flatMap (·.worker.buffers)) := by
  -- By induction on the runs, by how often each buffer is in them.
  induction runs with
  | nil => exact List.Perm.refl _
  | cons r rest ih =>
    refine List.perm_iff_count.mpr fun b => ?_
    have others := ih.count_eq b
    simp only [List.flatMap_cons, Run.buffers, List.count_append] at others ⊢
    omega

/-- A pipeline without a current run has nothing in the queues of its runs. -/
theorem Scheduled.queuedElsewhere_eq {p : Plant} (scheduled : p.Scheduled) {line : Nat}
    (idle : p.currentRun? line = none) : p.queuedElsewhere line = p.runs.flatMap (·.queue) := by
  -- Leaving out runs with empty queues leaves out nothing.
  have general : ∀ runs : List Run, (∀ r ∈ runs, r.line = line → r.queue = []) →
      (runs.filter (·.line ≠ line)).flatMap (·.queue) = runs.flatMap (·.queue) := by
    intro runs
    induction runs with
    | nil => exact fun _ => rfl
    | cons r rest ih =>
      intro empty
      have others := ih fun s member => empty s (List.mem_cons_of_mem r member)
      by_cases on : r.line = line
      · rw [List.filter_cons_of_neg (by simp [on]), others, List.flatMap_cons, empty r (by simp) on]
        rfl
      · rw [List.filter_cons_of_pos (by simp [on]), List.flatMap_cons, List.flatMap_cons, others]
  exact general p.runs fun r member on => scheduled.queue_eq_nil idle member on

/-- A stop that returns leaves its pipeline without a current run. -/
theorem Scheduled.currentRun?_completeStop {p : Plant} (scheduled : p.Scheduled) (line : Nat) :
    (p.completeStop line).2.currentRun? line = none := by
  -- If there was a current run, it is the one that is stopped.
  unfold completeStop
  cases current : p.currentRun? line with
  | none => exact current
  | some run =>
    obtain ⟨r, found, -⟩ := scheduled.known line run current
    simp only [found, discardAll_eq]
    refine Eq.trans (p.currentRun?_stop current ?_ line) (if_pos rfl)
    intro l
    rfl

/-- A pipeline without a current run has no buffers on loan left but those in callers' hands, in the
queues of other pipelines and inside sink calls. -/
theorem Scheduled.buffers_perm {p : Plant} (scheduled : p.Scheduled) {line : Nat}
    (idle : p.currentRun? line = none) :
    p.buffers.Perm (p.held ++ p.queuedElsewhere line ++ p.inSinks) := by
  -- Nothing is in the queues of the pipeline itself.
  rw [scheduled.queuedElsewhere_eq idle, buffers, inSinks, List.append_assoc]
  exact (runs_perm p.runs).append_left p.held

/-- The account of one of a plant's pools is in order, and all that it has lent comes back to it but for
what others still have. -/
structure AccountsFor (p : Plant) (i : Nat) (q : Pool) : Prop where
  /-- Every loan was returned, was written off or is outstanding. -/
  account : q.loaned = q.returned + q.writtenOff + q.outstanding
  /-- As many loans are out as there are buffers of the pool, wherever they are. -/
  outstanding : q.outstanding = lentBy i p.buffers
  /-- No buffer is in two places. -/
  distinct : (p.buffers.map Buffer.serial).Nodup
  /-- No more is lent than the pool may lend. -/
  bounded : q.outstanding ≤ q.capacity
  /-- Idle blocks and loans fit the capacity together. -/
  room : q.idle.length + q.outstanding ≤ q.capacity
  /-- The idle blocks have the size that was asked for. -/
  blocks : ∀ block ∈ q.idle, block.length = q.blockSize
  /-- The pool lends whenever it may. -/
  lends : q.lend.isSome = true ↔ q.outstanding < q.capacity
  /-- The loans that a step ends are ended one by one. -/
  ends : ∀ m, p.ending m ≠ [] → ∃ finish : Pools → Buffer → Pools,
    (finish = Pools.writeOff ∨ ∃ pool, finish = fun pools b => pools.giveBack pool b) ∧
    (p.perform m).pools = (p.ending m).foldl finish p.pools
  /-- Each of them is still in the account when its turn comes. -/
  unsaturated : ∀ (m : Move) (before after : List Buffer) (b : Buffer),
    p.ending m = before ++ b :: after → b.pool = i →
      ∃ now, (before.foldl Pools.writeOff p.pools)[i]? = some now ∧ 0 < now.outstanding
  /-- A stop that returns leaves its pipeline at rest. -/
  rests : ∀ line, (p.completeStop line).2.currentRun? line = none
  /-- Nothing is left on loan in the queues of a pipeline at rest. -/
  recovered : ∀ line, p.currentRun? line = none →
    p.buffers.Perm (p.held ++ p.queuedElsewhere line ++ p.inSinks)

/-- After every history, the account of a living pool adds up, and it has as many loans out as there
are buffers of its own, in callers' hands, queues and sink calls. Its blocks fit its capacity and
have its size, and it lends whenever it may. The loans that a step ends are ended one by one, and
each of them is still in the account then. When a stop has returned, no buffer is left in the queues
of its pipeline. -/
theorem afterMoves_accounts (moves : List Move) (i : Nat) (q : Pool)
    (found : (afterMoves moves).pools[i]? = some q) (alive : q.alive = true) :
    (afterMoves moves).AccountsFor i q := by
  -- The ledger speaks of the pool, and the schedule of the runs, of which only current ones queue.
  have accounted := afterMoves_accounted moves
  have scheduled := afterMoves_scheduled moves
  obtain ⟨outstanding, account, room, blocks⟩ := accounted.balanced i q found alive
  rw [← outstanding] at account room
  exact {
    account, outstanding, room, blocks
    distinct := accounted.distinct
    bounded := by omega
    lends := Pool.lend_isSome alive
    ends := perform_pools _
    unsaturated := fun m before after b split own => by
      subst own
      exact accounted.outstanding_pos found alive split
    rests := scheduled.currentRun?_completeStop
    recovered := fun line idle => scheduled.buffers_perm idle }

/-- Two pipelines that run. One buffer is fed by the other pipeline, one is fed by its own, one is
lost with the worker, and one is discarded by the stop. -/
def lossyHistory : List Move :=
  let config : PipelineConfig := { bufferCount := 4, bufferSize := 2, queueCapacity := 2 }
  [.addLine config, .addLine config, .start 0, .start 1] ++
    ([.loan 0, .loan 0, .loan 0, .loan 0, .submit 1 0, .submit 0 1, .submit 0 2, .work 1, .work 1,
      .answer 1 .taken, .work 0, .work 0, .answer 0 .taken, .work 0, .work 0, .submit 0 3,
      .answer 0 .crashed].map .background) ++
    [.requestStop 0, .completeStop 0, .take 0]

/-- Only the buffer that was taken after the stop is on loan then. -/
theorem lossyHistory_accounts :
    let p := afterMoves lossyHistory
    p.pools[0]? = some ⟨4, 2, [], true, 1, 5, 1, 3⟩ ∧ lentBy 0 p.buffers = 1 ∧
    p.buffers.Perm (p.held ++ p.queuedElsewhere 0 ++ p.inSinks) := by
  -- The account is computed, and what it agrees with is known from the theorem.
  have found : (afterMoves lossyHistory).pools[0]? = some ⟨4, 2, [], true, 1, 5, 1, 3⟩ := by decide
  have accounts := afterMoves_accounts lossyHistory 0 _ found rfl
  exact ⟨found, accounts.outstanding.symm, accounts.recovered 0 (by decide)⟩

end Plant

end TunerControl.Samples
