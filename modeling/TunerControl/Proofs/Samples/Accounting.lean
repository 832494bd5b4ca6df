import TunerControl.Proofs.Samples.Ledger

/-! Pools account for every buffer on loan, in all histories of a plant. -/

namespace TunerControl.Samples

/-- Among buffers with different numbers, the one with a given number is the only one to go. -/
theorem perm_cons_filter_of_find? {buffers : List Buffer} {serial : Nat} {b : Buffer}
    (distinct : (buffers.map Buffer.serial).Nodup)
    (found : buffers.find? (·.serial = serial) = some b) :
    buffers.Perm (b :: buffers.filter (·.serial ≠ serial)) := by
  induction buffers with
  | nil => simp at found
  | cons head tail ih =>
    rw [List.map_cons, List.nodup_cons] at distinct
    by_cases same : head.serial = serial
    · -- The first buffer has the number, so none of the others has it.
      have first : head = b := by simpa [same] using found
      have others : tail.filter (·.serial ≠ serial) = tail := by
        refine List.filter_eq_self.mpr fun c member => ?_
        have apart : c.serial ≠ head.serial := fun again =>
          distinct.1 (again ▸ List.mem_map_of_mem member)
        simpa [same] using apart
      rw [List.filter_cons_of_neg (by simp [same]), others, first]
    · have found : tail.find? (·.serial = serial) = some b := by simpa [same] using found
      rw [List.filter_cons_of_pos (by simp [same])]
      exact ((ih distinct.2 found).cons head).trans (List.Perm.swap b head _)

namespace Plant

/-- The accounts of a plant's pools agree with its buffers. -/
def Accounted (p : Plant) : Prop :=
  Ledger p.pools p.loans p.buffers

/-- The buffers in callers' hands have different numbers. -/
theorem Accounted.held_distinct {p : Plant} (accounted : p.Accounted) :
    (p.held.map Buffer.serial).Nodup := by
  -- They are some of the buffers on loan.
  have distinct := accounted.distinct
  rw [buffers, List.map_append] at distinct
  exact (List.nodup_append.mp distinct).1

/-- A buffer in a caller's hands and all the others are the buffers on loan. -/
theorem Accounted.buffers_perm_of_held {p : Plant} (accounted : p.Accounted) {serial : Nat}
    {b : Buffer} (held : p.held? serial = some b) :
    p.buffers.Perm
      (b :: (p.held.filter (·.serial ≠ serial) ++ p.runs.flatMap Run.buffers)) :=
  -- The buffers of the runs are not touched.
  (perm_cons_filter_of_find? accounted.held_distinct held).append_right _

/-- The buffers of one run and all the others are the buffers on loan, whatever the run becomes. -/
theorem buffers_perm_of_run (p : Plant) {run : Nat} {r : Run} (found : p.runs[run]? = some r) :
    ∃ others, p.buffers.Perm (r.buffers ++ others) ∧
      ∀ change : Run → Run, (p.held ++ (p.runs.modify run change).flatMap Run.buffers).Perm
        ((change r).buffers ++ others) := by
  -- The run is one entry of the list of runs, and the others stay what they are.
  obtain ⟨others, before, after⟩ := flatMap_modify_perm Run.buffers found
  refine ⟨p.held ++ others, ?_, ?_⟩
  · exact (before.append_left p.held).trans (List.perm_append_comm_assoc _ _ _)
  · intro change
    exact ((after change).append_left p.held).trans (List.perm_append_comm_assoc _ _ _)

/-- A run that keeps its buffers, in whatever places, changes nothing for the accounts. -/
theorem Accounted.changeRun {p : Plant} (accounted : p.Accounted) {run : Nat} {r : Run}
    (found : p.runs[run]? = some r) {change : Run → Run}
    (kept : (change r).buffers.Perm r.buffers) :
    Ledger p.pools p.loans (p.held ++ (p.runs.modify run change).flatMap Run.buffers) := by
  -- The buffers on loan are the same before and after, in another order.
  obtain ⟨others, before, after⟩ := p.buffers_perm_of_run found
  exact accounted.perm (before.trans ((kept.symm.append_right others).trans (after change).symm))

/-- A run that lets go of some of its buffers leaves them next to the other buffers on loan. -/
theorem Accounted.release {p : Plant} (accounted : p.Accounted) {run : Nat} {r : Run}
    (found : p.runs[run]? = some r) {change : Run → Run} (gone : List Buffer)
    (parted : r.buffers.Perm (gone ++ (change r).buffers)) :
    Ledger p.pools p.loans
      (gone ++ (p.held ++ (p.runs.modify run change).flatMap Run.buffers)) := by
  -- The run's buffers are parted into those that go and those that it keeps.
  obtain ⟨others, before, after⟩ := p.buffers_perm_of_run found
  have together : p.buffers.Perm (gone ++ ((change r).buffers ++ others)) := by
    rw [← List.append_assoc]
    exact before.trans (parted.append_right others)
  exact accounted.perm (together.trans ((after change).symm.append_left gone))

/-- Every change of a plant keeps the accounts in agreement with the buffers. -/
theorem Accounted.change {p after : Plant} (accounted : p.Accounted) (change : Change p after) :
    after.Accounted := by
  cases change with
  | nothing => exact accounted
  | poolAdded capacity blockSize => exact Ledger.addPool accounted capacity blockSize
  | lineAdded config => exact Ledger.addPool accounted _ _
  | poolGone pool unused => exact Ledger.dropPool accounted pool
  | lineDropped line idle => exact accounted
  | lent found lends =>
    refine (Ledger.lend accounted found lends).perm ?_
    -- The new buffer is the last one in callers' hands.
    rw [buffers, buffers, List.append_assoc]
    exact List.perm_middle.symm
  | edited serial same =>
    -- An edit changes what is in a buffer, and not whose it is.
    refine Ledger.edit accounted fun b => ?_
    split
    · exact same b
    · exact ⟨rfl, rfl, rfl⟩
  | givenUp held => exact (Ledger.perm accounted (accounted.buffers_perm_of_held held)).writeOff
  | rejected line => exact accounted
  | @accepted run serial r b found held accepting room =>
    -- The buffer leaves callers' hands and comes to the end of the queue.
    have parted := accounted.buffers_perm_of_held held
    obtain ⟨others, before, after⟩ := flatMap_modify_perm Run.buffers found
    refine Ledger.perm accounted (parted.trans ?_)
    have arrives : (b :: (r.buffers ++ others)).Perm
        (({ r with queue := r.queue ++ [b] } : Run).buffers ++ others) := by
      refine List.perm_iff_count.mpr fun c => ?_
      simp only [Run.buffers, List.count_cons, List.count_append, List.count_nil]
      omega
    refine List.perm_middle.symm.trans (List.Perm.append_left _ ?_)
    exact ((before.cons b).trans arrives).trans
      (after fun r => { r with queue := r.queue ++ [b] }).symm
  | moved found moves =>
    refine accounted.changeRun found ?_
    cases moves with
    | goesOn checking accepting => simp [Run.buffers, checking, Worker.buffers]
    | ends checking finished => simp [Run.buffers, checking, Worker.buffers]
    | givesUp receiving empty => simp [Run.buffers, receiving, Worker.buffers]
  | fed found receiving queued =>
    -- The front of the queue goes into the worker's hands.
    refine accounted.changeRun found ?_
    simp [Run.buffers, receiving, queued, Worker.buffers]
  | answered found feeding own returned =>
    -- The buffer leaves the worker for the pool that it came from.
    refine (accounted.release found [_] ?_).giveBack _
    simp [Run.buffers, feeding, Worker.buffers]
  | crashed found feeding =>
    -- The buffer is lost with the worker, which the pool writes off.
    refine (accounted.release found [_] ?_).writeOff
    simp [Run.buffers, feeding, Worker.buffers]
  | @started line owned idle =>
    have same : (p.runs ++ [({ line } : Run)]).flatMap Run.buffers
        = p.runs.flatMap Run.buffers := by
      simp [Run.buffers, Worker.buffers]
    unfold Accounted buffers
    rw [same]
    exact accounted
  | told current found => exact accounted.changeRun found (List.Perm.refl _)
  | stopped current found finished =>
    -- All that is queued leaves the run at once.
    refine (accounted.release found _ ?_).writeOffAll
    simp only [Run.buffers, List.append_nil]
    exact List.perm_append_comm

/-- The accounts agree with the buffers after every history. -/
theorem afterMoves_accounted (moves : List Move) : (afterMoves moves).Accounted := by
  -- By induction on the history, from a plant with nothing in it.
  refine afterMoves_induction ?_ ?_ moves
  · exact ⟨by simp [buffers], by simp [buffers], by simp [buffers], by simp, by simp⟩
  · intro p m accounted admitted
    exact accounted.change (p.perform_change m admitted)

end Plant

end TunerControl.Samples
