import Mathlib.Data.List.Induction
import TunerControl.Samples.Move

/-! All that one step can change about a plant, with the conditions under which it does. -/

namespace TunerControl.Samples

/-- Two buffers are the same loan with storage of the same size, whatever their content. -/
structure SameLoan (a b : Buffer) : Prop where
  serial : a.serial = b.serial
  pool : a.pool = b.pool
  capacity : a.capacity = b.capacity

/-- Filling a buffer leaves the size of its storage alone. -/
theorem Buffer.fill_sameLoan (b : Buffer) (source : Bytes) : SameLoan (b.fill source) b := by
  refine ⟨rfl, rfl, ?_⟩
  -- What is copied replaces as many bytes as it has.
  simp only [fill, capacity, List.length_append, List.length_take, List.length_drop]
  omega

/-- Writing into a buffer leaves the size of its storage alone. -/
theorem Buffer.write_sameLoan (b : Buffer) (start : Nat) (source : Bytes) :
    SameLoan (b.write start source) b := by
  refine ⟨rfl, rfl, ?_⟩
  -- Past the end nothing is copied, and before it no more than there is room for.
  simp only [write, capacity, List.length_append, List.length_take, List.length_drop]
  omega

/-- Marking bytes as valid leaves the storage alone. -/
theorem Buffer.setLength_sameLoan (b : Buffer) (length : Nat) : SameLoan (b.setLength length) b :=
  ⟨rfl, rfl, rfl⟩

/-- A worker's move that leaves its queue alone. -/
inductive Worker.Moves (r : Run) : Worker → Prop where
  | goesOn (checking : r.worker = .checking) (accepting : r.accepting = true) : Moves r .receiving
  | ends (checking : r.worker = .checking) (finished : r.accepting = false) : Moves r .ended
  | givesUp (receiving : r.worker = .receiving) (empty : r.queue = []) : Moves r .checking

/-- The plants that one step can lead to. -/
inductive Change (p : Plant) : Plant → Prop where
  | nothing : Change p p
  | poolAdded (capacity blockSize : Nat) : Change p (p.addPool capacity blockSize)
  | lineAdded (config : PipelineConfig) : Change p (p.addLine config)
  | poolGone (pool : Nat) (unused : p.isInUse pool = false) : Change p (p.dropPool pool)
  | lineDropped (line : Nat) (idle : p.currentRun? line = none) : Change p (p.dropLine line)
  | lent {pool : Nat} {q lender : Pool} {block : Bytes} (found : p.pools[pool]? = some q)
      (lends : q.lend = some (block, lender)) :
      Change p { p with
        pools := p.pools.set pool lender
        held := p.held ++ [⟨p.loans, pool, block, 0⟩]
        loans := p.loans + 1 }
  | edited (serial : Nat) {change : Buffer → Buffer} (same : ∀ b, SameLoan (change b) b) :
      Change p (p.edit serial change)
  | givenUp {serial : Nat} {b : Buffer} (held : p.held? serial = some b) :
      Change p { p with
        pools := p.pools.writeOff b
        held := p.held.filter (·.serial ≠ serial) }
  | rejected (line : Nat) :
      Change p (p.count line fun s => { s with rejected := s.rejected + 1 })
  | accepted {run serial : Nat} {r : Run} {b : Buffer} (found : p.runs[run]? = some r)
      (held : p.held? serial = some b) (accepting : r.accepting = true)
      (room : r.queue.length < p.queueCapacity r) :
      Change p { p with
        lines := p.lines.modify r.line fun l =>
          { l with stats := { l.stats with submitted := l.stats.submitted + 1 } }
        runs := p.runs.modify run fun r => { r with queue := r.queue ++ [b] }
        held := p.held.filter (·.serial ≠ serial)
        journal := p.journal ++ [(run, .accepted b)] }
  | moved {run : Nat} {r : Run} {worker : Worker} (found : p.runs[run]? = some r)
      (moves : worker.Moves r) :
      Change p { p with runs := p.runs.modify run fun r => { r with worker } }
  | fed {run : Nat} {r : Run} {b : Buffer} {rest : List Buffer} (found : p.runs[run]? = some r)
      (receiving : r.worker = .receiving) (queued : r.queue = b :: rest) :
      Change p { p with
        runs := p.runs.modify run fun r => { r with worker := .feeding b, queue := rest }
        journal := p.journal ++ [(run, .fed b)] }
  | answered {run pool : Nat} {r : Run} {b : Buffer} {a : SinkAnswer}
      (found : p.runs[run]? = some r) (feeding : r.worker = .feeding b)
      (own : p.poolOfRun? run = some pool) (returned : a ≠ .crashed) :
      Change p { p with
        pools := p.pools.giveBack pool b
        lines := p.lines.modify r.line fun l => { l with stats := l.stats.afterAnswer a }
        runs := p.runs.modify run fun r => { r with worker := .checking }
        journal := p.journal ++ [(run, .answered b a)] }
  | crashed {run : Nat} {r : Run} {b : Buffer} (found : p.runs[run]? = some r)
      (feeding : r.worker = .feeding b) :
      Change p { p with
        pools := p.pools.writeOff b
        lines := p.lines.modify r.line fun l => { l with stats := l.stats.afterAnswer .crashed }
        runs := p.runs.modify run fun r => { r with worker := .crashed }
        journal := p.journal ++ [(run, .answered b .crashed)] }
  | started {line : Nat} (owned : p.owns line = true) (idle : p.currentRun? line = none) :
      Change p { p with
        runs := p.runs ++ [{ line }]
        lines := p.lines.modify line fun l => { l with current := some p.runs.length } }
  | told {line run : Nat} {r : Run} (current : p.currentRun? line = some run)
      (found : p.runs[run]? = some r) :
      Change p { p with runs := p.runs.modify run fun r => { r with accepting := false } }
  | stopped {line run : Nat} {r : Run} (current : p.currentRun? line = some run)
      (found : p.runs[run]? = some r) (finished : r.accepting = false) :
      Change p { p with
        pools := r.queue.foldl Pools.writeOff p.pools
        lines := (p.lines.modify line fun l =>
            { l with stats :=
              { l.stats with droppedAtStop := l.stats.droppedAtStop + r.queue.length } }).modify
          line fun l => { l with current := none }
        runs := p.runs.modify run fun r => { r with queue := [] }
        journal := p.journal ++ (r.queue.map Happening.discarded ++
          [Happening.stopped ⟨r.worker.isGone, r.queue.length⟩]).map fun h => (run, h) }

namespace Plant

/-- Lending changes nothing, or gives a caller a new buffer. -/
theorem lend_change (p : Plant) (pool : Nat) : Change p (p.lend pool).2 := by
  unfold lend
  -- A pool that is not there lends as little as one that has nothing left.
  cases lends : p.pools[pool]?.bind Pool.lend with
  | none => exact .nothing
  | some loan =>
    obtain ⟨q, found, lent⟩ := Option.bind_eq_some_iff.mp lends
    exact .lent found lent

/-- A buffer that is given up leaves its caller's hands. -/
theorem discard_change (p : Plant) (serial : Nat) : Change p (p.discard serial) := by
  -- A buffer that is not in a caller's hands cannot be given up.
  unfold discard
  cases held : p.held? serial with
  | none => exact .nothing
  | some b => exact .givenUp held

/-- A submission changes nothing but a counter, or puts the buffer at the end of the queue. -/
theorem submit_change (p : Plant) (run serial : Nat) : Change p (p.submit run serial).2 := by
  unfold submit
  cases found : p.runs[run]? with
  | none => exact .nothing
  | some r =>
    cases held : p.held? serial with
    | none => exact .nothing
    | some b =>
      dsimp only
      -- A run that is over and one whose queue is full turn the buffer down alike.
      split
      · rename_i taken
        exact .accepted found held taken.1 taken.2
      · exact .rejected r.line

/-- A worker looks whether its run goes on, takes a buffer, or gives up waiting. -/
theorem work_change (p : Plant) (run : Nat) : Change p (p.work run) := by
  unfold work
  cases found : p.runs[run]? with
  | none => exact .nothing
  | some r =>
    dsimp only
    -- What a worker does is up to where it stands, and then to its run or to the queue.
    cases worker : r.worker with
    | checking =>
      cases accepting : r.accepting with
      | true => exact .moved found (.goesOn worker accepting)
      | false => exact .moved found (.ends worker accepting)
    | receiving =>
      cases queue : r.queue with
      | nil => exact .moved found (.givesUp worker queue)
      | cons b rest => exact .fed found worker queue
    | feeding b => exact .nothing
    | ended => exact .nothing
    | crashed => exact .nothing

/-- A sink call that ends gives its buffer back, or loses it with the worker. -/
theorem answer_change (p : Plant) (run : Nat) (a : SinkAnswer) : Change p (p.answer run a) := by
  unfold answer
  cases found : p.runs[run]? with
  | none => exact .nothing
  | some r =>
    dsimp only
    -- Only a worker inside a sink call has one that ends.
    split
    · rename_i b pool feeding own
      split
      · rename_i crash
        subst crash
        exact .crashed found feeding
      · rename_i returned
        exact .answered found feeding own returned
    · exact .nothing

/-- Discarding buffers one after another gives up each of them and enters it into the journal. -/
theorem discardAll_eq (p : Plant) (run : Nat) (buffers : List Buffer) :
    buffers.foldl (fun p b => (p.writeOff b).note run (.discarded b)) p =
      { p with
        pools := buffers.foldl Pools.writeOff p.pools
        journal := p.journal ++ buffers.map fun b => (run, .discarded b) } := by
  -- By induction on the buffers, which are given up in order.
  induction buffers generalizing p with
  | nil => simp
  | cons b rest ih =>
    rw [List.foldl_cons, ih]
    simp [writeOff, note]

/-- A stop that returns empties the queue of the run that was told to end. -/
theorem completeStop_change (p : Plant) (line : Nat) (told : p.isRunning line = false) :
    Change p (p.completeStop line).2 := by
  unfold completeStop
  cases current : p.currentRun? line with
  | none => exact .nothing
  | some run =>
    cases found : p.runs[run]? with
    | none => simpa [found] using Change.nothing
    | some r =>
      -- A run that is stopped was told so, or it would be running.
      have finished : r.accepting = false := by
        simpa [isRunning, current, isAccepting, found] using told
      simp only [found, discardAll_eq]
      have change := Change.stopped current found finished
      rw [List.map_append, List.map_map, ← List.append_assoc] at change
      exact change

/-- A start changes nothing, or adds a run to a pipeline that has none. -/
theorem start_change (p : Plant) (line : Nat) (owned : p.owns line = true)
    (settled : p.isStopping line = false) : Change p (p.start line).2 := by
  unfold start
  split
  · exact .nothing
  · -- A pipeline that is neither running nor being stopped has no current run.
    rename_i resting
    have idle : p.currentRun? line = none := by
      cases current : p.currentRun? line with
      | none => rfl
      | some run => simp_all [isRunning, isStopping]
    exact .started owned idle

/-- Being told to stop changes the current run, if there is one. -/
theorem requestStop_change (p : Plant) (line : Nat) : Change p (p.requestStop line) := by
  unfold requestStop
  cases current : p.currentRun? line with
  | none => exact .nothing
  | some run =>
    cases found : p.runs[run]? with
    | none =>
      -- Telling a run that is not there changes nothing.
      simp only [changeRun, List.modify_eq_self (List.getElem?_eq_none_iff.mp found)]
      exact .nothing
    | some r => exact .told current found

/-- Whatever goes on beside the owner's commands is one of the changes. -/
theorem after_change (p : Plant) (activity : Activity) : Change p (p.after activity) := by
  -- Each activity is one of the changes, or does nothing.
  cases activity with
  | loan run =>
    simp only [after, loan]
    cases p.poolOfRun? run with
    | none => exact .nothing
    | some pool => exact p.lend_change pool
  | fill serial source => exact .edited serial fun b => b.fill_sameLoan source
  | write serial start source => exact .edited serial fun b => b.write_sameLoan start source
  | setLength serial length => exact .edited serial fun b => b.setLength_sameLoan length
  | submit run serial => exact p.submit_change run serial
  | discard serial => exact p.discard_change serial
  | work run => exact p.work_change run
  | answer run a => exact p.answer_change run a

/-- Every step that can be taken is one of the changes. -/
theorem perform_change (p : Plant) (m : Move) (admitted : p.admits m = true) :
    Change p (p.perform m) := by
  -- What a step needs in order to be taken is what the change it makes rests on.
  cases m with
  | background activity => exact p.after_change activity
  | addPool capacity blockSize => exact .poolAdded capacity blockSize
  | addLine config => exact .lineAdded config
  | take pool => exact p.lend_change pool
  | start line =>
    simp only [admits, Bool.and_eq_true, Bool.not_eq_true'] at admitted
    exact p.start_change line admitted.1 admitted.2
  | requestStop line => exact p.requestStop_change line
  | completeStop line =>
    simp only [admits, Bool.and_eq_true, Bool.not_eq_true'] at admitted
    exact p.completeStop_change line admitted.2
  | dropLine line =>
    simp only [admits, Bool.and_eq_true, Option.isNone_iff_eq_none] at admitted
    exact .lineDropped line admitted.2
  | dropPool pool =>
    simp only [admits, Bool.not_eq_true'] at admitted
    exact .poolGone pool admitted

/-- A step changes nothing if it cannot be taken. -/
theorem step_change (p : Plant) (m : Move) : Change p (p.step m) := by
  -- Either it can be taken, or it is none.
  unfold step
  split
  · rename_i admitted
    exact p.perform_change m admitted
  · exact .nothing

/-- What holds of nothing, and is kept by every change of a plant that a history leads to, holds
after every history. -/
theorem afterMoves_rule {motive : Plant → Prop} (empty : motive { })
    (kept : ∀ moves after, motive (afterMoves moves) → Change (afterMoves moves) after →
      motive after) (moves : List Move) : motive (afterMoves moves) := by
  -- The induction is from the last step, so that the plant before it is known to be a history's.
  induction moves using List.reverseRecOn with
  | nil => exact empty
  | append_singleton earlier m ih =>
    rw [afterMoves_append]
    exact kept earlier _ ih ((afterMoves earlier).step_change m)

end Plant

end TunerControl.Samples
