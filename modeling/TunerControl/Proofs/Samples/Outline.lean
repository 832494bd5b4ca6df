import TunerControl.Proofs.Samples.Retirement

/-! What a plant is like apart from the worker of one run, from the pools, from what is counted and
from what is in the buffers. No step depends on any of these, but for whether a loan is made. -/

namespace TunerControl.Samples

/-- A buffer without its storage. -/
def Buffer.tag (b : Buffer) : Buffer :=
  { b with block := [], length := 0 }

/-- A buffer loses its storage once. -/
@[simp] theorem Buffer.tag_tag (b : Buffer) : b.tag.tag = b.tag := rfl

/-- So do many. -/
@[simp] theorem Buffer.map_tag_tag (buffers : List Buffer) :
    (buffers.map tag).map tag = buffers.map tag := by
  rw [List.map_map]
  rfl

/-- A buffer without its storage has its number. -/
@[simp] theorem Buffer.tag_serial (b : Buffer) : b.tag.serial = b.serial := rfl

/-- A worker with a buffer without storage, or one of which nothing is told. -/
def Worker.sketch (hidden : Bool) (worker : Worker) : Worker :=
  match hidden, worker with
  | true, _ => .ended
  | false, feeding b => .feeding b.tag
  | false, worker => worker

/-- A sketch of a worker's sketch is the same sketch. -/
@[simp] theorem Worker.sketch_sketch (hidden : Bool) (worker : Worker) :
    (worker.sketch hidden).sketch hidden = worker.sketch hidden := by
  -- One case for each worker, hidden or not.
  cases hidden <;> cases worker <;> rfl

/-- The sketch of a worker tells whether it is gone. -/
@[simp] theorem Worker.sketch_isGone (worker : Worker) :
    (worker.sketch false).isGone = worker.isGone := by
  cases worker <;> rfl

/-- A run with buffers without storage, of whose worker nothing is told if that is to be hidden. -/
def Run.sketch (hidden : Bool) (r : Run) : Run :=
  { r with queue := r.queue.map Buffer.tag, worker := r.worker.sketch hidden }

/-- A sketch of a run's sketch is the same sketch. -/
@[simp] theorem Run.sketch_sketch (hidden : Bool) (r : Run) :
    (r.sketch hidden).sketch hidden = r.sketch hidden := by
  simp [sketch]

/-- A happening with buffers without storage. -/
def Happening.tag : Happening → Happening
  | accepted b => accepted b.tag
  | fed b => fed b.tag
  | answered b a => answered b.tag a
  | discarded b => discarded b.tag
  | stopped report => stopped report

/-- A happening loses the storage of its buffer once. -/
@[simp] theorem Happening.tag_tag (h : Happening) : h.tag.tag = h.tag := by
  cases h <;> rfl

/-- A pipeline that counts nothing. -/
def Line.sketch (l : Line) : Line :=
  { l with stats := { } }

/-- A pipeline loses its counters once. -/
@[simp] theorem Line.sketch_sketch (l : Line) : l.sketch.sketch = l.sketch := rfl

namespace Plant

/-- A plant apart from the worker of a run: all that its steps depend on, if it is known which loans
are made. -/
def outline (run : Nat) (p : Plant) : Plant where
  -- A pipeline's pool has the number of pools before it, so that many are told of, and no more.
  pools := List.replicate p.pools.length (Pool.new 0 0)
  lines := p.lines.map Line.sketch
  runs := p.runs.mapIdx fun n r => r.sketch (n = run)
  held := p.held.map Buffer.tag
  loans := p.loans
  -- What happens in the run itself is left out, since its worker decides on it.
  journal := (p.journal.filter fun entry => entry.1 ≠ run).map fun entry =>
    (entry.1, entry.2.tag)

variable (run : Nat) (p : Plant)

/-- An outline is its own outline. -/
@[simp] theorem outline_outline : (p.outline run).outline run = p.outline run := by
  -- Each part is reduced to what stays when it is reduced again.
  simp [outline, Function.comp_def, List.filter_map, List.mapIdx_mapIdx]

/-- A pipeline is in its place in the outline. -/
@[simp] theorem outline_lines (n : Nat) :
    (p.outline run).lines[n]? = p.lines[n]?.map Line.sketch :=
  List.getElem?_map

/-- A run is in its place in the outline, hidden or not. -/
@[simp] theorem outline_runs (n : Nat) :
    (p.outline run).runs[n]? = p.runs[n]?.map (Run.sketch (n = run)) :=
  List.getElem?_mapIdx

/-- A buffer in a caller's hands is told by its number. -/
@[simp] theorem outline_held? (serial : Nat) :
    (p.outline run).held? serial = (p.held? serial).map Buffer.tag := by
  -- The number is what it is looked for by.
  rw [held?, outline, List.find?_map]
  rfl

/-- The current runs are told. -/
@[simp] theorem outline_currentRun? (line : Nat) :
    (p.outline run).currentRun? line = p.currentRun? line := by
  simp only [currentRun?, outline_lines]
  cases p.lines[line]? <;> rfl

/-- Whether a run accepts is told, of the hidden one as well. -/
@[simp] theorem outline_isAccepting (n : Nat) :
    (p.outline run).isAccepting n = p.isAccepting n := by
  simp only [isAccepting, outline_runs]
  cases p.runs[n]? <;> rfl

/-- The pool of a run is told. -/
@[simp] theorem outline_poolOfRun? (n : Nat) :
    (p.outline run).poolOfRun? n = p.poolOfRun? n := by
  -- It is found by way of the run's pipeline.
  simp only [poolOfRun?, outline_runs]
  cases p.runs[n]? with
  | none => rfl
  | some r =>
    simp only [Option.map_some, Option.bind_eq_bind, Option.bind_some, outline_lines, Run.sketch]
    cases p.lines[r.line]? <;> rfl

/-- The size of a run's queue is told. -/
@[simp] theorem outline_queueCapacity (hidden : Bool) (r : Run) :
    (p.outline run).queueCapacity (r.sketch hidden) = p.queueCapacity r := by
  simp only [queueCapacity, outline_lines, Run.sketch]
  cases p.lines[r.line]? <;> rfl

/-- What is counted is not told. -/
@[simp] theorem outline_count (line : Nat) (change : Stats → Stats) :
    (p.count line change).outline run = p.outline run := by
  -- A sketch has no counters.
  have same : (p.count line change).lines.map Line.sketch = p.lines.map Line.sketch := by
    apply map_modify_of_same
    intro l
    rfl
  exact congrArg (fun lines => { p.outline run with lines }) same

/-- The account of a buffer that is given up is not told. -/
@[simp] theorem outline_writeOff (b : Buffer) : (p.writeOff b).outline run = p.outline run := by
  -- As many pools are there as before.
  have same : (p.writeOff b).pools.length = p.pools.length := by
    unfold writeOff Pools.writeOff
    split <;> simp
  rw [outline, same]
  rfl

/-- The account of a buffer that is given back is not told. -/
@[simp] theorem outline_giveBack (pool : Nat) (b : Buffer) :
    (p.giveBack pool b).outline run = p.outline run := by
  -- As many pools are there as before, whichever of them takes note of it.
  have same : (p.giveBack pool b).pools.length = p.pools.length := by
    unfold giveBack Pools.giveBack Pools.writeOff
    split <;> split <;> simp
  rw [outline, same]
  rfl

/-- A buffer that leaves its caller's hands does so in the outline. -/
@[simp] theorem outline_release (serial : Nat) :
    (p.release serial).outline run = (p.outline run).release serial := by
  -- Filtering by the number and taking the storage away come to the same in either order.
  have same : (p.held.filter (·.serial ≠ serial)).map Buffer.tag =
      (p.held.map Buffer.tag).filter (·.serial ≠ serial) := by
    rw [List.filter_map]
    rfl
  exact congrArg (fun held => { p.outline run with held }) same

/-- What is done to the content of a buffer is not told. -/
theorem outline_edit (serial : Nat) {change : Buffer → Buffer} (same : ∀ b, SameLoan (change b) b) :
    (p.edit serial change).outline run = p.outline run := by
  -- The edited buffer has the number and the pool that it had.
  have tags : (p.edit serial change).held.map Buffer.tag = p.held.map Buffer.tag := by
    unfold edit
    rw [List.map_map]
    refine List.map_congr_left fun b member => ?_
    show (if b.serial = serial then change b else b).tag = b.tag
    split
    · simp only [Buffer.tag, (same b).serial, (same b).pool]
    · rfl
  exact congrArg (fun held => { p.outline run with held }) tags

/-- A run that changes is sketched as its change is. -/
theorem outline_changeRun (n : Nat) {change changed : Run → Run}
    (same : ∀ r, (change r).sketch (n = run) = changed (r.sketch (n = run))) :
    (p.changeRun n change).outline run = (p.outline run).changeRun n changed := by
  -- Run by run: the changed one is sketched alike, and the others are the same.
  have runs : (p.runs.modify n change).mapIdx (fun i r => r.sketch (i = run)) =
      (p.runs.mapIdx fun i r => r.sketch (i = run)).modify n changed := by
    apply List.ext_getElem?
    intro i
    rw [List.getElem?_mapIdx, List.getElem?_modify, List.getElem?_modify, List.getElem?_mapIdx]
    cases p.runs[i]? with
    | none => rfl
    | some r =>
      by_cases here : n = i
      · subst here
        simp [same]
      · simp [here]
  exact congrArg (fun runs => { p.outline run with runs }) runs

/-- What happens in other runs is told, but not what is in the buffers. -/
@[simp] theorem outline_note (n : Nat) (happening : Happening) :
    (p.note n happening).outline run =
      if n = run then p.outline run else (p.outline run).note n happening.tag := by
  -- The entry is filtered out, or it is entered without storage.
  simp only [outline, note, List.filter_append]
  split
  · rename_i here
    simp [here]
  · rename_i elsewhere
    simp [elsewhere]

/-- A pipeline that changes, apart from what it counts, is sketched as its change is. -/
theorem outline_changeLine (line : Nat) {change : Line → Line}
    (same : ∀ l, (change l).sketch = change l.sketch) :
    ({ p with lines := p.lines.modify line change } : Plant).outline run =
      { p.outline run with lines := (p.outline run).lines.modify line change } := by
  -- Pipeline by pipeline: the changed one is sketched alike, and the others are the same.
  have lines : (p.lines.modify line change).map Line.sketch =
      (p.lines.map Line.sketch).modify line change := by
    apply List.ext_getElem?
    intro i
    rw [List.getElem?_map, List.getElem?_modify, List.getElem?_modify, List.getElem?_map]
    cases p.lines[i]? with
    | none => rfl
    | some l =>
      show some (if line = i then change l else l).sketch =
        some (if line = i then change l.sketch else l.sketch)
      split
      · rw [same]
      · rfl
  exact congrArg (fun lines => { p.outline run with lines }) lines

/-- A submission depends on what is told, and so does what it leads to. -/
theorem outline_submit (n serial : Nat) :
    (p.submit n serial).1 = ((p.outline run).submit n serial).1 ∧
      (p.submit n serial).2.outline run = ((p.outline run).submit n serial).2.outline run := by
  unfold submit
  rw [outline_runs, outline_held?]
  cases p.runs[n]? with
  | none => exact ⟨rfl, (p.outline_outline run).symm⟩
  | some r =>
    cases p.held? serial with
    | none => exact ⟨rfl, (p.outline_outline run).symm⟩
    | some b =>
      -- Whether the run accepts and has room is told, and a buffer is queued as what is told of it.
      have queued : ∀ (q : Plant) (c : Buffer),
          ((q.release serial).changeRun n fun r => { r with queue := r.queue ++ [c] }).outline run =
            ((q.outline run).release serial).changeRun n
              fun r => { r with queue := r.queue ++ [c.tag] } := by
        intro q c
        rw [← outline_release]
        apply outline_changeRun
        intro r
        simp [Run.sketch]
      have room : (r.sketch (n = run)).queue.length = r.queue.length := List.length_map _
      have accepting : (r.sketch (n = run)).accepting = r.accepting := rfl
      simp only [Option.map_some, outline_queueCapacity, room, accepting]
      by_cases taken : r.accepting = true ∧ r.queue.length < p.queueCapacity r
      · rw [if_pos taken, if_pos taken]
        refine ⟨rfl, ?_⟩
        simp only [outline_note, outline_count, queued, outline_outline, Happening.tag,
          Buffer.tag_tag]
      · rw [if_neg taken, if_neg taken]
        refine ⟨rfl, ?_⟩
        simp only [outline_count, outline_outline]

/-- What becomes of a buffer that is discarded is not told, but that it is. -/
theorem outline_discard (serial : Nat) :
    (p.discard serial).outline run = ((p.outline run).discard serial).outline run := by
  -- Which buffer it is, is told by its number.
  unfold discard
  rw [outline_held?]
  cases p.held? serial with
  | none => exact (p.outline_outline run).symm
  | some b => simp only [Option.map_some, outline_writeOff, outline_release, outline_outline]

/-- What the worker of another run is doing is told. -/
theorem outline_changeWorker (n : Nat) (other : n ≠ run) (p : Plant) (worker : Worker) :
    (p.changeRun n fun r => { r with worker }).outline run =
      (p.outline run).changeRun n fun r => { r with worker := worker.sketch false } := by
  -- The worker of another run is not hidden.
  apply outline_changeRun
  intro r
  simp [Run.sketch, other]

/-- The worker of another run moves on as what is told of it. -/
theorem outline_work (n : Nat) (other : n ≠ run) :
    (p.work n).outline run = ((p.outline run).work n).outline run := by
  -- Where the worker is and whether its queue is empty is told, and no more decides its move.
  unfold work
  rw [outline_runs]
  cases p.runs[n]? with
  | none => exact (p.outline_outline run).symm
  | some r =>
    have moves := outline_changeWorker run n other
    have feeds : ∀ (q : Plant) (c : Buffer) (rest : List Buffer),
        (q.changeRun n fun r => { r with worker := .feeding c, queue := rest }).outline run =
          (q.outline run).changeRun n fun r =>
            { r with worker := .feeding c.tag, queue := rest.map Buffer.tag } := by
      intro q c rest
      apply outline_changeRun
      intro r
      simp [Run.sketch, other, Worker.sketch]
    simp only [Option.map_some, other, decide_false, Run.sketch]
    cases r.worker with
    | checking => simp only [Worker.sketch, moves, outline_outline]
    | receiving =>
      cases r.queue with
      | nil => simp only [Worker.sketch, List.map_nil, moves, outline_outline]
      | cons b rest =>
        simp only [Worker.sketch, List.map_cons, outline_note, feeds, outline_outline, Happening.tag,
          Buffer.tag_tag, Buffer.map_tag_tag]
    | _ => simp only [Worker.sketch, outline_outline]

/-- A sink call of another run's worker comes to its end as what is told of it. -/
theorem outline_answer (n : Nat) (a : SinkAnswer) (other : n ≠ run) :
    (p.answer n a).outline run = ((p.outline run).answer n a).outline run := by
  -- The account of the pool that takes the buffer back is not told, nor what is counted.
  unfold answer
  rw [outline_runs, outline_poolOfRun?]
  cases p.runs[n]? with
  | none => exact (p.outline_outline run).symm
  | some r =>
    have moves := outline_changeWorker run n other
    simp only [Option.map_some, other, decide_false, Run.sketch]
    cases r.worker with
    | feeding b =>
      cases p.poolOfRun? n with
      | none => simp only [Worker.sketch, outline_outline]
      | some pool =>
        simp only [Worker.sketch]
        split
        · simp only [moves, outline_writeOff, outline_count, outline_note, outline_outline,
            Happening.tag, Buffer.tag_tag]
        · simp only [moves, outline_giveBack, outline_count, outline_note, outline_outline,
            Happening.tag, Buffer.tag_tag]
    | _ => simp only [Worker.sketch, outline_outline]

/-- A start depends on what is told, and adds a run that is told. -/
theorem outline_start (line : Nat) :
    (p.start line).2.outline run = ((p.outline run).start line).2.outline run := by
  have same : (p.outline run).isRunning line = p.isRunning line := by
    simp [isRunning]
  have told : ∀ q : Plant, ({ q with
      runs := q.runs ++ [{ line }]
      lines := q.lines.modify line fun l => { l with current := some q.runs.length } } :
        Plant).outline run = { q.outline run with
      runs := (q.outline run).runs ++ [Run.sketch (q.runs.length = run) { line }]
      lines := (q.outline run).lines.modify line
        fun l => { l with current := some q.runs.length } } := by
    intro q
    have lines := congrArg Plant.lines (@outline_changeLine run q line
      (fun l => { l with current := some q.runs.length }) fun l => rfl)
    simp only [outline, List.mapIdx_append, List.mapIdx_cons, List.mapIdx_nil, Nat.zero_add] at lines ⊢
    rw [lines]
  -- The new run is numbered by how many runs there are, which is told.
  have count : (p.outline run).runs.length = p.runs.length := List.length_mapIdx
  unfold start
  rw [same]
  split
  · exact (p.outline_outline run).symm
  · dsimp only
    rw [told, told, outline_outline, count]

/-- A run that is told to end is told to have been. -/
theorem outline_requestStop (line : Nat) :
    (p.requestStop line).outline run = ((p.outline run).requestStop line).outline run := by
  -- The current run is told, and so is that it accepts no more.
  unfold requestStop
  rw [outline_currentRun?]
  cases p.currentRun? line with
  | none => exact (p.outline_outline run).symm
  | some n =>
    have told : ∀ q : Plant, (q.changeRun n fun r => { r with accepting := false }).outline run =
        (q.outline run).changeRun n fun r => { r with accepting := false } := by
      intro q
      apply outline_changeRun
      intro r
      rfl
    simp only [told, outline_outline]

/-- The buffers that a stop discards are told. -/
theorem outline_discardAll (n : Nat) (queue : List Buffer) (p : Plant) :
    (queue.foldl (fun p b => (p.writeOff b).note n (.discarded b)) p).outline run =
      (queue.map Buffer.tag).foldl
        (fun p b => if n = run then p else p.note n (.discarded b)) (p.outline run) := by
  -- By induction on the queue: each buffer is written off, which is not told, and noted.
  induction queue generalizing p with
  | nil => rfl
  | cons b rest ih =>
    rw [List.foldl_cons, ih, outline_note, outline_writeOff, List.map_cons, List.foldl_cons]
    rfl

/-- A stop returns as what is told of its run. -/
theorem outline_completeStop (line : Nat) :
    (p.completeStop line).2.outline run = ((p.outline run).completeStop line).2.outline run := by
  unfold completeStop
  rw [outline_currentRun?]
  cases p.currentRun? line with
  | none => exact (p.outline_outline run).symm
  | some n =>
    simp only [outline_runs]
    cases p.runs[n]? with
    | none => exact (p.outline_outline run).symm
    | some r =>
      have emptied : ∀ q : Plant, (q.changeRun n fun r => { r with queue := [] }).outline run =
          (q.outline run).changeRun n fun r => { r with queue := [] } := by
        intro q
        apply outline_changeRun
        intro r
        rfl
      have settled : ∀ q : Plant,
          ({ q with lines := q.lines.modify line fun l => { l with current := none } } :
              Plant).outline run =
            { q.outline run with
              lines := (q.outline run).lines.modify line fun l => { l with current := none } } := by
        intro q
        apply outline_changeLine
        intro l
        rfl
      simp only [Option.map_some]
      refine (settled _).trans (Eq.trans ?_ (settled _).symm)
      simp only [outline_note, outline_count, emptied, outline_discardAll, outline_outline,
        Buffer.map_tag_tag, Run.sketch, Happening.tag, List.length_map]
      -- The report is told if the run is another one, and then it is the same.
      by_cases here : n = run
      · simp only [if_pos here]
      · simp only [here, decide_false, Worker.sketch_isGone]

/-- A new pool is told to be there. -/
theorem outline_addPool (capacity blockSize : Nat) :
    (p.addPool capacity blockSize).outline run =
      ((p.outline run).addPool capacity blockSize).outline run := by
  -- Pools are told by how many there are.
  have told : ∀ q : Plant, (q.addPool capacity blockSize).outline run =
      { q.outline run with pools := List.replicate (q.pools.length + 1) (Pool.new 0 0) } := by
    intro q
    simp [outline, addPool]
  have count : (p.outline run).pools.length = p.pools.length := List.length_replicate
  rw [told, told, outline_outline, count]

/-- A new pipeline depends on how many pools there are, which is told. -/
theorem outline_addLine (config : PipelineConfig) :
    (p.addLine config).outline run = ((p.outline run).addLine config).outline run := by
  -- The outline of a new pipeline tells its capacity and the number of its pool, and no pool's
  -- state.
  have told : ∀ q : Plant, (q.addLine config).outline run =
      { q.outline run with
        pools := List.replicate (q.pools.length + 1) (Pool.new 0 0)
        lines := (q.outline run).lines ++
          [{ pool := q.pools.length, queueCapacity := config.queueCapacity.toNat }] } := by
    intro q
    simp [outline, addLine, addPool, Line.sketch]
  have count : (p.outline run).pools.length = p.pools.length := List.length_replicate
  rw [told, told, outline_outline, count]

/-- A pipeline is told to be dropped. -/
theorem outline_dropLine (line : Nat) :
    (p.dropLine line).outline run = ((p.outline run).dropLine line).outline run := by
  -- That nobody owns the pipeline any more is told.
  have told : ∀ q : Plant, (q.dropLine line).outline run = (q.outline run).dropLine line := by
    intro q
    apply outline_changeLine
    intro l
    rfl
  rw [told, told, outline_outline]

/-- It is not told whether a pool is alive. -/
theorem outline_dropPool (pool : Nat) : (p.dropPool pool).outline run = p.outline run := by
  -- As many pools are there as before, alive or not.
  have same : (p.dropPool pool).pools.length = p.pools.length := List.length_modify ..
  rw [outline, same]
  rfl

/-- Whether a step can be taken depends on what is told, unless a pool goes with it. -/
theorem outline_admits (m : Move) (keeps : ∀ pool, m ≠ .dropPool pool) :
    (p.outline run).admits m = p.admits m := by
  -- What else a step asks for is an owner, a run to stop, or none.
  have owns : ∀ line, (p.outline run).owns line = p.owns line := by
    intro line
    simp only [Plant.owns, outline_lines]
    cases p.lines[line]? <;> rfl
  cases m with
  | dropPool pool => exact absurd rfl (keeps pool)
  | _ => simp [admits, owns, isStopping, isRunning]

/-- A loan that is made is told, and its number is that of the loans before. -/
theorem outline_lend (pool : Nat) :
    (p.lend pool).2.outline run =
      if (p.lend pool).1.isSome then
        { p.outline run with
          held := (p.outline run).held ++ [⟨(p.outline run).loans, pool, [], 0⟩]
          loans := (p.outline run).loans + 1 }
      else p.outline run := by
  -- The loan is entered under the next number, and only the storage comes from the pool.
  unfold lend
  cases p.pools[pool]?.bind Pool.lend with
  | none => rfl
  | some loan => simp [outline, Buffer.tag]

/-- What another worker, a caller or an owner does leads to what is told of it, if it asks for no
loan. -/
theorem outline_perform (m : Move) (other : m.isOf run = false) (asks : p.lends? m = none)
    (keeps : ∀ pool, m ≠ .dropPool pool) :
    (p.perform m).outline run = ((p.outline run).perform m).outline run := by
  -- The content of a buffer is not told, neither before it is changed nor afterwards.
  have edited : ∀ (serial : Nat) {change : Buffer → Buffer}, (∀ b, SameLoan (change b) b) →
      (p.edit serial change).outline run = ((p.outline run).edit serial change).outline run := by
    intro serial change same
    rw [outline_edit run p serial same, outline_edit run _ serial same, outline_outline]
  cases m with
  | background activity =>
    cases activity with
    | loan n => simp [lends?] at asks
    | fill serial source => exact edited serial fun b => b.fill_sameLoan source
    | write serial start source => exact edited serial fun b => b.write_sameLoan start source
    | setLength serial length => exact edited serial fun b => b.setLength_sameLoan length
    | submit n serial => exact (p.outline_submit run n serial).2
    | discard serial => exact p.outline_discard run serial
    | work n => exact p.outline_work run n (of_decide_eq_false other)
    | answer n a => exact p.outline_answer run n a (of_decide_eq_false other)
  | addPool capacity blockSize => exact p.outline_addPool run capacity blockSize
  | addLine config => exact p.outline_addLine run config
  | take pool => simp [lends?] at asks
  | start line => exact p.outline_start run line
  | requestStop line => exact p.outline_requestStop run line
  | completeStop line => exact p.outline_completeStop run line
  | dropLine line => exact p.outline_dropLine run line
  | dropPool pool => exact absurd rfl (keeps pool)

/-- A step of another worker, a caller or an owner leads to what is told of it, if it asks for no
loan. -/
theorem outline_step (m : Move) (other : m.isOf run = false) (asks : p.lends? m = none) :
    (p.step m).outline run = ((p.outline run).step m).outline run := by
  by_cases keeps : ∀ pool, m ≠ .dropPool pool
  · unfold step
    rw [outline_admits run p m keeps]
    split
    · exact p.outline_perform run m other asks keeps
    · exact (p.outline_outline run).symm
  · -- Whether or not the pool goes, nothing that is told changes.
    have told : ∀ (q : Plant) (pool : Nat),
        (q.step (.dropPool pool)).outline run = q.outline run := by
      intro q pool
      unfold step
      split
      · exact q.outline_dropPool run pool
      · rfl
    obtain ⟨pool, rfl⟩ : ∃ pool, m = .dropPool pool := by simpa using keeps
    rw [told, told, outline_outline]

variable {run p}

/-- Plants of which the same is told are led to such plants by a step that is not of the hidden
worker, if it makes the same loans, and such a step has the same buffers accepted. -/
theorem step_of_outline_eq {q : Plant} (same : p.outline run = q.outline run) (m : Move)
    (other : m.isOf run = false) (lends : p.lends? m = q.lends? m) :
    (p.step m).outline run = (q.step m).outline run ∧ p.accepts? m = q.accepts? m := by
  -- A loan is told as one of a pool, and producers borrow from the pools that are told.
  have lent : ∀ pool, (p.lend pool).1.isSome = (q.lend pool).1.isSome →
      (p.lend pool).2.outline run = (q.lend pool).2.outline run := by
    intro pool made
    rw [outline_lend, outline_lend, made, same]
  have own : ∀ n, p.poolOfRun? n = q.poolOfRun? n := by
    intro n
    rw [← outline_poolOfRun? run p, same, outline_poolOfRun?]
  -- A step that asks for no loan depends on what is told alone.
  by_cases asks : p.lends? m = none
  · refine ⟨?_, ?_⟩
    · rw [outline_step run p m other asks, same, ← outline_step run q m other (lends ▸ asks)]
    · cases m with
      | background activity =>
        cases activity with
        | submit n serial =>
          rw [accepts?, accepts?, (p.outline_submit run n serial).1, same,
            ← (q.outline_submit run n serial).1]
        | _ => rfl
      | _ => rfl
  · cases m with
    | background activity =>
      cases activity with
      | loan n =>
        refine ⟨?_, rfl⟩
        simp only [lends?, Option.some.injEq] at lends
        show (p.loan n).2.outline run = (q.loan n).2.outline run
        unfold loan at lends ⊢
        rw [own n] at lends ⊢
        cases from_ : q.poolOfRun? n with
        | none => exact same
        | some pool =>
          rw [from_] at lends
          exact lent pool lends
      | _ => exact absurd rfl asks
    | take pool =>
      refine ⟨lent pool ?_, rfl⟩
      simpa [lends?] using lends
    | _ => exact absurd rfl asks

/-- What the hidden worker is doing is not told. -/
theorem outline_changeHidden (p : Plant) (worker : Worker) :
    (p.changeRun run fun r => { r with worker }).outline run = p.outline run := by
  -- The worker is sketched as ended, whatever it is doing.
  have hidden : (p.changeRun run fun r => { r with worker }).outline run =
      (p.outline run).changeRun run id := by
    apply outline_changeRun
    intro r
    simp [Run.sketch, Worker.sketch]
  rw [hidden, changeRun, List.modify_id]

/-- A step of the worker of a run that is over changes nothing that is told. -/
theorem Retired.outline_step {r : Run} (retired : p.Retired run r) (m : Move)
    (own : m.isOf run = true) : (p.step m).outline run = p.outline run := by
  -- Its queue is empty, so that it does nothing but go on to its end, or end its sink call.
  cases m with
  | background activity =>
    cases activity with
    | work n =>
      obtain rfl : n = run := of_decide_eq_true own
      show (p.work n).outline n = p.outline n
      unfold work
      simp only [retired.found, retired.empty]
      cases r.worker <;> simp only [outline_changeHidden]
    | answer n a =>
      obtain rfl : n = run := of_decide_eq_true own
      show (p.answer n a).outline n = p.outline n
      unfold Plant.answer
      simp only [retired.found]
      split
      · split
        · simp only [outline_changeHidden, outline_writeOff, outline_count, outline_note, if_true]
        · simp only [outline_changeHidden, outline_giveBack, outline_count, outline_note, if_true]
      · rfl
    | _ => exact absurd own Bool.false_ne_true
  | _ => exact absurd own Bool.false_ne_true

end Plant

end TunerControl.Samples
