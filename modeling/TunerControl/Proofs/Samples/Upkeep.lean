import TunerControl.Proofs.Samples.Running

/-! What the owner of a pipeline does who keeps it: the owner starts it, stops it, and lets things go
on in between. -/

namespace TunerControl.Samples

namespace Pools

/-- Giving up a buffer leaves the lives of the pools alone. -/
theorem alive_writeOff (pools : Pools) (b : Buffer) :
    (pools.writeOff b).map Pool.alive = pools.map Pool.alive := by
  -- The account of one pool changes, and no more.
  unfold writeOff
  split
  · rfl
  · exact map_modify_of_same Pool.alive (fun q => q.writeOff_frame.2) pools b.pool

/-- Giving up buffers one after another leaves the lives of the pools alone. -/
theorem alive_writeOffAll (pools : Pools) (buffers : List Buffer) :
    (buffers.foldl writeOff pools).map Pool.alive = pools.map Pool.alive := by
  -- Giving a buffer up changes what its pool counts, and not whether there is the pool.
  induction buffers generalizing pools with
  | nil => rfl
  | cons b rest ih =>
    rw [List.foldl_cons, ih]
    exact alive_writeOff pools b

/-- Giving a buffer back leaves the lives of the pools alone. -/
theorem alive_giveBack (pools : Pools) (pool : Nat) (b : Buffer) :
    (pools.giveBack pool b).map Pool.alive = pools.map Pool.alive := by
  -- Either the pool takes the block back, or it is written off by its own.
  unfold giveBack
  split
  · rw [alive_writeOff]
    refine map_modify_of_same Pool.alive ?_ pools pool
    intro q
    rfl
  · exact alive_writeOff pools b

end Pools

namespace Plant

variable {p q after : Plant}

/-- What there is at a plant beside its runs: which pools are alive, and of each pipeline the pool and
whether it was dropped. -/
def furniture (p : Plant) : List Bool × List (Nat × Bool) :=
  (p.pools.map Pool.alive, p.lines.map fun l => (l.pool, l.dropped))

/-- There is one pool, which is alive, and one pipeline, which has that pool and an owner. -/
def Furnished (p : Plant) : Prop :=
  p.furniture = ([true], [(0, false)])

/-- A pipeline may change its counters and its current run. -/
theorem furniture_of_modify {line : Nat} {change : Line → Line}
    (pools : after.pools.map Pool.alive = p.pools.map Pool.alive)
    (lines : after.lines = p.lines.modify line change)
    (same : ∀ l, ((change l).pool, (change l).dropped) = (l.pool, l.dropped)) :
    after.furniture = p.furniture := by
  -- The pipeline that changes keeps its pool and its owner.
  rw [furniture, pools, lines, map_modify_of_same _ same]
  rfl

/-- The pools may change in any way but by coming and going. -/
theorem furniture_of_pools (pools : after.pools.map Pool.alive = p.pools.map Pool.alive)
    (lines : after.lines = p.lines) : after.furniture = p.furniture := by
  rw [furniture, pools, lines]
  rfl

/-- Lending moves no furniture. -/
theorem lend_furniture (p : Plant) (pool : Nat) : (p.lend pool).2.furniture = p.furniture := by
  unfold lend
  cases lends : p.pools[pool]?.bind Pool.lend with
  | none => rfl
  | some loan =>
    -- Only a pool that is alive lends, and it stays so.
    obtain ⟨q, found, lent⟩ := Option.bind_eq_some_iff.mp lends
    refine furniture_of_pools (map_set_of_same Pool.alive found ?_) rfl
    unfold Pool.lend at lent
    split at lent
    · rw [← Option.some.inj lent]
    · simp at lent

/-- Nothing that goes on beside the owner's commands changes the furniture. -/
theorem after_furniture (p : Plant) (activity : Activity) :
    (p.after activity).furniture = p.furniture := by
  -- One case for each activity. Pools and counters change, but nothing comes or goes.
  cases activity with
  | loan run =>
    simp only [after, loan]
    split
    · rfl
    · exact p.lend_furniture _
  | fill serial source => rfl
  | write serial start source => rfl
  | setLength serial length => rfl
  | submit run serial =>
    simp only [after, submit]
    split
    · split
      · exact furniture_of_modify rfl rfl fun l => rfl
      · exact furniture_of_modify rfl rfl fun l => rfl
    · rfl
  | discard serial =>
    simp only [after, discard]
    split
    · rfl
    · exact furniture_of_pools (Pools.alive_writeOff _ _) rfl
  | work run =>
    simp only [after, work]
    split
    · rfl
    · split <;> rfl
  | answer run a =>
    simp only [after, answer]
    split
    · rfl
    · split
      · split
        · exact furniture_of_modify (Pools.alive_writeOff _ _) rfl fun l => rfl
        · exact furniture_of_modify (Pools.alive_giveBack _ _ _) rfl fun l => rfl
      · rfl

/-- However much goes on beside the owner's commands, the furniture stays. -/
theorem afterAll_furniture (p : Plant) (activities : List Activity) :
    (p.afterAll activities).furniture = p.furniture := by
  -- Each activity leaves the furniture as it is to the ones after it.
  induction activities generalizing p with
  | nil => rfl
  | cons activity rest ih => exact (ih (p.after activity)).trans (p.after_furniture activity)

/-- A start moves no furniture. -/
theorem start_furniture (p : Plant) (line : Nat) : (p.start line).2.furniture = p.furniture := by
  -- The pipeline learns of its run, and no more.
  unfold start
  split
  · rfl
  · exact furniture_of_modify rfl rfl fun l => rfl

/-- Telling a run to end moves no furniture. -/
theorem requestStop_furniture (p : Plant) (line : Nat) :
    (p.requestStop line).furniture = p.furniture := by
  unfold requestStop
  split <;> rfl

/-- A pipeline that is not running can be started. -/
theorem start_of_still {line : Nat} (still : p.isRunning line = false) :
    p.start line = (.ok p.runs.length, (p.start line).2) := by
  -- A start is refused only by a pipeline that is running.
  simp [start, still]

/-- A pipeline that can be started is not running. -/
theorem still_of_start {line run : Nat} (started : p.start line = (.ok run, after)) :
    p.isRunning line = false := by
  -- A pipeline that is running refuses to start.
  unfold start at started
  split at started
  · simp at started
  · exact Bool.eq_false_iff.mpr ‹_›

/-- A pipeline that is there knows the run that it was started for. -/
theorem currentRun?_start {line run : Nat} (present : line < p.lines.length)
    (started : p.start line = (.ok run, after)) : after.currentRun? line = some run := by
  -- The new run is the last of all, and the pipeline is told so.
  unfold start at started
  split at started
  · simp at started
  · obtain ⟨same, rfl⟩ := Prod.mk.inj started
    rw [← Except.ok.inj same]
    exact (currentRun?_tell p.lines line _ line present).trans (if_pos rfl)

/-- A pipeline that is told to stop knows the run that is to end. -/
theorem currentRun?_requestStop (p : Plant) (line other : Nat) :
    (p.requestStop line).currentRun? other = p.currentRun? other := by
  -- Only the run itself is changed.
  unfold requestStop
  split <;> rfl

/-- A pipeline that is told to stop is not running any more. -/
theorem isRunning_requestStop (p : Plant) (line : Nat) :
    (p.requestStop line).isRunning line = false := by
  -- The run that it knows does not accept any more.
  unfold requestStop
  cases current : p.currentRun? line with
  | none => simp [isRunning, current]
  | some run =>
    have same : (p.changeRun run fun r => { r with accepting := false }).currentRun? line =
        some run := current
    simp only [isRunning, same]
    simp only [isAccepting, changeRun, List.getElem?_modify_eq]
    cases p.runs[run]? <;> rfl

/-- A stop that returns moves no furniture. -/
theorem completeStop_furniture (p : Plant) (line : Nat) :
    (p.completeStop line).2.furniture = p.furniture := by
  unfold completeStop
  split
  · rfl
  · split
    · rfl
    · simp only [discardAll_eq]
      -- The counters of the pipeline change, and then its current run.
      refine Prod.ext (Pools.alive_writeOffAll _ _) ?_
      refine Eq.trans (map_modify_of_same _ ?_ _ line) (map_modify_of_same _ ?_ p.lines line)
      · intro l
        rfl
      · intro l
        rfl

/-- The furniture tells which pipelines have an owner. -/
theorem owns_of_furniture (same : after.furniture = p.furniture) (line : Nat) :
    after.owns line = p.owns line := by
  -- Only whether a pipeline was dropped is looked up.
  have look : ∀ q : Plant, q.owns line =
      match q.furniture.2[line]? with
      | some (_, dropped) => !dropped
      | none => false := by
    intro q
    rw [owns, furniture, List.getElem?_map]
    cases q.lines[line]? <;> rfl
  rw [look, look, same]

/-- The furniture tells how many pipelines there are. -/
theorem length_lines_of_furniture (same : after.furniture = p.furniture) :
    after.lines.length = p.lines.length := by
  -- Each has its entry.
  simpa [furniture] using congrArg List.length (congrArg Prod.snd same)

/-- The one pipeline of a plant has an owner. -/
theorem Furnished.owns (furnished : p.Furnished) : p.owns 0 = true := by
  obtain ⟨l, lines, own⟩ := List.map_eq_singleton_iff.mp (congrArg Prod.snd furnished)
  have kept : l.dropped = false := congrArg Prod.snd own
  simp [Plant.owns, lines, kept]

/-- The one pool of a plant, which is alive. -/
theorem Furnished.pool (furnished : p.Furnished) : ∃ q, p.pools = [q] ∧ q.alive = true :=
  List.map_eq_singleton_iff.mp (congrArg Prod.fst furnished)

/-- What the owner of a pipeline who keeps it can lead to. A pipeline is only started by an owner who
may, and one that is told to stop is left alone until its stop returns. -/
inductive Tends (line : Nat) (may : Bool) : Plant → Plant → Prop where
  | background (p : Plant) (activities : List Activity) : Tends line may p (p.afterAll activities)
  | start {p after : Plant} {run : Nat} (allowed : may = true)
      (started : p.start line = (.ok run, after)) : Tends line may p after
  | stop (p : Plant) (activities : List Activity) :
      Tends line may p (((p.requestStop line).afterAll activities).completeStop line).2
  | trans {p q after : Plant} (first : Tends line may p q) (second : Tends line may q after) :
      Tends line may p after

namespace Tends

variable {line : Nat} {may : Bool}

/-- Letting nothing go on is a way of tending a pipeline. -/
theorem refl (p : Plant) : Tends line may p p :=
  .background p []

/-- Whoever tends a pipeline moves no furniture. -/
theorem furniture (tends : Tends line may p after) : after.furniture = p.furniture := by
  -- What is lent, given back, queued or begun is no furniture, whoever's doing it is.
  induction tends with
  | background p activities => exact p.afterAll_furniture activities
  | @start p after run allowed started =>
    have same := p.start_furniture line
    rwa [started] at same
  | stop p activities =>
    exact (completeStop_furniture _ line).trans
      ((afterAll_furniture _ activities).trans (p.requestStop_furniture line))
  | trans first second ih again => exact again.trans ih

/-- A pipeline keeps having a run to stop exactly while it is running. -/
theorem manned (tends : Tends line may p after) (manned : p.Manned line) : after.Manned line := by
  -- By induction on what the owner does: a stop leaves no run, and a start leaves one.
  induction tends with
  | background p activities => exact manned.of_sameDuty (p.afterAll_sameDuty activities)
  | start allowed started => exact .of_start started
  | stop p activities => exact .of_none (manned.stop activities)
  | trans first second ih again => exact again (ih manned)

/-- A pipeline that nobody may start stays at rest. -/
theorem rests (tends : Tends line false p after) (resting : p.currentRun? line = none) :
    after.currentRun? line = none := by
  -- By induction on what the owner does, who does not start it.
  induction tends with
  | background p activities =>
    exact ((p.afterAll_sameDuty activities).currentRun? line).trans resting
  | start allowed started => simp at allowed
  | stop p activities => exact (Manned.of_none resting).stop activities
  | trans first second ih again => exact again (ih resting)

end Tends

/-- Whatever goes on beside the owner's commands is a history of the plant. -/
theorem foldl_step_background (p : Plant) (activities : List Activity) :
    (activities.map Move.background).foldl step p = p.afterAll activities := by
  -- Nobody can forbid what goes on beside the commands.
  rw [List.foldl_map]
  rfl

/-- So is being told to stop, and whatever goes on then. -/
theorem moves_of_requestStop (p : Plant) {line : Nat} (owned : p.owns line = true)
    (activities : List Activity) :
    ∃ moves : List Move, (p.requestStop line).afterAll activities = moves.foldl step p := by
  -- The owner may always tell the pipeline to stop.
  have told : [Move.requestStop line].foldl step p = p.requestStop line := if_pos owned
  refine ⟨.requestStop line :: activities.map .background, ?_⟩
  rw [← List.singleton_append, List.foldl_append, told, foldl_step_background]

/-- What the owner of a pipeline who keeps it does is a history of the plant. -/
theorem Tends.moves {line : Nat} {may : Bool} (tends : Tends line may p after)
    (manned : p.Manned line) (owned : p.owns line = true) :
    ∃ moves : List Move, after = moves.foldl step p := by
  -- By induction on what the owner does. Each part of it is admitted when it comes.
  induction tends with
  | background p activities =>
    exact ⟨activities.map .background, (p.foldl_step_background activities).symm⟩
  | @start p after run allowed started =>
    -- The pipeline is at rest, so that nothing speaks against a start.
    have idle := manned.currentRun?_of_start started
    have admitted : p.admits (.start line) = true := by simp [admits, owned, isStopping, idle]
    refine ⟨[.start line], ?_⟩
    rw [List.foldl_cons, List.foldl_nil, step, if_pos admitted, perform, started]
  | stop p activities =>
    -- The pipeline has its owner all the while, and does not run once it was told to stop.
    obtain ⟨moves, waited⟩ := p.moves_of_requestStop owned activities
    have same := (p.requestStop line).afterAll_sameDuty activities
    have kept : ((p.requestStop line).afterAll activities).furniture = p.furniture :=
      (afterAll_furniture _ activities).trans (p.requestStop_furniture line)
    have admitted : ((p.requestStop line).afterAll activities).admits (.completeStop line) = true := by
      simp [admits, owns_of_furniture kept line, owned, same.isRunning line,
        p.isRunning_requestStop line]
    refine ⟨moves ++ [.completeStop line], ?_⟩
    rw [List.foldl_append, ← waited, List.foldl_cons, List.foldl_nil, step, if_pos admitted, perform]
  | trans first second ih again =>
    obtain ⟨earlier, reached⟩ := ih manned owned
    obtain ⟨later, reached'⟩ := again (first.manned manned)
      ((owns_of_furniture first.furniture line).trans owned)
    refine ⟨earlier ++ later, ?_⟩
    rw [List.foldl_append, ← reached]
    exact reached'

end Plant

end TunerControl.Samples
