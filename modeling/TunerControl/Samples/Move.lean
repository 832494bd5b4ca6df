import TunerControl.Samples.Plant

/-! Histories of a plant: all that its owners, producers, workers and sinks can do, step by step. -/

namespace TunerControl.Samples

/-- One step in the history of a plant. A stop takes two, so that the workers can move while it
waits for one of them.

Everything else is one step, also where it is done in parts that others could come between. A
submission looks whether its run accepts and enters the queue at once, so that none is under way
while its run is told to end; and a stop that returns takes all that is queued out of the queue at
once, after which nobody submits to the run. Histories are of such whole steps, in any order. -/
inductive Move where
  | background (activity : Activity)
  | addPool (capacity blockSize : Nat)
  | addLine (config : PipelineConfig)
  | take (pool : Nat)
  | start (line : Nat)
  | requestStop (line : Nat)
  | completeStop (line : Nat)
  | dropLine (line : Nat)
  | dropPool (pool : Nat)
  deriving DecidableEq, Repr

/-- Whether a step is one of a run's worker. -/
def Move.isOf (run : Nat) : Move → Bool
  | .background (.work n) => n = run
  | .background (.answer n _) => n = run
  | _ => false

namespace Plant

/-- Whether a pipeline is there and was not dropped by its owner. -/
def owns (p : Plant) (line : Nat) : Bool :=
  match p.lines[line]? with
  | some l => !l.dropped
  | none => false

/-- Whether a pipeline was told to stop and its stop has not returned yet. -/
def isStopping (p : Plant) (line : Nat) : Bool :=
  match p.currentRun? line with
  | some run => !p.isAccepting run
  | none => false

/-- Whether a pipeline that was not dropped or a worker that is not gone has a handle to a pool. -/
def isInUse (p : Plant) (pool : Nat) : Bool :=
  (p.lines.any fun l => l.pool = pool && !l.dropped) ||
    p.runs.any fun r => (p.lines[r.line]?.map (·.pool)) = some pool && !r.worker.isGone

/-- Whether a step can be taken. Nothing else is done with a pipeline while it is being stopped, it
is dropped only when it is stopped, and a pool goes only with its last handle. The queue of a pipeline
has room, as `PipelineConfig.validate` demands: one without room could only hand a buffer over to a
worker that waits for it, which no step here does. -/
def admits (p : Plant) : Move → Bool
  | .addLine config => config.queueCapacity ≠ 0
  | .start line => p.owns line && !p.isStopping line
  | .requestStop line => p.owns line
  | .completeStop line => p.owns line && !p.isRunning line
  | .dropLine line => p.owns line && (p.currentRun? line).isNone
  | .dropPool pool => !p.isInUse pool
  | _ => true

/-- The plant after a step. -/
def perform (p : Plant) : Move → Plant
  | .background activity => p.after activity
  | .addPool capacity blockSize => p.addPool capacity blockSize
  | .addLine config => p.addLine config
  | .take pool => (p.lend pool).2
  | .start line => (p.start line).2
  | .requestStop line => p.requestStop line
  | .completeStop line => (p.completeStop line).2
  | .dropLine line => p.dropLine line
  | .dropPool pool => p.dropPool pool

/-- The plant after a step, if that can be taken. -/
def step (p : Plant) (m : Move) : Plant :=
  if p.admits m then p.perform m else p

/-- The plant after a history that begins with nothing. Steps that cannot be taken are left out. -/
def afterMoves (moves : List Move) : Plant :=
  moves.foldl step { }

/-- The later steps of a history are taken by the plant that the earlier ones lead to. -/
theorem afterMoves_append (earlier later : List Move) :
    afterMoves (earlier ++ later) = later.foldl step (afterMoves earlier) :=
  List.foldl_append

/-- The last step of a history is taken by the plant that the others lead to. -/
theorem afterMoves_concat (moves : List Move) (m : Move) :
    afterMoves (moves ++ [m]) = (afterMoves moves).step m :=
  afterMoves_append moves [m]

/-- What the steps of a history tell those who take them, as far as a given question has an answer,
in order. -/
def answers {α : Type} (question : Plant → Move → Option α) (p : Plant) : List Move → List α
  | [] => []
  | m :: rest => (question p m).toList ++ answers question (p.step m) rest

/-- Whether a step that asks for a loan gets one. -/
def lends? (p : Plant) : Move → Option Bool
  | .background (.loan run) => some (p.loan run).1.isSome
  | .take pool => some (p.lend pool).1.isSome
  | _ => none

/-- Whether a step that submits a buffer has it accepted. -/
def accepts? (p : Plant) : Move → Option Bool
  | .background (.submit run serial) => some (p.submit run serial).1
  | _ => none

/-- Which run a step tells to end, if it is a stop and there is one to be stopped. -/
def tells? (p : Plant) : Move → Option Nat
  | .requestStop line => if p.owns line then p.currentRun? line else none
  | _ => none

/-- What holds of nothing and is kept by every step that can be taken holds after every history. -/
theorem afterMoves_induction {motive : Plant → Prop} (empty : motive { })
    (kept : ∀ p m, motive p → p.admits m = true → motive (p.perform m)) (moves : List Move) :
    motive (afterMoves moves) := by
  -- A history is a fold over its steps, and a step that cannot be taken leaves all as it was.
  refine List.foldlRecOn moves step empty fun p holds m _ => ?_
  unfold step
  split
  · rename_i admitted
    exact kept p m holds admitted
  · exact holds

end Plant

end TunerControl.Samples
