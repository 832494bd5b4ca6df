import TunerControl.Samples.Plant

/-! A sink with a gate: while the gate is shut, a worker waits inside its sink call. -/

namespace TunerControl.Simulated

open Samples (Activity Plant Run SinkAnswer)

/-- Whether the gate is shut, how many calls may pass it all the same, and how the calls end. -/
structure Gate where
  shut : Bool := false
  permits : Nat := 0
  reply : SinkAnswer := .taken
  deriving DecidableEq, Repr

namespace Gate

/-- The next move of the worker of a run, unless it waits for a buffer or at the gate. -/
def move? (g : Gate) (p : Plant) (run : Nat) : Option (Activity × Gate) :=
  match p.runs[run]? with
  | none => none
  | some r =>
    match r.worker with
    | .checking => some (.work run, g)
    -- A worker at an empty queue moves only to see the end of its run.
    | .receiving => if r.queue = [] ∧ r.accepting then none else some (.work run, g)
    | .feeding _ =>
      if !g.shut then some (.answer run g.reply, g)
      else if g.permits = 0 then none
      else some (.answer run g.reply, { g with permits := g.permits - 1 })
    | .ended | .crashed => none

/-- The first move that a worker of a pipeline can make, the oldest run first. -/
def firstMove? (g : Gate) (p : Plant) (line : Nat) : Option (Activity × Gate) :=
  (List.range p.runs.length).findSome? fun run =>
    match p.runs[run]? with
    | some r => if r.line = line then g.move? p run else none
    | none => none

/-- At most so many moves are left to the workers of a plant. -/
def patience (p : Plant) : Nat :=
  p.runs.foldr (fun r others => 3 * r.queue.length + 5 + others) 0

/-- The moves of the workers of a pipeline, as many as given, until nothing moves. -/
def movesWithin (line : Nat) : Nat → Gate → Plant → List Activity × Gate
  | 0, g, _ => ([], g)
  | n + 1, g, p =>
    match g.firstMove? p line with
    | none => ([], g)
    | some (activity, g) =>
      let (rest, g) := movesWithin line n g (p.after activity)
      (activity :: rest, g)

/-- The moves of the workers of a pipeline until nothing moves. -/
def moves (g : Gate) (p : Plant) (line : Nat) : List Activity × Gate :=
  movesWithin line (patience p) g p

/-- How many buffers a pipeline has accepted and not processed. -/
def unprocessed (p : Plant) (line : Nat) : Nat :=
  let inside (r : Run) : Nat := match r.worker with
    | .feeding _ => 1
    | _ => 0
  (p.runs.filter (·.line = line)).foldr (fun r others => r.queue.length + inside r + others) 0

/-- The gate, shut. -/
def close (g : Gate) : Gate :=
  { g with shut := true, permits := 0 }

/-- The gate, open. -/
def «open» (g : Gate) : Gate :=
  { g with shut := false, permits := 0 }

/-- Lets some more calls pass the shut gate, at most as many as there are buffers to process. Tells
how many. -/
def permit (g : Gate) (p : Plant) (line count : Nat) : Nat × Gate :=
  let passing := min count (unprocessed p line)
  (passing, { g with permits := g.permits + passing })

end Gate

end TunerControl.Simulated
