import TunerControl.Samples.Move
import TunerControl.Simulated.Gate
import TunerControl.Simulated.Labels

/-! Pipelines side by side, each with a gated sink of its own. -/

namespace TunerControl.Simulated

open Samples (Plant StopReport)

/-- A plant with labels for buffers and producers, and the gates of its pipelines. -/
structure Bench where
  shelf : Shelf := { }
  producers : Labels Nat := []
  gates : List Gate := []

namespace Bench

/-- The plant. -/
def plant (b : Bench) : Plant :=
  b.shelf.plant

/-- The bench with another plant. -/
def withPlant (b : Bench) (plant : Plant) : Bench :=
  { b with shelf := { b.shelf with plant } }

/-- Adds a pipeline. -/
def addLine (b : Bench) (config : PipelineConfig) : Bench :=
  { b.withPlant (b.plant.addLine config) with gates := b.gates ++ [{ }] }

/-- The gate of a pipeline. -/
def gate (b : Bench) (line : Nat) : Gate :=
  b.gates.getD line { }

/-- Changes the gate of a pipeline. -/
def setGate (b : Bench) (line : Nat) (change : Gate → Gate) : Bench :=
  { b with gates := b.gates.modify line change }

/-- Lets the workers of a pipeline move until nothing moves. -/
def settleLine (b : Bench) (line : Nat) : Bench :=
  let (activities, gate) := (b.gate line).moves b.plant line
  (b.withPlant (b.plant.afterAll activities)).setGate line fun _ => gate

/-- Lets all workers move until nothing moves. -/
def settle (b : Bench) : Bench :=
  (List.range b.gates.length).foldl settleLine b

/-- Starts a pipeline and labels its producer. -/
def start (b : Bench) (line : Nat) (label : String) : Outcome Unit × Bench :=
  match b.plant.start line with
  | (.error failure, plant) => (.error failure, b.withPlant plant)
  | (.ok run, plant) =>
    (.ok (), { b.withPlant plant with producers := b.producers.put label run })

/-- Labels another producer of a pipeline's run, if there is a run. -/
def producer (b : Bench) (line : Nat) (label : String) : Bool × Bench :=
  match b.plant.producer? line with
  | none => (false, b)
  | some run => (true, { b with producers := b.producers.put label run })

/-- Stops a pipeline, with time for its workers to move. -/
def stop (b : Bench) (line : Nat) : StopReport × Bench :=
  let b := (b.withPlant (b.plant.requestStop line)).settle
  let (report, plant) := b.plant.completeStop line
  (report, b.withPlant plant)

/-- Stops a pipeline and drops it. -/
def drop (b : Bench) (line : Nat) : Bench :=
  let (_, b) := b.stop line
  b.withPlant (b.plant.dropLine line)

/-- Whether a pipeline was not dropped. -/
def owns (b : Bench) (line : Nat) : Bool :=
  b.plant.owns line

end Bench

end TunerControl.Simulated
