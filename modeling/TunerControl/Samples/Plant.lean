import TunerControl.Samples.Config
import TunerControl.Samples.Pool

/-! Forwarding of samples: producers fill buffers on loan and submit them to a bounded queue, and
one worker a run hands them to a sink and gives them back. A buffer is always in one place: in a
caller's hands, in the queue of a run, or inside a sink call. -/

namespace TunerControl.Samples

/-- Where the worker of a run stands. -/
inductive Worker where
  /-- About to look whether its run goes on. -/
  | checking
  /-- Told that its run goes on, and waiting at the queue. -/
  | receiving
  /-- Inside a sink call. -/
  | feeding (buffer : Buffer)
  /-- Gone, having seen the end of its run. -/
  | ended
  /-- Gone, because a sink call did not return. -/
  | crashed
  deriving DecidableEq, Repr

/-- Whether a worker is gone. -/
def Worker.isGone : Worker → Bool
  | ended | crashed => true
  | _ => false

/-- The buffers inside a worker's sink call. -/
def Worker.buffers : Worker → List Buffer
  | feeding b => [b]
  | _ => []

/-- One start of a pipeline, up to its stop. -/
structure Run where
  line : Nat
  accepting : Bool := true
  queue : List Buffer := []
  worker : Worker := .checking
  deriving DecidableEq, Repr

/-- The buffers that a run has not processed. -/
def Run.buffers (r : Run) : List Buffer :=
  r.worker.buffers ++ r.queue

/-- What became of the buffers that producers submitted. The counters are natural numbers, which never
wrap around; counters of 64 bits agree with them up to the first 2^64 submissions. -/
structure Stats where
  submitted : Nat := 0
  forwarded : Nat := 0
  sinkErrors : Nat := 0
  rejected : Nat := 0
  droppedAtStop : Nat := 0
  deriving DecidableEq, Repr

/-- A pipeline with a pool of its own. It knows the run it still has to stop, if any. -/
structure Line where
  pool : Nat
  queueCapacity : Nat
  current : Option Nat := none
  stats : Stats := { }
  dropped : Bool := false
  deriving DecidableEq, Repr

/-- How a sink call ends. -/
inductive SinkAnswer where
  | taken
  | refused
  | crashed
  deriving DecidableEq, Repr

/-- The counters after a sink call came to its end. -/
def Stats.afterAnswer (s : Stats) : SinkAnswer → Stats
  | .taken => { s with forwarded := s.forwarded + 1 }
  | .refused => { s with sinkErrors := s.sinkErrors + 1 }
  | .crashed => s

/-- What a stop found: whether the worker was gone in time, and how many queued buffers it
discarded. -/
structure StopReport where
  joined : Bool
  dropped : Nat
  deriving DecidableEq, Repr

/-- What happens in a run: to a buffer, or to the run itself when it is stopped. -/
inductive Happening where
  | accepted (buffer : Buffer)
  | fed (buffer : Buffer)
  | answered (buffer : Buffer) (answer : SinkAnswer)
  | discarded (buffer : Buffer)
  | stopped (report : StopReport)
  deriving DecidableEq, Repr

/-- What happened in runs, in order. -/
abbrev Journal := List (Nat × Happening)

/-- All pools, pipelines and runs, the buffers in callers' hands, and a journal of the runs. -/
structure Plant where
  pools : Pools := []
  lines : List Line := []
  runs : List Run := []
  held : List Buffer := []
  loans : Nat := 0
  journal : Journal := []
  deriving DecidableEq, Repr

namespace Plant

/-- The buffers on loan, each at its place. -/
def buffers (p : Plant) : List Buffer :=
  p.held ++ p.runs.flatMap Run.buffers

/-- Adds a pool. -/
def addPool (p : Plant) (capacity blockSize : Nat) : Plant :=
  { p with pools := p.pools ++ [.new capacity blockSize] }

/-- Adds a pipeline with a pool of its own. -/
def addLine (p : Plant) (config : PipelineConfig) : Plant :=
  let line : Line := { pool := p.pools.length, queueCapacity := config.queueCapacity.toNat }
  { p.addPool config.bufferCount.toNat config.bufferSize.toNat with lines := p.lines ++ [line] }

/-- Changes a run. -/
def changeRun (p : Plant) (run : Nat) (change : Run → Run) : Plant :=
  { p with runs := p.runs.modify run change }

/-- Changes the counters of a pipeline. -/
def count (p : Plant) (line : Nat) (change : Stats → Stats) : Plant :=
  { p with lines := p.lines.modify line fun l => { l with stats := change l.stats } }

/-- Writes into the journal. -/
def note (p : Plant) (run : Nat) (happening : Happening) : Plant :=
  { p with journal := p.journal ++ [(run, happening)] }

/-- Gives up a buffer. -/
def writeOff (p : Plant) (b : Buffer) : Plant :=
  { p with pools := p.pools.writeOff b }

/-- Gives a buffer back to a pool. -/
def giveBack (p : Plant) (pool : Nat) (b : Buffer) : Plant :=
  { p with pools := p.pools.giveBack pool b }

/-- The buffer of a loan in a caller's hands. -/
def held? (p : Plant) (serial : Nat) : Option Buffer :=
  p.held.find? (·.serial = serial)

/-- Takes a loan out of callers' hands. -/
def release (p : Plant) (serial : Nat) : Plant :=
  { p with held := p.held.filter (·.serial ≠ serial) }

/-- Lends a buffer of a pool to a caller, and tells the number of the loan. -/
def lend (p : Plant) (pool : Nat) : Option Nat × Plant :=
  match p.pools[pool]?.bind Pool.lend with
  | none => (none, p)
  | some (block, lender) =>
    let b : Buffer := { serial := p.loans, pool, block, length := 0 }
    (some b.serial,
      { p with pools := p.pools.set pool lender, held := p.held ++ [b], loans := p.loans + 1 })

/-- Changes the content of a buffer in a caller's hands. -/
def edit (p : Plant) (serial : Nat) (change : Buffer → Buffer) : Plant :=
  { p with held := p.held.map fun b => if b.serial = serial then change b else b }

/-- Drops a buffer out of a caller's hands. -/
def discard (p : Plant) (serial : Nat) : Plant :=
  match p.held? serial with
  | none => p
  | some b => (p.release serial).writeOff b

/-- The pool that a run's producers borrow from. -/
def poolOfRun? (p : Plant) (run : Nat) : Option Nat := do
  let run ← p.runs[run]?
  let line ← p.lines[run.line]?
  return line.pool

/-- Lends a buffer to a producer of a run. A run that is over still lends. -/
def loan (p : Plant) (run : Nat) : Option Nat × Plant :=
  match p.poolOfRun? run with
  | none => (none, p)
  | some pool => p.lend pool

/-- Whether a run accepts buffers. -/
def isAccepting (p : Plant) (run : Nat) : Bool :=
  match p.runs[run]? with
  | some r => r.accepting
  | none => false

/-- How many buffers the queue of a run takes. -/
def queueCapacity (p : Plant) (run : Run) : Nat :=
  match p.lines[run.line]? with
  | some line => line.queueCapacity
  | none => 0

/-- Submits a buffer in a caller's hands to a run. A run that is over or whose queue is full
leaves it with the caller. -/
def submit (p : Plant) (run serial : Nat) : Bool × Plant :=
  match p.runs[run]?, p.held? serial with
  | some r, some b =>
    if r.accepting ∧ r.queue.length < p.queueCapacity r then
      -- The loan changes hands, and the queue keeps the order of acceptance.
      let p := (p.release serial).changeRun run fun r => { r with queue := r.queue ++ [b] }
      (true, (p.count r.line fun s => { s with submitted := s.submitted + 1 }).note run (.accepted b))
    else (false, p.count r.line fun s => { s with rejected := s.rejected + 1 })
  | _, _ => (false, p)

/-- The run that a pipeline still has to stop. -/
def currentRun? (p : Plant) (line : Nat) : Option Nat :=
  p.lines[line]?.bind (·.current)

/-- Whether a pipeline is running. -/
def isRunning (p : Plant) (line : Nat) : Bool :=
  match p.currentRun? line with
  | some run => p.isAccepting run
  | none => false

/-- The run that a pipeline gives producers for. -/
def producer? (p : Plant) (line : Nat) : Option Nat :=
  (p.currentRun? line).filter p.isAccepting

/-- Starts a run of a pipeline, unless one is running, and tells its number. -/
def start (p : Plant) (line : Nat) : Except Failure Nat × Plant :=
  if p.isRunning line then (.error (.invalidState "sample pipeline already running"), p)
  else
    let run := p.runs.length
    (.ok run,
      { p with
        runs := p.runs ++ [{ line }]
        lines := p.lines.modify line fun l => { l with current := some run } })

/-- The worker of a run moves on without a sink's answer: it looks whether the run goes on, takes
the next buffer into a sink call, or gives up waiting at an empty queue. -/
def work (p : Plant) (run : Nat) : Plant :=
  match p.runs[run]? with
  | none => p
  | some r =>
    match r.worker, r.queue with
    | .checking, _ =>
      let worker := if r.accepting then .receiving else .ended
      p.changeRun run fun r => { r with worker }
    | .receiving, [] => p.changeRun run fun r => { r with worker := .checking }
    | .receiving, b :: rest =>
      -- A stop that came in between is not seen before the call is over.
      (p.changeRun run fun r => { r with worker := .feeding b, queue := rest }).note run (.fed b)
    | _, _ => p

/-- The sink call that the worker of a run is inside of comes to its end. The buffer goes back to
the pipeline's pool, but is lost with a worker that crashes. -/
def answer (p : Plant) (run : Nat) (a : SinkAnswer) : Plant :=
  match p.runs[run]? with
  | none => p
  | some r =>
    match r.worker, p.poolOfRun? run with
    | .feeding b, some pool =>
      let p := (p.note run (.answered b a)).count r.line (·.afterAnswer a)
      if a = .crashed then
        -- The worker is gone without an end of its run, so the run still accepts.
        (p.writeOff b).changeRun run fun r => { r with worker := .crashed }
      else (p.giveBack pool b).changeRun run fun r => { r with worker := .checking }
    | _, _ => p

/-- Tells the current run of a pipeline to end. -/
def requestStop (p : Plant) (line : Nat) : Plant :=
  match p.currentRun? line with
  | none => p
  | some run => p.changeRun run fun r => { r with accepting := false }

/-- Ends the current run of a pipeline after its worker had time to see the request. The queue is
discarded, and a worker that is not gone yet is left to itself. -/
def completeStop (p : Plant) (line : Nat) : StopReport × Plant :=
  match p.currentRun? line with
  | none => (⟨false, 0⟩, p)
  | some run =>
    match p.runs[run]? with
    | none => (⟨false, 0⟩, p)
    | some r =>
      let report : StopReport := ⟨r.worker.isGone, r.queue.length⟩
      -- Whatever the worker has not taken by now is discarded, joined or not.
      let p := r.queue.foldl (fun p b => (p.writeOff b).note run (.discarded b)) p
      let p := p.changeRun run fun r => { r with queue := [] }
      let p := p.count line fun s => { s with droppedAtStop := s.droppedAtStop + report.dropped }
      (report,
        { p.note run (.stopped report) with
          lines := p.lines.modify line fun l => { l with current := none } })

/-- What the sinks of a pipeline's runs were handed, in order, behind the first entries of the
journal. -/
def fedSince (p : Plant) (entries line : Nat) : List Bytes :=
  (p.journal.drop entries).filterMap fun (run, happening) =>
    match happening, p.runs[run]? with
    | .fed b, some r => if r.line = line then some b.bytes else none
    | _, _ => none

/-- Marks a pipeline as dropped by its owner. -/
def dropLine (p : Plant) (line : Nat) : Plant :=
  { p with lines := p.lines.modify line fun l => { l with dropped := true } }

/-- Marks a pool as gone with its last handle. -/
def dropPool (p : Plant) (pool : Nat) : Plant :=
  { p with pools := p.pools.modify pool fun q => { q with alive := false } }

end Plant

/-- What goes on at a plant beside its owner's commands: producers borrow, fill, submit and drop
buffers, workers move on, and sink calls come to their end. -/
inductive Activity where
  | loan (run : Nat)
  | fill (serial : Nat) (source : Bytes)
  | write (serial start : Nat) (source : Bytes)
  | setLength (serial length : Nat)
  | submit (run serial : Nat)
  | discard (serial : Nat)
  | work (run : Nat)
  | answer (run : Nat) (answer : SinkAnswer)
  deriving DecidableEq, Repr

/-- The plant after an activity. -/
def Plant.after (p : Plant) : Activity → Plant
  | .loan run => (p.loan run).2
  | .fill serial source => p.edit serial (·.fill source)
  | .write serial start source => p.edit serial (·.write start source)
  | .setLength serial length => p.edit serial (·.setLength length)
  | .submit run serial => (p.submit run serial).2
  | .discard serial => p.discard serial
  | .work run => p.work run
  | .answer run a => p.answer run a

/-- The plant after some activities, one by one. -/
def Plant.afterAll (p : Plant) (activities : List Activity) : Plant :=
  activities.foldl Plant.after p

end TunerControl.Samples
