import TunerControl.Samples.Plant

/-! What the journal of a plant says of each run. -/

namespace TunerControl.Samples

namespace Happening

/-- The buffer that was accepted. -/
@[simp] def accepted? : Happening → Option Buffer
  | accepted b => some b
  | _ => none

/-- The buffer that was handed to the sink. -/
@[simp] def fed? : Happening → Option Buffer
  | fed b => some b
  | _ => none

/-- The buffer that a stop discarded. -/
@[simp] def discarded? : Happening → Option Buffer
  | discarded b => some b
  | _ => none

/-- The report of a stop. -/
@[simp] def report? : Happening → Option StopReport
  | stopped report => some report
  | _ => none

end Happening

/-- What happened in one run, in order. -/
abbrev Story := List Happening

namespace Story

/-- The buffers that were accepted, in order. -/
abbrev accepted (s : Story) : List Buffer :=
  s.filterMap Happening.accepted?

/-- The buffers that the worker handed to the sink, in order. -/
abbrev fed (s : Story) : List Buffer :=
  s.filterMap Happening.fed?

/-- The buffers that a stop discarded, in order. -/
abbrev discarded (s : Story) : List Buffer :=
  s.filterMap Happening.discarded?

/-- The reports of the stops. -/
abbrev reports (s : Story) : List StopReport :=
  s.filterMap Happening.report?

end Story

namespace Journal

/-- What happened in one run. -/
def story (j : Journal) (run : Nat) : Story :=
  j.filterMap fun entry => if entry.1 = run then some entry.2 else none

/-- The buffers that were accepted in any run, in order. -/
def acceptances (j : Journal) : List Buffer :=
  j.filterMap fun entry => entry.2.accepted?

end Journal

/-- The buffers inside the sink call of a run's worker. -/
def Plant.feeding (p : Plant) (run : Nat) : List Buffer :=
  match p.runs[run]? with
  | some r => r.worker.buffers
  | none => []

/-- The buffers in the queue of a run. -/
def Plant.queued (p : Plant) (run : Nat) : List Buffer :=
  match p.runs[run]? with
  | some r => r.queue
  | none => []

end TunerControl.Samples
