import TunerControl.Samples.Journal

/-! What happened in all runs of a pipeline, and what its runs still have of the buffers that they
accepted. -/

namespace TunerControl.Samples

namespace Happening

/-- The buffer whose sink call came to its end. -/
@[simp] def answered? : Happening → Option Buffer
  | answered b _ => some b
  | _ => none

/-- The buffer whose sink call returned. -/
@[simp] def completed? : Happening → Option Buffer
  | answered b .taken | answered b .refused => some b
  | _ => none

/-- The buffer that was lost with the worker. -/
@[simp] def lost? : Happening → Option Buffer
  | answered b .crashed => some b
  | _ => none

end Happening

namespace Story

/-- The buffers whose sink calls came to their end, in order. -/
abbrev answered (s : Story) : List Buffer :=
  s.filterMap Happening.answered?

/-- The buffers whose sink calls returned, in order. -/
abbrev completed (s : Story) : List Buffer :=
  s.filterMap Happening.completed?

/-- The buffers that were lost with a worker, in order. -/
abbrev lost (s : Story) : List Buffer :=
  s.filterMap Happening.lost?

end Story

namespace Plant

/-- The runs of a pipeline. -/
def runsOn (p : Plant) (line : Nat) : List Run :=
  p.runs.filter (·.line = line)

/-- What happened in the runs of a pipeline, in order. -/
def storyOn (p : Plant) (line : Nat) : Story :=
  p.journal.filterMap fun (run, happening) =>
    if (p.runs[run]?.map Run.line) = some line then some happening else none

end Plant

end TunerControl.Samples
