import TunerControl.Proofs.Samples.Order
import TunerControl.Proofs.Samples.Wiring
import TunerControl.Samples.Account

/-! How many buffers a run has on hand: its queue takes no more than it has room for, and its worker is
inside one sink call at most. -/

namespace TunerControl.Samples

/-- What a run has on hand, given its story: the buffer whose sink call has not come to its end, and no
more queued ones than there is room for. -/
structure Occupies (s : Story) (r : Run) (capacity : Nat) : Prop where
  fed : s.fed = s.answered ++ r.worker.buffers
  room : r.queue.length ≤ capacity

namespace Occupies

variable {s : Story} {r : Run} {capacity : Nat} {b : Buffer} {rest : List Buffer}

/-- A run that has not begun has nothing on hand. -/
theorem new (line capacity : Nat) : Occupies [] { line } capacity :=
  -- Its queue is empty, and nothing was fed.
  ⟨rfl, Nat.zero_le capacity⟩

/-- More room does no harm. -/
theorem mono (occupies : Occupies s r capacity) {more : Nat} (le : capacity ≤ more) :
    Occupies s r more :=
  ⟨occupies.fed, Nat.le_trans occupies.room le⟩

/-- A buffer is accepted only while there is room for it. -/
theorem accept (occupies : Occupies s r capacity) (room : r.queue.length < capacity) :
    Occupies (s ++ [.accepted b]) { r with queue := r.queue ++ [b] } capacity := by
  -- Accepting is not feeding, and the queue has room for one more.
  refine ⟨?_, ?_⟩
  · simpa [List.filterMap_cons] using occupies.fed
  · simp only [List.length_append, List.length_singleton]
    omega

/-- A worker that changes without a sink call is inside none before and after. -/
theorem move (occupies : Occupies s r capacity) {worker : Worker} (moves : worker.Moves r) :
    Occupies s { r with worker } capacity := by
  -- Whatever the worker turns to, it has answered for the same buffers.
  refine ⟨occupies.fed.trans ?_, occupies.room⟩
  cases moves with
  | goesOn checking accepting => rw [checking]; rfl
  | ends checking finished => rw [checking]; rfl
  | givesUp receiving empty => rw [receiving]; rfl

/-- A worker that takes a buffer has had all earlier ones answered. -/
theorem feed (occupies : Occupies s r capacity) (receiving : r.worker = .receiving)
    (queued : r.queue = b :: rest) :
    Occupies (s ++ [.fed b]) { r with worker := .feeding b, queue := rest } capacity := by
  -- A worker that receives is inside no sink call, so that the buffer is the only one.
  obtain ⟨fed, room⟩ := occupies
  rw [receiving] at fed
  rw [queued, List.length_cons] at room
  refine ⟨?_, ?_⟩
  · simpa [List.filterMap_cons, Worker.buffers] using fed
  · show rest.length ≤ capacity
    omega

/-- However a sink call comes to its end, the worker is not inside of it any more. -/
theorem answer (occupies : Occupies s r capacity) (feeding : r.worker = .feeding b)
    (a : SinkAnswer) {worker : Worker} (left : worker.buffers = []) :
    Occupies (s ++ [.answered b a]) { r with worker } capacity := by
  -- The buffer that was fed last is the one that is answered.
  obtain ⟨fed, room⟩ := occupies
  rw [feeding] at fed
  refine ⟨?_, room⟩
  show Story.fed (s ++ [.answered b a]) = Story.answered (s ++ [.answered b a]) ++ worker.buffers
  rw [left]
  simpa [List.filterMap_cons, Worker.buffers] using fed

/-- A stop empties the queue, and leaves the worker inside the sink call that it is in. -/
theorem stop (occupies : Occupies s r capacity) (report : StopReport) :
    Occupies (s ++ (r.queue.map .discarded ++ [.stopped report])) { r with queue := [] } capacity := by
  -- Neither a discarded buffer nor a report is read as fed or as answered.
  have fed : Story.fed (r.queue.map .discarded) = [] := List.filterMap_eq_nil_iff.mpr (by simp)
  have answered : Story.answered (r.queue.map .discarded) = [] :=
    List.filterMap_eq_nil_iff.mpr (by simp)
  refine ⟨?_, Nat.zero_le capacity⟩
  simpa [fed, answered, List.filterMap_cons] using occupies.fed

/-- A worker is inside one sink call at most, and inside none once it is gone. -/
theorem length_le (occupies : Occupies s r capacity) :
    (r.worker.buffers ++ r.queue).length ≤ capacity + 1 ∧
      (r.worker.isGone = true → (r.worker.buffers ++ r.queue).length ≤ capacity) := by
  -- The worker adds the one buffer of its sink call, or none.
  have room := occupies.room
  rw [List.length_append]
  cases r.worker with
  | feeding b =>
    refine ⟨?_, fun gone => ?_⟩
    · simp only [Worker.buffers, List.length_singleton]
      omega
    · simp [Worker.isGone] at gone
  | _ =>
    simp only [Worker.buffers, List.length_nil]
    omega

end Occupies

namespace Plant

/-- The room for a run is up to the sizes of the pipelines' queues. -/
theorem queueCapacity_of_lines {p after : Plant}
    (same : after.lines.map Line.queueCapacity = p.lines.map Line.queueCapacity) (r : Run) :
    after.queueCapacity r = p.queueCapacity r := by
  -- Only the sizes of the queues are looked up.
  have look : ∀ q : Plant,
      q.queueCapacity r = ((q.lines.map Line.queueCapacity)[r.line]?).getD 0 := by
    intro q
    rw [queueCapacity, List.getElem?_map]
    cases q.lines[r.line]? <;> rfl
  rw [look, look, same]

/-- A pipeline keeps the size of its queues, whatever else is changed about it. -/
theorem lineRooms_modify (p : Plant) (line : Nat) {change : Line → Line}
    (same : ∀ l, (change l).queueCapacity = l.queueCapacity) :
    (p.lines.modify line change).map Line.queueCapacity = p.lines.map Line.queueCapacity :=
  -- The changed pipeline has the size that it had.
  map_modify_of_same Line.queueCapacity same p.lines line

/-- A new pipeline leaves the room for the runs of the others. -/
theorem queueCapacity_addLine (p : Plant) (config : PipelineConfig) (r : Run) :
    p.queueCapacity r ≤ (p.addLine config).queueCapacity r := by
  unfold queueCapacity
  -- A run whose pipeline is not there has no room at all.
  cases found : p.lines[r.line]? with
  | none => exact Nat.zero_le _
  | some l =>
    -- The pipelines that were there stay in front.
    have inside := (List.getElem?_eq_some_iff.mp found).1
    have still : (p.addLine config).lines[r.line]? = some l :=
      (List.getElem?_append_left inside).trans found
    simp only [still, Nat.le_refl]

variable {p after : Plant}

/-- No run has more on hand than there is room for. -/
def Occupied (p : Plant) : Prop :=
  ∀ (run : Nat) (r : Run), p.runs[run]? = some r →
    Occupies (p.journal.story run) r (p.queueCapacity r)

/-- A plant with the same runs and journal, and with no less room, is as occupied. -/
theorem Occupied.of_same (occupied : p.Occupied) (runs : after.runs = p.runs)
    (journal : after.journal = p.journal)
    (rooms : after.lines.map Line.queueCapacity = p.lines.map Line.queueCapacity) :
    after.Occupied := by
  -- What a run has on hand depends on nothing else.
  intro run r found
  rw [runs] at found
  rw [journal, queueCapacity_of_lines rooms]
  exact occupied run r found

/-- What happens in one run leaves what the others have on hand. -/
theorem Occupied.enter (occupied : p.Occupied) {n : Nat} {r : Run} {change : Run → Run}
    (happenings : List Happening) (found : p.runs[n]? = some r)
    (runs : after.runs = p.runs.modify n change)
    (journal : after.journal = p.journal ++ happenings.map (n, ·))
    (rooms : after.lines.map Line.queueCapacity = p.lines.map Line.queueCapacity)
    (line : ∀ r, (change r).line = r.line)
    (occupies : Occupies (p.journal.story n) r (p.queueCapacity r) →
      Occupies (p.journal.story n ++ happenings) (change r) (p.queueCapacity r)) :
    after.Occupied := by
  intro run changed present
  rw [runs] at present
  obtain ⟨s, at_, rfl⟩ := exists_of_getElem?_modify present
  rw [journal, queueCapacity_of_lines rooms]
  by_cases here : n = run
  · subst here
    obtain rfl := Option.some.inj (at_.symm.trans found)
    -- The room is that of the run's pipeline, whatever becomes of the run.
    have same : p.queueCapacity (change s) = p.queueCapacity s := by
      rw [queueCapacity, queueCapacity, line]
    rw [if_pos rfl, Journal.story_enter, same]
    exact occupies (occupied n s at_)
  · -- The story of any other run is the same as before.
    rw [if_neg here, Journal.story_enter_other _ _ here]
    exact occupied run s at_

/-- A run begins with nothing on hand. -/
theorem Occupied.start (occupied : p.Occupied) (chronicled : p.Chronicled) {line : Nat}
    (runs : after.runs = p.runs ++ [({ line } : Run)]) (journal : after.journal = p.journal)
    (rooms : after.lines.map Line.queueCapacity = p.lines.map Line.queueCapacity) :
    after.Occupied := by
  -- The new run is the last one, and the others are as before.
  intro run r found
  rw [runs, List.getElem?_append] at found
  rw [journal, queueCapacity_of_lines rooms]
  split at found
  · exact occupied run r found
  · obtain ⟨inside, same⟩ := List.getElem?_eq_some_iff.mp found
    have new : r = ({ line } : Run) := by simpa using same.symm
    rw [chronicled.silent run (by omega), new]
    exact .new line _

/-- Every change of a plant leaves its runs with no more on hand than there is room for. -/
theorem Occupied.change (occupied : p.Occupied) (chronicled : p.Chronicled)
    (change : Change p after) : after.Occupied := by
  cases change with
  | nothing => exact occupied
  | poolAdded capacity blockSize => exact occupied.of_same rfl rfl rfl
  | lineAdded config =>
    -- The room for the runs that there are is not less.
    intro run r found
    exact (occupied run r found).mono (p.queueCapacity_addLine config r)
  | poolGone pool unused => exact occupied.of_same rfl rfl rfl
  | lineDropped line idle =>
    exact occupied.of_same rfl rfl (p.lineRooms_modify line fun _ => rfl)
  | lent found lends => exact occupied.of_same rfl rfl rfl
  | edited serial same => exact occupied.of_same rfl rfl rfl
  | givenUp held => exact occupied.of_same rfl rfl rfl
  | rejected line => exact occupied.of_same rfl rfl (p.lineRooms_modify line fun _ => rfl)
  | accepted found held accepting room =>
    exact occupied.enter [.accepted _] found rfl rfl (p.lineRooms_modify _ fun _ => rfl)
      (fun _ => rfl) fun own => own.accept room
  | moved found moves =>
    refine occupied.enter [] found rfl (by simp) rfl (fun _ => rfl) fun own => ?_
    rw [List.append_nil]
    exact own.move moves
  | fed found receiving queued =>
    exact occupied.enter [.fed _] found rfl rfl rfl (fun _ => rfl)
      fun own => own.feed receiving queued
  | answered found feeding own returned =>
    exact occupied.enter [.answered _ _] found rfl rfl (p.lineRooms_modify _ fun _ => rfl)
      (fun _ => rfl) fun own => own.answer feeding _ rfl
  | crashed found feeding =>
    exact occupied.enter [.answered _ _] found rfl rfl (p.lineRooms_modify _ fun _ => rfl)
      (fun _ => rfl) fun own => own.answer feeding _ rfl
  | @started line owned idle =>
    exact occupied.start chronicled rfl rfl (p.lineRooms_modify line fun _ => rfl)
  | told current found =>
    refine occupied.enter [] found rfl (by simp) rfl (fun _ => rfl) fun own => ?_
    rw [List.append_nil]
    exact ⟨own.fed, own.room⟩
  | @stopped line n r current found finished =>
    refine occupied.enter _ found rfl rfl ?_ (fun _ => rfl) fun own => own.stop _
    -- The pipeline changes twice: in its counters, and in the run that it has to stop.
    refine (map_modify_of_same Line.queueCapacity ?_ _ _).trans (p.lineRooms_modify line fun _ => rfl)
    intro l
    rfl

/-- No run has more on hand than there is room for, after every history. -/
theorem afterMoves_occupied (moves : List Move) : (afterMoves moves).Occupied := by
  -- By induction on the history. At the start there are no runs.
  refine afterMoves_rule ?_ ?_ moves
  · intro run r found
    simp at found
  · intro earlier after occupied change
    exact occupied.change (afterMoves_chronicled earlier) change

end Plant

end TunerControl.Samples
