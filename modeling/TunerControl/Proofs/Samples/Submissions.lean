import TunerControl.Proofs.Samples.Occupancy
import TunerControl.Proofs.Samples.Running

/-! Which buffers a run accepts, what becomes of the others, and how many it can have on hand. -/

namespace TunerControl.Samples

namespace Plant

variable {p after : Plant}

/-- A run accepts exactly as long as no step has told it to end. -/
structure Announced (p : Plant) (told : List Nat) : Prop where
  begun : ∀ run ∈ told, run < p.runs.length
  accepting : ∀ (run : Nat) (r : Run), p.runs[run]? = some r → (r.accepting = true ↔ run ∉ told)

/-- What leaves the duties of all runs alone has told none of them to end. -/
theorem Announced.of_accepting {told : List Nat} (announced : p.Announced told)
    (same : after.runs.map Run.accepting = p.runs.map Run.accepting) : after.Announced told := by
  have length : after.runs.length = p.runs.length := by simpa using congrArg List.length same
  refine ⟨?_, ?_⟩
  · intro run member
    rw [length]
    exact announced.begun run member
  · intro run r found
    -- The run was there before, and accepted as it does now.
    have looked : (p.runs.map Run.accepting)[run]? = some r.accepting := by
      rw [← same, List.getElem?_map, found]
      rfl
    rw [List.getElem?_map] at looked
    obtain ⟨s, there, accepts⟩ := Option.map_eq_some_iff.mp looked
    rw [← accepts]
    exact announced.accepting run s there

/-- A run that begins accepts, and was not told to end before it was there. -/
theorem Announced.start {told : List Nat} (announced : p.Announced told) (line : Nat) :
    (p.start line).2.Announced told := by
  -- The new run comes last, and nobody has spoken of it.
  unfold Plant.start
  split
  · exact announced
  · refine ⟨?_, ?_⟩
    · intro run member
      have := announced.begun run member
      show run < (p.runs ++ [_]).length
      rw [List.length_append]
      omega
    · intro run r found
      have split_ := found
      rw [List.getElem?_append] at split_
      split at split_
      · exact announced.accepting run r split_
      · rename_i beyond
        obtain ⟨inside, same⟩ := List.getElem?_eq_some_iff.mp split_
        have new : r = ({ line } : Run) := by simpa using same.symm
        have untold : run ∉ told := fun member => beyond (announced.begun run member)
        simp [new, untold]

/-- A run that is told to end does not accept any more, and the others go on as they did. -/
theorem Announced.requestStop {told : List Nat} (announced : p.Announced told)
    (scheduled : p.Scheduled) (line : Nat) :
    (p.requestStop line).Announced (told ++ (p.currentRun? line).toList) := by
  -- The current run is the one that is told, if there is one.
  unfold Plant.requestStop
  cases current : p.currentRun? line with
  | none => simpa using announced
  | some n =>
    obtain ⟨s, there, -⟩ := scheduled.known line n current
    refine ⟨?_, ?_⟩
    · intro run member
      show run < (p.runs.modify n _).length
      rw [List.length_modify]
      rcases List.mem_append.mp member with before | now
      · exact announced.begun run before
      · rw [List.mem_singleton.mp now]
        exact (List.getElem?_eq_some_iff.mp there).1
    · intro run changed found
      obtain ⟨r, present, rfl⟩ := exists_of_getElem?_modify found
      by_cases here : n = run
      · simp [here]
      · have apart : run ≠ n := fun same => here same.symm
        simpa [here, apart] using announced.accepting run r present

/-- A step tells at most one run to end, and all others go on as they did. -/
theorem Announced.perform {told : List Nat} (announced : p.Announced told)
    (scheduled : p.Scheduled) (m : Move) (admitted : p.admits m = true) :
    (p.perform m).Announced (told ++ (p.tells? m).toList) := by
  -- Only one kind of step tells a run to end.
  have quiet : p.tells? m = none → (p.perform m).Announced told →
      (p.perform m).Announced (told ++ (p.tells? m).toList) := by
    intro silent kept
    rwa [silent, Option.toList_none, List.append_nil]
  cases m with
  | requestStop line =>
    have owned : p.owns line = true := admitted
    rw [tells?, if_pos owned]
    exact announced.requestStop scheduled line
  | start line => exact quiet rfl (announced.start line)
  | background activity =>
    exact quiet rfl (announced.of_accepting (p.after_sameDuty activity).accepting)
  | take pool => exact quiet rfl (announced.of_accepting (p.lend_sameDuty pool).accepting)
  | completeStop line =>
    -- The run was told to end before, and has its queue emptied now.
    have same : (p.completeStop line).2.runs.map Run.accepting = p.runs.map Run.accepting := by
      unfold Plant.completeStop
      split
      · rfl
      · split
        · rfl
        · simp only [discardAll_eq]
          refine map_modify_of_same Run.accepting ?_ p.runs _
          intro r
          rfl
    exact quiet rfl (announced.of_accepting same)
  | addPool capacity blockSize => exact quiet rfl (announced.of_accepting rfl)
  | addLine config => exact quiet rfl (announced.of_accepting rfl)
  | dropLine line => exact quiet rfl (announced.of_accepting rfl)
  | dropPool pool => exact quiet rfl (announced.of_accepting rfl)

/-- After every history, the runs that do not accept are those that a step told to end. -/
theorem afterMoves_announced (moves : List Move) :
    (afterMoves moves).Announced (({ } : Plant).answers tells? moves) := by
  -- The induction is on the rest of the history, from any plant that the earlier part leads to.
  have general : ∀ (moves : List Move) (p : Plant) (told : List Nat), p.Scheduled →
      p.Announced told → (moves.foldl step p).Announced (told ++ p.answers tells? moves) := by
    intro moves
    induction moves with
    | nil =>
      intro p told scheduled announced
      simpa [answers] using announced
    | cons m rest ih =>
      intro p told scheduled announced
      have next : (p.step m).Announced (told ++ (p.tells? m).toList) := by
        unfold step
        split
        · rename_i admitted
          exact announced.perform scheduled m admitted
        · -- Nobody is told anything by a step that cannot be taken.
          rename_i declined
          have silent : p.tells? m = none := by
            cases m with
            | requestStop line => exact if_neg declined
            | _ => rfl
          simpa [silent] using announced
      rw [answers, ← List.append_assoc]
      exact ih (p.step m) _ (scheduled.change (p.step_change m)) next
  have start : ({ } : Plant).Announced [] := ⟨by simp, by simp⟩
  exact general moves { } [] ⟨by simp [currentRun?], by simp⟩ start

/-- A buffer is accepted exactly while its run accepts and has room. It comes to the end of the queue
then, and stays with the caller otherwise. -/
theorem submit_eq {run serial : Nat} {r : Run} {b : Buffer} {l : Line}
    (found : p.runs[run]? = some r) (held : p.held? serial = some b)
    (there : p.lines[r.line]? = some l) :
    p.submit run serial =
      if r.accepting = true ∧ r.queue.length < l.queueCapacity then
        (true, { p with
          lines := p.lines.set r.line
            { l with stats := { l.stats with submitted := l.stats.submitted + 1 } }
          runs := p.runs.set run { r with queue := r.queue ++ [b] }
          held := p.held.filter (·.serial ≠ serial)
          journal := p.journal ++ [(run, .accepted b)] })
      else
        (false, { p with
          lines := p.lines.set r.line
            { l with stats := { l.stats with rejected := l.stats.rejected + 1 } } }) := by
  -- Both the run and its pipeline are there, so that each is changed in its place.
  have capacity : p.queueCapacity r = l.queueCapacity := by rw [queueCapacity, there]
  unfold submit
  simp only [found, held, capacity]
  split
  · simp only [changeRun, count, note, release, modify_of_getElem? found,
      modify_of_getElem? there]
  · simp only [count, modify_of_getElem? there]

/-- After every history, a buffer in a caller's hands is accepted by a run exactly if no stop has told
the run to end and its queue has room. A buffer that is turned down stays with the caller as it is, and
nothing is changed but the count of rejected ones. One that is accepted comes to the end of the queue.
What a run has accepted has come to the end of its sink call, is inside one, was discarded by the stop,
or is queued, in this order; so a run has at most one buffer more on hand than its queue has room for,
and none more once its worker is gone. -/
theorem afterMoves_submissions (moves : List Move) (run : Nat) (r : Run)
    (found : (afterMoves moves).runs[run]? = some r) :
    let p := afterMoves moves
    let story := p.journal.story run
    ∃ l, p.lines[r.line]? = some l ∧
      (∀ serial b, p.held? serial = some b →
        ((p.submit run serial).1 = true ↔
          run ∉ ({ } : Plant).answers tells? moves ∧ r.queue.length < l.queueCapacity) ∧
        ((p.submit run serial).1 = false →
          (p.submit run serial).2.held? serial = some b ∧
          (p.submit run serial).2 = { p with
            lines := p.lines.set r.line
              { l with stats := { l.stats with rejected := l.stats.rejected + 1 } } }) ∧
        ((p.submit run serial).1 = true →
          (p.submit run serial).2 = { p with
            lines := p.lines.set r.line
              { l with stats := { l.stats with submitted := l.stats.submitted + 1 } }
            runs := p.runs.set run { r with queue := r.queue ++ [b] }
            held := p.held.filter (·.serial ≠ serial)
            journal := p.journal ++ [(run, .accepted b)] })) ∧
      story.accepted = story.answered ++ r.worker.buffers ++ story.discarded ++ r.queue ∧
      (r.worker.buffers ++ r.queue).length ≤ l.queueCapacity + 1 ∧
      (r.worker.isGone = true → (r.worker.buffers ++ r.queue).length ≤ l.queueCapacity) := by
  -- The test is that of the model, read by what the run was told and by the size of its queue.
  intro p story
  have present := (afterMoves_wired moves).lines r (List.mem_of_getElem? found)
  have there := List.getElem?_eq_getElem present
  have announced := (afterMoves_announced moves).accepting run r found
  have occupies := afterMoves_occupied moves run r found
  rw [queueCapacity, there] at occupies
  refine ⟨_, there, ?_, ?_, occupies.length_le⟩
  · intro serial b held
    rw [submit_eq found held there, ← announced]
    by_cases taken : r.accepting = true ∧ r.queue.length < (p.lines[r.line]).queueCapacity
    · rw [if_pos taken]
      exact ⟨iff_of_true rfl taken, by simp, fun _ => rfl⟩
    · rw [if_neg taken]
      exact ⟨iff_of_false (by simp) taken, fun _ => ⟨held, rfl⟩, by simp⟩
  · -- Whatever was fed was answered or is inside the sink call.
    have order := ((afterMoves_chronicled moves).recorded run r found).order
    rw [occupies.fed] at order
    exact order

/-- A pipeline with room for one buffer, of which a first one is inside a sink call and a second one is
queued, while two others are still with the producer. -/
def crowdedHistory : List Move :=
  [.addLine { bufferCount := 4, bufferSize := 2, queueCapacity := 1 }, .start 0] ++
    [.loan 0, .loan 0, .loan 0, .fill 2 [7], .submit 0 0, .work 0, .work 0, .submit 0 1].map
      .background

/-- A third buffer is turned down, though no stop has told the run to end: there are two on hand, one
more than there is room for in the queue. -/
theorem crowdedHistory_submissions :
    let p := afterMoves crowdedHistory
    ∃ r, p.runs[0]? = some r ∧ (r.worker.buffers ++ r.queue).length = 2 ∧
      0 ∉ ({ } : Plant).answers tells? crowdedHistory ∧ (p.submit 0 2).1 = false ∧
      (p.submit 0 2).2.held? 2 = some ⟨2, 0, [7, 0], 1⟩ ∧ (p.submit 0 2).2.runs = p.runs := by
  -- That the third buffer is turned down is computed, and what that means is known from the
  -- theorem.
  intro p
  obtain ⟨r, found⟩ : ∃ r, p.runs[0]? = some r := ⟨_, rfl⟩
  obtain ⟨l, -, submits, -⟩ := afterMoves_submissions crowdedHistory 0 r found
  have bounced : (p.submit 0 2).1 = false := by decide
  obtain ⟨held, after⟩ := (submits 2 ⟨2, 0, [7, 0], 1⟩ (by decide)).2.1 bounced
  refine ⟨r, found, ?_, by decide, bounced, held, by rw [after]⟩
  obtain rfl := Option.some.inj found
  decide

end Plant

end TunerControl.Samples
