import TunerControl.Proofs.Samples.Order

/-! No buffer is accepted twice, so a run feeds what it accepted itself, and each buffer once. -/

namespace TunerControl.Samples

namespace Journal

/-- A run accepted what is entered as accepted in it. -/
theorem mem_accepted {j : Journal} {run : Nat} {b : Buffer} :
    b ∈ (j.story run).accepted ↔ (run, .accepted b) ∈ j := by
  constructor
  · -- The reading goes back to the entry that it comes from.
    intro member
    obtain ⟨happening, told, accepted⟩ := List.mem_filterMap.mp member
    obtain ⟨⟨at_, entered⟩, present, same⟩ := List.mem_filterMap.mp told
    split at same
    · rename_i here
      cases happening with
      | accepted c => simp_all
      | _ => simp at accepted
    · simp at same
  · -- The entry is read as what it is.
    intro present
    refine List.mem_filterMap.mpr ⟨.accepted b, ?_, rfl⟩
    exact List.mem_filterMap.mpr ⟨_, present, if_pos rfl⟩

/-- What the runs accepted is what one of them accepted and what the others did. -/
theorem acceptances_perm (j : Journal) (run : Nat) :
    j.acceptances.Perm
      ((j.story run).accepted ++ acceptances (j.filter fun entry => entry.1 ≠ run)) := by
  -- By induction on the journal, entry by entry.
  induction j with
  | nil => exact List.Perm.refl _
  | cons entry rest ih =>
    obtain ⟨at_, happening⟩ := entry
    simp only [acceptances, story, Story.accepted] at ih ⊢
    -- An acceptance is kept in front of its own part, and any other entry counts for neither.
    cases happening with
    | accepted b =>
      by_cases same : at_ = run
      · simpa [same] using ih
      · simpa [same] using (ih.cons b).trans List.perm_middle.symm
    | _ => by_cases same : at_ = run <;> simpa [same, List.filterMap_cons] using ih

end Journal

namespace Plant

/-- The numbers of the buffers in callers' hands and of those that were ever accepted. -/
def numbers (p : Plant) : List Nat :=
  (p.held ++ p.journal.acceptances).map Buffer.serial

/-- No buffer comes back into a caller's hands or into a queue once it was accepted. -/
structure AcceptsOnce (p : Plant) : Prop where
  distinct : p.numbers.Nodup
  numbered : ∀ n ∈ p.numbers, n < p.loans

/-- The same numbers in any order are as different as before. -/
theorem AcceptsOnce.perm {p after : Plant} (once : p.AcceptsOnce)
    (same : after.numbers.Perm p.numbers) (loans : after.loans = p.loans) : after.AcceptsOnce := by
  -- Neither of the two facts depends on the order.
  refine ⟨same.nodup_iff.mpr once.distinct, ?_⟩
  intro n member
  rw [loans]
  exact once.numbered n (same.mem_iff.mp member)

/-- Fewer numbers are as different as before. -/
theorem AcceptsOnce.sublist {p after : Plant} (once : p.AcceptsOnce)
    (fewer : after.numbers.Sublist p.numbers) (loans : after.loans = p.loans) :
    after.AcceptsOnce := by
  -- Both facts are inherited by a part.
  refine ⟨once.distinct.sublist fewer, ?_⟩
  intro n member
  rw [loans]
  exact once.numbered n (fewer.subset member)

/-- Entries that are no acceptances change no numbers. -/
theorem AcceptsOnce.enter {p after : Plant} (once : p.AcceptsOnce) (entries : Journal)
    (others : entries.acceptances = []) (held : after.held = p.held) (loans : after.loans = p.loans)
    (journal : after.journal = p.journal ++ entries) : after.AcceptsOnce := by
  refine once.perm ?_ loans
  rw [numbers, held, journal, Journal.acceptances, List.filterMap_append]
  -- What the new entries add to the acceptances is nothing.
  show ((p.held ++ (p.journal.acceptances ++ entries.acceptances)).map _).Perm p.numbers
  rw [others, List.append_nil]
  exact List.Perm.refl _

/-- The number of a new loan was not given before. -/
theorem AcceptsOnce.lend {p after : Plant} (once : p.AcceptsOnce) {b : Buffer}
    (new : b.serial = p.loans) (held : after.held = p.held ++ [b])
    (journal : after.journal = p.journal) (loans : after.loans = p.loans + 1) :
    after.AcceptsOnce := by
  -- The number is the next one, and all that were given before are less.
  have grown : after.numbers.Perm (p.loans :: p.numbers) := by
    rw [numbers, held, journal, List.append_assoc, ← new]
    exact List.perm_middle.map Buffer.serial
  refine ⟨?_, ?_⟩
  · rw [grown.nodup_iff, List.nodup_cons]
    exact ⟨fun again => Nat.lt_irrefl _ (once.numbered _ again), once.distinct⟩
  · intro n member
    rw [loans]
    rcases List.mem_cons.mp (grown.mem_iff.mp member) with rfl | earlier
    · exact Nat.lt_succ_self _
    · exact Nat.lt_succ_of_lt (once.numbered n earlier)

/-- The buffers in callers' hands have different numbers. -/
theorem AcceptsOnce.held_distinct {p : Plant} (once : p.AcceptsOnce) :
    (p.held.map Buffer.serial).Nodup := by
  -- They are some of all the numbers.
  have distinct := once.distinct
  rw [numbers, List.map_append] at distinct
  exact (List.nodup_append.mp distinct).1

/-- The buffers that were ever accepted have different numbers. -/
theorem AcceptsOnce.acceptances_distinct {p : Plant} (once : p.AcceptsOnce) :
    (p.journal.acceptances.map Buffer.serial).Nodup := by
  -- They are the rest of all the numbers.
  have distinct := once.distinct
  rw [numbers, List.map_append] at distinct
  exact (List.nodup_append.mp distinct).2.1

/-- Every change of a plant lets a buffer be accepted once at most. -/
theorem AcceptsOnce.change {p after : Plant} (once : p.AcceptsOnce) (change : Change p after) :
    after.AcceptsOnce := by
  cases change with
  | nothing => exact once
  | poolAdded capacity blockSize => exact ⟨once.distinct, once.numbered⟩
  | lineAdded config => exact ⟨once.distinct, once.numbered⟩
  | poolGone pool unused => exact ⟨once.distinct, once.numbered⟩
  | lineDropped line idle => exact ⟨once.distinct, once.numbered⟩
  | lent found lends => exact once.lend rfl rfl rfl rfl
  | @edited serial change same =>
    -- An edit changes no number.
    refine once.perm ?_ rfl
    have serials : ∀ b : Buffer,
        (if b.serial = serial then change b else b).serial = b.serial := by
      intro b
      split
      · exact (same b).serial
      · rfl
    simp [numbers, edit, Function.comp_def, serials]
  | givenUp held =>
    -- One number less is in callers' hands.
    refine once.sublist ?_ rfl
    exact (List.filter_sublist.append_right _).map Buffer.serial
  | rejected line => exact ⟨once.distinct, once.numbered⟩
  | @accepted run serial r b found held accepting room =>
    -- The number leaves callers' hands when it is entered as accepted.
    refine once.perm ?_ rfl
    have parted := perm_cons_filter_of_find? once.held_distinct held
    refine List.Perm.map Buffer.serial ?_
    rw [Journal.acceptances, List.filterMap_append, ← List.append_assoc]
    exact List.perm_append_comm.trans (parted.append_right _).symm
  | moved found moves => exact ⟨once.distinct, once.numbered⟩
  | fed found receiving queued => exact once.enter [(_, .fed _)] rfl rfl rfl rfl
  | answered found feeding own returned => exact once.enter [(_, .answered _ _)] rfl rfl rfl rfl
  | crashed found feeding => exact once.enter [(_, .answered _ _)] rfl rfl rfl rfl
  | started owned idle => exact ⟨once.distinct, once.numbered⟩
  | told current found => exact ⟨once.distinct, once.numbered⟩
  | stopped current found finished =>
    -- Discarding is no acceptance, and neither is a report.
    refine once.enter _ ?_ rfl rfl rfl
    simp [Journal.acceptances]

/-- Buffers are accepted once at most in every history. -/
theorem afterMoves_acceptsOnce (moves : List Move) : (afterMoves moves).AcceptsOnce := by
  -- By induction on the history, from a plant with no buffers.
  refine afterMoves_induction ?_ ?_ moves
  · exact ⟨by simp [numbers, Journal.acceptances], by simp [numbers, Journal.acceptances]⟩
  · intro p m once admitted
    exact once.change (p.perform_change m admitted)

/-- Buffers that different runs accepted have different numbers. -/
theorem AcceptsOnce.apart {p : Plant} (once : p.AcceptsOnce) {run other : Nat} (apart : other ≠ run)
    {b c : Buffer} (first : b ∈ (p.journal.story run).accepted)
    (second : c ∈ (p.journal.story other).accepted) : c.serial ≠ b.serial := by
  have accepted := once.acceptances_distinct
  -- The acceptances of the one run come from other entries than those of the other.
  rw [((p.journal.acceptances_perm run).map _).nodup_iff, List.map_append] at accepted
  have different := (List.nodup_append.mp accepted).2.2
  have elsewhere : c ∈ Journal.acceptances (p.journal.filter fun entry => entry.1 ≠ run) := by
    refine List.mem_filterMap.mpr ⟨(other, .accepted c), ?_, rfl⟩
    exact List.mem_filter.mpr ⟨Journal.mem_accepted.mp second, by simpa using apart⟩
  exact (different _ (List.mem_map_of_mem first) _ (List.mem_map_of_mem elsewhere)).symm

/-- A run accepts no buffer twice. -/
theorem AcceptsOnce.accepted_distinct {p : Plant} (once : p.AcceptsOnce) (run : Nat) :
    ((p.journal.story run).accepted.map Buffer.serial).Nodup := by
  -- They are some of all that were ever accepted.
  have accepted := once.acceptances_distinct
  rw [((p.journal.acceptances_perm run).map _).nodup_iff, List.map_append] at accepted
  exact (List.nodup_append.mp accepted).1

/-- A submission is entered as accepted exactly when the producer is told so. -/
theorem submit_journal (p : Plant) (run serial : Nat) :
    (p.submit run serial).2.journal = p.journal ++
      if (p.submit run serial).1 then
        (p.held? serial).toList.map fun b => (run, .accepted b)
      else [] := by
  -- The producer is told so by the same test that enters it.
  unfold submit
  split
  · rename_i r b found held
    split
    · simp [held, note, count, changeRun, release]
    · simp [count]
  · simp

/-- A stop enters all that it discards, and the report that its caller gets. -/
theorem completeStop_journal (p : Plant) {line run : Nat} {r : Run}
    (current : p.currentRun? line = some run) (found : p.runs[run]? = some r) :
    (p.completeStop line).2.journal = p.journal ++
      (r.queue.map Happening.discarded ++
        [Happening.stopped (p.completeStop line).1]).map (run, ·) := by
  -- The current run is there, and its queue is entered before the report.
  simp only [completeStop, current, found, discardAll_eq]
  simp [note, count, changeRun]

/-- After every history, what the worker of a run handed to the sink is the first part of what the
run accepted, in the order of acceptance. The rest was discarded by the stop of the run, which
reports how much that was, or is still queued. A run accepts no buffer twice and feeds none that
another run accepted. What counts as accepted is what producers are told was, and what counts as
reported is what the callers of stops are told. -/
theorem afterMoves_delivery (moves : List Move) (run : Nat) :
    let p := afterMoves moves
    let story := p.journal.story run
    story.fed.map Buffer.bytes <+: story.accepted.map Buffer.bytes ∧
    story.accepted = story.fed ++ story.discarded ++ p.queued run ∧
    (story.reports = [] ∧ story.discarded = [] ∨
      ∃ report, story.reports = [report] ∧ report.dropped = story.discarded.length ∧
        p.queued run = []) ∧
    (story.accepted.map Buffer.serial).Nodup ∧
    (∀ other, other ≠ run → ∀ b ∈ story.fed, ∀ c ∈ (p.journal.story other).accepted,
      c.serial ≠ b.serial) ∧
    (∀ serial, (p.submit run serial).2.journal = p.journal ++
      if (p.submit run serial).1 then (p.held? serial).toList.map fun b => (run, .accepted b)
      else []) ∧
    ∀ line r, p.currentRun? line = some run → p.runs[run]? = some r →
      (p.completeStop line).2.journal = p.journal ++
        (r.queue.map Happening.discarded ++
          [Happening.stopped (p.completeStop line).1]).map (run, ·) := by
  intro p story
  have chronicled : p.Chronicled := afterMoves_chronicled moves
  have once : p.AcceptsOnce := afterMoves_acceptsOnce moves
  obtain ⟨order, report⟩ := chronicled.outcome run
  -- What was accepted begins with what was fed.
  have prefix_ : story.fed <+: story.accepted :=
    ⟨story.discarded ++ p.queued run, by rw [← List.append_assoc]; exact order.symm⟩
  refine ⟨prefix_.map Buffer.bytes, order, report, once.accepted_distinct run, ?_,
    p.submit_journal run, ?_⟩
  · intro other different b fed c accepted
    exact once.apart different (prefix_.subset fed) accepted
  · intro line r current found
    exact p.completeStop_journal current found

/-- Two runs of one pipeline. The sink of the first is still busy when its stop gives up waiting and
discards a buffer, and is done only when the second run feeds another one. -/
def restartHistory : List Move :=
  [.addLine { bufferCount := 3, bufferSize := 2, queueCapacity := 2 }, .start 0] ++
    ([.loan 0, .loan 0, .loan 0, .fill 0 [1], .fill 1 [2, 3], .fill 2 [4], .submit 0 0, .submit 0 1,
      .work 0, .work 0].map .background) ++
    [.requestStop 0, .completeStop 0, .start 0] ++
    [.submit 1 2, .work 1, .work 1, .answer 0 .taken].map .background

/-- The stuck run fed the first of the two buffers that it accepted, and none of the second run. -/
theorem restartHistory_delivery :
    let story := (afterMoves restartHistory).journal.story
    (story 0).reports = [⟨false, 1⟩] ∧ (story 0).fed.map Buffer.bytes = [[1]] ∧
    (story 0).accepted.map Buffer.bytes = [[1], [2, 3]] ∧
    (story 1).fed.map Buffer.bytes = [[4]] ∧
    ∀ b ∈ (story 0).fed, ∀ c ∈ (story 1).accepted, c.serial ≠ b.serial := by
  -- What the story tells is computed, and that the runs share no buffer is known from the theorem.
  have delivery := afterMoves_delivery restartHistory 0
  exact ⟨by decide, by decide, by decide, by decide, delivery.2.2.2.2.1 1 (by decide)⟩

end Plant

end TunerControl.Samples
