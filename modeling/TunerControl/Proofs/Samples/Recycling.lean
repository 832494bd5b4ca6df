import TunerControl.Proofs.Samples.Content
import TunerControl.Proofs.Samples.Delivery

/-! Storage that is lent again shows nothing of the loans before. What its holder reads and what a sink
is handed is up to what was done to it since. -/

namespace TunerControl.Samples

namespace Plant

variable {p after : Plant} {m : Move} {serial : Nat} {b c : Buffer}

/-- Copies are in callers' hands, in runs, or were accepted. -/
theorem mem_copies : c ∈ p.copies ↔
    c ∈ p.held ∨ c ∈ p.runs.flatMap Run.buffers ∨ c ∈ p.journal.acceptances := by
  simp only [copies, buffers, List.mem_append, or_assoc]

/-- The buffers of a run are among the copies. -/
theorem mem_copies_of_run {run : Nat} {r : Run} (found : p.runs[run]? = some r)
    (inRun : c ∈ r.buffers) : c ∈ p.copies :=
  -- It is one of the runs.
  mem_copies.mpr (.inr (.inl (List.mem_flatMap.mpr ⟨r, List.mem_of_getElem? found, inRun⟩)))

/-- A run that changes makes no copies, as long as what it gets was somewhere before. -/
theorem copies_of_run {run : Nat} {r : Run} {change : Run → Run}
    (found : p.runs[run]? = some r) (kept : ∀ c ∈ after.held, c ∈ p.held)
    (runs : after.runs = p.runs.modify run change)
    (own : ∀ c ∈ (change r).buffers, c ∈ p.copies)
    (entered : ∀ c ∈ after.journal.acceptances, c ∈ p.copies) : ∀ c ∈ after.copies, c ∈ p.copies := by
  -- What callers hold and what was accepted is known to be no more, so that the run is left to look
  -- at.
  intro c member
  rcases mem_copies.mp member with held | inRun | accepted
  · exact mem_copies.mpr (.inl (kept c held))
  · rw [runs] at inRun
    obtain ⟨changed, present, inRun⟩ := List.mem_flatMap.mp inRun
    obtain ⟨i, at_⟩ := List.mem_iff_getElem?.mp present
    obtain ⟨s, there, rfl⟩ := exists_of_getElem?_modify at_
    -- The changed run is the one that was found, and the others have what they had.
    split at inRun
    · rename_i here
      subst here
      exact own c (Option.some.inj (found.symm.trans there) ▸ inRun)
    · exact mem_copies_of_run there inRun
  · exact entered c accepted

/-- What is entered without an acceptance adds none. -/
theorem acceptances_enter (j : Journal) {entries : Journal} (others : entries.acceptances = []) :
    ∀ c ∈ Journal.acceptances (j ++ entries), c ∈ j.acceptances := by
  -- Acceptances are read entry by entry.
  intro c member
  have same : Journal.acceptances (j ++ entries) = j.acceptances ++ entries.acceptances :=
    List.filterMap_append
  rwa [same, others, List.append_nil] at member

/-- No change makes a copy of what was not there, unless callers get hold of something new. -/
theorem copies_of_change (change : Change p after) (kept : ∀ c ∈ after.held, c ∈ p.held) :
    ∀ c ∈ after.copies, c ∈ p.copies := by
  have entered : ∀ c ∈ p.journal.acceptances, c ∈ p.copies := fun c accepted =>
    mem_copies.mpr (.inr (.inr accepted))
  -- With the same runs and the same journal, only what callers hold can be different.
  have still : after.runs = p.runs → after.journal = p.journal →
      ∀ c ∈ after.copies, c ∈ p.copies := by
    intro runs journal c member
    rw [mem_copies, runs, journal] at member
    exact mem_copies.mpr (member.imp_left (kept c))
  cases change with
  | nothing => exact still rfl rfl
  | poolAdded capacity blockSize => exact still rfl rfl
  | lineAdded config => exact still rfl rfl
  | poolGone pool unused => exact still rfl rfl
  | lineDropped line idle => exact still rfl rfl
  | lent found lends => exact still rfl rfl
  | edited serial same => exact still rfl rfl
  | givenUp held => exact still rfl rfl
  | rejected line => exact still rfl rfl
  | @accepted run serial r b found held accepting room =>
    -- The buffer that is accepted was in a caller's hands.
    have own : b ∈ p.copies := mem_copies.mpr (.inl (List.mem_of_find?_eq_some held))
    refine copies_of_run found kept rfl ?_ ?_
    · intro c inRun
      simp only [Run.buffers, ← List.append_assoc] at inRun
      rcases List.mem_append.mp inRun with earlier | last
      · exact mem_copies_of_run found earlier
      · exact List.mem_singleton.mp last ▸ own
    · intro c accepted
      simp only [Journal.acceptances, List.filterMap_append] at accepted
      rcases List.mem_append.mp accepted with earlier | last
      · exact entered c earlier
      · have same : c = b := by simpa using last
        exact same ▸ own
  | moved found moves =>
    refine copies_of_run found kept rfl (fun c inRun => mem_copies_of_run found ?_) entered
    cases moves with
    | goesOn checking accepting => exact List.mem_append_right _ inRun
    | ends checking finished => exact List.mem_append_right _ inRun
    | givesUp receiving empty => exact List.mem_append_right _ inRun
  | @fed run r b rest found receiving queued =>
    refine copies_of_run found kept rfl (fun c inRun => mem_copies_of_run found ?_) fun c accepted =>
      entered c (acceptances_enter _ rfl c accepted)
    -- What is being fed was the first in the queue.
    rw [Run.buffers, queued]
    exact List.mem_append_right _ inRun
  | answered found feeding own returned =>
    exact copies_of_run found kept rfl
      (fun c inRun => mem_copies_of_run found (List.mem_append_right _ inRun)) fun c accepted =>
      entered c (acceptances_enter _ rfl c accepted)
  | crashed found feeding =>
    exact copies_of_run found kept rfl
      (fun c inRun => mem_copies_of_run found (List.mem_append_right _ inRun)) fun c accepted =>
      entered c (acceptances_enter _ rfl c accepted)
  | @started line owned idle =>
    intro c member
    have same : (p.runs ++ [({ line } : Run)]).flatMap Run.buffers
        = p.runs.flatMap Run.buffers := by
      simp [Run.buffers, Worker.buffers]
    rw [mem_copies, same] at member
    exact mem_copies.mpr (member.imp_left (kept c))
  | told current found =>
    exact copies_of_run found kept rfl (fun c inRun => mem_copies_of_run found inRun) entered
  | stopped current found finished =>
    -- What is discarded is gone, and the worker keeps what it has.
    refine copies_of_run found kept rfl (fun c inRun => mem_copies_of_run found ?_) fun c accepted =>
      entered c (acceptances_enter _ ?_ c accepted)
    · simp only [Run.buffers, List.append_nil] at inRun
      exact List.mem_append_left _ inRun
    · simp [Journal.acceptances]

/-- What a lender does: it gives a caller an empty buffer with a block of its pool, under the next
number. -/
theorem lend_of_some {pool : Nat} (lent : (p.lend pool).1 = some serial) :
    ∃ q lender block, p.pools[pool]? = some q ∧ q.lend = some (block, lender) ∧
      serial = p.loans ∧ (p.lend pool).2 = { p with
        pools := p.pools.set pool lender
        held := p.held ++ [⟨p.loans, pool, block, 0⟩]
        loans := p.loans + 1 } := by
  unfold lend at lent ⊢
  -- Only a pool that is there and has something left tells a number.
  cases lends : p.pools[pool]?.bind Pool.lend with
  | none => simp [lends] at lent
  | some loan =>
    obtain ⟨q, found, took⟩ := Option.bind_eq_some_iff.mp lends
    simp only [lends, Option.some.injEq] at lent
    exact ⟨q, loan.2, loan.1, found, took, lent.symm, rfl⟩

/-- A lender that has nothing left changes nothing. -/
theorem lend_of_none {pool : Nat} (none : (p.lend pool).1 = none) : (p.lend pool).2 = p := by
  -- A loan that is made has a number.
  unfold lend at none ⊢
  split
  · rfl
  · rename_i lends
    simp [lends] at none

/-- A step that gets a loan is one of a lender. -/
theorem step_of_loan (asked : p.loans? m = some serial) :
    ∃ pool q lender block, p.pools[pool]? = some q ∧ q.lend = some (block, lender) ∧
      serial = p.loans ∧ p.step m = { p with
        pools := p.pools.set pool lender
        held := p.held ++ [⟨p.loans, pool, block, 0⟩]
        loans := p.loans + 1 } := by
  unfold loans? at asked
  split at asked
  · rename_i run
    -- A run that is not there has no pool that could lend.
    have step : p.step (.background (.loan run)) = (p.loan run).2 := rfl
    rw [step]
    unfold loan at asked ⊢
    cases own : p.poolOfRun? run with
    | none => simp [own] at asked
    | some pool =>
      simp only [own] at asked
      exact ⟨pool, lend_of_some asked⟩
  · rename_i pool
    exact ⟨pool, lend_of_some asked⟩
  · simp at asked

/-- Nothing that goes on beside the owner's commands gives a caller something new to hold, but a loan
and what changes a buffer. -/
theorem held_of_after {activity : Activity} (still : activity.edit? = none)
    (unlent : p.loans? (.background activity) = none) :
    ∀ c ∈ (p.after activity).held, c ∈ p.held := by
  intro c member
  cases activity with
  | loan run =>
    simp only [loans?, after, loan] at unlent member
    cases own : p.poolOfRun? run with
    | none => simpa [own] using member
    | some pool =>
      simp only [own] at unlent member
      rwa [lend_of_none unlent] at member
  | fill serial source => simp [Activity.edit?] at still
  | write serial start source => simp [Activity.edit?] at still
  | setLength serial length => simp [Activity.edit?] at still
  | submit run serial =>
    simp only [after, submit] at member
    -- What is accepted leaves the caller's hands, and what is rejected stays there.
    split at member
    · split at member
      · exact (List.mem_filter.mp member).1
      · exact member
    · exact member
  | discard serial =>
    simp only [after, discard] at member
    split at member
    · exact member
    · exact (List.mem_filter.mp member).1
  | work run =>
    have same : (p.work run).held = p.held := by
      unfold work
      repeat' split
      all_goals rfl
    rwa [after, same] at member
  | answer run a =>
    have same : (p.answer run a).held = p.held := by
      unfold answer
      repeat' split
      all_goals rfl
    rwa [after, same] at member

/-- A stop that returns leaves callers what they hold. -/
theorem held_completeStop (p : Plant) (line : Nat) : (p.completeStop line).2.held = p.held := by
  unfold completeStop
  split
  · rfl
  · split
    · rfl
    · -- What is discarded comes from the queue alone.
      simp only [discardAll_eq]
      rfl

/-- A caller gets hold of nothing new, unless a step gets a loan or changes what the caller holds. -/
theorem held_of_step (still : m.edit? = none) (unlent : p.loans? m = none) :
    ∀ c ∈ (p.step m).held, c ∈ p.held := by
  intro c member
  unfold step at member
  -- A step that cannot be taken changes nothing, and most of the others leave callers alone.
  split at member
  · cases m with
    | background activity => exact held_of_after still unlent c member
    | addPool capacity blockSize => exact member
    | addLine config => exact member
    | take pool => rwa [perform, lend_of_none unlent] at member
    | start line =>
      simp only [perform, start] at member
      split at member
      · exact member
      · exact member
    | requestStop line =>
      simp only [perform, requestStop] at member
      split at member
      · exact member
      · exact member
    | completeStop line => rwa [perform, held_completeStop] at member
    | dropLine line => exact member
    | dropPool pool => exact member
  · exact member

/-- A step that is no edit makes no copies, but for the empty buffer that it may get on loan. -/
theorem copies_of_step (still : m.edit? = none) :
    ∀ c ∈ (p.step m).copies, c ∈ p.copies ∨ c.serial = p.loans ∧ c.length = 0 := by
  intro c member
  cases lent : p.loans? m with
  | none => exact .inl (copies_of_change (p.step_change m) (held_of_step still lent) c member)
  | some serial =>
    -- The loan is the last of the buffers in callers' hands, and all else is as it was.
    obtain ⟨pool, q, lender, block, -, -, -, step⟩ := step_of_loan lent
    rw [step, mem_copies] at member
    rcases member with held | elsewhere
    · rcases List.mem_append.mp held with earlier | new
      · exact .inl (mem_copies.mpr (.inl earlier))
      · rw [List.mem_singleton.mp new]
        exact .inr ⟨rfl, rfl⟩
    · exact .inl (mem_copies.mpr (.inr elsewhere))

/-- An edit changes the buffers of one loan that are in callers' hands. -/
theorem step_of_edit {n : Nat} {e : Edit} (edits : m.edit? = some (n, e)) :
    p.step m = p.edit n (·.apply e) := by
  unfold Move.edit? at edits
  split at edits
  · -- Each of the three edits is performed by the function that it names.
    rename_i activity
    unfold Activity.edit? at edits
    split at edits
    · obtain ⟨rfl, rfl⟩ : _ ∧ _ := by simpa using edits
      rfl
    · obtain ⟨rfl, rfl⟩ : _ ∧ _ := by simpa using edits
      rfl
    · obtain ⟨rfl, rfl⟩ : _ ∧ _ := by simpa using edits
      rfl
    · simp at edits
  · simp at edits

/-- After an edit, a copy was held under the number of the loan, or was there before. -/
theorem copies_of_edit {n : Nat} {change : Buffer → Buffer}
    (member : c ∈ (p.edit n change).copies) :
    (∃ a ∈ p.held, a.serial = n ∧ c = change a) ∨
      c ∈ p.copies ∧ (c.serial = n → c ∈ p.runs.flatMap Run.buffers ∨ c ∈ p.journal.acceptances) := by
  -- The edited buffers are in callers' hands, and all others are where they were.
  rcases mem_copies.mp member with held | elsewhere
  · obtain ⟨a, there, rfl⟩ := List.mem_map.mp held
    split
    · rename_i own
      exact .inl ⟨a, there, own, rfl⟩
    · rename_i other
      exact .inr ⟨mem_copies.mpr (.inl there), fun own => absurd own other⟩
  · exact .inr ⟨mem_copies.mpr (.inr elsewhere), fun _ => elsewhere⟩

/-- What callers hold is under other numbers than what runs have or have accepted. -/
theorem held_apart (accounted : p.Accounted) (once : p.AcceptsOnce) (held : b ∈ p.held)
    (elsewhere : c ∈ p.runs.flatMap Run.buffers ∨ c ∈ p.journal.acceptances) :
    b.serial ≠ c.serial := by
  -- Callers and runs share the loans of the accounts, and callers and acceptances the numbers.
  rcases elsewhere with inRun | accepted
  · have distinct := accounted.distinct
    rw [buffers, List.map_append] at distinct
    exact (List.nodup_append.mp distinct).2.2 _ (List.mem_map_of_mem held) _
      (List.mem_map_of_mem inRun)
  · have distinct := once.distinct
    rw [numbers, List.map_append] at distinct
    exact (List.nodup_append.mp distinct).2.2 _ (List.mem_map_of_mem held) _
      (List.mem_map_of_mem accepted)

/-- The copies of one loan stay alike through a step, which changes them by an edit of that loan alone. -/
theorem alike_of_step (accounted : p.Accounted) (once : p.AcceptsOnce) (known : serial < p.loans)
    (alike : ∀ c ∈ p.copies, c.serial = serial → c = b) :
    ∀ c ∈ (p.step m).copies, c.serial = serial → c = b.applyAll (p.edits? serial m).toList := by
  intro c member number
  cases edits : m.edit? with
  | none =>
    have unedited : p.edits? serial m = none := by simp only [edits?, edits]
    rw [unedited]
    -- What is new has a new number.
    rcases copies_of_step edits c member with old | ⟨new, -⟩
    · exact alike c old number
    · omega
  | some edit =>
    obtain ⟨n, e⟩ := edit
    rw [step_of_edit edits] at member
    simp only [edits?, edits]
    rcases copies_of_edit member with ⟨a, held, own, rfl⟩ | ⟨old, elsewhere⟩
    · have same : a.serial = serial := (a.apply_sameLoan e).serial.symm.trans number
      have found : (p.held? serial).isSome = true :=
        List.find?_isSome.mpr ⟨a, held, decide_eq_true same⟩
      rw [if_pos ⟨own.symm.trans same, found⟩, alike a (mem_copies.mpr (.inl held)) same]
      rfl
    · rw [if_neg, alike c old number]
      · rfl
      · -- A loan that is edited is in a caller's hands, and nowhere else.
        rintro ⟨rfl, found⟩
        obtain ⟨a, there⟩ := Option.isSome_iff_exists.mp found
        have own : a.serial = n := by simpa using List.find?_some there
        exact held_apart accounted once (List.mem_of_find?_eq_some there) (elsewhere number)
          (own.trans number.symm)

/-- No step takes back a number. -/
theorem loans_le_step (p : Plant) (m : Move) : p.loans ≤ (p.step m).loans := by
  -- A loan takes the next number, and nothing else changes the numbers.
  have change := p.step_change m
  generalize p.step m = after at change
  cases change with
  | lent found lends => exact Nat.le_succ _
  | _ => exact Nat.le_refl _

/-- The copies of one loan stay alike in every history, and are what its edits make of the first. -/
theorem alike_of_run {earlier : List Move} (later : List Move)
    (known : serial < (afterMoves earlier).loans)
    (alike : ∀ c ∈ (afterMoves earlier).copies, c.serial = serial → c = b) :
    ∀ c ∈ (afterMoves (earlier ++ later)).copies, c.serial = serial →
      c = b.applyAll ((afterMoves earlier).answers (edits? serial) later) := by
  -- The induction is from the first of the later steps, after which the history is one step longer.
  induction later generalizing earlier b with
  | nil =>
    rw [List.append_nil]
    exact alike
  | cons m rest ih =>
    have step := afterMoves_concat earlier m
    have next := alike_of_step (m := m) (afterMoves_accounted earlier)
      (afterMoves_acceptsOnce earlier) known alike
    rw [← step] at next
    have whole := ih (step ▸ Nat.lt_of_lt_of_le known ((afterMoves earlier).loans_le_step m)) next
    rw [step, List.append_assoc] at whole
    rw [answers, Buffer.applyAll, List.foldl_append]
    exact whole

/-- Every number that was given is smaller than the next one. -/
theorem serial_lt_loans (accounted : p.Accounted) (once : p.AcceptsOnce) (member : c ∈ p.copies) :
    c.serial < p.loans := by
  -- The accounts know all buffers on loan, and the numbers all that were accepted.
  rcases List.mem_append.mp member with onLoan | accepted
  · exact accounted.numbered c onLoan
  · exact once.numbered _ (List.mem_map_of_mem (List.mem_append_right _ accepted))

/-- A loan has just begun: a caller holds an empty buffer of the size that its pool has, and no other
buffer has its number. -/
structure Begins (p : Plant) (serial : Nat) (b : Buffer) : Prop where
  held : p.held? serial = some b
  sized : ∃ q, p.pools[b.pool]? = some q ∧ b.capacity = q.blockSize
  empty : b.length = 0
  known : serial < p.loans
  alike : ∀ c ∈ p.copies, c.serial = serial → c = b

/-- A step that gets a loan begins it. -/
theorem loan_begins {earlier : List Move} (asked : (afterMoves earlier).loans? m = some serial) :
    ∃ b, (afterMoves (earlier ++ [m])).Begins serial b := by
  have accounted := afterMoves_accounted earlier
  have once := afterMoves_acceptsOnce earlier
  have after := afterMoves_accounted (earlier ++ [m])
  rw [afterMoves_concat] at after ⊢
  generalize afterMoves earlier = p at asked accounted once after ⊢
  obtain ⟨pool, q, lender, block, found, lends, rfl, step⟩ := step_of_loan asked
  -- The number of the loan is the next one, which no other buffer has.
  let b : Buffer := ⟨p.loans, pool, block, 0⟩
  have last : (p.step m).held = p.held ++ [b] := by rw [step]
  refine ⟨b, ?_, ?_, rfl, ?_, ?_⟩
  · have unknown : p.held.find? (·.serial = p.loans) = none := by
      refine List.find?_eq_none.mpr fun c held => ?_
      have older := serial_lt_loans accounted once (mem_copies.mpr (.inl held))
      simp only [decide_eq_true_eq]
      omega
    rw [held?, last, List.find?_append, unknown]
    simp [b]
  · refine after.sized b ?_
    rw [buffers, last]
    simp
  · rw [step]
    exact Nat.lt_succ_self _
  · -- Any other copy has a number that was given before.
    intro c member number
    rw [step, mem_copies] at member
    rcases member with held | elsewhere
    · rcases List.mem_append.mp held with earlier | new
      · have older := serial_lt_loans accounted once (mem_copies.mpr (.inl earlier))
        omega
      · exact List.mem_singleton.mp new
    · have older := serial_lt_loans accounted once (mem_copies.mpr (.inr elsewhere))
      omega

/-- What sinks are handed was accepted before, as it was. -/
theorem accepted_of_fed (moves : List Move) :
    ∀ c ∈ (afterMoves moves).fed, c ∈ (afterMoves moves).journal.acceptances := by
  intro c member
  obtain ⟨⟨run, happening⟩, entered, fed⟩ := List.mem_filterMap.mp member
  -- What the run fed is a part of what it accepted.
  have story : happening ∈ (afterMoves moves).journal.story run :=
    List.mem_filterMap.mpr ⟨_, entered, if_pos rfl⟩
  have order := ((afterMoves_chronicled moves).outcome run).1
  have accepted : c ∈ ((afterMoves moves).journal.story run).accepted := by
    rw [order, List.append_assoc]
    exact List.mem_append_left _ (List.mem_filterMap.mpr ⟨happening, story, fed⟩)
  exact List.mem_filterMap.mpr ⟨_, Journal.mem_accepted.mp accepted, rfl⟩

/-- No buffer is marked as valid beyond its end, in whatever place. -/
theorem afterMoves_bounded (moves : List Move) :
    ∀ c ∈ (afterMoves moves).copies, c.length ≤ c.capacity := by
  -- The induction is from the last step, which edits a loan, or makes at most an empty buffer.
  induction moves using List.reverseRecOn with
  | nil =>
    intro c member
    simp [copies, buffers, afterMoves, Journal.acceptances] at member
  | append_singleton moves m ih =>
    rw [afterMoves_concat]
    intro c member
    cases edits : m.edit? with
    | none =>
      rcases copies_of_step edits c member with old | ⟨-, empty⟩
      · exact ih c old
      · omega
    | some edit =>
      rw [step_of_edit edits] at member
      rcases copies_of_edit member with ⟨a, held, -, rfl⟩ | ⟨old, -⟩
      · exact Buffer.length_apply_le (ih a (mem_copies.mpr (.inl held))) edit.2
      · exact ih c old

/-- A caller that edits a buffer holds the edited one. -/
theorem held?_edit (p : Plant) (serial : Nat) (e : Edit) :
    (p.edit serial (·.apply e)).held? serial = (p.held? serial).map (·.apply e) := by
  -- The edited buffer keeps its number, and so is found under it.
  have number : ∀ a : Buffer,
      (if a.serial = serial then a.apply e else a).serial = a.serial := by
    intro a
    split
    · exact (a.apply_sameLoan e).serial
    · rfl
  simp only [held?, edit, List.find?_map, Function.comp_def, number]
  cases found : p.held.find? (·.serial = serial) with
  | none => rfl
  | some a =>
    have own : a.serial = serial := by simpa using List.find?_some found
    simp [own]

end Plant

namespace Lending

/-- The loan begins with the buffer that its holder finds. -/
theorem begins (l : Lending) :
    (Plant.afterMoves (l.earlier ++ [l.step])).Begins l.serial l.buffer := by
  -- A loan begins with some buffer, and its holder finds only one under the number.
  obtain ⟨b, begins⟩ := Plant.loan_begins l.lent
  exact Option.some.inj (begins.held.symm.trans l.held) ▸ begins

/-- Wherever the buffer of a loan is looked at, it is what was made of it since. -/
theorem sightings_eq (l : Lending) (later : List Move) :
    ∀ c ∈ l.sightings later, c = l.buffer.applyAll (l.edits later) := by
  intro c member
  obtain ⟨somewhere, number⟩ := List.mem_filter.mp member
  -- What was fed was accepted, so it is one of the copies.
  have copy : c ∈ (Plant.afterMoves (l.moves later)).copies := by
    rcases List.mem_append.mp somewhere with copy | fed
    · exact copy
    · exact Plant.mem_copies.mpr (.inr (.inr (Plant.accepted_of_fed _ c fed)))
  exact Plant.alike_of_run later l.begins.known l.begins.alike c copy (of_decide_eq_true number)

end Lending

namespace Plant

/-- Whatever was done with a pool before, a loan begins with an empty buffer of the pool's size. Later
on, the valid bytes are never more than there are, and those of a buffer that is filled are what it
is filled from, as far as that fits. Two loans of the same size that are edited in the same way, and
mark no bytes as valid that were not written since, show the same bytes to their holders and to the
sinks, whatever their storage held before. -/
theorem afterMoves_recycling :
    (∀ earlier m serial, (afterMoves earlier).loans? m = some serial →
      ∃ b q, (afterMoves (earlier ++ [m])).held? serial = some b ∧
        (afterMoves (earlier ++ [m])).pools[b.pool]? = some q ∧
        b.capacity = q.blockSize ∧ b.length = 0) ∧
    (∀ moves, let p := afterMoves moves
      (∀ b ∈ p.buffers, ∃ q, p.pools[b.pool]? = some q ∧ b.capacity = q.blockSize) ∧
      (∀ b ∈ p.copies ++ p.fed, b.length ≤ b.capacity ∧ b.bytes.length = b.length) ∧
      ∀ serial b source, p.held? serial = some b →
        ((p.step (.background (.fill serial source))).held? serial).map Buffer.bytes =
          some (source.take b.capacity)) ∧
    ∀ (one two : Lending) (later other : List Move),
      one.buffer.capacity = two.buffer.capacity → one.edits later = two.edits other →
      Covered one.buffer.capacity (one.edits later) →
      ∀ b ∈ one.sightings later, ∀ c ∈ two.sightings other, b.bytes = c.bytes := by
  refine ⟨?_, ?_, ?_⟩
  · -- A loan that was got has begun.
    intro earlier m serial asked
    obtain ⟨b, begins⟩ := loan_begins asked
    obtain ⟨q, found, size⟩ := begins.sized
    exact ⟨b, q, begins.held, found, size, begins.empty⟩
  · -- What is in the plant, at any time.
    intro moves p
    refine ⟨(afterMoves_accounted moves).sized, ?_, ?_⟩
    · intro b member
      have bounded : b.length ≤ b.capacity := by
        rcases List.mem_append.mp member with copy | fed
        · exact afterMoves_bounded moves b copy
        · exact afterMoves_bounded moves b (mem_copies.mpr (.inr (.inr (accepted_of_fed moves b fed))))
      exact ⟨bounded, Buffer.length_bytes bounded⟩
    · intro serial b source held
      rw [step_of_edit (n := serial) (e := .fill source) rfl, held?_edit, held]
      exact congrArg some (b.bytes_fill source)
  · -- Both are what the same edits make of an empty buffer.
    intro one two later other size same covered b first c second
    rw [one.sightings_eq later b first, two.sightings_eq other c second, ← same]
    exact (Buffer.applyAll_agrees size one.begins.empty two.begins.empty covered).bytes_eq

/-- A loan of a block that was lent and returned before, with two bytes in it. -/
def secondLoan : Lending where
  earlier :=
    [.addLine { bufferCount := 1, bufferSize := 2, queueCapacity := 1 }, .start 0] ++
      [.loan 0, .fill 0 [8, 9], .submit 0 0, .work 0, .work 0, .answer 0 .taken].map .background
  step := .background (.loan 0)
  serial := 1
  buffer := ⟨1, 0, [8, 9], 0⟩
  lent := by decide
  held := by decide

/-- A loan of a block that nothing was written to. -/
def firstLoan : Lending where
  earlier := [.addLine { bufferCount := 1, bufferSize := 2, queueCapacity := 1 }, .start 0]
  step := .background (.loan 0)
  serial := 0
  buffer := ⟨0, 0, [0, 0], 0⟩
  lent := by decide
  held := by decide

/-- The old block is written to at its end and submitted, and shows its sink what the new one shows
its holder. -/
theorem secondLoan_recycling :
    let edits := ([.write 1 0 [5], .setLength 1 1, .submit 0 1, .work 0, .work 0].map .background)
    let others := [.write 0 0 [5], .setLength 0 1].map .background
    (secondLoan.sightings edits).map Buffer.bytes = [[5], [5], [5]] ∧
    (firstLoan.sightings others).map Buffer.bytes = [[5]] ∧
    ∀ b ∈ secondLoan.sightings edits, ∀ c ∈ firstLoan.sightings others, b.bytes = c.bytes := by
  -- The second block is as it was returned, so that its edits have to cover what they show.
  intro edits others
  have done : secondLoan.edits edits = [] ++ [.write 0 [5]] ++ [.setLength 1] := by decide
  have covered : Covered secondLoan.buffer.capacity (secondLoan.edits edits) := by
    rw [done]
    refine covered_concat.mpr ⟨covered_concat.mpr ⟨covered_nil _, by simp⟩, ?_⟩
    rintro length marks
    cases marks
    decide
  refine ⟨by decide, by decide, ?_⟩
  exact afterMoves_recycling.2.2 secondLoan firstLoan edits others (by decide) (by decide) covered

end Plant

end TunerControl.Samples
