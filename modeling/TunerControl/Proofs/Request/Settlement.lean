import TunerControl.Proofs.Request.Effect

/-! Every request is settled at most once, and its owner is told the outcome once. -/

namespace TunerControl.Requests

variable {κ α : Type}

/-- How far a request has come, with the outcomes that it was given and what its owner was told. -/
inductive Course (request : Nat) (s : Requests κ α) :
    List (Outcome α) → List (Option (Outcome α)) → Prop where
  | unmade (absent : s.channels[request]? = none) (unsent : s.senders request = 0) :
      Course request s [] []
  | outstanding (n : Nat) (found : s.channels[request]? = some ⟨none, true⟩)
      (owned : s.senders request = 1) : Course request s [] (.replicate n none)
  | settled (n : Nat) (outcome : Outcome α)
      (found : s.channels[request]? = some ⟨some outcome, false⟩)
      (unsent : s.senders request = 0) : Course request s [outcome] (.replicate n none)
  | lost (n : Nat) (found : s.channels[request]? = some ⟨none, false⟩)
      (unsent : s.senders request = 0) : Course request s [.error abandoned] (.replicate n none)
  | told (n : Nat) (outcome : Outcome α) (m : Nat)
      (found : s.channels[request]? = some ⟨none, false⟩) (unsent : s.senders request = 0) :
      Course request s [outcome]
        (.replicate n none ++ some outcome :: .replicate m (some (.error abandoned)))

namespace Course

variable {request : Nat} {s after : Requests κ α} {settled : List (Outcome α)}
  {answered : List (Option (Outcome α))}

/-- A request has no more than one sender. -/
theorem once (course : Course request s settled answered) : s.senders request ≤ 1 := by
  -- It has one as long as it is outstanding, and otherwise none.
  cases course <;> omega

/-- Nobody can settle a request that was not made. -/
theorem made (course : Course request s settled answered) (absent : s.channels[request]? = none) :
    s.senders request = 0 := by
  -- The other courses have a channel.
  cases course with
  | unmade _ unsent => exact unsent
  | outstanding n found owned => simp [absent] at found
  | settled n outcome found unsent => exact unsent
  | lost n found unsent => exact unsent
  | told n outcome m found unsent => exact unsent

/-- What one operation does to a request brings it further on its course. -/
theorem step {outcome : Option (Outcome α)} {answer : Option (Option (Outcome α))}
    (course : Course request s settled answered) (effect : Effect request s after outcome answer) :
    Course request after (settled ++ outcome.toList) (answered ++ answer.toList) := by
  cases effect with
  | untouched channel senders =>
    -- What does not touch the request leaves it where it is on its course.
    simp only [Option.toList_none, List.append_nil]
    cases course with
    | unmade absent unsent => exact .unmade (channel.trans absent) (senders.trans unsent)
    | outstanding n found owned => exact .outstanding n (channel.trans found) (senders.trans owned)
    | settled n outcome found unsent =>
      exact .settled n outcome (channel.trans found) (senders.trans unsent)
    | lost n found unsent => exact .lost n (channel.trans found) (senders.trans unsent)
    | told n outcome m found unsent =>
      exact .told n outcome m (channel.trans found) (senders.trans unsent)
  | armed new channel senders =>
    -- Only a request that was not made yet can become the one in the slot.
    cases course with
    | unmade absent unsent => exact .outstanding 0 channel senders
    | outstanding n found owned => simp [new] at found
    | settled n outcome found unsent => simp [new] at found
    | lost n found unsent => simp [new] at found
    | told n outcome m found unsent => simp [new] at found
  | readied outcome new channel senders =>
    cases course with
    | unmade absent unsent => exact .settled 0 outcome channel (senders.trans unsent)
    | outstanding n found owned => simp [new] at found
    | settled n outcome found unsent => simp [new] at found
    | lost n found unsent => simp [new] at found
    | told n outcome m found unsent => simp [new] at found
  | ended ends owned channel senders =>
    -- Only a request that is outstanding has a sender.
    cases course with
    | outstanding n found _ =>
      rw [Option.toList_none, List.append_nil]
      rw [found, Option.map_some] at channel
      rcases ends with sent | ⟨dropped, rfl⟩
      · exact .settled n _ (sent ▸ channel) senders
      · exact .lost n (dropped ▸ channel) senders
    | unmade absent unsent => omega
    | settled n outcome found unsent => omega
    | lost n found unsent => omega
    | told n outcome m found unsent => omega
  | @asked c present channel senders =>
    -- Asking gives an outcome away, or tells that there is none yet or none any more.
    rw [Option.toList_none, List.append_nil, Option.toList_some]
    cases course with
    | unmade absent unsent => simp [absent] at present
    | outstanding n found owned =>
      have same : ⟨none, true⟩ = c := Option.some.inj (found.symm.trans present)
      subst same
      have longer := Course.outstanding (n + 1) channel (senders.trans owned)
      rw [List.replicate_succ'] at longer
      exact longer
    | settled n outcome found unsent =>
      -- The outcome is handed out, and nothing is left to be told.
      have same : ⟨some outcome, false⟩ = c := Option.some.inj (found.symm.trans present)
      subst same
      exact .told n outcome 0 channel (senders.trans unsent)
    | lost n found unsent =>
      have same : ⟨none, false⟩ = c := Option.some.inj (found.symm.trans present)
      subst same
      exact .told n (.error abandoned) 0 channel (senders.trans unsent)
    | told n outcome m found unsent =>
      have same : ⟨none, false⟩ = c := Option.some.inj (found.symm.trans present)
      subst same
      have longer := Course.told n outcome (m + 1) channel (senders.trans unsent)
      rw [List.replicate_succ', ← List.cons_append, ← List.append_assoc] at longer
      exact longer

/-- A request that was made can still be settled in one place, or was settled once. -/
theorem places (course : Course request s settled answered) (inside : request < s.channels.length) :
    s.senders request + settled.length = 1 := by
  -- An outstanding request has its sender, and any other that was made has its outcome.
  cases course with
  | unmade absent unsent =>
    have outside := List.getElem?_eq_none_iff.mp absent
    omega
  | outstanding n found owned => rw [owned, List.length_nil]
  | settled n outcome found unsent => rw [unsent, List.length_singleton]
  | lost n found unsent => rw [unsent, List.length_singleton]
  | told n outcome m found unsent => rw [unsent, List.length_singleton]

/-- The owner of a request is told nothing, then its outcome, then that there is nothing more. -/
theorem answers_eq (course : Course request s settled answered) :
    ∃ n, answered = .replicate n none ∨
      ∃ outcome m, settled = [outcome] ∧
        answered = .replicate n none ++ some outcome :: .replicate m (some (.error abandoned)) := by
  -- Each course says what was answered so far.
  cases course with
  | unmade absent unsent => exact ⟨0, Or.inl rfl⟩
  | outstanding n found owned => exact ⟨n, Or.inl rfl⟩
  | settled n outcome found unsent => exact ⟨n, Or.inl rfl⟩
  | lost n found unsent => exact ⟨n, Or.inl rfl⟩
  | told n outcome m found unsent => exact ⟨n, Or.inr ⟨outcome, m, rfl, rfl⟩⟩

/-- A request that is in the slot, or was given an outcome, was made. -/
theorem lt_length (course : Course request s settled answered)
    (known : s.isWaiting request = true ∨ settled ≠ []) : request < s.channels.length := by
  cases course with
  | unmade absent unsent =>
    -- Before it is made, a request has neither.
    rcases known with waits | given
    · rw [senders, if_pos waits] at unsent
      omega
    · exact absurd rfl given
  | outstanding n found owned => exact (List.getElem?_eq_some_iff.mp found).1
  | settled n outcome found unsent => exact (List.getElem?_eq_some_iff.mp found).1
  | lost n found unsent => exact (List.getElem?_eq_some_iff.mp found).1
  | told n outcome m found unsent => exact (List.getElem?_eq_some_iff.mp found).1

/-- Asking has no answer exactly while a request is in the slot or in a resolver. -/
theorem poll_eq_none_iff (course : Course request s settled answered) :
    (s.poll request).1 = none ↔ s.isWaiting request = true ∨ request ∈ s.taken := by
  -- A sender is in the slot or in a resolver.
  have owned : s.senders request = 0 ↔ ¬ (s.isWaiting request = true ∨ request ∈ s.taken) := by
    unfold senders
    rw [Nat.add_eq_zero_iff, List.count_eq_zero, not_or]
    cases s.isWaiting request <;> simp
  cases course with
  | unmade absent unsent => simp [poll, absent, owned.mp unsent]
  | outstanding n found one =>
    -- Its one sender must be somewhere.
    have somewhere : s.isWaiting request = true ∨ request ∈ s.taken :=
      Decidable.not_not.mp fun nowhere => by have := owned.mpr nowhere; omega
    simp [poll, found, Channel.receive, somewhere]
  | settled n outcome found unsent => simp [poll, found, Channel.receive, owned.mp unsent]
  | lost n found unsent => simp [poll, found, Channel.receive, owned.mp unsent]
  | told n outcome m found unsent => simp [poll, found, Channel.receive, owned.mp unsent]

/-- A request in the slot was given no outcome, and its owner was told none. -/
theorem of_isWaiting (course : Course request s settled answered)
    (waits : s.isWaiting request = true) : settled = [] ∧ ∃ n, answered = .replicate n none := by
  -- It has a sender, and so is outstanding.
  have owned : s.senders request ≠ 0 := by
    rw [senders, if_pos waits]
    omega
  cases course with
  | unmade absent unsent => exact absurd unsent owned
  | outstanding n found one => exact ⟨rfl, n, rfl⟩
  | settled n outcome found unsent => exact absurd unsent owned
  | lost n found unsent => exact absurd unsent owned
  | told n outcome m found unsent => exact absurd unsent owned

/-- A request that was given an outcome is not in the slot. -/
theorem isWaiting_of_settled {outcome : Outcome α} (course : Course request s [outcome] answered) :
    s.isWaiting request = false := by
  -- A request in the slot was given none.
  cases waits : s.isWaiting request with
  | false => rfl
  | true => exact absurd (course.of_isWaiting waits).1 (by simp)

/-- The owner of a request in the slot is told nothing, however often they ask. -/
theorem told_of_isWaiting (course : Course request s settled answered)
    (waits : s.isWaiting request = true) :
    ∃ n, answered ++ [(s.poll request).1] = .replicate n none := by
  -- One more answer is none like the others.
  obtain ⟨-, n, rfl⟩ := course.of_isWaiting waits
  rw [course.poll_eq_none_iff.mpr (Or.inl waits)]
  exact ⟨n + 1, List.replicate_succ'.symm⟩

/-- The owner of a request that was given an outcome is told it by the next answer, if they were not
told before, and then that there is nothing more. -/
theorem told_of_settled {outcome : Outcome α} (course : Course request s [outcome] answered) :
    ∃ n m, answered ++ [(s.poll request).1] =
      .replicate n none ++ some outcome :: .replicate m (some (.error abandoned)) := by
  -- The outcome is in the channel, or it was told already.
  cases course with
  | settled n outcome found unsent => exact ⟨n, 0, by simp [poll, found, Channel.receive]⟩
  | lost n found unsent => exact ⟨n, 0, by simp [poll, found, Channel.receive]⟩
  | told n outcome m found unsent =>
    refine ⟨n, m + 1, ?_⟩
    rw [List.replicate_succ']
    simp [poll, found, Channel.receive]

/-- An outcome that the owner was not told yet is what they are told next. -/
theorem poll_of_untold {outcome : Outcome α} {n : Nat}
    (course : Course request s [outcome] (.replicate n none)) :
    (s.poll request).1 = some outcome := by
  obtain ⟨k, m, told⟩ := course.told_of_settled
  -- The answers so far are none, so that the outcome can only be the last one.
  have member := congrArg (some outcome ∈ ·) told
  simpa [eq_comm] using member

/-- A request with a number that was not given away yet is not made. -/
theorem of_length (course : Course s.channels.length s settled answered) :
    Course s.channels.length s [] [] :=
  -- It has no channel, and so no sender.
  have absent : s.channels[s.channels.length]? = none := List.getElem?_eq_none (Nat.le_refl _)
  .unmade absent (course.made absent)

/-- A request that is put into the slot was given no outcome. -/
theorem arm (course : Course s.channels.length s settled answered) (key : κ) :
    Course s.channels.length (s.arm key).2 [] [] := by
  -- Whatever is in the slot is another request, which is superseded.
  have elsewhere : s.isWaiting s.channels.length = false := by
    cases waits : s.isWaiting s.channels.length with
    | false => rfl
    | true => exact absurd (course.lt_length (Or.inl waits)) (Nat.lt_irrefl _)
  have armed := course.of_length.step (arm_effect course.once course.made key)
  simpa [settles?, elsewhere] using armed

/-- A request that is settled from the start was given that outcome. -/
theorem ready (course : Course s.channels.length s settled answered) (outcome : Outcome α) :
    Course s.channels.length (s.ready outcome).2 [outcome] [] := by
  -- The number was not given away yet, and the outcome is in the channel from the start.
  have readied := course.of_length.step (ready_effect outcome)
  simpa [settles?] using readied

end Course

section Runs

variable [DecidableEq κ] {s : Requests κ α} {request : Nat}

/-- Taking the request out of the slot under a key takes it, or does nothing. -/
theorem takeFor_eq (s : Requests κ α) (key : κ) :
    s.takeFor key = s.take ∧ (∃ number, s.waiting = some (key, number)) ∨
      s.takeFor key = (none, s) ∧ ∀ number, s.waiting ≠ some (key, number) := by
  -- The slot is empty, holds a request under the key, or holds one under another key.
  unfold takeFor
  split
  · rename_i empty
    exact Or.inr ⟨rfl, by simp [empty]⟩
  · rename_i armed number slot
    split
    · rename_i same
      exact Or.inl ⟨rfl, number, by rw [slot, same]⟩
    · rename_i different
      exact Or.inr ⟨rfl, by simp [slot, different]⟩

/-- Nothing is taken out of the slot under a key that is not pending. -/
theorem takeFor_of_other {key : κ} (other : s.pendingKey ≠ some key) :
    s.takeFor key = (none, s) := by
  -- Of the two possibilities, the other one is that the key is pending.
  rcases s.takeFor_eq key with ⟨-, waits⟩ | ⟨left, -⟩
  · exact absurd (pendingKey_eq_some_iff.mpr waits) other
  · exact left

/-- A request is settled under the key that it is pending under like any other in the slot. -/
theorem resolveFor_of_pending {key : κ} (pending : s.pendingKey = some key)
    (outcome : Outcome α) : s.resolveFor key outcome = s.resolve outcome := by
  -- The request that is taken out is the same.
  obtain ⟨number, waits⟩ := pendingKey_eq_some_iff.mp pending
  have taken := (s.takeFor_eq key).resolve_right fun left => left.2 number waits
  unfold resolveFor resolve
  rw [taken.1]

/-- Nothing is settled under a key that is not pending. -/
theorem resolveFor_of_other {key : κ} (other : s.pendingKey ≠ some key) (outcome : Outcome α) :
    s.resolveFor key outcome = (false, s) := by
  -- There is no request to settle.
  unfold resolveFor
  rw [takeFor_of_other other]

/-- What is sent to the slot under a key leaves a request alone that is not there. -/
theorem resolveFor_elsewhere (elsewhere : s.isWaiting request = false) (key : κ)
    (outcome : Outcome α) :
    (s.resolveFor key outcome).2.channels[request]? = s.channels[request]? ∧
      (s.resolveFor key outcome).2.senders request = s.senders request := by
  by_cases pending : s.pendingKey = some key
  · -- The request that is there goes through a resolver of its own.
    obtain ⟨number, waits⟩ := pendingKey_eq_some_iff.mp pending
    have other : request ≠ number := by
      rintro rfl
      simp [isWaiting_of_some waits] at elsewhere
    have settled : (s.resolve outcome).2 = s.take.2.finish number outcome := by
      unfold resolve
      rw [take_of_some waits]
    have frame := (resolver_frame s.take.2 number outcome _ List.mem_cons_self).2 request other
    rw [resolveFor_of_pending pending, settled]
    refine ⟨frame.1.trans ?_, frame.2.trans senders_take⟩
    rw [take_of_some waits]
  · rw [resolveFor_of_other pending]
    exact ⟨rfl, rfl⟩

/-- Nothing is in the slot after an outcome was sent under the key that was used. -/
theorem waiting_resolveFor_of_key {key : κ} (used : ∀ entry, s.waiting = some entry → entry.1 = key)
    (outcome : Outcome α) : (s.resolveFor key outcome).2.waiting = none := by
  -- What is in the slot is under the key, so that it is taken out.
  cases waits : s.waiting with
  | none =>
    have other : s.pendingKey ≠ some key := by simp [pendingKey, waits]
    rw [resolveFor_of_other other]
    exact waits
  | some entry =>
    have pending : s.pendingKey = some key := by simp [pendingKey, waits, used entry waits]
    rw [resolveFor_of_pending pending]
    exact s.waiting_resolve outcome

/-- What is sent to the slot under a key settles the request in it if that is its key, and no
other. -/
theorem resolveFor_effect (once : s.senders request ≤ 1) (key : κ) (outcome : Outcome α) :
    Effect request s (s.resolveFor key outcome).2
      (if s.waiting = some (key, request) then some outcome else none) none := by
  by_cases pending : s.pendingKey = some key
  · -- The key is that of the request in the slot, whichever that is.
    have effect := resolve_effect once outcome
    have same : s.isWaiting request = true ↔ s.waiting = some (key, request) := by
      obtain ⟨number, waits⟩ := pendingKey_eq_some_iff.mp pending
      simp [isWaiting_of_some waits, waits]
    rw [resolveFor_of_pending pending]
    simpa only [settles?, same] using effect
  · have absent : s.waiting ≠ some (key, request) := fun waits =>
      pending (pendingKey_eq_some_iff.mpr ⟨request, waits⟩)
    rw [resolveFor_of_other pending, if_neg absent]
    exact .untouched rfl rfl

/-- No resolver is left when a request was settled under a key. -/
theorem taken_resolveFor (untaken : s.taken = []) (key : κ) (outcome : Outcome α) :
    (s.resolveFor key outcome).2.taken = [] := by
  -- A resolver is made only for the request that is settled.
  by_cases pending : s.pendingKey = some key
  · rw [resolveFor_of_pending pending]
    exact taken_resolve untaken outcome
  · rw [resolveFor_of_other pending]
    exact untaken

/-- What is in the slot after a request was settled under a key was there before. -/
theorem waiting_of_resolveFor {key : κ} {outcome : Outcome α} {entry : κ × Nat}
    (waits : (s.resolveFor key outcome).2.waiting = some entry) : s.waiting = some entry := by
  -- Settling empties the slot or leaves it as it is.
  by_cases pending : s.pendingKey = some key
  · rw [resolveFor_of_pending pending, waiting_resolve] at waits
    simp at waits
  · rwa [resolveFor_of_other pending] at waits

/-- Every operation has one of the effects on each request. -/
theorem perform_effect (once : s.senders request ≤ 1)
    (made : s.channels[request]? = none → s.senders request = 0) (operation : Operation κ α) :
    Effect request s (s.perform operation) (s.settles? request operation)
      (s.answer? request operation) := by
  -- One operation after the other, each by what it was shown to do.
  cases operation with
  | arm key => exact arm_effect once made key
  | ready outcome => exact ready_effect outcome
  | take => exact take_effect
  | takeFor key =>
    show Effect request s (s.takeFor key).2 none none
    rcases s.takeFor_eq key with ⟨taken, -⟩ | ⟨left, -⟩
    · rw [taken]
      exact take_effect
    · rw [left]
      exact .untouched rfl rfl
  | resolve outcome => exact resolve_effect once outcome
  | finish number outcome => exact finish_effect once number outcome
  | forget number => exact forget_effect once number
  | close => exact close_effect once
  | poll asked => exact poll_effect asked

/-- A run brings each request further on its course. -/
theorem Course.run {settled : List (Outcome α)} {answered : List (Option (Outcome α))}
    (course : Course request s settled answered) (operations : List (Operation κ α)) :
    Course request (s.afterAll operations) (settled ++ trace (·.settles? request) s operations)
      (answered ++ trace (·.answer? request) s operations) := by
  -- By induction on the operations, each of which is a step on the course.
  induction operations generalizing s settled answered with
  | nil => simpa [trace, afterAll] using course
  | cons operation rest ih =>
    have next := course.step (perform_effect course.once course.made operation)
    have last := ih next
    rw [List.append_assoc, List.append_assoc] at last
    exact last

/-- Every request is on its course after every run. -/
theorem course (operations : List (Operation κ α)) (request : Nat) :
    Course request (afterAll { } operations) (settlements operations request)
      (answers operations request) :=
  Course.run (.unmade rfl rfl) operations

/-- Whoever waits is told what asking tells, at once when there is an outcome, and nothing only when
the deadline has passed. -/
theorem waitFor_spec (s : Requests κ α) (request : Nat) (meanwhile : List (Operation κ α)) :
    ((s.poll request).1 ≠ none → s.waitFor request meanwhile = s.poll request) ∧
    ∃ passed left, meanwhile = passed ++ left ∧
      s.waitFor request meanwhile = (s.afterAll passed).poll request ∧
      ((s.waitFor request meanwhile).1 = none → left = []) := by
  -- By induction on what is done meanwhile, until there is something to be told.
  induction meanwhile generalizing s with
  | nil => exact ⟨fun _ => rfl, [], [], rfl, rfl, fun _ => rfl⟩
  | cons operation rest ih =>
    unfold waitFor
    split
    · rename_i unchanged found
      -- Nothing was there to be told, so what is told comes from after the operation.
      obtain ⟨-, passed, left, split, told, late⟩ := ih (s.perform operation)
      refine ⟨fun answered => absurd (by rw [found]) answered, operation :: passed, left, ?_, told,
        late⟩
      rw [split]
      rfl
    · rename_i found
      refine ⟨fun _ => rfl, [], operation :: rest, rfl, rfl, fun nothing => ?_⟩
      have same : s.poll request = (none, (s.poll request).2) := Prod.ext nothing rfl
      exact (found _ same).elim

/-- After every run, a request is in the slot, in one resolver or settled, and was settled once at
most. Asking for its outcome has no answer exactly while it is outstanding; then the outcome that
settled it is told once, and from then on that nothing more is to be expected. A resolver leaves the
slot and the other requests alone; resolving and taking by key tell whether they took a request out
of the slot, and change nothing otherwise. Whoever waits is told what asking tells. -/
theorem afterAll_settlement (operations : List (Operation κ α)) (request : Nat) :
    let s := afterAll { } operations
    (request < s.channels.length →
      s.senders request + (settlements operations request).length = 1) ∧
    ((s.poll request).1 = none ↔ s.isWaiting request = true ∨ request ∈ s.taken) ∧
    (∃ n, answers operations request = .replicate n none ∨
      ∃ outcome m, settlements operations request = [outcome] ∧
        answers operations request =
          .replicate n none ++ some outcome :: .replicate m (some (.error abandoned))) ∧
    (request ∈ s.taken → s.isWaiting request = false ∧
      ∀ outcome, ∀ after ∈ [s.finish request outcome, s.forget request],
        after.waiting = s.waiting ∧ ∀ other, other ≠ request →
          after.channels[other]? = s.channels[other]? ∧ after.senders other = s.senders other) ∧
    (∀ outcome, s.waiting = none ∧ s.resolve outcome = (false, s) ∨
      s.waiting ≠ none ∧ (s.resolve outcome).1 = true ∧ (s.resolve outcome).2.waiting = none) ∧
    (∀ key, (∃ number, s.waiting = some (key, number) ∧
        s.takeFor key = (some number, { s with waiting := none, taken := number :: s.taken })) ∨
      (∀ number, s.waiting ≠ some (key, number)) ∧ s.takeFor key = (none, s)) ∧
    ∀ meanwhile, ((s.poll request).1 ≠ none → s.waitFor request meanwhile = s.poll request) ∧
      ∃ passed left, meanwhile = passed ++ left ∧
        s.waitFor request meanwhile = (s.afterAll passed).poll request ∧
        ((s.waitFor request meanwhile).1 = none → left = []) := by
  -- All that is said of one request follows from its course. The rest is about the slot.
  intro s
  have course : Course request s (settlements operations request) (answers operations request) :=
    course operations request
  refine ⟨course.places, course.poll_eq_none_iff, course.answers_eq, ?_, s.resolve_spec, ?_,
    s.waitFor_spec request⟩
  · intro taken
    exact ⟨(senders_of_taken course.once taken).2, s.resolver_frame request⟩
  · intro key
    rcases s.takeFor_eq key with ⟨took, number, slot⟩ | ⟨left, other⟩
    · exact Or.inl ⟨number, slot, took.trans (take_of_some slot)⟩
    · exact Or.inr ⟨other, left⟩

/-- Two requests under different keys. The first one was taken out of the slot before the second one
was made. -/
def twoRequests : List (Operation String Nat) :=
  [.arm "first", .poll 0, .take, .arm "second"]

/-- The resolver of the first request leaves the second one in the slot. The first one is answered
by what was sent to it, once. -/
theorem twoRequests_settlement :
    let s := afterAll { } twoRequests
    0 ∈ s.taken ∧ s.waiting = some ("second", 1) ∧
    (s.finish 0 (.ok 7)).waiting = s.waiting ∧
    answers (twoRequests ++ [.finish 0 (.ok 7), .poll 0, .poll 0]) 0 =
      [none, some (.ok 7), some (.error abandoned)] := by
  -- That the resolver is there is computed, and what it leaves alone is known from the theorem.
  intro s
  have taken : 0 ∈ s.taken := by decide
  have settlement := afterAll_settlement twoRequests 0
  have frame := (settlement.2.2.2.1 taken).2 (.ok 7) _ (List.mem_cons_self ..)
  exact ⟨taken, rfl, frame.1, rfl⟩

end Runs

end TunerControl.Requests
