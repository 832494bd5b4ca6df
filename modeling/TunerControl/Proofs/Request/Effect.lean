import TunerControl.Request.Operation

/-! What each operation does to one request: only its single sender settles it. -/

namespace TunerControl.Requests

variable {κ α : Type}

/-- A change to a channel that is its end: an outcome is sent and nothing can follow, or nothing can
be sent any more. -/
def Ends (change : Channel α → Channel α) (outcome : Outcome α) : Prop :=
  change ⟨none, true⟩ = ⟨some outcome, false⟩ ∨
    change ⟨none, true⟩ = ⟨none, false⟩ ∧ outcome = .error abandoned

/-- Sending an outcome and dropping the sender ends a request with that outcome. -/
theorem ends_send (outcome : Outcome α) :
    Ends (fun c => (c.send outcome).disconnect) outcome :=
  Or.inl rfl

/-- Dropping the sender ends a request as abandoned. -/
theorem ends_disconnect : Ends (Channel.disconnect : Channel α → Channel α) (.error abandoned) :=
  Or.inr ⟨rfl, rfl⟩

/-- What one operation does to one request, with the outcome that it gives to the request and what
it tells the owner. -/
inductive Effect (request : Nat) (s after : Requests κ α) :
    Option (Outcome α) → Option (Option (Outcome α)) → Prop where
  | untouched (channel : after.channels[request]? = s.channels[request]?)
      (senders : after.senders request = s.senders request) : Effect request s after none none
  | armed (new : s.channels[request]? = none)
      (channel : after.channels[request]? = some ⟨none, true⟩)
      (senders : after.senders request = 1) : Effect request s after none none
  | readied (outcome : Outcome α) (new : s.channels[request]? = none)
      (channel : after.channels[request]? = some ⟨some outcome, false⟩)
      (senders : after.senders request = s.senders request) :
      Effect request s after (some outcome) none
  | ended {outcome : Outcome α} {change : Channel α → Channel α} (ends : Ends change outcome)
      (owned : s.senders request = 1)
      (channel : after.channels[request]? = s.channels[request]?.map change)
      (senders : after.senders request = 0) : Effect request s after (some outcome) none
  | asked {c : Channel α} (found : s.channels[request]? = some c)
      (channel : after.channels[request]? = some c.receive.2)
      (senders : after.senders request = s.senders request) :
      Effect request s after none (some c.receive.1)

/-- What happens to a request after something that leaves it alone happens to it all in all. -/
theorem Effect.after_untouched {request : Nat} {s middle after : Requests κ α}
    {outcome : Option (Outcome α)} {answer : Option (Option (Outcome α))}
    (channel : middle.channels[request]? = s.channels[request]?)
    (senders : middle.senders request = s.senders request)
    (effect : Effect request middle after outcome answer) :
    Effect request s after outcome answer := by
  -- Whatever is known of the channel and the senders in the middle holds of them before as well.
  cases effect with
  | untouched after same => exact .untouched (after.trans channel) (same.trans senders)
  | armed new after one => exact .armed (channel ▸ new) after one
  | readied outcome new after same =>
    exact .readied outcome (channel ▸ new) after (same.trans senders)
  | ended ends owned after none_ => exact .ended ends (senders ▸ owned) (channel ▸ after) none_
  | asked found after same => exact .asked (channel ▸ found) after (same.trans senders)

/-- What happened to a request stays the same when it is left alone afterwards. -/
theorem Effect.then_untouched {request : Nat} {s middle after : Requests κ α}
    {outcome : Option (Outcome α)} {answer : Option (Option (Outcome α))}
    (effect : Effect request s middle outcome answer)
    (channel : after.channels[request]? = middle.channels[request]?)
    (senders : after.senders request = middle.senders request) :
    Effect request s after outcome answer := by
  -- Whatever comes of the channel and the senders in the middle is there afterwards as well.
  cases effect with
  | untouched same sent => exact .untouched (channel.trans same) (senders.trans sent)
  | armed new found one => exact .armed new (channel.trans found) (senders.trans one)
  | readied outcome new found same =>
    exact .readied outcome new (channel.trans found) (senders.trans same)
  | ended ends owned found none_ => exact .ended ends owned (channel.trans found) (senders.trans none_)
  | asked present found same => exact .asked present (channel.trans found) (senders.trans same)

section Effects

variable {s : Requests κ α} {request : Nat}

/-- A request is waiting exactly if it is in the slot, under some key. -/
theorem isWaiting_iff : s.isWaiting request = true ↔ ∃ key, s.waiting = some (key, request) := by
  -- The slot is empty, or there is a key beside the number in it.
  unfold isWaiting
  cases s.waiting with
  | none => simp
  | some entry =>
    obtain ⟨key, number⟩ := entry
    simp

/-- A key is pending when a request is in the slot under it. -/
theorem pendingKey_eq_some_iff {key : κ} :
    s.pendingKey = some key ↔ ∃ number, s.waiting = some (key, number) := by
  -- The slot is empty, or there is a number beside the key in it.
  unfold pendingKey
  cases s.waiting with
  | none => simp
  | some entry =>
    obtain ⟨armed, number⟩ := entry
    simp

/-- A request in the slot has its only sender there. -/
theorem senders_of_isWaiting (once : s.senders request ≤ 1) (waiting : s.isWaiting request = true) :
    s.senders request = 1 ∧ request ∉ s.taken := by
  -- The slot holds one sender, so that no resolver has another.
  rw [senders, if_pos waiting] at once ⊢
  have uncounted : s.taken.count request = 0 := by omega
  exact ⟨by omega, List.count_eq_zero.mp uncounted⟩

/-- A request in a resolver has its only sender there. -/
theorem senders_of_taken (once : s.senders request ≤ 1) (taken : request ∈ s.taken) :
    s.senders request = 1 ∧ s.isWaiting request = false := by
  -- The resolver holds one sender, so that the slot has no other.
  have counted := List.count_pos_iff.mpr taken
  unfold senders at once ⊢
  cases waiting : s.isWaiting request with
  | true =>
    rw [waiting, if_pos rfl] at once
    omega
  | false =>
    rw [waiting, if_neg (by simp)] at once
    refine ⟨?_, rfl⟩
    rw [if_neg (by simp)]
    omega

/-- A change to one channel is none to the others. -/
theorem getElem?_modify_channel (channels : List (Channel α)) (request number : Nat)
    (change : Channel α → Channel α) :
    (channels.modify number change)[request]? =
      if number = request then channels[request]?.map change else channels[request]? := by
  -- The channel that is changed is this one, or another.
  rw [List.getElem?_modify]
  split <;> simp

/-- Nothing is taken out of an empty slot. -/
theorem take_of_none (slot : s.waiting = none) : s.take = (none, s) := by
  unfold take
  rw [slot]

/-- What is in the slot is taken out of it into a resolver. -/
theorem take_of_some {key : κ} {number : Nat} (slot : s.waiting = some (key, number)) :
    s.take = (some number, { s with waiting := none, taken := number :: s.taken }) := by
  unfold take
  rw [slot]

/-- Only the request in the slot is waiting. -/
theorem isWaiting_of_some {key : κ} {number : Nat} (slot : s.waiting = some (key, number)) :
    s.isWaiting request = decide (number = request) := by
  rw [isWaiting, slot]
  rfl

/-- Taking the request out of the slot moves its sender into a resolver. -/
theorem senders_take : s.take.2.senders request = s.senders request := by
  -- If it is this request, one sender less is in the slot and one more is in a resolver.
  cases slot : s.waiting with
  | none => rw [take_of_none slot]
  | some entry =>
    obtain ⟨key, number⟩ := entry
    rw [take_of_some slot, senders, senders, isWaiting_of_some slot, List.count_cons]
    by_cases same : number = request
    · simp [isWaiting, same, Nat.add_comm]
    · simp [isWaiting, same]

/-- Taking the request out of the slot settles nothing. -/
theorem take_effect : Effect request s s.take.2 none none := by
  -- The sender is moved, and no channel is touched.
  refine .untouched ?_ senders_take
  cases slot : s.waiting with
  | none => rw [take_of_none slot]
  | some entry => rw [take_of_some slot]

/-- A resolver that is used up is no sender any more, and others stay what they were. -/
theorem senders_useUp (s : Requests κ α) (request number : Nat) :
    (s.useUp number).senders request =
      if number = request then (if s.isWaiting request then 1 else 0) else s.senders request := by
  -- The resolvers that are left are those of other requests.
  show (if s.isWaiting request then 1 else 0) + (s.taken.filter (· ≠ number)).count request = _
  by_cases same : number = request
  · have used : (s.taken.filter (· ≠ number)).count request = 0 := by
      rw [List.count_eq_zero]
      simp [same]
    rw [used, if_pos same, Nat.add_zero]
  · -- Filtering out another number does not change how often this one is there.
    rw [if_neg same, List.count_filter (by simpa using Ne.symm same)]
    rfl

/-- Whatever ends a request through its resolver ends no other. -/
theorem resolver_effect (once : s.senders request ≤ 1) (number : Nat)
    {change : Channel α → Channel α} {outcome : Outcome α} (ends : Ends change outcome) :
    Effect request s
      (if number ∈ s.taken then
        ({ s with channels := s.channels.modify number change } : Requests κ α).useUp number
      else s)
      (if number = request ∧ number ∈ s.taken then some outcome else none) none := by
  by_cases taken : number ∈ s.taken
  · rw [if_pos taken]
    have channel := getElem?_modify_channel s.channels request number change
    by_cases same : number = request
    · -- The resolver was the only sender, so none is left.
      subst same
      obtain ⟨one, elsewhere⟩ := senders_of_taken once taken
      rw [if_pos ⟨rfl, taken⟩]
      refine .ended ends one (channel.trans (if_pos rfl)) ?_
      rw [senders_useUp, if_pos rfl]
      exact if_neg (Bool.eq_false_iff.mp elsewhere)
    · rw [if_neg fun both => same both.1]
      refine .untouched (channel.trans (if_neg same)) ?_
      exact (senders_useUp _ request number).trans (if_neg same)
  · rw [if_neg taken, if_neg fun both => taken both.2]
    exact .untouched rfl rfl

/-- What is sent from a resolver settles its request, and no other. -/
theorem finish_effect (once : s.senders request ≤ 1) (number : Nat) (outcome : Outcome α) :
    Effect request s (s.finish number outcome) (s.settles? request (.finish number outcome)) none :=
  -- Sending is one of the two ways in which a resolver comes to its end.
  resolver_effect once number (ends_send outcome)

/-- A resolver that is dropped gives up its request, and no other. -/
theorem forget_effect (once : s.senders request ≤ 1) (number : Nat) :
    Effect request s (s.forget number) (s.settles? request (.forget number)) none :=
  -- Dropping a resolver is the other way in which it comes to its end.
  resolver_effect once number ends_disconnect

/-- What is sent to the slot settles the request in it, and no other. -/
theorem resolve_effect (once : s.senders request ≤ 1) (outcome : Outcome α) :
    Effect request s (s.resolve outcome).2 (s.settles? request (.resolve outcome)) none := by
  unfold resolve
  cases slot : s.waiting with
  | none =>
    -- Nobody hears what is sent to an empty slot.
    have absent : s.isWaiting request = false := by rw [isWaiting, slot]; rfl
    simp only [take_of_none slot, settles?, absent]
    exact .untouched rfl rfl
  | some entry =>
    obtain ⟨key, number⟩ := entry
    have out := take_of_some slot
    -- The request goes through a resolver, which is used up at once.
    have used : Effect request s.take.2 (s.take.2.finish number outcome) _ none :=
      finish_effect (by rw [senders_take]; exact once) number outcome
    have same : s.take.2.settles? request (.finish number outcome) =
        s.settles? request (.resolve outcome) := by
      simp [settles?, out, isWaiting_of_some slot]
    rw [same] at used
    have channel : s.take.2.channels[request]? = s.channels[request]? := by rw [out]
    have effect := used.after_untouched channel senders_take
    rw [out] at effect ⊢
    exact effect

/-- A slot that is dropped gives up the request in it, and no other. -/
theorem close_effect (once : s.senders request ≤ 1) :
    Effect request s s.close (s.settles? request .close) none := by
  -- Only the sender in the slot is dropped with it.
  unfold close
  cases slot : s.waiting with
  | none =>
    have absent : s.isWaiting request = false := by rw [isWaiting, slot]; rfl
    simp only [settles?, absent]
    exact .untouched rfl rfl
  | some entry =>
    obtain ⟨key, number⟩ := entry
    have channel := getElem?_modify_channel s.channels request number Channel.disconnect
    simp only [settles?, isWaiting_of_some slot]
    by_cases same : number = request
    · rw [if_pos same] at channel
      obtain ⟨one, elsewhere⟩ := senders_of_isWaiting once (by simp [isWaiting_of_some slot, same])
      simp only [same, decide_true, if_true]
      refine .ended ends_disconnect one (same ▸ channel) ?_
      simpa [senders, isWaiting, giveUp, List.count_eq_zero] using elsewhere
    · rw [if_neg same] at channel
      simp only [same, decide_false]
      refine .untouched channel ?_
      simp [senders, isWaiting, slot, same, giveUp]

/-- A request that is added is the last one, and changes no other. -/
theorem getElem?_append_channel (channels : List (Channel α)) (c : Channel α) :
    (channels ++ [c])[request]? =
      if request = channels.length then some c else channels[request]? := by
  -- A number below the length is that of an older channel, and one above it that of none.
  by_cases last : request = channels.length
  · rw [if_pos last, last, List.getElem?_concat_length]
  · rw [if_neg last, List.getElem?_append]
    split
    · rfl
    · rename_i beyond
      have outside : [c][request - channels.length]? = none :=
        List.getElem?_eq_none (by rw [List.length_singleton]; omega)
      exact outside.trans (List.getElem?_eq_none (by omega)).symm

/-- A new request in the slot supersedes the one that is there, and changes no other. -/
theorem arm_effect (once : s.senders request ≤ 1)
    (made : s.channels[request]? = none → s.senders request = 0) (key : κ) :
    Effect request s (s.arm key).2 (s.settles? request (.arm key)) none := by
  simp only [arm, settles?]
  by_cases waiting : s.isWaiting request = true
  · -- The request in the slot is superseded, and the new one is another.
    obtain ⟨one, elsewhere⟩ := senders_of_isWaiting once waiting
    obtain ⟨slotKey, slot⟩ := isWaiting_iff.mp waiting
    have old : request ≠ s.channels.length := by
      intro new
      have none_ := made (new ▸ List.getElem?_eq_none (Nat.le_refl _))
      omega
    rw [if_pos waiting, slot]
    refine .ended (ends_send _) one ?_ ?_
    · rw [getElem?_append_channel, if_neg (by simpa [settle] using old)]
      exact (getElem?_modify_channel _ _ _ _).trans (if_pos rfl)
    · simpa [senders, isWaiting, settle, List.count_eq_zero, Ne.symm old] using elsewhere
  · -- Whatever is in the slot is another request, so this one is untouched or new.
    rw [if_neg waiting]
    have others : ∀ previous : Requests κ α, previous.channels[request]? = s.channels[request]? →
        previous.channels.length = s.channels.length → previous.taken = s.taken →
        Effect request s { previous with
          channels := previous.channels ++ [⟨none, true⟩]
          waiting := some (key, s.channels.length) } none none := by
      intro previous channel length taken
      by_cases new : request = s.channels.length
      · have absent : s.channels[request]? = none := new ▸ List.getElem?_eq_none (Nat.le_refl _)
        have unsent := made absent
        refine .armed absent ?_ ?_
        · rw [getElem?_append_channel, if_pos (new.trans length.symm)]
        · rw [senders, if_neg waiting] at unsent
          simp only [senders, isWaiting, Option.any_some, new.symm, decide_true, if_true, taken]
          omega
      · refine .untouched ?_ ?_
        · rw [getElem?_append_channel, if_neg (by rw [length]; exact new), channel]
        · rw [senders, senders, if_neg waiting, taken]
          simp [isWaiting, Ne.symm new]
    cases slot : s.waiting with
    | none => exact others s rfl rfl rfl
    | some entry =>
      obtain ⟨slotKey, previous⟩ := entry
      have different : ¬ previous = request := by
        rw [isWaiting_of_some slot] at waiting
        simpa using waiting
      refine others (s.settle previous (.error .superseded)) ?_ ?_ rfl
      · exact (getElem?_modify_channel _ _ _ _).trans (if_neg different)
      · simp [settle]

/-- A request that is settled from the start changes no other. -/
theorem ready_effect (outcome : Outcome α) :
    Effect request s (s.ready outcome).2 (s.settles? request (.ready outcome)) none := by
  -- The request is the new one, or one that is there already.
  simp only [ready, settles?]
  by_cases new : request = s.channels.length
  · have absent : s.channels[request]? = none := new ▸ List.getElem?_eq_none (Nat.le_refl _)
    rw [if_pos new]
    refine .readied outcome absent ?_ rfl
    rw [getElem?_append_channel, if_pos new]
    rfl
  · rw [if_neg new]
    refine .untouched ?_ rfl
    rw [getElem?_append_channel, if_neg new]

/-- Asking for an outcome is a matter of one request. -/
theorem poll_effect (asked : Nat) :
    Effect request s (s.poll asked).2 none (s.answer? request (.poll asked : Operation κ α)) := by
  -- Only the channel that is asked gives anything away.
  simp only [poll, answer?]
  cases found : s.channels[asked]? with
  | none =>
    have absent : ¬ (asked = request ∧ request < s.channels.length) := by
      intro both
      have beyond := List.getElem?_eq_none_iff.mp found
      omega
    rw [if_neg absent]
    exact .untouched rfl rfl
  | some c =>
    have inside := (List.getElem?_eq_some_iff.mp found).1
    by_cases same : asked = request
    · subst same
      rw [if_pos ⟨rfl, inside⟩]
      simp only [found]
      refine .asked found ?_ rfl
      exact List.getElem?_set_self inside
    · rw [if_neg fun both => same both.1]
      refine .untouched ?_ rfl
      exact List.getElem?_set_ne same

/-- A resolver of one request leaves the slot and all other requests alone. -/
theorem resolver_frame (s : Requests κ α) (request : Nat) (outcome : Outcome α) :
    ∀ after ∈ [s.finish request outcome, s.forget request], after.waiting = s.waiting ∧
      ∀ other, other ≠ request →
        after.channels[other]? = s.channels[other]? ∧ after.senders other = s.senders other := by
  -- A resolver works on the channel of its own request, and only on that, if it is still there.
  intro after member
  by_cases taken : request ∈ s.taken
  · simp only [finish, forget, if_pos taken, List.mem_cons, List.not_mem_nil, or_false] at member
    rcases member with rfl | rfl
    · refine ⟨rfl, fun other different => ⟨?_, ?_⟩⟩
      · exact (getElem?_modify_channel _ _ _ _).trans (if_neg (Ne.symm different))
      · exact (senders_useUp _ other request).trans (if_neg (Ne.symm different))
    · refine ⟨rfl, fun other different => ⟨?_, ?_⟩⟩
      · exact (getElem?_modify_channel _ _ _ _).trans (if_neg (Ne.symm different))
      · exact (senders_useUp _ other request).trans (if_neg (Ne.symm different))
  · simp only [finish, forget, if_neg taken, List.mem_cons, List.not_mem_nil, or_self, or_false]
      at member
    rw [member]
    exact ⟨rfl, fun other different => ⟨rfl, rfl⟩⟩

/-- A completed resolution took the request out of the slot, and any other changed nothing. -/
theorem resolve_spec (s : Requests κ α) (outcome : Outcome α) :
    (s.waiting = none ∧ s.resolve outcome = (false, s)) ∨
      (s.waiting ≠ none ∧ (s.resolve outcome).1 = true ∧ (s.resolve outcome).2.waiting = none) := by
  -- It depends on whether something is in the slot.
  cases slot : s.waiting with
  | none =>
    refine Or.inl ⟨rfl, ?_⟩
    unfold resolve
    rw [take_of_none slot]
  | some entry =>
    obtain ⟨key, number⟩ := entry
    refine Or.inr ⟨by simp, ?_, ?_⟩
    · unfold resolve
      rw [take_of_some slot]
    · unfold resolve
      rw [take_of_some slot]
      exact (resolver_frame _ number outcome _ (List.mem_cons_self ..)).1

/-- Nothing is in the slot after the request in it was settled. -/
theorem waiting_resolve (s : Requests κ α) (outcome : Outcome α) :
    (s.resolve outcome).2.waiting = none := by
  -- Either the slot was empty, or what was in it was taken out.
  rcases s.resolve_spec outcome with ⟨empty, left⟩ | ⟨-, -, settled⟩
  · rw [left]
    exact empty
  · exact settled

/-- No resolver is left when the request in the slot was settled. -/
theorem taken_resolve (untaken : s.taken = []) (outcome : Outcome α) :
    (s.resolve outcome).2.taken = [] := by
  -- The one resolver that is made is used up at once.
  unfold resolve
  cases slot : s.waiting with
  | none =>
    rw [take_of_none slot]
    exact untaken
  | some entry =>
    obtain ⟨key, number⟩ := entry
    rw [take_of_some slot, untaken]
    simp [finish, useUp, settle]

/-- A new request leaves the resolvers alone. -/
theorem taken_arm (s : Requests κ α) (key : κ) : (s.arm key).2.taken = s.taken := by
  -- A request that is superseded is settled in its channel.
  unfold arm
  dsimp only
  split <;> rfl

/-- Asking for an outcome leaves the resolvers alone. -/
theorem taken_poll (s : Requests κ α) (request : Nat) :
    (s.poll request).2.taken = s.taken := by
  unfold poll
  split <;> rfl

/-- Asking for an outcome leaves the slot alone. -/
theorem waiting_poll (s : Requests κ α) (request : Nat) :
    (s.poll request).2.waiting = s.waiting := by
  unfold poll
  split <;> rfl

end Effects

end TunerControl.Requests
