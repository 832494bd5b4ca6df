import TunerControl.Event.Account
import TunerControl.Proofs.Event.Handling
import TunerControl.Proofs.Event.Paths

/-! The counters of a dispatcher and what its pumps return agree with what was posted, dispatched and
handed out, through all the pumps that callbacks begin. -/

namespace TunerControl.Event

namespace Journal

/-- What was counted is the sum over the parts of a journal. -/
theorem counted_append (journal more : List Note) :
    counted (journal ++ more) = counted journal + counted more := by
  -- By induction on the first part, note by note.
  induction journal with
  | nil => exact (Nat.zero_add _).symm
  | cons note rest ih =>
    have first : ∀ notes, counted (note :: notes) = note.counted + counted notes := fun _ => rfl
    rw [List.cons_append, first, first, ih, Nat.add_assoc]

section Lengths

variable (journal : List Note)

/-- What becomes of an event is that a callback is handed its record or that nobody is. -/
theorem length_called_add_unclaimed :
    (called journal).length + (unclaimed journal).length = (journal.filter Note.isFate).length := by
  -- By induction on the journal: each note adds one to both sides or to neither.
  induction journal with
  | nil => rfl
  | cons note rest ih =>
    cases note <;>
      simp only [called, unclaimed, List.filterMap_cons, List.filter_cons, Note.called?,
        Note.unclaimed?, Note.isFate, Bool.false_eq_true, if_true, if_false,
        List.length_cons] at ih ⊢ <;>
      omega

/-- What arrives for delivery is taken out of the inbox or comes past it. -/
theorem length_taken_add_dispatched :
    (taken journal).length + (dispatched journal).length =
      (journal.filterMap Note.arrival?).length := by
  -- By induction on the journal: each note adds one to both sides or to neither.
  induction journal with
  | nil => rfl
  | cons note rest ih =>
    cases note <;>
      simp only [taken, dispatched, List.filterMap_cons, Note.taken?, Note.dispatched?,
        Note.arrival?, List.length_cons] at ih ⊢ <;>
      omega

end Lengths

/-- Each arrival is followed by one fate, and there are no others. -/
theorem Passage.length_fates {past notes : List Note} (passage : Passage past notes) :
    (notes.filter Note.isFate).length = (notes.filterMap Note.arrival?).length := by
  -- The induction is on the passage, whose arrivals come together with their fates.
  induction passage with
  | stop past => rfl
  | remark quiet plain further ih =>
    rw [List.filter_cons_of_neg (by simp [plain]), List.filterMap_cons_none quiet, ih]
  | @arrival past note event rest arrives further ih =>
    have settles := isFate_fate past event
    rw [List.filter_cons_of_neg (by simp [isFate_of_arrival arrives]),
      List.filter_cons_of_pos settles, List.filterMap_cons_some arrives,
      List.filterMap_cons_none (arrival?_of_isFate settles), List.length_cons, List.length_cons, ih]

end Journal

namespace Dispatcher

open Journal

section Counters

/-- Between two states, the counters grow by what is noted. -/
structure Counted (d after : Dispatcher) : Prop where
  delivered : after.delivered + (called d.journal).length =
    d.delivered + (called after.journal).length
  discarded : after.discarded + (unclaimed d.journal).length =
    d.discarded + (unclaimed after.journal).length

variable {d middle after : Dispatcher}

/-- Where nothing happens, nothing is counted. -/
theorem Counted.refl (d : Dispatcher) : Counted d d :=
  ⟨rfl, rfl⟩

/-- The counters grow by what is noted over both stretches. -/
theorem Counted.trans (first : Counted d middle) (second : Counted middle after) :
    Counted d after := by
  obtain ⟨delivered, discarded⟩ := first
  obtain ⟨more, others⟩ := second
  exact ⟨by omega, by omega⟩

/-- A note that tells of no fate leaves the counters where they are. -/
theorem Counted.of_note (note : Note) (plain : note.isFate = false)
    (journal : after.journal = d.journal ++ [note]) (delivered : after.delivered = d.delivered)
    (discarded : after.discarded = d.discarded) : Counted d after := by
  -- The note is neither of the two fates, so that both lists are as long as before.
  have uncalled : note.called? = none := by cases note <;> first | rfl | cases plain
  have claimed : note.unclaimed? = none := by cases note <;> first | rfl | cases plain
  refine ⟨?_, ?_⟩
  · rw [journal, delivered, called, called, List.filterMap_append,
      List.filterMap_cons_none uncalled, List.filterMap_nil, List.append_nil]
  · rw [journal, discarded, unclaimed, unclaimed, List.filterMap_append,
      List.filterMap_cons_none claimed, List.filterMap_nil, List.append_nil]

/-- The arrival of an event is not counted yet. -/
theorem Arrives.counted {event : Raw} (arrives : Arrives d event after) : Counted d after := by
  -- It is noted, and the note tells of no fate.
  cases arrives with
  | taken front => exact .of_note (.taken event) rfl rfl rfl rfl
  | dispatched => exact .of_note (.dispatched event) rfl rfl rfl rfl

/-- Whatever happens at a dispatcher is counted, a delivery to a subscriber once its callback has come
to its end. -/
theorem Course.counted (course : Course d after) : Counted d after := by
  -- The induction is on the course, which goes into the callbacks.
  induction course with
  | stay d => exact .refl d
  | trans first second before later => exact before.trans later
  | post d event => exact .of_note (.posted event) rfl rfl rfl rfl
  | subscribe d kind s => exact .of_note (.subscribed kind s.tag) rfl rfl rfl rfl
  | unsubscribe d kind => exact .of_note (.unsubscribed kind) rfl rfl rfl rfl
  | did d tag reply => exact .of_note (.did tag reply) rfl rfl rfl rfl
  | pumped d handled => exact .of_note (.pumped handled) rfl rfl rfl rfl
  | @discarded d start event arrives empty =>
    -- The one fate that is noted is the one that is counted.
    refine arrives.counted.trans ⟨?_, ?_⟩
    · simp [note, Note.called?]
    · simp only [note, unclaimed, List.filterMap_append, List.filterMap_cons, Note.unclaimed?,
        List.filterMap_nil, List.length_append, List.length_cons, List.length_nil]
      omega
  | @called d start after event s arrives installed during ih =>
    -- What the callback does is counted behind the note that it began.
    obtain ⟨delivered, discarded⟩ := ih
    simp only [enter, setSlot, note, Journal.called, unclaimed, List.filterMap_append,
      List.filterMap_cons, Note.called?, Note.unclaimed?, List.filterMap_nil, List.length_append,
      List.length_cons, List.length_nil] at delivered discarded
    refine arrives.counted.trans ⟨?_, discarded⟩
    simp only [Journal.called]
    omega

end Counters

section Replies

/-- Between two states, as many events were taken out of the inbox as callbacks were told were handled,
and some more that are still to be told of. -/
def Owes (d after : Dispatcher) (more : Nat) : Prop :=
  (taken after.journal).length + counted d.journal =
    (taken d.journal).length + counted after.journal + more

variable {d middle after : Dispatcher} {more others : Nat}

/-- Where nothing happens, nothing is owed. -/
theorem Owes.refl (d : Dispatcher) : Owes d d 0 :=
  rfl

/-- What is owed adds up. -/
theorem Owes.trans (first : Owes d middle more) (second : Owes middle after others) :
    Owes d after (more + others) := by
  unfold Owes at first second ⊢
  omega

/-- A note that takes nothing out and tells of nothing changes nothing about what is owed. -/
theorem Owes.of_note (note : Note) (journal : after.journal = d.journal ++ [note])
    (untaken : note.taken? = none) (untold : note.counted = 0) : Owes d after 0 := by
  -- Neither of the two numbers changes.
  have quiet : counted [note] = 0 := untold
  rw [Owes, journal, taken_concat, untaken, Option.toList_none, List.append_nil, counted_append,
    quiet]
  rfl

/-- An event that is taken out is owed. -/
theorem takeOut_owes (d : Dispatcher) (event : Raw) (rest : List Raw) :
    Owes d (d.takeOut event rest) 1 := by
  -- One event more is taken out, and nobody is told of it yet.
  have quiet : counted [Note.taken event] = 0 := rfl
  simp only [Owes, takeOut, note, taken_concat, counted_append, quiet, Note.taken?,
    Option.toList_some, List.length_append, List.length_cons, List.length_nil]
  omega

/-- A callback that is told what its action handled is owed no more of it. -/
theorem Owes.did (owes : Owes d after more) (tag : String) {reply : Reply}
    (told : reply.counted = more) : Owes d (after.note (.did tag reply)) 0 := by
  -- The reply tells of exactly what is owed.
  have counts : counted [Note.did tag reply] = reply.counted := rfl
  simp only [Owes, note, taken_concat, counted_append, counts, Note.taken?, Option.toList_none,
    List.append_nil] at owes ⊢
  omega

/-- Events that come into the inbox are not owed before they are taken out. -/
theorem postAll_owes (d : Dispatcher) (events : List Raw) : Owes d (d.postAll events) 0 := by
  -- By induction on the events, each of which is only noted.
  induction events generalizing d with
  | nil => exact .refl d
  | cons event rest ih =>
    have first : Owes d (d.post event) 0 := .of_note (.posted event) rfl rfl rfl
    exact first.trans (ih (d.post event))

end Replies

mutual

/-- A delivery owes nothing: whatever its callback takes out, the callback is told of. -/
theorem deliver_owes (d : Dispatcher) (record : Record) : Owes d (d.deliver record).2 0 := by
  cases installed : d.slots record.kind with
  | none =>
    rw [deliver_of_none installed]
    exact .of_note (.discarded record) rfl rfl rfl
  | some s =>
    -- The callback begins with what its reaction took out of the slot.
    have entered := weight_enter installed
    rw [deliver_of_some installed]
    have begun : Owes d (d.enter s record) 0 := .of_note (.called s.tag record) rfl rfl rfl
    exact begun.trans (perform_owes _ s.tag s.reaction)
termination_by (d.weight, 2)
decreasing_by
  simp only [Prod.lex_def]
  omega

/-- A callback is told of each of its actions how many events that handled. -/
theorem perform_owes (d : Dispatcher) (tag : String) (actions : List Action) :
    Owes d (d.perform tag actions) 0 := by
  match actions with
  | [] =>
    rw [perform_nil]
    exact .refl d
  | a :: rest =>
    -- The rest of the actions begins where the first one has come to its end.
    have spent := weight_act_lt d a
    rw [perform_cons]
    exact ((act_owes d a).did tag rfl).trans (perform_owes _ tag rest)
termination_by (weightOfActions actions + d.weight, 1)
decreasing_by
  all_goals
    simp only [weightOfActions, Prod.lex_def, weight_note]
    omega

/-- An action owes what it is told to have handled. -/
theorem act_owes (d : Dispatcher) (a : Action) : Owes d (d.act a).2 (d.act a).1.counted := by
  match a with
  | .post events =>
    rw [act_post]
    exact d.postAll_owes events
  | .dispatch event =>
    -- What comes past the inbox is not taken out of it.
    have begun : Owes d (d.note (.dispatched event)) 0 := .of_note (.dispatched event) rfl rfl rfl
    rw [act_dispatch]
    exact begun.trans (deliver_owes _ event.decode)
  | .subscribe kind tag reactions =>
    rw [act_subscribe]
    exact .of_note (.subscribed kind tag) rfl rfl rfl
  | .unsubscribe kind =>
    rw [act_unsubscribe]
    exact .of_note (.unsubscribed kind) rfl rfl rfl
  | .isSubscribed kind =>
    rw [act_isSubscribed]
    exact .refl d
  | .pump =>
    -- What is owed is what the drain says, and the note of it tells no callback.
    have reported : Owes d.drain.2 (d.drain.2.note (.pumped d.drain.1)) 0 :=
      .of_note (.pumped d.drain.1) rfl rfl rfl
    rw [act_pump, pump_eq]
    exact (drain_owes d).trans reported
  | .pumpTimeout milliseconds =>
    have reported : Owes d.drain.2 (d.drain.2.note (.pumped d.drain.1)) 0 :=
      .of_note (.pumped d.drain.1) rfl rfl rfl
    rw [act_pumpTimeout, pumpTimeout_eq_pump, pump_eq]
    exact (drain_owes d).trans reported
termination_by (a.weight + d.weight, 0)
decreasing_by
  all_goals
    simp only [Action.weight, Prod.lex_def, weight_note]
    omega

/-- A drain owes the events that it took out itself. Those that callbacks took out are settled with
them. -/
theorem drain_owes (d : Dispatcher) : Owes d d.drain.2 d.drain.1 := by
  match front : d.inbox with
  | [] =>
    rw [drain_of_nil front]
    exact .refl d
  | event :: rest =>
    -- A delivery leaves less to do than there was, whatever its callback posts.
    have less := weight_takeOut front
    have spent := weight_deliver_le (d.takeOut event rest) event.decode
    have first := (d.takeOut_owes event rest).trans (deliver_owes _ event.decode)
    have later := first.trans (drain_owes _)
    rw [drain_of_cons front]
    rwa [Nat.add_zero, Nat.add_comm] at later
termination_by (d.weight, 0)
decreasing_by
  all_goals
    simp only [Prod.lex_def]
    omega

end

/-- Those outside are owed what they are told to have handled, and nothing else. -/
theorem afterAll_owes (d : Dispatcher) (actions : List Action) :
    Owes d (d.afterAll actions) (d.countedFor actions) := by
  -- By induction on the actions, whose debts add up.
  induction actions generalizing d with
  | nil => exact .refl d
  | cons a rest ih => exact (act_owes d a).trans (ih (d.act a).2)

/-- An event that is dispatched is said to be delivered exactly if a callback began for it. -/
theorem dispatch_fate (d : Dispatcher) (event : Raw) :
    ∃ fate rest, (d.dispatch event).2.journal = d.journal ++ .dispatched event :: fate :: rest ∧
      ((d.dispatch event).1 = true ↔ ∃ tag, fate = .called tag event.decode) ∧
      ((d.dispatch event).1 = false ↔ fate = .discarded event.decode) := by
  -- Whether somebody is subscribed decides both what is returned and what is noted.
  let start := d.note (.dispatched event)
  rw [dispatch]
  cases installed : start.slots event.decode.kind with
  | none =>
    rw [deliver_of_none installed]
    exact ⟨.discarded event.decode, [], List.append_assoc .., by simp, by simp⟩
  | some s =>
    -- Whatever the callback does is noted behind its beginning.
    obtain ⟨rest, written, -⟩ :=
      (perform_course (start.enter s event.decode) s.tag s.reaction).inbox_eq
    rw [deliver_of_some installed]
    refine ⟨.called s.tag event.decode, rest, ?_, by simp, by simp⟩
    refine written.trans ?_
    simp only [start, enter, setSlot, note, List.append_assoc, List.cons_append, List.nil_append]

/-- After every run, whatever its callbacks did: each event that was posted or dispatched was delivered,
was discarded, or is still in the inbox. As many were delivered as callbacks began, and as many were
discarded as had no subscriber. All pumps together, those from outside and those inside callbacks, return
the number of the events that were taken out of the inbox to be handled. An event that is dispatched at
any point is said to be delivered exactly if a callback began for it, and events that are posted come in
one by one. -/
theorem afterRun_accounts (actions : List Action) :
    let d := afterRun actions
    d.delivered + d.discarded + d.inbox.length =
      (posted d.journal).length + (dispatched d.journal).length ∧
    d.delivered = (called d.journal).length ∧
    d.discarded = (unclaimed d.journal).length ∧
    ({ } : Dispatcher).countedFor actions + counted d.journal = (taken d.journal).length ∧
    (∀ (e : Dispatcher) event, ∃ fate rest,
      (e.dispatch event).2.journal = e.journal ++ .dispatched event :: fate :: rest ∧
      ((e.dispatch event).1 = true ↔ ∃ tag, fate = .called tag event.decode) ∧
      ((e.dispatch event).1 = false ↔ fate = .discarded event.decode)) ∧
    ∀ (e : Dispatcher) events,
      (e.act (.post events)).2.journal = e.journal ++ events.map .posted := by
  intro d
  have course : Course { } d := afterAll_course _ actions
  have recorded : Recorded d := afterRun_recorded actions
  -- At the start, nothing is noted and nothing is counted.
  have delivered : d.delivered = (called d.journal).length := by simpa using course.counted.delivered
  have discarded : d.discarded = (unclaimed d.journal).length := by
    simpa using course.counted.discarded
  have owed : (taken d.journal).length + counted [] =
      (taken []).length + counted d.journal + ({ } : Dispatcher).countedFor actions :=
    afterAll_owes { } actions
  -- Every arrival has its fate, and what did not arrive is still in the inbox.
  have fates := recorded.passage.length_fates
  rw [← length_called_add_unclaimed, ← length_taken_add_dispatched] at fates
  have inbox := congrArg List.length recorded.inbox
  rw [List.length_append] at inbox
  refine ⟨by omega, delivered, discarded, ?_, dispatch_fate, fun e events => ?_⟩
  · simp only [counted, List.foldr_nil, taken, List.filterMap_nil, List.length_nil] at owed ⊢
    omega
  · exact e.journal_act rfl

end Dispatcher

end TunerControl.Event
