import TunerControl.Proofs.Event.Course

/-! An event is delivered alike on all ways: by a pump, by one that waits, and past the inbox. What was
noted before makes no difference to a delivery, and what it adds to the inbox and takes out is noted. -/

namespace TunerControl.Event.Dispatcher

/-- A pump that waits does what a pump does, whatever is in the inbox. -/
theorem pumpTimeout_eq_pump (d : Dispatcher) (milliseconds : Nat) :
    d.pumpTimeout milliseconds = d.pump := by
  -- A first event is delivered apart from the others in the one, and ahead of them in the other.
  cases front : d.inbox with
  | nil => rw [pumpTimeout_of_nil front, pump_eq, drain_of_nil front]
  | cons event rest =>
    rw [pumpTimeout_of_cons front, pump_eq, drain_of_cons front]
    simp only [Nat.add_comm]

section Past

/-- The dispatcher with a longer past: more was noted before. -/
def behind (d : Dispatcher) (past : List Note) : Dispatcher :=
  { d with journal := past ++ d.journal }

/-- The dispatcher of which nothing was noted yet. -/
def unnoted (d : Dispatcher) : Dispatcher :=
  { d with journal := [] }

variable (d : Dispatcher) (past : List Note)

/-- Whether somebody is subscribed does not depend on the past. -/
@[simp] theorem isSubscribed_behind (kind : Kind) :
    (d.behind past).isSubscribed kind = d.isSubscribed kind := rfl

/-- A note is written behind any past alike. -/
@[simp] theorem note_behind (n : Note) : (d.behind past).note n = (d.note n).behind past := by
  -- The new note comes last either way.
  simp only [note, behind, List.append_assoc]

/-- A slot is set behind any past alike. -/
@[simp] theorem setSlot_behind (kind : Kind) (subscriber : Option Subscriber) :
    (d.behind past).setSlot kind subscriber = (d.setSlot kind subscriber).behind past := rfl

/-- A callback begins behind any past alike. -/
@[simp] theorem enter_behind (s : Subscriber) (record : Record) :
    (d.behind past).enter s record = (d.enter s record).behind past := by
  simp only [enter, setSlot_behind, note_behind]

/-- An event is taken out behind any past alike. -/
@[simp] theorem takeOut_behind (event : Raw) (rest : List Raw) :
    (d.behind past).takeOut event rest = (d.takeOut event rest).behind past :=
  note_behind { d with inbox := rest } past (.taken event)

/-- Events are posted behind any past alike. -/
@[simp] theorem postAll_behind (events : List Raw) :
    (d.behind past).postAll events = (d.postAll events).behind past := by
  -- Each event is posted to the inbox and noted at the end of the journal.
  induction events generalizing d with
  | nil => rfl
  | cons event rest ih =>
    have first : (d.behind past).post event = (d.post event).behind past :=
      note_behind { d with inbox := d.inbox ++ [event] } past (.posted event)
    have later := ih (d.post event)
    rw [← first] at later
    exact later

end Past

mutual

/-- What was noted before makes no difference to a delivery, nor does the delivery change it. -/
theorem deliver_behind (d : Dispatcher) (past : List Note) (record : Record) :
    (d.behind past).deliver record =
      ((d.deliver record).1, (d.deliver record).2.behind past) := by
  cases installed : d.slots record.kind with
  | none =>
    -- Only the note of the discarded record is added.
    have same : (d.behind past).slots record.kind = none := installed
    rw [deliver_of_none same, deliver_of_none installed, note_behind]
    rfl
  | some s =>
    have same : (d.behind past).slots record.kind = some s := installed
    -- The callback begins with what its reaction took out of the slot.
    have entered := weight_enter installed
    rw [deliver_of_some same, deliver_of_some installed, enter_behind, perform_behind]
    rfl
termination_by (d.weight, 2)
decreasing_by
  simp only [Prod.lex_def]
  omega

/-- A callback does the same behind any past. -/
theorem perform_behind (d : Dispatcher) (past : List Note) (tag : String) (actions : List Action) :
    (d.behind past).perform tag actions = (d.perform tag actions).behind past := by
  match actions with
  | [] => rw [perform_nil, perform_nil]
  | a :: rest =>
    -- The rest of the actions begins where the first one has come to its end.
    have spent := weight_act_lt d a
    rw [perform_cons, perform_cons, act_behind, note_behind, perform_behind]
termination_by (weightOfActions actions + d.weight, 1)
decreasing_by
  all_goals
    simp only [weightOfActions, Prod.lex_def, weight_note]
    omega

/-- An action does the same behind any past. -/
theorem act_behind (d : Dispatcher) (past : List Note) (a : Action) :
    (d.behind past).act a = ((d.act a).1, (d.act a).2.behind past) := by
  -- An action notes at the end, and all else that it does was looked at before.
  match a with
  | .post events => rw [act_post, act_post, postAll_behind]
  | .dispatch event =>
    rw [act_dispatch, act_dispatch, dispatch, dispatch, note_behind, deliver_behind]
  | .subscribe kind tag reactions =>
    rw [act_subscribe, act_subscribe, subscribe, subscribe, setSlot_behind, note_behind]
  | .unsubscribe kind =>
    rw [act_unsubscribe, act_unsubscribe, unsubscribe, unsubscribe, setSlot_behind, note_behind]
  | .isSubscribed kind => rw [act_isSubscribed, act_isSubscribed, isSubscribed_behind]
  | .pump => rw [act_pump, act_pump, pump_eq, pump_eq, drain_behind, note_behind]
  | .pumpTimeout milliseconds =>
    rw [act_pumpTimeout, act_pumpTimeout, pumpTimeout_eq_pump, pumpTimeout_eq_pump, pump_eq, pump_eq,
      drain_behind, note_behind]
termination_by (a.weight + d.weight, 0)
decreasing_by
  all_goals
    simp only [Action.weight, Prod.lex_def, weight_note]
    omega

/-- A drain does the same behind any past. -/
theorem drain_behind (d : Dispatcher) (past : List Note) :
    (d.behind past).drain = (d.drain.1, d.drain.2.behind past) := by
  match front : d.inbox with
  | [] =>
    have same : (d.behind past).inbox = [] := front
    rw [drain_of_nil same, drain_of_nil front]
  | event :: rest =>
    have same : (d.behind past).inbox = event :: rest := front
    -- A delivery leaves less to do than there was, whatever its callback posts.
    have less := weight_takeOut front
    have spent := weight_deliver_le (d.takeOut event rest) event.decode
    have later := drain_behind ((d.takeOut event rest).deliver event.decode).2 past
    rw [drain_of_cons same, drain_of_cons front, takeOut_behind, deliver_behind]
    simp only [later]
termination_by (d.weight, 0)
decreasing_by
  all_goals
    simp only [Prod.lex_def]
    omega

end

/-- What is posted comes to the end of the inbox, and what is taken out was at its front. -/
theorem Course.inbox_eq {d after : Dispatcher} (course : Course d after) :
    ∃ notes, after.journal = d.journal ++ notes ∧
      d.inbox ++ Journal.posted notes = Journal.taken notes ++ after.inbox := by
  -- The induction is on the course, which goes into the callbacks.
  induction course with
  | stay d => exact ⟨[], (List.append_nil _).symm, List.append_nil _⟩
  | @trans d middle after first second ih later =>
    obtain ⟨notes, written, before⟩ := ih
    obtain ⟨more, followed, behind⟩ := later
    refine ⟨notes ++ more, by rw [followed, written, List.append_assoc], ?_⟩
    rw [Journal.posted, Journal.taken, List.filterMap_append, List.filterMap_append,
      ← List.append_assoc, before, List.append_assoc, behind, List.append_assoc]
  | post d event => exact ⟨[.posted event], rfl, rfl⟩
  | subscribe d kind s => exact ⟨[.subscribed kind s.tag], rfl, List.append_nil _⟩
  | unsubscribe d kind => exact ⟨[.unsubscribed kind], rfl, List.append_nil _⟩
  | did d tag reply => exact ⟨[.did tag reply], rfl, List.append_nil _⟩
  | pumped d handled => exact ⟨[.pumped handled], rfl, List.append_nil _⟩
  | @discarded d start event arrives empty =>
    cases arrives with
    | taken front =>
      refine ⟨[.taken event, .discarded event.decode], List.append_assoc .., ?_⟩
      rw [front]
      exact List.append_nil _
    | dispatched =>
      exact ⟨[.dispatched event, .discarded event.decode], List.append_assoc .., List.append_nil _⟩
  | @called d start after event s arrives installed during ih =>
    -- The arrival and the beginning of the callback are noted ahead of what the callback does.
    obtain ⟨notes, written, flow⟩ := ih
    cases arrives with
    | taken front =>
      refine ⟨.taken event :: .called s.tag event.decode :: notes, ?_, ?_⟩
      · rw [written]
        simp only [enter, takeOut, setSlot, note, List.append_assoc, List.cons_append,
          List.nil_append]
      · rw [front]
        exact congrArg (event :: ·) flow
    | dispatched =>
      refine ⟨.dispatched event :: .called s.tag event.decode :: notes, ?_, flow⟩
      rw [written]
      simp only [enter, setSlot, note, List.append_assoc, List.cons_append, List.nil_append]

section Posting

variable {d : Dispatcher}

/-- An event that is dispatched is delivered without regard to what was noted before. -/
theorem dispatch_eq (d : Dispatcher) (event : Raw) :
    d.dispatch event =
      let delivery := d.unnoted.deliver event.decode
      (delivery.1, delivery.2.behind (d.journal ++ [.dispatched event])) := by
  -- The note of the dispatch is all that comes before the delivery.
  have start : d.note (.dispatched event) =
      d.unnoted.behind (d.journal ++ [.dispatched event]) := by
    simp only [note, behind, unnoted, List.append_nil]
  rw [dispatch, start, deliver_behind]

/-- An event that is posted to an empty inbox and then pumped is delivered in the same way. What its
callback posts is pumped after it. -/
theorem pump_post (empty : d.inbox = []) (event : Raw) :
    (d.post event).pump =
      let rest := (d.unnoted.deliver event.decode).2.drain
      (rest.1 + 1, (rest.2.behind (d.journal ++ [.posted event, .taken event])).note
        (.pumped (rest.1 + 1))) := by
  have front : (d.post event).inbox = event :: [] := by
    simp only [post, note, empty, List.nil_append]
  -- The event is all there is, and once it is taken out the inbox is as empty as before.
  have taken : (d.post event).takeOut event [] =
      d.unnoted.behind (d.journal ++ [.posted event, .taken event]) := by
    simp only [post, takeOut, note, behind, unnoted, empty, List.append_assoc, List.cons_append,
      List.nil_append, List.append_nil]
  rw [pump_eq, drain_of_cons front, taken, deliver_behind]
  simp only [drain_behind]

/-- A delivery past an empty inbox in which nothing is posted leaves the inbox empty. -/
theorem inbox_dispatch (empty : d.inbox = []) {event : Raw} {notes : List Note}
    (written : (d.dispatch event).2.journal = d.journal ++ .dispatched event :: notes)
    (unposted : ∀ other, .posted other ∉ notes) : (d.dispatch event).2.inbox = [] := by
  -- The delivery goes a course, and its notes say what came into the inbox and what went out.
  have course : Course d (d.dispatch event).2 := deliver_course .dispatched
  obtain ⟨all, same, flow⟩ := course.inbox_eq
  obtain rfl : all = .dispatched event :: notes :=
    List.append_cancel_left (same.symm.trans written)
  -- Nothing came in, so nothing is left over.
  have none : Journal.posted (.dispatched event :: notes) = [] := by
    refine List.filterMap_eq_nil_iff.mpr fun note there => ?_
    cases note with
    | posted other => exact absurd ((List.mem_cons.mp there).resolve_left nofun) (unposted other)
    | _ => rfl
  rw [empty, none] at flow
  exact (List.append_eq_nil_iff.mp flow.symm).2

/-- From any state, whatever the callbacks do, a pump that waits does the same as a pump: it handles as
many events, makes the same calls in the same order, and leaves the same state. Where nothing is in the
inbox, an event that is posted and pumped is delivered as one that is dispatched: all that is noted from
the beginning of the delivery on is the same, and a pump then handles what was posted meanwhile. So if
nothing was posted meanwhile, slots, inbox and counters are the same as well. -/
theorem deliveries_agree (d : Dispatcher) :
    (∀ milliseconds, d.pumpTimeout milliseconds = d.pump) ∧
    ∀ event, d.inbox = [] →
      let next := (d.dispatch event).2
      ∃ notes more,
        next.journal = d.journal ++ .dispatched event :: notes ∧
        next.pump.2.journal = next.journal ++ more ++ [.pumped next.pump.1] ∧
        (d.post event).pump = (next.pump.1 + 1, { next.pump.2 with
          journal := d.journal ++ [.posted event, .taken event] ++ notes ++ more ++
            [.pumped (next.pump.1 + 1)] }) ∧
        ((∀ other, .posted other ∉ notes) →
          (d.post event).pump = (1, { next with
            journal := d.journal ++ [.posted event, .taken event] ++ notes ++ [.pumped 1] })) := by
  refine ⟨d.pumpTimeout_eq_pump, ?_⟩
  intro event empty next
  -- The delivery is looked at without the past, which differs between the two ways.
  let fresh := (d.unnoted.deliver event.decode).2
  have same : next = fresh.behind (d.journal ++ [.dispatched event]) :=
    congrArg Prod.snd (d.dispatch_eq event)
  have written : next.journal = d.journal ++ .dispatched event :: fresh.journal := by
    rw [same]
    exact List.append_assoc ..
  have pumped : next.pump = (fresh.drain.1, (fresh.drain.2.behind
      (d.journal ++ [.dispatched event])).note (.pumped fresh.drain.1)) := by
    rw [same, pump_eq, drain_behind]
  obtain ⟨more, grown, -⟩ := (drain_course fresh).inbox_eq
  refine ⟨fresh.journal, more, written, ?_, ?_, fun unposted => ?_⟩
  · rw [pumped, written]
    simp only [note, behind, grown, List.append_assoc, List.cons_append, List.nil_append]
  · rw [pump_post empty, pumped]
    simp only [note, behind, fresh, grown, List.append_assoc]
  · -- There is nothing left to pump.
    have bare : fresh.inbox = [] := by
      have none := inbox_dispatch empty written unposted
      rwa [show (d.dispatch event).2 = _ from same] at none
    rw [pump_post empty, drain_of_nil bare, same]
    simp only [note, behind, fresh, List.append_assoc]

/-- A dispatcher whose subscriber clears its own slot at its first delivery and then pumps. -/
def selfClearing : Dispatcher :=
  ({ } : Dispatcher).subscribe .output
    { tag := "once", reactions := [(1, [.unsubscribe .output, .pump])] }

/-- On both ways the line is handed to the subscriber, which clears its slot and posts nothing, and what
it does is noted alike. -/
theorem selfClearing_deliveries :
    let line := Raw.output "sync"
    let notes := [.called "once" (.output "sync"), .unsubscribed .output, .did "once" .done,
      .pumped 0, .did "once" (.count 0)]
    selfClearing.inbox = [] ∧
    (selfClearing.dispatch line).2.journal =
      selfClearing.journal ++ .dispatched line :: notes ∧
    (∀ other, .posted other ∉ notes) ∧
    (selfClearing.post line).pump.1 = 1 ∧
    (selfClearing.post line).pump.2.delivered = (selfClearing.dispatch line).2.delivered ∧
    (selfClearing.post line).pump.2.journal =
      selfClearing.journal ++ [.posted line, .taken line] ++ notes ++ [.pumped 1] := by
  -- The dispatch is carried out step by step. The pump is then known from the theorem.
  intro line notes
  have installed : (selfClearing.note (.dispatched line)).slots line.decode.kind = some
      { tag := "once", reactions := [(1, [.unsubscribe .output, .pump])] } := rfl
  have written : (selfClearing.dispatch line).2.journal =
      selfClearing.journal ++ .dispatched line :: notes := by
    rw [dispatch, deliver_of_some installed]
    -- The pump inside the callback finds nothing in the inbox.
    simp only [Subscriber.reaction, nextReaction, perform_cons, perform_nil, act_unsubscribe, act_pump,
      pump_eq]
    rw [drain_of_nil rfl]
    rfl
  have unposted : ∀ other, Note.posted other ∉ notes := by simp [notes]
  obtain ⟨all, more, begun, -, -, alike⟩ := (deliveries_agree selfClearing).2 line rfl
  obtain rfl : all = notes := by simpa using begun.symm.trans written
  have same := alike unposted
  exact ⟨rfl, written, unposted, by rw [same], by rw [same], by rw [same]⟩

end Posting

end TunerControl.Event.Dispatcher
