import TunerControl.Event.Journal

/-! All that can happen at a dispatcher, whoever acts on it: the actions from outside and those of
callbacks, however deep they call each other. -/

namespace TunerControl.Event.Dispatcher

/-- An event arrives for delivery, out of the inbox or past it. -/
inductive Arrives (d : Dispatcher) (event : Raw) : Dispatcher → Prop where
  | taken {rest : List Raw} (front : d.inbox = event :: rest) : Arrives d event (d.takeOut event rest)
  | dispatched : Arrives d event (d.note (.dispatched event))

/-- How a dispatcher gets from one state to another. A delivery to a subscriber has a course of its own
within it. -/
inductive Course : Dispatcher → Dispatcher → Prop where
  | stay (d : Dispatcher) : Course d d
  | trans {d middle after : Dispatcher} (first : Course d middle) (second : Course middle after) :
      Course d after
  | post (d : Dispatcher) (event : Raw) : Course d (d.post event)
  | subscribe (d : Dispatcher) (kind : Kind) (s : Subscriber) : Course d (d.subscribe kind s)
  | unsubscribe (d : Dispatcher) (kind : Kind) : Course d (d.unsubscribe kind)
  | did (d : Dispatcher) (tag : String) (reply : Reply) : Course d (d.note (.did tag reply))
  | pumped (d : Dispatcher) (handled : Nat) : Course d (d.note (.pumped handled))
  | discarded {d start : Dispatcher} {event : Raw} (arrives : Arrives d event start)
      (empty : start.slots event.decode.kind = none) :
      Course d { start.note (.discarded event.decode) with discarded := start.discarded + 1 }
  | called {d start after : Dispatcher} {event : Raw} {s : Subscriber}
      (arrives : Arrives d event start) (installed : start.slots event.decode.kind = some s)
      (during : Course (start.enter s event.decode) after) :
      Course d { after with delivered := after.delivered + 1 }

section Weights

-- The functions carry these bounds with them; the proofs below end by the same ones.

/-- A delivery leaves no more to do than there was. -/
theorem weight_deliver_le (d : Dispatcher) (record : Record) :
    (d.deliver record).2.weight ≤ d.weight :=
  (deliverWithin d record).property

/-- An action leaves less to do than there was with it. -/
theorem weight_act_lt (d : Dispatcher) (a : Action) : (d.act a).2.weight < a.weight + d.weight :=
  (actWithin d a).property

end Weights

/-- Events are posted one by one. -/
theorem postAll_course (d : Dispatcher) (events : List Raw) : Course d (d.postAll events) := by
  -- One posting after another, by induction on the events.
  induction events generalizing d with
  | nil => exact .stay d
  | cons event rest ih => exact .trans (.post d event) (ih _)

mutual

/-- A delivery is its arrival and its fate, with the course of the callback in between. -/
theorem deliver_course {d start : Dispatcher} {event : Raw} (arrives : Arrives d event start) :
    Course d (start.deliver event.decode).2 := by
  cases installed : start.slots event.decode.kind with
  | none =>
    rw [deliver_of_none installed]
    exact .discarded arrives installed
  | some s =>
    -- The callback begins with what its reaction took out of the slot.
    have entered := weight_enter installed
    rw [deliver_of_some installed]
    exact .called arrives installed (perform_course _ s.tag s.reaction)
termination_by (start.weight, 2)
decreasing_by
  simp only [Prod.lex_def]
  omega

/-- A callback goes its course, one action after another. -/
theorem perform_course (d : Dispatcher) (tag : String) (actions : List Action) :
    Course d (d.perform tag actions) := by
  match actions with
  | [] =>
    rw [perform_nil]
    exact .stay d
  | a :: rest =>
    -- The rest of the actions begins where the first one has come to its end.
    have spent := weight_act_lt d a
    rw [perform_cons]
    exact .trans (.trans (act_course d a) (.did _ tag _)) (perform_course _ tag rest)
termination_by (weightOfActions actions + d.weight, 1)
decreasing_by
  all_goals
    simp only [weightOfActions, Prod.lex_def, weight_note]
    omega

/-- Every action goes a course. -/
theorem act_course (d : Dispatcher) (a : Action) : Course d (d.act a).2 := by
  match a with
  | .post events =>
    rw [act_post]
    exact d.postAll_course events
  | .dispatch event =>
    -- Past the inbox, the event arrives with a note of its own.
    rw [act_dispatch]
    exact deliver_course .dispatched
  | .subscribe kind tag reactions =>
    rw [act_subscribe]
    exact .subscribe d kind _
  | .unsubscribe kind =>
    rw [act_unsubscribe]
    exact .unsubscribe d kind
  | .isSubscribed kind =>
    rw [act_isSubscribed]
    exact .stay d
  | .pump =>
    -- A drain, and the note of how many events it handled.
    rw [act_pump, pump_eq]
    exact .trans (drain_course d) (.pumped _ _)
  | .pumpTimeout milliseconds =>
    rw [act_pumpTimeout]
    exact pumpTimeout_course d milliseconds
termination_by (a.weight + d.weight, 0)
decreasing_by
  all_goals
    simp only [Action.weight, Prod.lex_def, weight_note]
    omega

/-- A drain is one delivery after another, out of the inbox. -/
theorem drain_course (d : Dispatcher) : Course d d.drain.2 := by
  match front : d.inbox with
  | [] =>
    rw [drain_of_nil front]
    exact .stay d
  | event :: rest =>
    -- A delivery leaves less to do than there was, whatever its callback posts.
    have less := weight_takeOut front
    have spent := weight_deliver_le (d.takeOut event rest) event.decode
    rw [drain_of_cons front]
    exact .trans (deliver_course (.taken front)) (drain_course _)
termination_by (d.weight, 0)
decreasing_by
  all_goals
    simp only [Prod.lex_def]
    omega

/-- A pump that waits delivers the front of the inbox, if there is one, and drains the rest. -/
theorem pumpTimeout_course (d : Dispatcher) (milliseconds : Nat) :
    Course d (d.pumpTimeout milliseconds).2 := by
  match front : d.inbox with
  | [] =>
    -- The wait ended with nothing in the inbox.
    rw [pumpTimeout_of_nil front]
    exact .pumped d 0
  | event :: rest =>
    have less := weight_takeOut front
    have spent := weight_deliver_le (d.takeOut event rest) event.decode
    rw [pumpTimeout_of_cons front]
    exact .trans (.trans (deliver_course (.taken front)) (drain_course _)) (.pumped _ _)
termination_by (d.weight, 0)
decreasing_by
  all_goals
    simp only [Prod.lex_def]
    omega

end

/-- Whatever is done to a dispatcher, it goes its course. -/
theorem afterAll_course (d : Dispatcher) (actions : List Action) : Course d (d.afterAll actions) := by
  -- One action after another, by induction on the actions.
  induction actions generalizing d with
  | nil => exact .stay d
  | cons a rest ih => exact .trans (d.act_course a) (ih _)

end TunerControl.Event.Dispatcher
