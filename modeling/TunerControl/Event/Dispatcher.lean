import TunerControl.Event.Subscriber

/-! Delivery of events: an inbox that events are posted to, and one subscriber slot for each kind.
The subscriber is read when a delivery begins, and its callback may act on the dispatcher. -/

namespace TunerControl.Event

/-- What happens at a dispatcher. -/
inductive Note where
  /-- An event came into the inbox. -/
  | posted (event : Raw)
  /-- An event was taken out of the inbox for delivery. -/
  | taken (event : Raw)
  /-- An event was delivered past the inbox. -/
  | dispatched (event : Raw)
  /-- A callback began. -/
  | called (tag : String) (record : Record)
  /-- A record had no subscriber. -/
  | discarded (record : Record)
  /-- An action of a callback came to its end. -/
  | did (tag : String) (reply : Reply)
  /-- A pump came to its end. -/
  | pumped (handled : Nat)
  /-- A subscriber was installed. -/
  | subscribed (kind : Kind) (tag : String)
  /-- A slot was cleared. -/
  | unsubscribed (kind : Kind)
  deriving DecidableEq, Repr

/-- The slots, the inbox, the counters, and a journal of what happened, in order. The counters are
natural numbers, which never wrap around; counters of 64 bits agree with them up to the first 2^64
events. -/
structure Dispatcher where
  slots : Kind → Option Subscriber := fun _ => none
  inbox : List Raw := []
  delivered : Nat := 0
  discarded : Nat := 0
  journal : List Note := []

namespace Dispatcher

/-- Writes into the journal. -/
def note (d : Dispatcher) (n : Note) : Dispatcher :=
  { d with journal := d.journal ++ [n] }

/-- Changes a slot. -/
def setSlot (d : Dispatcher) (kind : Kind) (subscriber : Option Subscriber) : Dispatcher :=
  { d with slots := fun k => if k = kind then subscriber else d.slots k }

/-- Installs a subscriber in place of the one before. -/
def subscribe (d : Dispatcher) (kind : Kind) (subscriber : Subscriber) : Dispatcher :=
  (d.setSlot kind (some subscriber)).note (.subscribed kind subscriber.tag)

/-- Clears a slot. -/
def unsubscribe (d : Dispatcher) (kind : Kind) : Dispatcher :=
  (d.setSlot kind none).note (.unsubscribed kind)

/-- Whether a slot is set. -/
def isSubscribed (d : Dispatcher) (kind : Kind) : Bool :=
  (d.slots kind).isSome

/-- Adds an event to the inbox. -/
def post (d : Dispatcher) (event : Raw) : Dispatcher :=
  { d with inbox := d.inbox ++ [event] }.note (.posted event)

/-- Adds events to the inbox, in order. -/
def postAll (d : Dispatcher) (events : List Raw) : Dispatcher :=
  events.foldl post d

/-- The work that the subscriber in a slot can bring about. -/
def slotWeight (subscriber : Option Subscriber) : Nat :=
  match subscriber with
  | some s => s.weight
  | none => 0

/-- The work that a dispatcher has before it, with all that its subscribers can add. -/
def weight (d : Dispatcher) : Nat :=
  d.inbox.length + Kind.all.foldr (fun k others => slotWeight (d.slots k) + others) 0

/-- A note is no work. -/
@[simp] theorem weight_note (d : Dispatcher) (n : Note) : (d.note n).weight = d.weight := rfl

/-- Changing a slot takes away the work of the old subscriber and adds that of the new one. -/
theorem weight_setSlot (d : Dispatcher) (kind : Kind) (subscriber : Option Subscriber) :
    (d.setSlot kind subscriber).weight + slotWeight (d.slots kind)
      = d.weight + slotWeight subscriber := by
  -- The sum over all kinds has one changed term.
  cases kind <;> simp [weight, setSlot, Kind.all] <;> omega

/-- Each posted event is one more to handle. -/
theorem weight_postAll (d : Dispatcher) (events : List Raw) :
    (d.postAll events).weight = d.weight + events.length := by
  -- Events are added one by one.
  induction events generalizing d with
  | nil => rfl
  | cons e rest ih =>
    have step : (d.postAll (e :: rest)) = (d.post e).postAll rest := rfl
    rw [step, ih]
    simp [post, weight, note]
    omega

/-- Clearing a slot adds no work. -/
theorem weight_unsubscribe_le (d : Dispatcher) (kind : Kind) :
    (d.unsubscribe kind).weight ≤ d.weight := by
  -- The new slot has no work in it.
  have change := weight_setSlot d kind none
  simp only [slotWeight] at change
  simp only [unsubscribe, weight_note]
  omega

/-- Installing a subscriber adds at most its own work. -/
theorem weight_subscribe_le (d : Dispatcher) (kind : Kind) (s : Subscriber) :
    (d.subscribe kind s).weight ≤ d.weight + s.weight := by
  -- At best the old subscriber had no work left.
  have change := weight_setSlot d kind (some s)
  simp only [slotWeight] at change
  simp only [subscribe, weight_note]
  omega

/-- The dispatcher in which the callback of a subscriber begins. -/
def enter (d : Dispatcher) (s : Subscriber) (record : Record) : Dispatcher :=
  (d.setSlot record.kind (some s.next)).note (.called s.tag record)

/-- Beginning a callback moves the work of its reaction out of the slot. -/
theorem weight_enter {d : Dispatcher} {s : Subscriber} {record : Record}
    (installed : d.slots record.kind = some s) :
    weightOfActions s.reaction + (d.enter s record).weight = d.weight := by
  -- What the slot loses is what the reaction has.
  have change := weight_setSlot d record.kind (some s.next)
  have parts := s.weight_next
  simp only [installed, slotWeight] at change
  simp only [enter, weight_note]
  omega

/-- The dispatcher in which the next event of the inbox is delivered. -/
def takeOut (d : Dispatcher) (event : Raw) (rest : List Raw) : Dispatcher :=
  { d with inbox := rest }.note (.taken event)

/-- Taking an event out of the inbox takes one away from the work. -/
theorem weight_takeOut {d : Dispatcher} {event : Raw} {rest : List Raw}
    (front : d.inbox = event :: rest) : (d.takeOut event rest).weight + 1 = d.weight := by
  -- The slots stay, and the inbox is one shorter.
  simp [takeOut, weight, note, front]
  omega

/-- Posting events costs one more than there are events. -/
theorem weight_postAll_lt (d : Dispatcher) (events : List Raw) :
    (d.postAll events).weight < (Action.post events).weight + d.weight := by
  -- The action counts the events and itself.
  simp only [weight_postAll, Action.weight]
  omega

/-- Installing a subscriber costs one more than its reactions do. -/
theorem weight_subscribe_lt (d : Dispatcher) (kind : Kind) (tag : String)
    (reactions : List (Nat × List Action)) :
    (d.subscribe kind { tag, reactions }).weight
      < (Action.subscribe kind tag reactions).weight + d.weight := by
  -- The action counts the reactions and itself.
  have bound := weight_subscribe_le d kind { tag, reactions }
  simp only [Subscriber.weight] at bound
  simp only [Action.weight]
  omega

mutual

/-- Hands a record to the subscriber of its kind, lets the callback run to its end, and tells
whether there was a subscriber. No work is added. -/
def deliverWithin (d : Dispatcher) (record : Record) :
    { r : Bool × Dispatcher // r.2.weight ≤ d.weight } :=
  match installed : d.slots record.kind with
  | none => ⟨(false, { d.note (.discarded record) with discarded := d.discarded + 1 }),
      Nat.le_refl d.weight⟩
  | some s =>
    have entered := weight_enter installed
    match performWithin (d.enter s record) s.tag s.reaction with
    | ⟨after, bound⟩ => ⟨(true, { after with delivered := after.delivered + 1 }), by
      have same : { after with delivered := after.delivered + 1 }.weight = after.weight := rfl
      simp only [same]
      omega⟩
termination_by (d.weight, 2)
decreasing_by
  simp only [Prod.lex_def]
  omega

/-- Performs the actions of a callback, one by one. -/
def performWithin (d : Dispatcher) (tag : String) (actions : List Action) :
    { r : Dispatcher // r.weight ≤ weightOfActions actions + d.weight } :=
  match actions with
  | [] => ⟨d, by omega⟩
  | a :: rest =>
    match actWithin d a with
    | ⟨(reply, next), spent⟩ =>
      have less : next.weight < a.weight + d.weight := spent
      match performWithin (next.note (.did tag reply)) tag rest with
      | ⟨after, bound⟩ => ⟨after, by
        simp only [weight_note] at bound
        simp only [weightOfActions]
        omega⟩
termination_by (weightOfActions actions + d.weight, 1)
decreasing_by
  all_goals
    simp only [weightOfActions, Prod.lex_def, weight_note]
    omega

/-- Performs an action of a callback, at the cost of its work. -/
def actWithin (d : Dispatcher) (a : Action) :
    { r : Reply × Dispatcher // r.2.weight < a.weight + d.weight } :=
  match a with
  | .post events => ⟨(.done, d.postAll events), weight_postAll_lt d events⟩
  | .dispatch event =>
    match deliverWithin (d.note (.dispatched event)) event.decode with
    | ⟨(found, after), bound⟩ => ⟨(.flag found, after), Action.lt_weight_add _ bound⟩
  | .subscribe kind tag reactions =>
    ⟨(.done, d.subscribe kind { tag, reactions }), weight_subscribe_lt d kind tag reactions⟩
  | .unsubscribe kind =>
    ⟨(.done, d.unsubscribe kind), Action.lt_weight_add _ (weight_unsubscribe_le d kind)⟩
  | .isSubscribed kind =>
    ⟨(.flag (d.isSubscribed kind), d), Action.lt_weight_add _ (Nat.le_refl d.weight)⟩
  | .pump =>
    match pumpWithin d with
    | ⟨(handled, after), bound⟩ => ⟨(.count handled, after), Action.lt_weight_add _ bound⟩
  | .pumpTimeout milliseconds =>
    match pumpTimeoutWithin d milliseconds with
    | ⟨(handled, after), bound⟩ => ⟨(.count handled, after), Action.lt_weight_add _ bound⟩
termination_by (a.weight + d.weight, 0)
decreasing_by
  all_goals
    simp only [Action.weight, Prod.lex_def, weight_note]
    omega

/-- Delivers the events of the inbox until it is empty, and tells how many they were. -/
def drainWithin (d : Dispatcher) : { r : Nat × Dispatcher // r.2.weight ≤ d.weight } :=
  match front : d.inbox with
  | [] => ⟨(0, d), Nat.le_refl d.weight⟩
  | event :: rest =>
    have less := weight_takeOut front
    match deliverWithin (d.takeOut event rest) event.decode with
    | ⟨(_, next), spent⟩ =>
      have nextLess : next.weight ≤ (d.takeOut event rest).weight := spent
      match drainWithin next with
      | ⟨(others, after), bound⟩ => ⟨(others + 1, after), by
        simp only at bound ⊢
        omega⟩
termination_by (d.weight, 0)
decreasing_by
  all_goals
    simp only [Prod.lex_def]
    omega

/-- Delivers the events of the inbox, and makes a note of their number. -/
def pumpWithin (d : Dispatcher) : { r : Nat × Dispatcher // r.2.weight ≤ d.weight } :=
  match drainWithin d with
  | ⟨(handled, after), bound⟩ => ⟨(handled, after.note (.pumped handled)), by
    simp only [weight_note]
    exact bound⟩
termination_by (d.weight, 1)

/-- Waits for a first event, delivers it, and then delivers the rest of the inbox. When the inbox is
empty the wait ends with nothing delivered. -/
def pumpTimeoutWithin (d : Dispatcher) (_milliseconds : Nat) :
    { r : Nat × Dispatcher // r.2.weight ≤ d.weight } :=
  match front : d.inbox with
  | [] => ⟨(0, d.note (.pumped 0)), Nat.le_refl d.weight⟩
  | event :: rest =>
    have less := weight_takeOut front
    match deliverWithin (d.takeOut event rest) event.decode with
    | ⟨(_, next), spent⟩ =>
      have nextLess : next.weight ≤ (d.takeOut event rest).weight := spent
      match drainWithin next with
      | ⟨(others, after), bound⟩ => ⟨(1 + others, after.note (.pumped (1 + others))), by
        simp only [weight_note] at bound ⊢
        omega⟩
termination_by (d.weight, 0)
decreasing_by
  all_goals
    simp only [Prod.lex_def]
    omega

end

/-- Hands a record to the subscriber of its kind, and tells whether there was one. -/
def deliver (d : Dispatcher) (record : Record) : Bool × Dispatcher :=
  (deliverWithin d record).val

/-- Performs the actions of a callback, one by one. -/
def perform (d : Dispatcher) (tag : String) (actions : List Action) : Dispatcher :=
  (performWithin d tag actions).val

/-- Performs an action of a callback. -/
def act (d : Dispatcher) (a : Action) : Reply × Dispatcher :=
  (actWithin d a).val

/-- Delivers the events of the inbox until it is empty, and tells how many they were. -/
def drain (d : Dispatcher) : Nat × Dispatcher :=
  (drainWithin d).val

/-- Decodes and delivers an event now, and tells whether a subscriber got it. -/
def dispatch (d : Dispatcher) (event : Raw) : Bool × Dispatcher :=
  (d.note (.dispatched event)).deliver event.decode

/-- Delivers everything in the inbox, and tells how many events were handled. -/
def pump (d : Dispatcher) : Nat × Dispatcher :=
  (pumpWithin d).val

/-- Waits for a first event, then delivers everything in the inbox. -/
def pumpTimeout (d : Dispatcher) (milliseconds : Nat) : Nat × Dispatcher :=
  (pumpTimeoutWithin d milliseconds).val

/-- A record without a subscriber is discarded. -/
theorem deliver_of_none {d : Dispatcher} {record : Record} (empty : d.slots record.kind = none) :
    d.deliver record = (false, { d.note (.discarded record) with discarded := d.discarded + 1 }) := by
  -- The delivery looks at the slot, and it is the one that is known to be empty.
  rw [deliver, deliverWithin]
  split
  · rfl
  · simp_all

/-- A record with a subscriber is counted when the callback has come to its end. -/
theorem deliver_of_some {d : Dispatcher} {record : Record} {s : Subscriber}
    (installed : d.slots record.kind = some s) :
    d.deliver record =
      let after := (d.enter s record).perform s.tag s.reaction
      (true, { after with delivered := after.delivered + 1 }) := by
  -- The subscriber that is found is the one that is known to be in the slot.
  rw [deliver, deliverWithin]
  split
  · simp_all
  · rename_i other found
    have same : other = s := by simp_all
    subst same
    rfl

/-- A callback without actions changes nothing. -/
@[simp] theorem perform_nil (d : Dispatcher) (tag : String) : d.perform tag [] = d := by
  rw [perform, performWithin]

/-- Each action is noted with its reply before the next one begins. -/
theorem perform_cons (d : Dispatcher) (tag : String) (a : Action) (rest : List Action) :
    d.perform tag (a :: rest) = ((d.act a).2.note (.did tag (d.act a).1)).perform tag rest := by
  rw [perform, performWithin]
  rfl

/-- A callback posts events one by one, and is told nothing. -/
theorem act_post (d : Dispatcher) (events : List Raw) :
    d.act (.post events) = (.done, d.postAll events) := by
  rw [act, actWithin]

/-- A callback is told whether its event had a subscriber. -/
theorem act_dispatch (d : Dispatcher) (event : Raw) :
    d.act (.dispatch event) = (.flag (d.dispatch event).1, (d.dispatch event).2) := by
  rw [act, actWithin]
  rfl

/-- A callback installs a subscriber, on its own kind or another. -/
theorem act_subscribe (d : Dispatcher) (kind : Kind) (tag : String)
    (reactions : List (Nat × List Action)) :
    d.act (.subscribe kind tag reactions) = (.done, d.subscribe kind { tag, reactions }) := by
  rw [act, actWithin]

/-- A callback clears a slot, its own or another. -/
theorem act_unsubscribe (d : Dispatcher) (kind : Kind) :
    d.act (.unsubscribe kind) = (.done, d.unsubscribe kind) := by
  rw [act, actWithin]

/-- A callback that asks who is subscribed changes nothing. -/
theorem act_isSubscribed (d : Dispatcher) (kind : Kind) :
    d.act (.isSubscribed kind) = (.flag (d.isSubscribed kind), d) := by
  rw [act, actWithin]

/-- A callback is told how many events its pump handled. -/
theorem act_pump (d : Dispatcher) : d.act .pump = (.count d.pump.1, d.pump.2) := by
  rw [act, actWithin]
  rfl

/-- A callback is told how many events its pump handled, if it waited for the first. -/
theorem act_pumpTimeout (d : Dispatcher) (milliseconds : Nat) :
    d.act (.pumpTimeout milliseconds)
      = (.count (d.pumpTimeout milliseconds).1, (d.pumpTimeout milliseconds).2) := by
  rw [act, actWithin]
  rfl

/-- Nothing is left to drain. -/
theorem drain_of_nil {d : Dispatcher} (empty : d.inbox = []) : d.drain = (0, d) := by
  rw [drain, drainWithin]
  split
  · rfl
  · simp_all

/-- A drain delivers the first event, then drains what the inbox holds by then. -/
theorem drain_of_cons {d : Dispatcher} {event : Raw} {rest : List Raw}
    (front : d.inbox = event :: rest) :
    d.drain =
      let next := ((d.takeOut event rest).deliver event.decode).2
      (next.drain.1 + 1, next.drain.2) := by
  -- The inbox has one front, whichever way it was looked at.
  rw [drain, drainWithin]
  split
  · simp_all
  · rename_i first others found
    have same : first = event ∧ others = rest := by simp_all
    obtain ⟨rfl, rfl⟩ := same
    rfl

/-- A pump is a drain, with a note of how many events it handled. -/
theorem pump_eq (d : Dispatcher) : d.pump = (d.drain.1, d.drain.2.note (.pumped d.drain.1)) := by
  rw [pump, pumpWithin]
  rfl

/-- A waiting pump with an empty inbox gives up and notes so. -/
theorem pumpTimeout_of_nil {d : Dispatcher} {milliseconds : Nat} (empty : d.inbox = []) :
    d.pumpTimeout milliseconds = (0, d.note (.pumped 0)) := by
  -- There is no event to be taken.
  rw [pumpTimeout, pumpTimeoutWithin]
  split
  · rfl
  · simp_all

/-- A waiting pump delivers the first event on its own, then drains the inbox. -/
theorem pumpTimeout_of_cons {d : Dispatcher} {milliseconds : Nat} {event : Raw} {rest : List Raw}
    (front : d.inbox = event :: rest) :
    d.pumpTimeout milliseconds =
      let next := ((d.takeOut event rest).deliver event.decode).2
      (1 + next.drain.1, next.drain.2.note (.pumped (1 + next.drain.1))) := by
  -- As for a drain: the inbox has one front.
  rw [pumpTimeout, pumpTimeoutWithin]
  split
  · simp_all
  · rename_i first others found
    have same : first = event ∧ others = rest := by simp_all
    obtain ⟨rfl, rfl⟩ := same
    rfl

end Dispatcher

end TunerControl.Event
