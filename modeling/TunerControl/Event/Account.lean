import TunerControl.Event.Journal

/-! How many events were handled in which way, as the journal of a dispatcher tells it, and how many
those who pumped were told. -/

namespace TunerControl.Event

/-- How many events a reply says were handled. -/
def Reply.counted : Reply → Nat
  | count handled => handled
  | _ => 0

namespace Note

/-- The event that was delivered past the inbox. -/
def dispatched? : Note → Option Raw
  | dispatched event => some event
  | _ => none

/-- The record that a callback was handed. -/
def called? : Note → Option Record
  | called _ record => some record
  | _ => none

/-- The record that had no subscriber. -/
def unclaimed? : Note → Option Record
  | discarded record => some record
  | _ => none

/-- How many events a callback was told were handled by its own action. -/
def counted : Note → Nat
  | did _ reply => reply.counted
  | _ => 0

end Note

namespace Journal

/-- The events that were delivered past the inbox, in order. -/
abbrev dispatched (journal : List Note) : List Raw :=
  journal.filterMap Note.dispatched?

/-- The records that callbacks were handed, in order. -/
abbrev called (journal : List Note) : List Record :=
  journal.filterMap Note.called?

/-- The records that had no subscriber, in order. -/
abbrev unclaimed (journal : List Note) : List Record :=
  journal.filterMap Note.unclaimed?

/-- How many events callbacks were told were handled, by all the pumps inside them together. -/
def counted (journal : List Note) : Nat :=
  journal.foldr (fun note others => note.counted + others) 0

end Journal

namespace Dispatcher

/-- How many events are told to have been handled by some actions from outside, by all the pumps among
them together. -/
def countedFor (d : Dispatcher) : List Action → Nat
  | [] => 0
  | a :: rest => (d.act a).1.counted + (d.act a).2.countedFor rest

end Dispatcher

end TunerControl.Event
