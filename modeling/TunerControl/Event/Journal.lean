import TunerControl.Event.Dispatcher

/-! What the journal of a dispatcher says: which events came in and which were handled, and who was
subscribed to a kind at any point. Runs are sequences of actions from outside. What callbacks do in them
is in the reactions of the subscribers, which can be whatever a callback does at each of its deliveries,
as long as it comes to its end. -/

namespace TunerControl.Event

namespace Note

/-- The event that came into the inbox. -/
def posted? : Note → Option Raw
  | posted event => some event
  | _ => none

/-- The event that was taken out of the inbox. -/
def taken? : Note → Option Raw
  | taken event => some event
  | _ => none

/-- The event whose delivery begins. -/
def arrival? : Note → Option Raw
  | taken event | dispatched event => some event
  | _ => none

/-- Whether a note says what became of an event. -/
def isFate : Note → Bool
  | called _ _ | discarded _ => true
  | _ => false

/-- The record of a kind that a callback was handed. -/
def handed? (kind : Kind) : Note → Option Record
  | called _ record => if record.kind = kind then some record else none
  | _ => none

/-- Whether a note is of a change to the slot of a kind. -/
def changes (kind : Kind) : Note → Bool
  | subscribed k _ | unsubscribed k => k = kind
  | _ => false

/-- Who is subscribed to a kind after a note, given who was before. -/
def holder (kind : Kind) (before : Option String) : Note → Option String
  | subscribed k tag => if k = kind then some tag else before
  | unsubscribed k => if k = kind then none else before
  | _ => before

end Note

namespace Journal

/-- The events that came into the inbox, in order. -/
abbrev posted (journal : List Note) : List Raw :=
  journal.filterMap Note.posted?

/-- The events that were taken out of the inbox, in order. -/
abbrev taken (journal : List Note) : List Raw :=
  journal.filterMap Note.taken?

/-- Who is subscribed to a kind at the end of a journal. -/
def holder? (journal : List Note) (kind : Kind) : Option String :=
  journal.foldl (Note.holder kind) none

/-- A subscriber was installed on a kind, and neither replaced nor cleared since. -/
def IsInstalled (journal : List Note) (kind : Kind) (tag : String) : Prop :=
  ∃ before after, journal = before ++ .subscribed kind tag :: after ∧
    ∀ note ∈ after, note.changes kind = false

/-- An event that is handled, with who is subscribed to its kind just then. -/
structure Handling where
  event : Raw
  holder : Option String

/-- What becomes of an event: whoever is subscribed to its kind gets the record, or nobody. -/
def Handling.fate (h : Handling) : Note :=
  match h.holder with
  | some tag => .called tag h.event.decode
  | none => .discarded h.event.decode

/-- What becomes of an event that arrives at the end of a journal. -/
def fate (journal : List Note) (event : Raw) : Note :=
  Handling.fate ⟨event, holder? journal event.kind⟩

/-- The events that are taken out of the inbox from a point on, as they are handled. -/
def handlingsFrom (past : List Note) : List Note → List Handling
  | [] => []
  | .taken event :: rest =>
    ⟨event, holder? past event.kind⟩ :: handlingsFrom (past ++ [.taken event]) rest
  | note :: rest => handlingsFrom (past ++ [note]) rest

/-- The events that were taken out of the inbox, as they were handled. -/
abbrev handlings (journal : List Note) : List Handling :=
  handlingsFrom [] journal

/-- What is noted right after each event that is taken out of the inbox. -/
def sequels : List Note → List Note
  | .taken _ :: next :: rest => next :: sequels (next :: rest)
  | _ :: rest => sequels rest
  | [] => []

end Journal

/-- What is noted of an action that delivers nothing. -/
def Action.notes? : Action → Option (List Note)
  | post events => some (events.map .posted)
  | subscribe kind tag _ => some [.subscribed kind tag]
  | unsubscribe kind => some [.unsubscribed kind]
  | isSubscribed _ => some []
  | dispatch _ | pump | pumpTimeout _ => none

namespace Dispatcher

/-- The dispatcher after some actions from outside. -/
def afterAll (d : Dispatcher) (actions : List Action) : Dispatcher :=
  actions.foldl (fun d a => (d.act a).2) d

/-- The dispatcher after some actions from outside, from the beginning. -/
def afterRun (actions : List Action) : Dispatcher :=
  ({ } : Dispatcher).afterAll actions

open Journal

/-- Every event that came into the inbox is handled once and in order, when a pump takes it out. -/
structure HandlesOnce (d : Dispatcher) : Prop where
  /-- What came in was taken out once, in order, or is still there. -/
  once : (handlings d.journal).map Handling.event ++ d.inbox = posted d.journal
  /-- Right after an event was taken out, it went to who was subscribed to its kind just then. -/
  sequel : sequels d.journal = (handlings d.journal).map Handling.fate
  /-- Nothing is handed out or discarded but an event whose delivery has just begun. -/
  caused : ∀ before note after, d.journal = before ++ note :: after → note.isFate = true →
    ∃ earlier arrival event, before = earlier ++ [arrival] ∧ arrival.arrival? = some event ∧
      note = fate earlier event
  /-- If nothing was dispatched past the inbox, all fates are of events that were taken out. -/
  pumped : (∀ event, .dispatched event ∉ d.journal) →
    d.journal.filter Note.isFate = sequels d.journal
  /-- The records of a kind that were handed out are those of its events that had a subscriber. -/
  handed : ∀ kind, (sequels d.journal).filterMap (Note.handed? kind) =
    ((handlings d.journal).filter fun h => h.event.kind = kind && h.holder.isSome).map
      (·.event.decode)
  /-- A pump leaves nothing in the inbox. -/
  emptied : d.pump.2.inbox = [] ∧ ∀ milliseconds, (d.pumpTimeout milliseconds).2.inbox = []
  /-- Actions other than pumps and dispatches deliver nothing. -/
  quiet : ∀ (e : Dispatcher) action notes, action.notes? = some notes →
    (e.act action).2.journal = e.journal ++ notes

/-- Every delivery is to the one subscriber that is installed on the event's own kind as it begins. -/
structure DeliversToHolder (d : Dispatcher) : Prop where
  /-- An event whose delivery begins has its fate at once. -/
  decided : ∀ before note after event, d.journal = before ++ note :: after →
    note.arrival? = some event → ∃ rest, after = fate before event :: rest
  /-- Nothing is handed out or discarded but an event whose delivery has just begun. -/
  caused : ∀ before note after, d.journal = before ++ note :: after → note.isFate = true →
    ∃ earlier arrival event, before = earlier ++ [arrival] ∧ arrival.arrival? = some event ∧
      note = fate earlier event
  /-- An event is handed to who was installed on its kind by then, neither replaced nor cleared. -/
  recipient : ∀ journal event tag record, fate journal event = .called tag record ↔
    IsInstalled journal event.kind tag ∧ event.decode = record
  /-- What happened to the slots of other kinds makes no difference to the fate of an event. -/
  separate : ∀ journal event,
    fate (journal.filter (Note.changes event.kind)) event = fate journal event
  /-- A slot is set exactly while a subscriber is installed on its kind. -/
  subscribed : ∀ kind, d.isSubscribed kind = true ↔ ∃ tag, IsInstalled d.journal kind tag
  /-- What is written stays, so that later changes come too late for an event. -/
  grows : ∀ (e : Dispatcher) action, e.journal <+: (e.act action).2.journal ∧
    ∀ notes, action.notes? = some notes → (e.act action).2.journal = e.journal ++ notes
  /-- An event that is dispatched is delivered there and then. -/
  dispatched : ∀ (e : Dispatcher) event,
    e.journal ++ [.dispatched event] <+: (e.act (.dispatch event)).2.journal
  /-- A pump begins with the front of the inbox. -/
  pumped : ∀ (e : Dispatcher) event rest milliseconds, e.inbox = event :: rest →
    ∀ action ∈ [Action.pump, .pumpTimeout milliseconds],
      e.journal ++ [.taken event] <+: (e.act action).2.journal
  /-- A change to the slot of a kind is none to the slots of other kinds. -/
  elsewhere : ∀ (e : Dispatcher) kind other s, other ≠ kind →
    ∀ after ∈ [e.subscribe kind s, e.unsubscribe kind],
      after.slots other = e.slots other ∧ after.isSubscribed other = e.isSubscribed other ∧
      ∀ event, event.kind = other → fate after.journal event = fate e.journal event

end Dispatcher

end TunerControl.Event
