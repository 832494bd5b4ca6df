import TunerControl.Console.Operation
import TunerControl.Event.Journal
import TunerControl.Session.Cleanup

/-! What a console leaves behind when it shuts down, and what has become of the engine's events. -/

namespace TunerControl

namespace Event.Journal

/-- Each event that came into the inbox was taken out of it once, in order. Right after that it was
handed to whoever was subscribed to its kind, or discarded if nobody was; and nothing was handed out or
discarded otherwise, but what was dispatched past the inbox. -/
structure AllHandled (journal : List Note) : Prop where
  events : (handlings journal).map Handling.event = posted journal
  fates : sequels journal = (handlings journal).map Handling.fate
  arrivals : ∀ before note after, journal = before ++ note :: after → note.isFate = true →
    ∃ earlier arrival event, before = earlier ++ [arrival] ∧ arrival.arrival? = some event ∧
      note = fate earlier event

/-- The event at a place among those that came into the inbox was delivered to whoever was subscribed to
its kind, or discarded if nobody was. -/
def IsHandledAt (journal : List Note) (place : Nat) (event : Raw) : Prop :=
  ∃ handling, (handlings journal)[place]? = some handling ∧ handling.event = event ∧
    (sequels journal)[place]? = some handling.fate

end Event.Journal

open Event (Raw)
open Event.Journal (AllHandled)
open Session (Engine HackRfDriver)

namespace Console

variable {H G D : Type}

/-- Whether an operation has the engine emit an event. -/
def Operation.isEmission : Operation H G D → Bool
  | emit _ => true
  | _ => false

/-- Whether an operation shuts the console down. -/
def Operation.isShutdown : Operation H G D → Bool
  | shutdown => true
  | _ => false

/-- The event that comes from the engine with an operation. -/
def arrival? (c : Console H G D) : Operation H G D → Option Raw
  | .emit event => if c.listening then some event else none
  | .emitLate event => some event
  | _ => none

variable [Usb.Host H] [Engine G] [HackRfDriver D]

/-- Shutting down cleans up the controller, and then clears the engine's handler. What had come into the
inbox is handled, nothing is left in it, and whatever is done later, nothing depends on what the engine
emits then. -/
structure ShutsDown (c : Console H G D) : Prop where
  cleansUp : c.controller.CleansUp
  controller : c.shutdown.controller = c.controller.cleanup.tell .clearEventHandler
  unheard : c.shutdown.listening = false
  inbox : c.shutdown.dispatcher.inbox = []
  handled : AllHandled c.shutdown.dispatcher.journal
  unreached : ∀ later : List (Operation H G D),
    c.shutdown.afterAll later = c.shutdown.afterAll (later.filter fun done => !done.isEmission)

end Console

end TunerControl
