import TunerControl.Console.Shutdown
import TunerControl.Proofs.Console.Denial
import TunerControl.Proofs.Event.Handling
import TunerControl.Proofs.Event.Recipients
import TunerControl.Proofs.Session.Cleanup

/-! A console that shuts down leaves nothing of a session and no event undelivered, and does not hear
the engine any more. -/

namespace TunerControl

open Event (Dispatcher Note Raw)
open Event.Journal
open Session (Controller Engine HackRfDriver)
open Usb (Host)

namespace Event

namespace Journal

variable {journal past : List Note} {event : Raw}

/-- An event that came into the inbox is handled where it stands among those that did. -/
theorem AllHandled.isHandledAt (handled : AllHandled journal)
    (came : past ++ [.posted event] <+: journal) :
    IsHandledAt journal (posted past).length event := by
  -- The events that came before it are those of the past.
  obtain ⟨rest, rfl⟩ := came
  have placed : (posted (past ++ [.posted event] ++ rest))[(posted past).length]? = some event := by
    simp [posted, Note.posted?]
  rw [← handled.events, List.getElem?_map, Option.map_eq_some_iff] at placed
  obtain ⟨handling, found, same⟩ := placed
  refine ⟨handling, found, same, ?_⟩
  rw [handled.fates, List.getElem?_map, found]
  rfl

end Journal

namespace Dispatcher

/-- A pump goes a course: it drains, and makes a note. -/
theorem pump_course (d : Dispatcher) : Course d d.pump.2 := by
  rw [pump_eq]
  exact .trans (drain_course d) (.pumped _ _)

/-- Once the inbox is empty, all that came into it is handled. -/
theorem Recorded.allHandled {d : Dispatcher} (recorded : Recorded d) (empty : d.inbox = []) :
    AllHandled d.journal where
  -- What was posted was taken out or is still in the inbox, and that is empty.
  events := by
    rw [handlingsFrom_event, ← recorded.inbox, empty, List.append_nil]
  fates := recorded.passage.sequels_eq
  arrivals := by
    rintro before note after split settles
    obtain ⟨earlier, arrival, event, same⟩ := (split ▸ recorded.passage).before_fate settles
    exact ⟨earlier, arrival, event, same⟩

end Dispatcher

end Event

namespace Console

variable {H G D : Type} [Engine G]

/-- A new console has set the engine's handler and listens to the engine. -/
theorem new_eq {host : H} {engine : G} {driver : Option D} {config : Config} {fresh : Console H G D}
    (made : new host engine driver config = .ok fresh) :
    fresh = {
      controller := (Controller.new { host, models := Usb.rtlSdrModels } engine driver
        config.pipeline).tell .setEventHandler
      listening := true } := by
  -- A configuration is checked first, and only a valid one makes a console.
  unfold new at made
  split at made
  · simp at made
  · exact (Except.ok.inj made).symm

variable [Host H] [HackRfDriver D]

/-- Short of shutting down, what is done to a console is done to its controller or its dispatcher, which
goes its course. -/
theorem perform_cases (c : Console H G D) (operation : Operation H G D) :
    operation = .shutdown ∨ operation.isShutdown = false ∧ ∃ controller dispatcher,
      c.perform operation = { c with controller, dispatcher } ∧
        Dispatcher.Course c.dispatcher dispatcher := by
  -- The host is refused what is not allowed, and the engine is not heard when nobody listens to it.
  cases operation with
  | shutdown => exact Or.inl rfl
  | subscribe kind subscriber => exact Or.inr ⟨rfl, _, _, rfl, .subscribe _ kind subscriber⟩
  | unsubscribe kind => exact Or.inr ⟨rfl, _, _, rfl, .unsubscribe _ kind⟩
  | pump => exact Or.inr ⟨rfl, _, _, rfl, c.dispatcher.pump_course⟩
  | pumpTimeout milliseconds =>
    exact Or.inr ⟨rfl, _, _, rfl, c.dispatcher.pumpTimeout_course milliseconds⟩
  | emitLate event => exact Or.inr ⟨rfl, _, _, rfl, .post _ event⟩
  | emit event =>
    refine Or.inr ⟨rfl, ?_⟩
    simp only [perform, emit]
    split
    · exact ⟨_, _, rfl, .post _ event⟩
    · exact ⟨_, _, rfl, .stay _⟩
  | openDongle path =>
    refine Or.inr ⟨rfl, ?_⟩
    simp only [perform, openDongle]
    split <;> exact ⟨_, _, rfl, .stay _⟩
  | closeDongle =>
    refine Or.inr ⟨rfl, ?_⟩
    simp only [perform, closeDongle]
    split <;> exact ⟨_, _, rfl, .stay _⟩
  | permissionResult path granted =>
    refine Or.inr ⟨rfl, ?_⟩
    simp only [perform, permissionResult]
    split <;> exact ⟨_, _, rfl, .stay _⟩
  | setFilterMode n =>
    refine Or.inr ⟨rfl, ?_⟩
    simp only [perform, setFilterMode]
    split <;> exact ⟨_, _, rfl, .stay _⟩
  | _ => exact Or.inr ⟨rfl, _, _, rfl, .stay _⟩

/-- Only shutting down clears the engine's handler, and nothing sets it again. -/
theorem perform_listening (c : Console H G D) (operation : Operation H G D) :
    (c.perform operation).listening = (c.listening && !operation.isShutdown) := by
  -- Short of shutting down, only the controller and the dispatcher change.
  rcases c.perform_cases operation with rfl | ⟨goesOn, controller, dispatcher, done, -⟩
  · exact (Bool.and_false _).symm
  · rw [done, goesOn, Bool.not_false, Bool.and_true]

/-- Whatever is done to a console, its dispatcher goes its course. -/
theorem perform_course (c : Console H G D) (operation : Operation H G D) :
    Dispatcher.Course c.dispatcher (c.perform operation).dispatcher := by
  -- Shutting down pumps, and anything else goes the course that it was found to go.
  rcases c.perform_cases operation with rfl | ⟨-, controller, dispatcher, done, course⟩
  · exact c.dispatcher.pump_course
  · rw [done]
    exact course

/-- Whatever is done to a console, its dispatcher goes its course. -/
theorem afterAll_course (c : Console H G D) (operations : List (Operation H G D)) :
    Dispatcher.Course c.dispatcher (c.afterAll operations).dispatcher := by
  -- One operation after another.
  induction operations generalizing c with
  | nil => exact .stay _
  | cons operation rest ih => exact .trans (c.perform_course operation) (ih _)

/-- A console listens until it is shut down. -/
theorem afterAll_listening (c : Console H G D) (operations : List (Operation H G D)) :
    (c.afterAll operations).listening = (c.listening && !operations.any Operation.isShutdown) := by
  -- By induction on the operations, each of which shuts down or leaves it listening.
  induction operations generalizing c with
  | nil => exact (Bool.and_true _).symm
  | cons operation rest ih =>
    refine (ih _).trans ?_
    rw [perform_listening, List.any_cons, Bool.not_or, Bool.and_assoc]

/-- What comes from the engine is noted as it comes into the inbox. -/
theorem journal_arrival {c : Console H G D} {operation : Operation H G D} {event : Raw}
    (arrives : c.arrival? operation = some event) :
    (c.perform operation).dispatcher.journal = c.dispatcher.journal ++ [.posted event] := by
  -- Only two operations bring an event from the engine, and one of them only while it is listened
  -- to.
  cases operation with
  | emit emitted =>
    cases listening : c.listening with
    | false => simp [arrival?, listening] at arrives
    | true =>
      obtain rfl : emitted = event := by simpa [arrival?, listening] using arrives
      simp [perform, emit, listening, Dispatcher.post, Dispatcher.note]
  | emitLate emitted =>
    obtain rfl : emitted = event := Option.some.inj arrives
    rfl
  | _ => cases arrives

/-- A console that does not listen to the engine is the same whatever the engine emits. -/
theorem afterAll_unheard {c : Console H G D} (unheard : c.listening = false)
    (operations : List (Operation H G D)) :
    c.afterAll operations = c.afterAll (operations.filter fun done => !done.isEmission) := by
  -- An emission that nobody hears may as well be left out.
  induction operations generalizing c with
  | nil => rfl
  | cons operation rest ih =>
    -- What is done does not make the console listen again.
    have still : (c.perform operation).listening = false := by
      rw [perform_listening, unheard, Bool.false_and]
    refine (ih still).trans ?_
    cases emits : operation.isEmission with
    | false => rw [List.filter_cons_of_pos (by simp [emits])]; rfl
    | true =>
      rw [List.filter_cons_of_neg (by simp [emits])]
      have lost : c.perform operation = c := by
        cases operation with
        | emit event => simp [perform, emit, unheard]
        | _ => cases emits
      rw [lost]

section Runs

variable {host : H} {engine : G} {driver : Option D} {config : Config} {fresh : Console H G D}
  (made : new host engine driver config = .ok fresh)

include made

/-- All that the controller of a console works with is kept. -/
theorem afterAll_kept (operations : List (Operation H G D)) :
    (fresh.afterAll operations).controller.Kept := by
  -- The controller is where operations of its own may have brought it.
  obtain ⟨parts, controller⟩ := fresh.afterAll_controller operations
  rw [controller, new_eq made]
  exact Controller.afterRun_kept host Usb.rtlSdrModels engine driver config.pipeline
    (.aside .setEventHandler rfl :: parts)

/-- The journal of a console's dispatcher is right after every run. -/
theorem afterAll_recorded (operations : List (Operation H G D)) :
    (fresh.afterAll operations).dispatcher.Recorded := by
  -- It goes a course from a dispatcher that is new.
  refine (fresh.afterAll_course operations).recorded ?_
  rw [new_eq made]
  exact .initial

/-- After every run, shutting down does all that it should. -/
theorem afterAll_shutsDown (operations : List (Operation H G D)) :
    (fresh.afterAll operations).ShutsDown where
  -- The controller cleans up, and the dispatcher pumps a last time.
  cleansUp := (afterAll_kept made operations).cleansUp
  controller := rfl
  unheard := rfl
  inbox := Dispatcher.inbox_pump _
  handled := ((Dispatcher.pump_course _).recorded (afterAll_recorded made operations)).allHandled
    (Dispatcher.inbox_pump _)
  unreached := afterAll_unheard rfl

/-- What came from the engine in the course of a run is handled once the console has shut down. -/
theorem isHandledAt_shutdown {earlier later : List (Operation H G D)} {operation : Operation H G D}
    {event : Raw} (arrives : (fresh.afterAll earlier).arrival? operation = some event) :
    IsHandledAt (fresh.afterAll (earlier ++ operation :: later)).shutdown.dispatcher.journal
      (posted (fresh.afterAll earlier).dispatcher.journal).length event := by
  -- The event was posted in front of all that came later, and shutting down leaves nothing
  -- unhandled.
  have handled := (afterAll_shutsDown made (earlier ++ operation :: later)).handled
  refine handled.isHandledAt ?_
  rw [← journal_arrival arrives]
  -- Whatever is done after it, and the shutdown, only add to the journal.
  have split : fresh.afterAll (earlier ++ operation :: later) =
      ((fresh.afterAll earlier).perform operation).afterAll later := List.foldl_append
  rw [split]
  exact ((afterAll_course _ later).trans (Dispatcher.pump_course _)).journal_grows

end Runs

/-- After every run of a controller, whatever is under way, cleaning up leaves nothing of a session. After
every run of a new console, so does shutting down, which also clears the engine's handler and leaves
nothing in the inbox. Until then the console listens to the engine, and each event that came from the
engine has its own place among those that were delivered or discarded. Whatever is done later, nothing
depends on what the engine emits then. -/
theorem afterAll_shutdown (host : H) (engine : G) (driver : Option D) :
    (∀ models config (operations : List (Session.Operation H G D)),
      (Controller.afterRun { host, models } engine driver config operations).CleansUp) ∧
    ∀ config (fresh : Console H G D), new host engine driver config = .ok fresh → ∀ operations,
      let c := fresh.afterAll operations
      c.ShutsDown ∧ c.listening = !operations.any Operation.isShutdown ∧
      ∀ earlier operation later event, operations = earlier ++ operation :: later →
        (fresh.afterAll earlier).arrival? operation = some event →
        IsHandledAt c.shutdown.dispatcher.journal
          (posted (fresh.afterAll earlier).dispatcher.journal).length event := by
  refine ⟨fun models config operations =>
    (Controller.afterRun_kept host models engine driver config operations).cleansUp, ?_⟩
  intro config fresh made operations c
  refine ⟨afterAll_shutsDown made operations, ?_, ?_⟩
  · -- A new console listens.
    rw [afterAll_listening, new_eq made, Bool.true_and]
  · rintro earlier operation later event rfl arrives
    exact isHandledAt_shutdown made arrives

/-- A session on one dongle is live, the user has not answered the prompt for another one, and an event
has just come from the engine. -/
theorem lockedConsole_shutdown :
    let opening : List (Operation Simulated.Service Simulated.Engine Simulated.Driver) :=
      [.openDongle "first", .openDongle "second",
        .session (.connect (.rtlUsb { fd := 20, devicePath := "first" })) rfl]
    let c := lockedConsole.afterAll (opening ++ [.emit (.output "line")])
    new dongleAndLocked { } none { } = .ok lockedConsole ∧ c.ShutsDown ∧
    c.controller.cleanupCommands = [.stop, .closeRtlUsb, .cleanup] ∧
    (c.shutdown.controller.usb.poll 0).1 =
      some (.error (.invalidState "USB acquisition reset")) ∧
    IsHandledAt c.shutdown.dispatcher.journal 0 (.output "line") := by
  -- The run is known from the theorem, but for the commands and the request, which are computed.
  intro opening c
  have made : new dongleAndLocked { } none { } = .ok lockedConsole := rfl
  obtain ⟨shutsDown, -, handled⟩ :=
    (afterAll_shutdown dongleAndLocked { } none).2 { } lockedConsole made
      (opening ++ [.emit (.output "line")])
  have waits : c.controller.usb.requests.waiting = some ("second", 0) := by decide
  exact ⟨made, shutsDown, by decide, shutsDown.cleansUp.permission "second" 0 waits,
    handled opening (.emit (.output "line")) [] _ rfl rfl⟩

end Console

end TunerControl
