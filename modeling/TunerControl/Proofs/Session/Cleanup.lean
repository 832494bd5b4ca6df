import TunerControl.Proofs.Session.Acquiring
import TunerControl.Proofs.Session.Reports
import TunerControl.Proofs.Session.Tending
import TunerControl.Proofs.Usb.Completions
import TunerControl.Session.Cleanup

/-! Cleaning up leaves nothing of a session, whatever was under way. -/

namespace TunerControl

open Usb (Acquisition Host HostCall)

namespace Requests

variable {κ α : Type} {s : Requests κ α}

/-- An outcome that is sent to an empty slot is lost. -/
theorem resolve_of_none (empty : s.waiting = none) (outcome : Outcome α) :
    s.resolve outcome = (false, s) :=
  -- Nothing else can be in the way of an outcome than that it settles a request.
  (s.resolve_spec outcome).elim (fun left => left.2) fun settled => absurd empty settled.1

/-- The owner of the request in the slot is told the outcome that is sent to the slot. -/
theorem poll_resolve {key : κ} {request : Nat} {settled : List (Outcome α)}
    {answered : List (Option (Outcome α))} (course : Course request s settled answered)
    (waits : s.waiting = some (key, request)) (outcome : Outcome α) :
    ((s.resolve outcome).2.poll request).1 = some outcome := by
  -- So far the request was given nothing, and its owner was told nothing.
  have there := isWaiting_iff.mpr ⟨key, waits⟩
  obtain ⟨rfl, n, rfl⟩ := course.of_isWaiting there
  have given := course.step (resolve_effect course.once outcome)
  simp only [settles?, there, if_true, Option.toList_some, Option.toList_none, List.nil_append,
    List.append_nil] at given
  exact given.poll_of_untold

/-- When the request in the slot is settled, none is left to settle, if none is in a resolver. -/
theorem allSettled_resolve (courses : ∀ request, ∃ settled answered, Course request s settled answered)
    (untaken : s.taken = []) (outcome : Outcome α) : (s.resolve outcome).2.AllSettled := by
  have empty := s.waiting_resolve outcome
  refine ⟨empty, fun request silent => ?_⟩
  -- Asking has no answer only while a request is in the slot or in a resolver.
  obtain ⟨settled, answered, course⟩ := courses request
  have next := course.step (resolve_effect course.once outcome)
  rcases next.poll_eq_none_iff.mp silent with waits | taken
  · obtain ⟨key, there⟩ := isWaiting_iff.mp waits
    simp [empty] at there
  · simp [taken_resolve untaken] at taken

end Requests

namespace Usb.Acquisition

variable {H : Type} [Host H] (a : Acquisition H)

/-- There is nothing more to close for a reset once all is closed. -/
theorem reset_close : a.close.reset = a.reset := by
  -- A reset closes, which does nothing a second time.
  rw [reset_eq, reset_eq, close_of_none a.handle_close, requests_close]

/-- No connection is open after a reset. -/
theorem handle_reset : a.reset.handle = none := by
  rw [reset_eq]
  exact a.handle_close

/-- A reset settles the request that is outstanding, as an invalid one. -/
theorem requests_reset : a.reset.requests =
    (a.requests.resolve (.error (.invalidState "USB acquisition reset"))).2 := by
  rw [reset_eq]

/-- A second reset finds nothing to settle and nothing to close. -/
theorem reset_reset : a.reset.reset = a.reset := by
  -- There is no request and no connection left after the first one.
  have empty : a.reset.requests.waiting = none := by
    rw [requests_reset]
    exact Requests.waiting_resolve _ _
  rw [reset_eq a.reset, close_of_none a.handle_reset, Requests.resolve_of_none empty, reset_eq]

end Usb.Acquisition

namespace Session.Controller

variable {H G D : Type} {c after : Controller H G D} {operation : Operation H G D}

section Untaken

/-- Whatever is heard leaves no resolver. -/
theorem taken_hear {s : Requests Nat Unit} (untaken : s.taken = []) (session : Nat)
    (outcomes : List (Outcome Unit)) : (hear s session outcomes).taken = [] := by
  -- By induction on what is heard.
  induction outcomes generalizing s with
  | nil => exact untaken
  | cons outcome rest ih => exact ih (Requests.taken_resolveFor untaken session outcome)

variable [Engine G]

/-- No request for an initialisation is anywhere but in the slot between operations. -/
theorem Reporting.untaken (change : Reporting c operation after) (untaken : c.inits.taken = []) :
    after.inits.taken = [] := by
  -- Whatever is done to the requests, none is left in a resolver by it.
  cases change with
  | uninvolved silent untold unreported => exact unreported.inits ▸ untaken
  | polled asked polls inits ready => exact inits ▸ (c.inits.taken_poll asked).trans untaken
  | reported session report reports inits ready =>
    exact inits ▸ Requests.taken_resolveFor untaken session _
  | cancelled failure verdict untold inits ready => exact inits ▸ Requests.taken_resolve untaken _
  | readied tuning starts unasked inits ready => exact inits ▸ untaken
  | asked tuning starts asks outcomes inits ready =>
    exact inits ▸ taken_hear ((c.inits.taken_arm _).trans untaken) _ _

variable [Host H] [HackRfDriver D]

/-- After every run, all requests that are outstanding are in the slot. -/
theorem afterRun_untaken (usb : Acquisition H) (engine : G) (driver : Option D)
    (config : PipelineConfig) (operations : List (Operation H G D)) :
    (afterRun usb engine driver config operations).inits.taken = [] := by
  -- A new controller has no resolver, and no operation leaves one.
  refine afterAll_rule (P := fun d => d.inits.taken = []) rfl ?_ operations
  intro d operation untaken
  exact (d.perform_reporting operation).untaken untaken

end Untaken

variable [Host H] [Engine G] [HackRfDriver D]

/-- The acquisition is reset, if its connection was not closed before. -/
theorem usb_cleanup (c : Controller H G D) : c.cleanup.usb = c.usb.reset := by
  -- The connection is closed first when a session on a dongle is released.
  have told : ∀ d : Controller H G D, d.usb = c.usb →
      d.releaseBackend.usb = c.usb ∨ d.releaseBackend.usb = c.usb.close := by
    intro d same
    rw [← same]
    unfold releaseBackend
    dsimp only
    cases d.backend with
    | none => exact Or.inl rfl
    | some kind =>
      cases kind with
      | network => exact Or.inl rfl
      | rtlUsb => exact Or.inr rfl
      | hackRf => exact Or.inl ({ d with backend := none } : Controller H G D).stopReceiving_aside.usb
  have released := told (if c.cancelled.state.acceptsControl then c.cancelled.tell .stop
    else c.cancelled) (by split <;> rfl)
  rcases released with same | closed
  · exact congrArg Acquisition.reset same
  · exact (congrArg Acquisition.reset closed).trans c.usb.reset_close

/-- No front end is left, so that there is no session and the pipeline is at rest. -/
theorem cleanup_vacant (sound : c.Sound) :
    c.cleanup.standing = .vacant ∧ c.cleanup.plant.currentRun? pipeline = none := by
  -- The front end is gone, and soundness says the rest.
  have after := (cleanup_change sound).sound sound
  have without : c.cleanup.backend = none := (releaseBackend_spec _).2
  exact ⟨after.settled.vacant_iff.mpr without, after.attended.resting (by simp [without])⟩

/-- Without a session there is nothing to stop and nothing to let go of. -/
theorem cleanup_of_vacant (sound : c.Sound) (vacant : c.standing = .vacant) :
    c.cleanup = c.cancelled.wiped := by
  -- What is released is nothing, so that the rest of cleaning up follows the cancelled request.
  have unreleased : c.cancelled.releaseBackend = c.cancelled := releaseBackend_of_vacant vacant
  rw [cleanup_eq sound, backend_of_vacant vacant]
  exact congrArg wiped unreleased

/-- The engine is told to stop if a session is active, then to let go of the front end if it has one to
let go of, and then to clean up. -/
theorem commands_cleanup (sound : c.Sound) : ∃ issued,
    c.cleanup.commands = c.commands ++ issued ∧ issued.map (·.command) = c.cleanupCommands := by
  cases has : c.backend with
  | none =>
    -- Without a session, the one command is to clean up.
    have vacant : c.standing = .vacant := sound.settled.vacant_iff.mpr has
    have idle : c.state = .idle := congrArg Standing.state vacant
    rw [cleanup_of_vacant sound vacant]
    refine ⟨[{ c.cancelled with usb := c.usb.reset }.issued .cleanup], rfl, ?_⟩
    simp [cleanupCommands, has, idle, issued]
  | some kind =>
    -- With one, decoding is stopped, the front end is released, and cleaning up comes last.
    obtain ⟨session, live⟩ := sound.settled.live_of_backend has
    have active : c.state = .active := congrArg Standing.state live
    obtain ⟨release, released⟩ := releaseBackend_released (c := c.cancelled.tell .stop)
      sound.attended has
    have told : (c.cancelled.tell .stop).commands = c.commands ++ [c.cancelled.issued .stop] := rfl
    obtain ⟨last, cleans, wiped⟩ : ∃ last : Issued, last.command = .cleanup ∧
        (c.cancelled.tell .stop).releaseBackend.wiped.commands =
          (c.cancelled.tell .stop).releaseBackend.commands ++ [last] := ⟨_, rfl, rfl⟩
    refine ⟨c.cancelled.issued .stop :: (release ++ [last]), ?_, ?_⟩
    · rw [cleanup_eq sound, has, Option.isSome_some, if_pos rfl, wiped, released.commands, told]
      simp
    · simp [cleanupCommands, has, active, issued, released.releases, cleans]

/-- Once all is cleaned up, cleaning up again only tells the engine to. -/
theorem cleanup_cleanup (sound : c.Sound) : c.cleanup.cleanup = c.cleanup.tell .cleanup := by
  have after := (cleanup_change sound).sound sound
  have vacant := (cleanup_vacant sound).1
  have idle : c.cleanup.state = .idle := congrArg Standing.state vacant
  -- There is no request to cancel, and nothing to close.
  have uncancelled : c.cleanup.cancelled = c.cleanup := by
    rw [cancelled, Requests.resolve_of_none c.waiting_cleanup]
  have reset : c.cleanup.usb.reset = c.cleanup.usb := by
    rw [usb_cleanup, Acquisition.reset_reset]
  rw [cleanup_of_vacant after vacant, uncancelled, wiped, reset]
  simp only [tell, issue, idle]

/-- What is known between operations of all that a controller works with. -/
structure Kept (c : Controller H G D) : Prop where
  sound : c.Sound
  tended : Tended c.plant
  courses : ∀ request, ∃ settled answered, Requests.Course request c.inits settled answered
  untaken : c.inits.taken = []
  tracked : c.usb.Tracked
  inOrder : c.usb.InOrder

/-- Cleaning up leaves nothing of a session. -/
theorem Kept.blank (kept : c.Kept) : c.cleanup.Blank := by
  -- Each clause is about a different part of the controller, and each part was cleaned up on its
  -- own.
  obtain ⟨vacant, resting⟩ := cleanup_vacant kept.sound
  obtain ⟨state, backend, session⟩ := Standing.mk.inj vacant
  have inits : c.cleanup.inits = c.cancelled.inits := c.cleanup_unreported.inits
  have handle : c.cleanup.usb.handle = none := c.usb_cleanup ▸ c.usb.handle_reset
  refine ⟨state, backend, session, ?_,
    (cleanup_tended kept.sound kept.tended).queue_eq_nil resting, ?_, ?_, ?_, handle, ?_⟩
  · rw [isReceiving, Samples.Plant.isRunning, resting]
  · rw [inits]
    exact Requests.allSettled_resolve kept.courses kept.untaken _
  · rw [usb_cleanup, Acquisition.requests_reset]
    exact Requests.allSettled_resolve kept.tracked.course kept.tracked.untaken _
  · rw [usb_cleanup, Acquisition.reset_eq]
  · -- Each connection was closed before the next one was opened, and the last one is closed as well.
    have inOrder : c.cleanup.usb.InOrder := c.usb_cleanup ▸ kept.inOrder.reset
    simpa [handle] using HostCall.openings_eq_of_follow inOrder

/-- Cleaning up does all that it should. -/
theorem Kept.cleansUp (kept : c.Kept) : c.CleansUp where
  -- The owners of both requests, if there are any, find the verdict when they ask.
  blank := kept.blank
  init := by
    intro session request waits
    obtain ⟨settled, answered, course⟩ := kept.courses request
    rw [pollInit, c.cleanup_unreported.inits]
    exact Requests.poll_resolve course waits _
  permission := by
    intro path request waits
    obtain ⟨settled, answered, course⟩ := kept.tracked.course request
    rw [Acquisition.poll, usb_cleanup, Acquisition.requests_reset]
    exact Requests.poll_resolve course waits _
  commands := commands_cleanup kept.sound
  again := cleanup_cleanup kept.sound

/-- After every run of a controller, all that it works with is kept. -/
theorem afterRun_kept (host : H) (models : List Usb.DeviceId) (engine : G) (driver : Option D)
    (config : PipelineConfig) (operations : List (Operation H G D)) :
    (afterRun { host, models } engine driver config operations).Kept := by
  -- Most of it is known of runs already; the acquisition is where its own operations led it.
  have start := new_sound (H := H) { host, models } engine driver config
  obtain ⟨sound, acquiring, usb⟩ := afterAll_acquires start operations
  refine ⟨sound, afterRun_tended _ engine driver config operations,
    afterRun_courses _ engine driver config operations,
    afterRun_untaken _ engine driver config operations, ?_, ?_⟩
  · -- Whatever was done to the acquisition could have been done without the controller.
    exact usb ▸ (Acquisition.new_tracked host models).afterAll acquiring
  · exact usb ▸ Acquisition.afterRun_inOrder host models acquiring

end Session.Controller

end TunerControl
