import TunerControl.Proofs.Usb.Completions

/-! A request that is outstanding gives way to a newer prompt, but not to a device that is opened at
once. -/

namespace TunerControl.Usb.Acquisition

open Requests (Course)

variable {H : Type} [Host H]

section Slot

variable {a : Acquisition H} {path : String}

/-- No request for a path is outstanding as long as none is made. -/
theorem pendingKey_advance (absent : a.requests.pendingKey ≠ some path) {step : Step H}
    (unasked : step ≠ .ask path) : (a.advance step).requests.pendingKey ≠ some path := by
  -- A request that is in the slot after the step was there before, or was made by it.
  intro pending
  by_cases asks : ∃ other, step = .ask other
  · obtain ⟨other, rfl⟩ := asks
    obtain rfl : other = path := Option.some.inj pending
    exact unasked rfl
  · obtain ⟨request, waits⟩ := Requests.pendingKey_eq_some_iff.mp pending
    have before := waiting_of_advance (fun other same => asks ⟨other, same⟩) waits
    exact absent (Requests.pendingKey_eq_some_iff.mpr ⟨request, before⟩)

/-- It stays so in a run of steps that ask for none. -/
theorem pendingKey_afterSteps (absent : a.requests.pendingKey ≠ some path) {steps : List (Step H)}
    (unasked : .ask path ∉ steps) : (a.afterSteps steps).requests.pendingKey ≠ some path := by
  -- What no step makes cannot come into the slot, whatever the earlier steps put there.
  induction steps generalizing a with
  | nil => exact absent
  | cons step rest ih =>
    have here : step ≠ .ask path := fun same => unasked (same ▸ List.mem_cons_self)
    exact ih (pendingKey_advance absent here) fun member => unasked (List.mem_cons_of_mem _ member)

end Slot

/-- While the prompt is shown, nobody asks for another device. -/
theorem promptSteps_unasked (a : Acquisition H) (path other : String) (prompt : Prompt H) :
    .ask other ∉ a.promptSteps path prompt := by
  -- The answers that come while it is shown are no operations, so that they ask for nothing.
  induction prompt generalizing a with
  | ended failure host => cases failure <;> simp [promptSteps]
  | answered answered granted host rest ih => simpa [promptSteps] using ih _ _ _

/-- While the prompt is shown, nobody asks for an outcome. -/
theorem answers_promptSteps (a : Acquisition H) (request : Nat) (path : String)
    (prompt : Prompt H) : a.answers request (a.promptSteps path prompt) = [] := by
  -- The answers that come while it is shown are no operations, so that nobody is told anything.
  induction prompt generalizing a with
  | ended failure host => cases failure <;> rfl
  | answered answered granted host rest ih => exact ih _ _ _

/-- Whatever happens while the prompt for a newer request is shown, the owner of the older one was
told nothing yet, and is told that it was superseded. -/
theorem poll_promptSteps {a : Acquisition H} (tracked : a.Tracked) {path : String} {request : Nat}
    (waits : a.requests.waiting = some (path, request)) (newer : String) (prompt : Prompt H) :
    (((a.ask newer).afterSteps ((a.ask newer).promptSteps newer prompt)).poll request).1 =
      some (.error .superseded) := by
  -- The older request is settled by the newer one, and whatever follows leaves it so.
  obtain ⟨n, course⟩ := tracked.outstanding waits
  have given : a.given? request (.ask newer) = some (.error .superseded) := by
    simp [given?, waits, Step.concerns, verdict?]
  have superseded : Course request (a.ask newer).requests [.error .superseded]
      (.replicate n none) := by
    have step := course_advance course (.ask newer)
    rw [given] at step
    simpa [answer?, advance] using step
  -- Answers that come while the prompt is shown find the newer request in the slot.
  have last := settled_afterSteps superseded ((a.ask newer).promptSteps newer prompt)
  rw [answers_promptSteps, List.append_nil] at last
  exact last.poll_of_untold

/-- A prompt leaves no request for another path. -/
theorem pendingKey_promptSteps {a : Acquisition H} {path newer : String} (other : newer ≠ path)
    (prompt : Prompt H) :
    ((a.ask newer).afterSteps ((a.ask newer).promptSteps newer prompt)).requests.pendingKey ≠
      some path := by
  -- The newer request is alone in the slot, and nobody asks for another one meanwhile.
  have asked : (a.ask newer).requests.pendingKey ≠ some path :=
    fun pending => other (Option.some.inj pending)
  exact pendingKey_afterSteps asked (promptSteps_unasked _ _ _ _)

/-- A grant closes the connection that is open, and leaves one to the path at most. -/
theorem permissionResult_closes {a : Acquisition H} {path : String} {handle : Handle}
    (pending : a.requests.pendingKey = some path) (held : a.handle = some handle)
    (other : handle.devicePath ≠ path) :
    (a.permissionResult path true).2.handle ≠ some handle ∧
      ∃ rest, (a.permissionResult path true).2.log =
        a.log ++ (a.host, .closed handle.fd handle.devicePath) :: rest := by
  -- The answer does what opening the granted path does: it closes what is open first.
  obtain ⟨after, log⟩ := onAnswer_of_pending pending true
  constructor
  · -- A connection that is open now is one to the path that was granted.
    rw [after]
    show (a.openNow path).2.handle ≠ some handle
    rcases a.openNow_cases path with ⟨fd, -, opened, -⟩ | ⟨-, refused, -⟩
    · rw [opened]
      rintro same
      exact other (congrArg Handle.devicePath (Option.some.inj same)).symm
    · simp [refused]
  · refine ⟨[a.opening path], log.trans ((a.log_openNow path).trans ?_)⟩
    simp [closing, held]

/-- When a device is asked for while a request for another path is outstanding, and the prompt for it
is shown, the owner of the older request is told that it was superseded, and no answer for its path
does anything until it is asked for again. When the device is opened at once, the older request stays
outstanding until something decides on it: a grant of it closes the connection that the owner of the
newer one was given. -/
theorem afterRun_superseded {host : H} {models : List DeviceId} {operations : List (Operation H)}
    {path : String} {request : Nat}
    (waits : (afterRun host models operations).requests.waiting = some (path, request))
    {opening : Operation H} {d : Descriptor}
    (wanted : (afterRun host models operations).wanted? opening = some d) (other : d.path ≠ path) :
    let a := afterRun host models operations
    let b := a.perform opening
    (∀ newer, (a.acquire d).1 = .ok (.pending newer) →
      (b.poll request).1 = some (.error .superseded) ∧
      ∀ later, .ask path ∉ b.allSteps later →
        let last := b.afterAll later
        ∀ granted, last.permissionResult path granted = (false, last)) ∧
    ∀ handle, (a.acquire d).1 = .ok (.ready handle) →
      b.handle = some handle ∧
      ∀ later, (∀ step ∈ b.allSteps later, step.concerns path = false) →
        let last := b.afterAll later
        let granted := last.permissionResult path true
        (last.poll request).1 = none ∧ granted.1 = true ∧
        (last.handle = some handle → granted.2.handle ≠ some handle ∧
          ∃ rest, granted.2.log =
            last.log ++ (last.host, .closed handle.fd handle.devicePath) :: rest) := by
  intro a b
  have tracked : a.Tracked := (new_tracked host models).afterAll operations
  refine ⟨?_, ?_⟩
  · -- Asking for the newer device takes the older request out of the slot.
    intro newer pending
    obtain ⟨-, performed⟩ := perform_of_pending wanted pending
    change _ = b at performed
    refine ⟨?_, ?_⟩
    · rw [← performed]
      exact poll_promptSteps tracked waits d.path _
    · intro later unasked last granted
      have still : last.requests.pendingKey ≠ some path := by
        have absent : b.requests.pendingKey ≠ some path := by
          rw [← performed]
          exact pendingKey_promptSteps other _
        have := pendingKey_afterSteps absent unasked
        rwa [afterSteps_allSteps] at this
      exact permissionResult_of_other still granted
  · -- Opening a device at once does not look at the slot.
    intro handle ready
    obtain ⟨outcome, done⟩ := acquire_of_ready ready
    have opened : b = (a.openNow d.path).2 := (perform_of_wanted wanted).1.trans done
    obtain ⟨fd, given, held, -⟩ := (a.openNow_cases d.path).resolve_right
      fun refused => by simp [outcome] at refused
    obtain rfl : handle = ⟨fd, d.path⟩ := Except.ok.inj (outcome.symm.trans given)
    refine ⟨by rw [opened]; exact held, ?_⟩
    intro later quiet last granted
    have kept : b.requests.waiting = some (path, request) := by
      rw [opened, requests_openNow]
      exact waits
    have here : b.Tracked := opened ▸ (tracked.afterSteps [.openNow d.path])
    obtain ⟨n, course⟩ := here.outstanding kept
    have still := (outstanding_afterSteps kept course quiet).1
    rw [afterSteps_allSteps] at still
    change last.requests.waiting = _ at still
    have pending := Requests.pendingKey_eq_some_iff.mpr ⟨request, still⟩
    refine ⟨?_, by rw [show granted = _ from permissionResult_of_pending pending true], ?_⟩
    · exact (here.afterAll later).poll_eq_none_iff.mpr (Requests.isWaiting_iff.mpr ⟨path, still⟩)
    · intro same
      exact permissionResult_closes pending same other

/-- A service with two dongles, for which the user is to be asked. -/
def twoDongles : Simulated.Service :=
  { devices := [⟨⟨0x0bda, 0x2838⟩, "first", none, none⟩, ⟨⟨0x0bda, 0x2832⟩, "second", none, none⟩] }

/-- The second dongle is asked for while the prompt for the first one is shown. The answer for the
first one comes when the second one is open, and does nothing. -/
theorem twoDongles_superseded :
    let a := afterRun twoDongles rtlSdrModels [.acquirePath "first"]
    let b := a.perform (.acquirePath "second")
    let last := b.afterAll
      [.hostChange (twoDongles.permit "second"), .permissionResult "second" true]
    a.requests.waiting = some ("first", 0) ∧ (b.poll 0).1 = some (.error .superseded) ∧
    last.handle = some ⟨20, "second"⟩ ∧ last.permissionResult "first" true = (false, last) := by
  -- That the older request is superseded and its answer ignored is the theorem, at this run.
  intro a b last
  let d : Descriptor := .ofAttached ⟨⟨0x0bda, 0x2832⟩, "second", none, none⟩ false
  have waits : a.requests.waiting = some ("first", 0) := by decide
  have wanted : a.wanted? (.acquirePath "second") = some d := by decide
  have pending : (a.acquire d).1 = .ok (.pending 1) := rfl
  obtain ⟨told, ignored⟩ := (afterRun_superseded waits wanted (by decide)).1 1 pending
  refine ⟨waits, told, by decide, ignored
    [.hostChange (twoDongles.permit "second"), .permissionResult "second" true] ?_ true⟩
  simp [allSteps, steps]

/-- The second dongle is opened at once while the prompt for the first one is shown. The owner of the
first request is told nothing, and a grant of it closes the second dongle. -/
theorem ready_leaves_request :
    let a := afterRun { twoDongles with permitted := ["second"] } rtlSdrModels [.acquirePath "first"]
    let b := a.perform (.acquirePath "second")
    let granted := b.permissionResult "first" true
    a.requests.waiting = some ("first", 0) ∧ b.handle = some ⟨20, "second"⟩ ∧
    (b.poll 0).1 = none ∧ granted.1 = true ∧ .closed 20 "second" ∈ granted.2.calls ∧
    granted.2.handle ≠ b.handle := by
  decide

end TunerControl.Usb.Acquisition
