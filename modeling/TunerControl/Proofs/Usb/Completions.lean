import TunerControl.Proofs.Usb.Connections
import TunerControl.Proofs.Usb.Steps

/-! A request for permission is settled by the first step that decides on it, and its owner is told
what the step says. -/

namespace TunerControl.Usb.Acquisition

open Requests (Course Effect)

variable {H : Type}

/-- Every request is on its course, and none is anywhere but in the slot. -/
structure Tracked (a : Acquisition H) : Prop where
  course : ∀ request, ∃ settled answered, Course request a.requests settled answered
  untaken : a.requests.taken = []

/-- A new acquisition was asked for nothing. -/
theorem new_tracked (host : H) (models : List DeviceId) :
    ({ host, models } : Acquisition H).Tracked :=
  ⟨fun _ => ⟨_, _, .unmade rfl rfl⟩, rfl⟩

/-- Asking has no answer exactly while a request is in the slot. -/
theorem Tracked.poll_eq_none_iff {a : Acquisition H} (tracked : a.Tracked) {request : Nat} :
    (a.poll request).1 = none ↔ a.requests.isWaiting request = true := by
  -- A request may also be in a resolver, but none is between two steps.
  obtain ⟨settled, answered, course⟩ := tracked.course request
  refine course.poll_eq_none_iff.trans ?_
  simp [tracked.untaken]

/-- The owner of a request in the slot was told nothing so far. -/
theorem Tracked.outstanding {a : Acquisition H} (tracked : a.Tracked) {path : String}
    {request : Nat} (waits : a.requests.waiting = some (path, request)) :
    ∃ n, Course request a.requests [] (.replicate n none) := by
  -- What is in the slot was given nothing, and whoever asks is told that.
  obtain ⟨settled, answered, course⟩ := tracked.course request
  obtain ⟨rfl, n, rfl⟩ := course.of_isWaiting (Requests.isWaiting_iff.mpr ⟨path, waits⟩)
  exact ⟨n, course⟩

/-- A request that is made now was given no outcome. -/
theorem Tracked.ask {a : Acquisition H} (tracked : a.Tracked) (path : String) :
    Course a.requests.channels.length (a.ask path).requests [] [] := by
  -- The next request is one that nobody has made so far.
  obtain ⟨settled, answered, course⟩ := tracked.course a.requests.channels.length
  exact course.arm path

/-- No failure to show a prompt is the first of some steps to decide on the request for a path. -/
def Shown (path : String) : List (Step H) → Prop
  | [] => True
  | step :: rest => (∀ other failure, step ≠ .askFailed other failure) ∧
      (step.concerns path = false → Shown path rest)

/-- What is shown first and what is shown next is shown. -/
theorem Shown.append {path : String} {earlier later : List (Step H)} (first : Shown path earlier)
    (last : Shown path later) : Shown path (earlier ++ later) := by
  -- The later steps matter only if none of the earlier ones decided.
  induction earlier with
  | nil => exact last
  | cons step rest ih => exact ⟨first.1, fun quiet => ih (first.2 quiet)⟩

/-- Where no prompt fails, none is the first to decide. -/
theorem Shown.of_forall {path : String} {steps : List (Step H)}
    (shown : ∀ other failure, .askFailed other failure ∉ steps) : Shown path steps := by
  -- The first step is no failure, and the steps after it are fewer.
  induction steps with
  | nil => trivial
  | cons step rest ih =>
    refine ⟨?_, fun _ => ih fun other failure member => ?_⟩
    · rintro other failure rfl
      exact shown other failure List.mem_cons_self
    · exact shown other failure (List.mem_cons_of_mem step member)

/-- The first step that decides is not a failure to show a prompt. -/
theorem Shown.decides {path : String} {earlier later : List (Step H)} {step : Step H}
    (shown : Shown path (earlier ++ step :: later))
    (quiet : ∀ passed ∈ earlier, passed.concerns path = false) :
    ∀ other failure, step ≠ .askFailed other failure := by
  -- The steps that do not decide are passed by, until the one that does comes first.
  induction earlier with
  | nil => exact shown.1
  | cons passed rest ih =>
    exact ih (shown.2 (quiet passed List.mem_cons_self))
      fun other member => quiet other (List.mem_cons_of_mem passed member)

variable [Host H]

/-- What a step says to the request that it decides on. -/
def verdict? (a : Acquisition H) : Step H → Option (Outcome Handle)
  | .ask _ => some (.error .superseded)
  | .askFailed _ failure | .failPending _ failure => some (.error failure)
  | .permissionResult path granted => some (a.onAnswer path granted).1
  | .reset => some (.error (.invalidState "USB acquisition reset"))
  | _ => none

/-- The outcome that a step gives to a request. -/
def given? (a : Acquisition H) (request : Nat) (step : Step H) : Option (Outcome Handle) :=
  a.requests.waiting.bind fun entry =>
    if entry.2 = request ∧ step.concerns entry.1 = true then a.verdict? step else none

section Given

variable {a : Acquisition H} {request : Nat} {step : Step H}

/-- A step that says nothing gives nothing to a request. -/
theorem given?_of_silent (silent : a.verdict? step = none) : a.given? request step = none := by
  -- A request is given only what the step says to whatever is in the slot.
  unfold given?
  cases a.requests.waiting with
  | none => rfl
  | some entry => simp [silent]

/-- Some steps are for one path, and decide on the request in the slot if that is for it. -/
theorem given?_of_keyed {path : String} {outcome : Outcome Handle}
    (verdict : a.verdict? step = some outcome)
    (concerns : ∀ armed, step.concerns armed = decide (path = armed)) :
    a.given? request step =
      if a.requests.waiting = some (path, request) then some outcome else none := by
  -- The request must be in the slot, and under the path of the step.
  unfold given?
  cases a.requests.waiting with
  | none => simp
  | some entry =>
    obtain ⟨armed, number⟩ := entry
    simp [verdict, concerns, and_comm, eq_comm]

/-- The others decide on whatever is in the slot. -/
theorem given?_of_keyless {outcome : Outcome Handle} (verdict : a.verdict? step = some outcome)
    (concerns : ∀ armed, step.concerns armed = true) :
    a.given? request step = if a.requests.isWaiting request then some outcome else none := by
  -- The request must only be in the slot.
  unfold given? Requests.isWaiting
  cases a.requests.waiting with
  | none => simp
  | some entry => simp [verdict, concerns]

end Given

/-- A step settles the request in the slot if it decides on it, and no other. -/
theorem advance_effect {a : Acquisition H} {request : Nat} (once : a.requests.senders request ≤ 1)
    (made : a.requests.channels[request]? = none → a.requests.senders request = 0)
    (step : Step H) :
    Effect request a.requests (a.advance step).requests (a.given? request step)
      (a.answer? request step) := by
  -- What a step does to the requests is one of the operations on them, or nothing.
  rw [requests_advance]
  cases step with
  | ask path =>
    rw [given?_of_keyless rfl fun _ => rfl]
    exact Requests.arm_effect once made path
  | askFailed path failure =>
    rw [given?_of_keyed rfl fun _ => rfl]
    exact Requests.resolveFor_effect once path _
  | permissionResult path granted =>
    rw [given?_of_keyed rfl fun _ => rfl]
    exact Requests.resolveFor_effect once path _
  | failPending path failure =>
    rw [given?_of_keyed rfl fun _ => rfl]
    exact Requests.resolveFor_effect once path _
  | reset =>
    rw [given?_of_keyless rfl fun _ => rfl]
    exact Requests.resolve_effect once _
  | poll asked =>
    rw [given?_of_silent rfl]
    exact Requests.poll_effect asked
  | _ =>
    rw [given?_of_silent rfl]
    exact .untouched rfl rfl

/-- A step that does not decide on the request in the slot leaves it there. -/
theorem waiting_of_unconcerned {a : Acquisition H} {step : Step H} {path : String} {request : Nat}
    (waits : a.requests.waiting = some (path, request)) (quiet : step.concerns path = false) :
    (a.advance step).requests.waiting = some (path, request) := by
  -- An outcome for another path finds no request to settle.
  have kept : ∀ other outcome, decide (other = path) = false →
      (a.requests.resolveFor other outcome).2.waiting = some (path, request) := by
    intro other outcome different
    have elsewhere : a.requests.pendingKey ≠ some other := by
      intro same
      have both : path = other := by simpa [Requests.pendingKey, waits] using same
      simp [both] at different
    rw [Requests.resolveFor_of_other elsewhere]
    exact waits
  rw [requests_advance]
  cases step with
  | ask path => simp [Step.concerns] at quiet
  | askFailed other failure => exact kept other _ quiet
  | permissionResult other granted => exact kept other _ quiet
  | failPending other failure => exact kept other _ quiet
  | reset => simp [Step.concerns] at quiet
  | poll asked => exact (a.requests.waiting_poll asked).trans waits
  | _ => exact waits

/-- No request is anywhere but in the slot between two steps. -/
theorem taken_advance {a : Acquisition H} (untaken : a.requests.taken = []) (step : Step H) :
    (a.advance step).requests.taken = [] := by
  -- A step that takes a request out of the slot has settled it when it ends.
  rw [requests_advance]
  cases step with
  | ask path => exact (a.requests.taken_arm path).trans untaken
  | askFailed path failure => exact Requests.taken_resolveFor untaken path _
  | permissionResult path granted => exact Requests.taken_resolveFor untaken path _
  | failPending path failure => exact Requests.taken_resolveFor untaken path _
  | reset => exact Requests.taken_resolve untaken _
  | poll asked => exact (a.requests.taken_poll asked).trans untaken
  | _ => exact untaken

/-- A step brings each request further on its course. -/
theorem course_advance {a : Acquisition H} {request : Nat} {settled : List (Outcome Handle)}
    {answered : List (Option (Outcome Handle))} (course : Course request a.requests settled answered)
    (step : Step H) :
    Course request (a.advance step).requests (settled ++ (a.given? request step).toList)
      (answered ++ (a.answer? request step).toList) :=
  -- It is the effect of the step that brings it on.
  course.step (advance_effect course.once course.made step)

/-- All requests stay tracked in a run of steps. -/
theorem Tracked.afterSteps {a : Acquisition H} (tracked : a.Tracked) (steps : List (Step H)) :
    (a.afterSteps steps).Tracked := by
  -- Each step brings every request on, and leaves none outside the slot.
  refine afterSteps_rule tracked ?_ steps
  intro b step tracked
  refine ⟨fun request => ?_, taken_advance tracked.untaken step⟩
  obtain ⟨settled, answered, course⟩ := tracked.course request
  exact ⟨_, _, course_advance course step⟩

/-- So they do in a run of operations. -/
theorem Tracked.afterAll {a : Acquisition H} (tracked : a.Tracked)
    (operations : List (Operation H)) : (a.afterAll operations).Tracked := by
  -- An operation does what its steps do.
  rw [← afterSteps_allSteps]
  exact tracked.afterSteps _

section Runs

variable {a : Acquisition H} {path : String} {request : Nat}
  {answered : List (Option (Outcome Handle))}

/-- What an owner is told in a run is what they are told in its parts. -/
theorem answers_append (a : Acquisition H) (request : Nat) (earlier later : List (Step H)) :
    a.answers request (earlier ++ later) =
      a.answers request earlier ++ (a.afterSteps earlier).answers request later := by
  -- By induction on the first part, as the second one goes on from where it leads.
  induction earlier generalizing a with
  | nil => rfl
  | cons step rest ih =>
    rw [List.cons_append, answers, answers, ih, List.append_assoc]
    rfl

/-- A request stays outstanding as long as no step decides on it. -/
theorem outstanding_afterSteps {steps : List (Step H)}
    (waits : a.requests.waiting = some (path, request))
    (course : Course request a.requests [] answered)
    (quiet : ∀ step ∈ steps, step.concerns path = false) :
    (a.afterSteps steps).requests.waiting = some (path, request) ∧
      Course request (a.afterSteps steps).requests [] (answered ++ a.answers request steps) := by
  -- The induction is on the steps, and carries the slot and the course of the request along.
  induction steps generalizing a answered with
  | nil => exact ⟨waits, by simpa [answers, afterSteps] using course⟩
  | cons step rest ih =>
    have passes := quiet step List.mem_cons_self
    have next := course_advance course step
    have nothing : a.given? request step = none := by simp [given?, waits, passes]
    rw [nothing] at next
    obtain ⟨still, last⟩ := ih (waiting_of_unconcerned waits passes) next
      fun other member => quiet other (List.mem_cons_of_mem step member)
    rw [List.append_assoc] at last
    exact ⟨still, last⟩

/-- Whatever is done after a request was settled, it was given that one outcome. -/
theorem settled_afterSteps {outcome : Outcome Handle}
    (course : Course request a.requests [outcome] answered) (steps : List (Step H)) :
    Course request (a.afterSteps steps).requests [outcome]
      (answered ++ a.answers request steps) := by
  -- By induction on the steps, none of which gives the request anything more.
  induction steps generalizing a answered with
  | nil => simpa [answers, afterSteps] using course
  | cons step rest ih =>
    have next := course_advance course step
    have nothing : a.given? request step = none := by
      -- The request has left the slot, and whatever is there now is another one.
      have elsewhere := course.isWaiting_of_settled
      unfold Requests.isWaiting at elsewhere
      unfold given?
      cases slot : a.requests.waiting with
      | none => rfl
      | some entry =>
        rw [slot, Option.any_some, decide_eq_false_iff_not] at elsewhere
        exact if_neg fun both => elsewhere both.1
    rw [nothing] at next
    have last := ih next
    rw [List.append_assoc] at last
    exact last

end Runs

/-- How the request for a path is settled by a step, and what the step does about the device. -/
inductive Settles (a : Acquisition H) (path : String) : Step H → Outcome Handle → Prop where
  | granted (handle : Handle) (named : handle.devicePath = path)
      (held : (a.advance (.permissionResult path true)).handle = some handle)
      (opened : (a.advance (.permissionResult path true)).log =
        a.close.log ++ [(a.close.host, .opened path handle.fd)]) :
      Settles a path (.permissionResult path true) (.ok handle)
  | refused (held : (a.advance (.permissionResult path true)).handle = none)
      (refused : (a.advance (.permissionResult path true)).log =
        a.close.log ++ [(a.close.host, .refused path)]) :
      Settles a path (.permissionResult path true) (.error (.openFailed path))
  | denied (held : (a.advance (.permissionResult path false)).handle = a.handle)
      (unopened : (a.advance (.permissionResult path false)).log = a.log) :
      Settles a path (.permissionResult path false) (.error .permissionDenied)
  | failed (failure : Failure) (held : (a.advance (.failPending path failure)).handle = a.handle)
      (unopened : (a.advance (.failPending path failure)).log = a.log) :
      Settles a path (.failPending path failure) (.error failure)
  | superseded (newer : String) : Settles a path (.ask newer) (.error .superseded)
  | cancelled : Settles a path .reset (.error (.invalidState "USB acquisition reset"))

/-- Opening gives the connection that is held from then on, or nothing is held. -/
theorem openNow_cases (a : Acquisition H) (path : String) :
    (∃ fd, (a.openNow path).1 = .ok ⟨fd, path⟩ ∧ (a.openNow path).2.handle = some ⟨fd, path⟩ ∧
      (a.openNow path).2.log = a.close.log ++ [(a.close.host, .opened path fd)]) ∨
    (a.openNow path).1 = .error (.openFailed path) ∧ (a.openNow path).2.handle = none ∧
      (a.openNow path).2.log = a.close.log ++ [(a.close.host, .refused path)] := by
  -- The connection that was open is closed in either case.
  unfold openNow
  dsimp only
  split
  · exact Or.inr ⟨rfl, a.handle_close, rfl⟩
  · exact Or.inl ⟨_, rfl, rfl, rfl⟩

/-- What a step says to the request that it decides on is how the request is settled. A prompt that
could not be shown is left out, since nobody waits for the answer to it. -/
theorem settles_of_concerns {a : Acquisition H} {path : String} {step : Step H}
    (pending : a.requests.pendingKey = some path) (concerns : step.concerns path = true)
    (shown : ∀ other failure, step ≠ .askFailed other failure) :
    ∃ outcome, a.verdict? step = some outcome ∧ a.Settles path step outcome := by
  -- Two kinds of steps decide on any request; those for a path can only be for the pending one.
  cases step with
  | ask newer => exact ⟨_, rfl, .superseded newer⟩
  | reset => exact ⟨_, rfl, .cancelled⟩
  | askFailed other failure => exact absurd rfl (shown other failure)
  | failPending other failure =>
    obtain rfl : other = path := of_decide_eq_true concerns
    have same : a.advance (.failPending other failure) = a.askFailed other failure :=
      congrArg Prod.snd (failPending_of_pending pending failure)
    refine ⟨.error failure, rfl, .failed failure ?_ ?_⟩
    · rw [same]
      rfl
    · rw [same]
      rfl
  | permissionResult other granted =>
    obtain rfl : other = path := of_decide_eq_true concerns
    obtain ⟨held, log⟩ := onAnswer_of_pending pending granted
    cases granted with
    | false => exact ⟨.error .permissionDenied, rfl, .denied held log⟩
    | true =>
      -- The service may still refuse to open what the user granted.
      rcases a.openNow_cases other with ⟨fd, outcome, opened, calls⟩ | ⟨outcome, closed, calls⟩
      · exact ⟨.ok ⟨fd, other⟩, congrArg some outcome,
          .granted _ rfl (held.trans opened) (log.trans calls)⟩
      · exact ⟨.error (.openFailed other), congrArg some outcome,
          .refused (held.trans closed) (log.trans calls)⟩
  | _ => simp [Step.concerns] at concerns

/-- A prompt that cannot be shown was asked for by the same operation, which decides on every request
that was in the slot before. -/
theorem acquireSteps_shown (a : Acquisition H) (path : String) (d : Descriptor) :
    Shown path (a.acquireSteps d) := by
  rcases a.acquire_cases d with ⟨-, -, none_⟩ | ⟨-, -, one⟩ | ⟨-, -, many⟩
  · rw [none_]
    trivial
  · -- The one step opens the device, and no prompt is shown.
    rw [one]
    exact ⟨nofun, fun _ => trivial⟩
  · -- Asking comes first, and decides on any request.
    rw [many]
    exact ⟨nofun, nofun⟩

/-- So it is with every operation. -/
theorem steps_shown (a : Acquisition H) (path : String) (operation : Operation H) :
    Shown path (a.steps operation) := by
  -- Only what opens a device shows prompts.
  rcases a.steps_cases operation with none_ | ⟨d, acquiring⟩ | ⟨step, one, -, shown⟩
  · rw [none_]
    trivial
  · rw [acquiring]
    exact a.acquireSteps_shown path d
  · rw [one]
    exact ⟨shown, fun _ => trivial⟩

/-- So it is with a run of them. -/
theorem allSteps_shown (a : Acquisition H) (path : String) (operations : List (Operation H)) :
    Shown path (a.allSteps operations) := by
  -- What is shown by the first operation comes before what the others show.
  induction operations generalizing a with
  | nil => trivial
  | cons operation rest ih => exact (a.steps_shown path operation).append (ih _)

/-- A request that an operation reports as outstanding was made by its first step, for a prompt that
was shown. -/
theorem acquireSteps_of_pending {a : Acquisition H} {d : Descriptor} {request : Nat}
    (pending : (a.acquire d).1 = .ok (.pending request)) :
    let own := (a.ask d.path).promptSteps d.path (Host.prompt a.host d.path)
    a.acquireSteps d = .ask d.path :: own ∧ request = a.requests.channels.length ∧
      ∀ other failure, .askFailed other failure ∉ own := by
  -- Neither a refusal nor an open device is reported as outstanding.
  rcases a.acquire_cases d with ⟨failure, done, -⟩ | ⟨-, done, -⟩ | ⟨-, done, many⟩
  · simp [done] at pending
  · rw [done] at pending
    cases opened : (a.openNow d.path).1 with
    | error failure => simp [opened, Except.map] at pending
    | ok handle => simp [opened, Except.map] at pending
  · rw [done] at pending
    cases shown : (a.ask d.path).converse (Host.prompt a.host d.path) with
    | mk failure b =>
      rw [shown] at pending
      cases failure with
      | some failure => simp at pending
      | none =>
        exact ⟨many, by simpa [eq_comm] using pending, promptSteps_failed (congrArg Prod.fst shown)⟩

/-- Such an operation does what is done from asking on. -/
theorem perform_of_pending {a : Acquisition H} {opening : Operation H} {d : Descriptor}
    {request : Nat} (wanted : a.wanted? opening = some d)
    (pending : (a.acquire d).1 = .ok (.pending request)) :
    let own := (a.ask d.path).promptSteps d.path (Host.prompt a.host d.path)
    a.steps opening = .ask d.path :: own ∧ (a.ask d.path).afterSteps own = a.perform opening := by
  -- What asks is the first of the steps, and the others follow from where it leads.
  have asks := (perform_of_wanted wanted).2.trans (acquireSteps_of_pending pending).1
  refine ⟨asks, ?_⟩
  rw [← afterSteps_steps, asks]
  rfl

/-- A device that is ready was opened at once. -/
theorem acquire_of_ready {a : Acquisition H} {d : Descriptor} {handle : Handle}
    (ready : (a.acquire d).1 = .ok (.ready handle)) :
    (a.openNow d.path).1 = .ok handle ∧ (a.acquire d).2 = (a.openNow d.path).2 := by
  -- Neither a refusal nor a prompt gives a device.
  rcases a.acquire_cases d with ⟨failure, done, -⟩ | ⟨-, done, -⟩ | ⟨-, done, -⟩
  · simp [done] at ready
  · rw [done] at ready
    refine ⟨?_, congrArg Prod.snd done⟩
    cases opened : (a.openNow d.path).1 with
    | error failure => simp [opened, Except.map] at ready
    | ok held => simpa [opened, Except.map] using ready
  · rw [done] at ready
    cases shown : (a.ask d.path).converse (Host.prompt a.host d.path) with
    | mk failure b => cases failure <;> simp [shown] at ready

/-- A failure that is reported to the request in the slot is what its owner is told, and nothing else
changes but the phase. -/
theorem Tracked.askFailed {a : Acquisition H} (tracked : a.Tracked) {path : String} {request : Nat}
    (waits : a.requests.waiting = some (path, request)) (failure : Failure) :
    let after := a.askFailed path failure
    (after.poll request).1 = some (.error failure) ∧ after.requests.waiting = none ∧
      after.handle = a.handle ∧ after.host = a.host ∧ after.log = a.log := by
  -- The failure settles the request in the slot, whose owner was told nothing before.
  intro after
  have pending := Requests.pendingKey_eq_some_iff.mpr ⟨request, waits⟩
  refine ⟨?_, ?_, rfl, rfl, rfl⟩
  · obtain ⟨n, course⟩ := tracked.outstanding waits
    have failed := course_advance course (.askFailed path failure)
    rw [given?_of_keyed rfl fun _ => rfl, if_pos waits] at failed
    exact (List.append_nil _ ▸ failed).poll_of_untold
  · show (a.requests.resolveFor path (.error failure)).2.waiting = none
    rw [Requests.resolveFor_of_pending pending]
    exact Requests.waiting_resolve _ _

section Outcomes

variable {a : Acquisition H} {path : String} {request : Nat}

/-- Until a step decides on it, a request is outstanding, and its owner is told nothing. -/
theorem told_of_unconcerned {steps : List (Step H)}
    (waits : a.requests.waiting = some (path, request)) (course : Course request a.requests [] [])
    (quiet : ∀ step ∈ steps, step.concerns path = false) :
    (a.afterSteps steps).requests.waiting = some (path, request) ∧
      ∃ n, a.answers request steps ++ [((a.afterSteps steps).poll request).1] =
        .replicate n none := by
  -- The request stays in the slot, and whoever asks for it is told that it is outstanding.
  obtain ⟨still, last⟩ := outstanding_afterSteps waits course quiet
  exact ⟨still, last.told_of_isWaiting (Requests.isWaiting_iff.mpr ⟨path, still⟩)⟩

/-- The first step that decides on a request settles it, and its owner is told that outcome once,
whatever is done later. -/
theorem told_of_concerned {earlier later : List (Step H)} {step : Step H}
    (waits : a.requests.waiting = some (path, request)) (course : Course request a.requests [] [])
    (quiet : ∀ passed ∈ earlier, passed.concerns path = false)
    (concerns : step.concerns path = true)
    (shown : ∀ other failure, step ≠ .askFailed other failure) :
    (a.afterSteps earlier).requests.waiting = some (path, request) ∧
      ∃ outcome n m, (a.afterSteps earlier).Settles path step outcome ∧
        a.answers request (earlier ++ step :: later) ++
            [((a.afterSteps (earlier ++ step :: later)).poll request).1] =
          .replicate n none ++ some outcome :: .replicate m (some (.error abandoned)) := by
  -- Up to the step the request is outstanding, and the step decides on it.
  obtain ⟨still, found⟩ := outstanding_afterSteps waits course quiet
  obtain ⟨outcome, verdict, settles⟩ := settles_of_concerns
    (Requests.pendingKey_eq_some_iff.mpr ⟨request, still⟩) concerns shown
  have given : (a.afterSteps earlier).given? request step = some outcome := by
    simp [given?, still, concerns, verdict]
  have settled := course_advance found step
  rw [given] at settled
  -- Whatever comes later tells the owner of no other outcome.
  have last := settled_afterSteps settled later
  obtain ⟨n, m, told⟩ := last.told_of_settled
  refine ⟨still, outcome, n, m, settles, ?_⟩
  rw [answers_append, answers, afterSteps_append, ← List.append_assoc]
  exact told

end Outcomes

/-- At every point of a run at most one request is outstanding, and an answer or a failure for a
path that no request is outstanding for does nothing. A request that an operation reports as
outstanding was made by the first step of the operation. It stays outstanding until a step decides on
it, be that from inside the prompt or later; its owner is told the outcome that the step gives it,
once and not before: the device that is open from then on, that opening it was refused, that the
user denied it, the failure that was reported, that a newer request took its place, or that all was
reset. -/
theorem afterRun_completions (host : H) (models : List DeviceId) (operations : List (Operation H)) :
    let start : Acquisition H := { host, models }
    (∀ earlier later, start.allSteps operations = earlier ++ later →
      let a := start.afterSteps earlier
      (∀ request other, (a.poll request).1 = none → (a.poll other).1 = none → request = other) ∧
      ∀ path, a.requests.pendingKey ≠ some path →
        (∀ granted, a.permissionResult path granted = (false, a)) ∧
        ∀ failure, a.failPending path failure = (false, a)) ∧
    let a := afterRun host models operations
    ∀ opening d request, a.wanted? opening = some d → (a.acquire d).1 = .ok (.pending request) →
      ∃ own, a.steps opening = .ask d.path :: own ∧ ∀ later,
        let asked := a.ask d.path
        let steps := own ++ (a.perform opening).allSteps later
        let last := (a.perform opening).afterAll later
        let told := asked.answers request steps ++ [(last.poll request).1]
        asked.afterSteps steps = last ∧
        ((∀ step ∈ steps, step.concerns d.path = false) →
          last.requests.waiting = some (d.path, request) ∧ ∃ n, told = .replicate n none) ∧
        ∀ earlier step rest, steps = earlier ++ step :: rest →
          (∀ passed ∈ earlier, passed.concerns d.path = false) → step.concerns d.path = true →
          let found := asked.afterSteps earlier
          found.requests.waiting = some (d.path, request) ∧
          ∃ outcome n m, found.Settles d.path step outcome ∧
            told = .replicate n none ++ some outcome :: .replicate m (some (.error abandoned)) := by
  intro start
  have tracked : start.Tracked := new_tracked host models
  refine ⟨fun earlier later split => ⟨fun request other asking another => ?_, fun path other =>
    ⟨permissionResult_of_other other, failPending_of_other other⟩⟩, ?_⟩
  · -- Both requests are in the slot, which holds one.
    have here := tracked.afterSteps earlier
    obtain ⟨key, first⟩ := Requests.isWaiting_iff.mp (here.poll_eq_none_iff.mp asking)
    obtain ⟨other, second⟩ := Requests.isWaiting_iff.mp (here.poll_eq_none_iff.mp another)
    exact (Prod.mk.inj (Option.some.inj (first.symm.trans second))).2
  · intro a opening d request wanted pending
    have ready : a.Tracked := tracked.afterAll operations
    obtain ⟨asks, performed⟩ := perform_of_pending wanted pending
    obtain ⟨-, rfl, promptShown⟩ := acquireSteps_of_pending pending
    refine ⟨_, asks, ?_⟩
    intro later asked steps last told
    -- The steps inside the prompt and those of later operations are one run.
    have same : asked.afterSteps steps = last := by
      rw [afterSteps_append, performed]
      exact afterSteps_allSteps _ later
    have waits : asked.requests.waiting = some (d.path, a.requests.channels.length) := rfl
    have course := ready.ask d.path
    have told_eq : told = asked.answers a.requests.channels.length steps ++
        [((asked.afterSteps steps).poll a.requests.channels.length).1] := by rw [same]
    refine ⟨same, ?_, ?_⟩
    · intro quiet
      rw [told_eq, ← same]
      exact told_of_unconcerned waits course quiet
    · intro earlier step rest split quiet concerns found
      have shown : Shown d.path steps :=
        (Shown.of_forall promptShown).append (allSteps_shown _ d.path later)
      rw [split] at shown
      -- The step that decides is not a failure to show a prompt, so that it settles the request.
      rw [told_eq, split]
      exact told_of_concerned waits course quiet concerns (shown.decides quiet)

/-- A service with one dongle that leaves prompts to be answered later. -/
def patientService : Simulated.Service :=
  { devices := [⟨⟨0x0bda, 0x2838⟩, "dongle", none, none⟩] }

/-- The owner of a request asks too early, and then again once the user granted it: they are told the
device that is open. -/
theorem patientService_completions :
    let a : Acquisition Simulated.Service := afterRun patientService rtlSdrModels []
    let d : Descriptor := .ofAttached ⟨⟨0x0bda, 0x2838⟩, "dongle", none, none⟩ false
    let found := (a.ask "dongle").afterSteps
      [.hostChange patientService, .poll 0, .hostChange (patientService.permit "dongle")]
    a.wanted? (.acquirePath "dongle") = some d ∧ (a.acquire d).1 = .ok (.pending 0) ∧
    found.requests.waiting = some ("dongle", 0) ∧
    found.Settles "dongle" (.permissionResult "dongle" true) (.ok ⟨20, "dongle"⟩) ∧
    (found.advance (.permissionResult "dongle" true)).handle = some ⟨20, "dongle"⟩ := by
  -- The theorem says that one outcome is told, and the step that decides shows which.
  intro a d found
  let later : List (Operation Simulated.Service) :=
    [.poll 0, .hostChange (patientService.permit "dongle"), .permissionResult "dongle" true]
  have wanted : a.wanted? (.acquirePath "dongle") = some d := by decide
  have pending : (a.acquire d).1 = .ok (.pending 0) := rfl
  obtain ⟨own, asks, outcomes⟩ := (afterRun_completions patientService rtlSdrModels []).2
    (.acquirePath "dongle") d 0 wanted pending
  obtain rfl : own = [.hostChange patientService] := (List.cons.inj asks).2.symm
  obtain ⟨waits, outcome, n, m, settles, told⟩ := (outcomes later).2.2
    [.hostChange patientService, .poll 0, .hostChange (patientService.permit "dongle")]
    (.permissionResult "dongle" true) [] rfl (by simp [Step.concerns]) (by decide)
  -- What the owner is told shows which outcome it is.
  have member : some outcome ∈ [none, some (.ok (⟨20, "dongle"⟩ : Handle))] := by
    refine (congrArg (some outcome ∈ ·) told).mpr ?_
    simp
  obtain rfl : outcome = .ok ⟨20, "dongle"⟩ := by simpa using member
  exact ⟨wanted, pending, waits, settles, rfl⟩

end TunerControl.Usb.Acquisition
