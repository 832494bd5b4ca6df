import TunerControl.Proofs.Session.Reporting

/-! The owner of a request for a session is told what the driver reported for that very session, or why
it never will. -/

namespace TunerControl.Session.Controller

open Requests (Course)
open Usb (Host)

variable {H G D : Type} {c : Controller H G D} {request session : Nat}
  {answered : List (Option (Outcome Unit))}

/-- A report makes no difference to the owner of a request that is not in the slot for its session. -/
theorem pollInit_initReported (elsewhere : c.inits.waiting ≠ some (session, request))
    (report : Except String Unit) :
    ((c.initReported session report).pollInit request).1 = (c.pollInit request).1 := by
  -- The owner looks at the channel of the request alone, which the report does not touch.
  have channel : (c.initReported session report).inits.channels[request]? =
      c.inits.channels[request]? := by
    rw [inits_initReported]
    cases there : c.inits.isWaiting request with
    | false => exact (Requests.resolveFor_elsewhere there session _).1
    | true =>
      -- The request is in the slot, but for another session.
      obtain ⟨key, waits⟩ := Requests.isWaiting_iff.mp there
      have different : key ≠ session := by
        rintro rfl
        exact elsewhere waits
      have other : c.inits.pendingKey ≠ some session := by
        simpa [Requests.pendingKey, waits] using different
      rw [Requests.resolveFor_of_other other]
  simp only [pollInit, Requests.poll]
  rw [channel]
  cases c.inits.channels[request]? <;> rfl

/-- The owner of a request that was given an outcome is told it once, and no report makes a difference
to that. -/
theorem told_of_settled {outcome : Outcome Unit}
    (course : Course request c.inits [outcome] answered) :
    (∀ other report, ((c.initReported other report).pollInit request).1 =
      (c.pollInit request).1) ∧
    ∃ n m, answered ++ [(c.pollInit request).1] =
      .replicate n none ++ some outcome :: .replicate m (some (.error abandoned)) := by
  -- The course of the request says what its owner is told.
  refine ⟨fun other report => pollInit_initReported (fun waits => ?_) report, course.told_of_settled⟩
  -- The request is not in the slot any more.
  have there := Requests.isWaiting_iff.mpr ⟨other, waits⟩
  exact Bool.noConfusion (course.isWaiting_of_settled.symm.trans there)

variable [Host H] [Engine G] [HackRfDriver D]

/-- Once initialised, the driver is for ever. -/
theorem ready_afterAll (was : c.ready = true) (later : List (Operation H G D)) :
    (c.afterAll later).ready = true := by
  -- No operation makes the driver forget that it is initialised.
  refine afterAll_rule (P := fun d => d.ready = true) was ?_ later
  intro d operation ready
  exact (d.perform_reporting operation).ready_of_ready ready

/-- Whatever is done after a request was settled, it was given that one outcome. -/
theorem settled_afterAll {outcome : Outcome Unit} (course : Course request c.inits [outcome] answered)
    (later : List (Operation H G D)) :
    Course request (c.afterAll later).inits [outcome] (answered ++ c.initAnswers request later) := by
  -- Each operation brings the request on its course, and none gives it another outcome.
  -- What is not in the slot is given nothing more.
  induction later generalizing c answered with
  | nil => simpa [initAnswers, afterAll] using course
  | cons operation rest ih =>
    have made := course.lt_length (Or.inr (List.cons_ne_nil _ _))
    have next := course.step ((c.perform_reporting operation).effect course made)
    rw [initGiven?_of_elsewhere course.isWaiting_of_settled] at next
    have last := ih next
    rw [List.append_assoc] at last
    exact last

/-- A request stays in the slot until an operation says something to its session, and is given what
the first one says. -/
theorem waiting_afterAll (waits : c.inits.waiting = some (session, request))
    (course : Course request c.inits [] answered) (later : List (Operation H G D)) :
    let last := c.afterAll later
    let told := answered ++ c.initAnswers request later
    last.inits.waiting = some (session, request) ∧ Course request last.inits [] told ∨
    ∃ earlier operation rest outcome, later = earlier ++ operation :: rest ∧
      (c.afterAll earlier).inits.waiting = some (session, request) ∧
      (c.afterAll earlier).initVerdict? session operation = some outcome ∧
      (outcome = .ok () → last.ready = true) ∧ Course request last.inits [outcome] told := by
  -- The induction is on the operations, and carries the slot and the course of the request along.
  induction later generalizing c answered with
  | nil => exact Or.inl ⟨waits, by simpa [initAnswers, afterAll] using course⟩
  | cons operation rest ih =>
    have change := c.perform_reporting operation
    have made := course.lt_length (Or.inl (Requests.isWaiting_iff.mpr ⟨session, waits⟩))
    have next := course.step (change.effect course made)
    rw [initGiven?_of_waiting waits] at next
    cases verdict : c.initVerdict? session operation with
    | some outcome =>
      rw [verdict] at next
      have last := settled_afterAll next rest
      rw [List.append_assoc] at last
      refine Or.inr ⟨[], operation, rest, outcome, rfl, waits, verdict, ?_, last⟩
      rintro rfl
      exact ready_afterAll (change.ready_of_verdict verdict) rest
    | none =>
      rw [verdict] at next
      have still := change.waiting_of_silent waits verdict
      rcases ih still next with ⟨there, last⟩ | ⟨earlier, other, left, outcome, split, found⟩
      · rw [List.append_assoc] at last
        exact Or.inl ⟨there, last⟩
      · rw [List.append_assoc] at found
        exact Or.inr ⟨operation :: earlier, other, left, outcome, congrArg _ split, found⟩

/-- Every request is on its course after every run. -/
theorem afterRun_courses (usb : Usb.Acquisition H) (engine : G) (driver : Option D)
    (config : PipelineConfig) (operations : List (Operation H G D)) (request : Nat) :
    ∃ settled answered,
      Course request (afterRun usb engine driver config operations).inits settled answered := by
  -- At first no request was made, and every operation brings each on its course.
  refine afterAll_rule (P := fun d => ∃ settled answered, Course request d.inits settled answered)
    ⟨_, _, .unmade rfl rfl⟩ ?_ operations
  rintro d operation ⟨settled, answered, course⟩
  exact (d.perform_reporting operation).course course

/-- In every state that a run can lead to, a report settles the request in the slot if it is for the very
session of that request: its owner is told what was reported, the slot is empty, and the driver is
initialised if it says so. -/
theorem afterRun_report_settles (usb : Usb.Acquisition H) (engine : G) (driver : Option D)
    (config : PipelineConfig) (operations : List (Operation H G D)) (report : Except String Unit)
    (waits : (afterRun usb engine driver config operations).inits.waiting =
      some (session, request)) :
    let c := afterRun usb engine driver config operations
    let after := c.initReported session report
    (after.pollInit request).1 = some (reportOutcome report) ∧ after.inits.waiting = none ∧
      after.ready = (c.ready || report.isOk) := by
  intro c after
  obtain ⟨settled, answered, course⟩ :=
    afterRun_courses usb engine driver config operations request
  have sent : after.inits = (c.inits.resolveFor session (reportOutcome report)).2 :=
    inits_initReported c session report
  refine ⟨?_, ?_, ready_initReported c session report⟩
  · -- The report goes to the one sender of the request, which is in the slot under this session.
    have given := course.step (Requests.resolveFor_effect course.once session (reportOutcome report))
    rw [if_pos waits, ← sent] at given
    -- A request that waits was given nothing before, so that its owner was told nothing.
    obtain ⟨rfl, n, rfl⟩ := course.of_isWaiting (Requests.isWaiting_iff.mpr ⟨session, waits⟩)
    simp only [Option.toList_some, Option.toList_none, List.nil_append, List.append_nil] at given
    exact given.poll_of_untold
  · rw [sent]
    refine Requests.waiting_resolveFor_of_key (fun entry there => ?_) _
    rw [waits] at there
    rw [← Option.some.inj there]

/-- A driver that cannot even begin to initialise leaves its session open and no request outstanding;
the caller is told of the failure. Otherwise the caller is given a request. A report for another
session never makes a difference to its owner, who is told nothing while the request is in the slot
under its own session, and then one outcome: that the driver was initialised before, what the driver
reported for this very session, at once or later, that a newer request took its place, or that it was
cancelled when the mode was stopped or all was cleaned up. Whoever is told of a success finds the
driver initialised from then on. -/
theorem afterRun_initialisations (usb : Usb.Acquisition H) (engine : G) (driver : Option D)
    (config : PipelineConfig) (operations : List (Operation H G D)) :
    let c := afterRun usb engine driver config operations
    ∀ tuning,
      let started := c.perform (.startHackRf tuning)
      let session := c.sessions
      (∀ driver, c.asksDriver tuning = true → c.driver = some driver →
        let begun := (HackRfDriver.begin driver session).1
        (begun.failure ≠ none → (∃ reason, (c.startHackRf tuning).1 = .error (.initFailed reason)) ∧
          started.inits.waiting = none ∧ started.standing = .live .hackRf session) ∧
        (begun.failure = none → ∃ request, (c.startHackRf tuning).1 = .ok request)) ∧
      ∀ request, (c.startHackRf tuning).1 = .ok request →
        started.standing = .live .hackRf session ∧ ∀ later,
          let last := started.afterAll later
          let told := started.initAnswers request later ++ [(last.pollInit request).1]
          (∀ other report, other ≠ session →
            ((last.initReported other report).pollInit request).1 = (last.pollInit request).1) ∧
          ((∃ n, last.inits.waiting = some (session, request) ∧ told = .replicate n none) ∨
            ∃ outcome n m,
              told = .replicate n none ++ some outcome :: .replicate m (some (.error abandoned)) ∧
              (outcome = .ok () → last.ready = true) ∧
              (c.ready = true ∧ outcome = .ok () ∨
                (∃ driver report, c.driver = some driver ∧
                  (HackRfDriver.begin driver session).1.report = some report ∧
                  outcome = reportOutcome report) ∨
                ∃ earlier operation rest, later = earlier ++ operation :: rest ∧
                  (started.afterAll earlier).inits.waiting = some (session, request) ∧
                  (started.afterAll earlier).initVerdict? session operation = some outcome)) := by
  intro c tuning started session
  obtain ⟨settled, answered, course⟩ :=
    afterRun_courses usb engine driver config operations c.inits.channels.length
  rcases c.startHackRf_cases tuning with ⟨⟨failure, refused⟩, unasked, -⟩ |
    ⟨ready, unasked, answer, standing, inits, kept⟩ |
    ⟨driver, d, has, asks, unreported, standing, begins⟩
  · -- No session was opened, or there is no driver.
    refine ⟨fun _ asks => by simp [unasked] at asks, fun request accepted => ?_⟩
    simp [refused] at accepted
  · -- The driver was initialised before, and the request is settled from the start.
    refine ⟨fun _ asks => by simp [unasked] at asks, fun request accepted => ⟨standing, ?_⟩⟩
    intro later last told
    obtain rfl : c.inits.channels.length = request := Except.ok.inj (answer.symm.trans accepted)
    -- It was given its outcome before anyone could report.
    have readied : Course c.inits.channels.length started.inits [.ok ()] [] :=
      inits ▸ course.ready (.ok ())
    obtain ⟨others, n, m, outcome⟩ := told_of_settled (settled_afterAll readied later)
    exact ⟨fun other report _ => others other report, Or.inr ⟨.ok (), n, m, outcome,
      fun _ => ready_afterAll kept later, Or.inl ⟨ready, rfl⟩⟩⟩
  · -- The driver is asked for the new request.
    obtain ⟨refused, begun, accepted⟩ := d.beginInit_request (unreported.inits ▸ course) driver c.sessions
    have opened : started.standing = .live .hackRf session := by
      have left := (d.beginInit_spec driver c.sessions).1.trans standing
      rwa [← begins] at left
    rw [← begins] at refused begun accepted
    refine ⟨fun asked _ same => ?_, fun request answer => ⟨opened, ?_⟩⟩
    · obtain rfl : driver = asked := Option.some.inj (has.symm.trans same)
      exact ⟨fun failed => ⟨(refused failed).1, (refused failed).2, opened⟩, begun⟩
    · intro later last told
      rcases accepted request answer with ⟨silent, waits, course⟩ | ⟨report, reported, course, known⟩
      · -- It has not reported yet, so that the first to say something to this session decides.
        rcases waiting_afterAll waits course later with ⟨there, last⟩ |
          ⟨earlier, operation, rest, outcome, split, before, verdict, known, last⟩
        · refine ⟨fun other report different => pollInit_initReported (fun same => ?_) report, ?_⟩
          · have own : session = other := by simpa using there.symm.trans same
            exact different own.symm
          · obtain ⟨n, told⟩ := last.told_of_isWaiting (Requests.isWaiting_iff.mpr ⟨_, there⟩)
            exact Or.inl ⟨n, there, told⟩
        · obtain ⟨others, n, m, told⟩ := told_of_settled last
          exact ⟨fun other report _ => others other report, Or.inr ⟨outcome, n, m, told, known,
            Or.inr (Or.inr ⟨earlier, operation, rest, split, before, verdict⟩)⟩⟩
      · -- It has reported at once, so that nothing later makes a difference.
        obtain ⟨others, n, m, outcome⟩ := told_of_settled (settled_afterAll course later)
        exact ⟨fun other report _ => others other report, Or.inr ⟨_, n, m, outcome,
          fun succeeds => ready_afterAll (known succeeds) later,
          Or.inr (Or.inl ⟨driver, report, has, reported, rfl⟩)⟩⟩

end TunerControl.Session.Controller
