import TunerControl.Proofs.Session.Boundary
import TunerControl.Session.Report

/-! The driver reports on its initialisation when it likes, for sessions that may have ended. A report
settles the request for its own session, or none. A report for an older session that comes while the
driver begins for a newer one is no other than one that comes right after: neither of them finds the
request of the older session in the slot. -/

namespace TunerControl.Session.Controller

open Requests (Course Effect)
open Usb (Host)

variable {H G D : Type}

/-- Sends outcomes to the slot under a key, one by one. -/
def hear (s : Requests Nat Unit) (session : Nat) (outcomes : List (Outcome Unit)) :
    Requests Nat Unit :=
  outcomes.foldl (fun s outcome => (s.resolveFor session outcome).2) s

/-- What the driver's reply says to the request that it was asked for. -/
def replied (reply : InitReply) : List (Outcome Unit) :=
  (reply.report.map reportOutcome).toList

section Hearing

variable {s : Requests Nat Unit} {request session : Nat} {settled : List (Outcome Unit)}
  {answered : List (Option (Outcome Unit))}

/-- A request that is not in the slot does not hear anything. -/
theorem hear_elsewhere (elsewhere : s.isWaiting request = false) (session : Nat)
    (outcomes : List (Outcome Unit)) :
    (hear s session outcomes).channels[request]? = s.channels[request]? ∧
      (hear s session outcomes).senders request = s.senders request := by
  -- The request stays outside the slot, so that no outcome after the first finds it either.
  induction outcomes generalizing s with
  | nil => exact ⟨rfl, rfl⟩
  | cons outcome rest ih =>
    -- What leaves the slot does not come back into it.
    have still : (s.resolveFor session outcome).2.isWaiting request = false := by
      refine Bool.eq_false_iff.mpr fun waits => ?_
      obtain ⟨key, slot⟩ := Requests.isWaiting_iff.mp waits
      have before := Requests.isWaiting_iff.mpr ⟨key, Requests.waiting_of_resolveFor slot⟩
      simp [elsewhere] at before
    obtain ⟨channel, senders⟩ := Requests.resolveFor_elsewhere elsewhere session outcome
    obtain ⟨last, left⟩ := ih still
    exact ⟨last.trans channel, left.trans senders⟩

/-- Whatever is heard brings a request further on its course. -/
theorem course_hear (course : Course request s settled answered) (outcomes : List (Outcome Unit)) :
    ∃ settled answered, Course request (hear s session outcomes) settled answered := by
  -- By induction on the outcomes, each of which is a step on the course.
  induction outcomes generalizing s settled answered with
  | nil => exact ⟨_, _, course⟩
  | cons outcome rest ih =>
    exact ih (course.step (Requests.resolveFor_effect course.once session outcome))

/-- Nothing is in the slot once an outcome was sent under the key that was used. -/
theorem waiting_hear_concat (used : ∀ entry, s.waiting = some entry → entry.1 = session)
    (outcomes : List (Outcome Unit)) (outcome : Outcome Unit) :
    (hear s session (outcomes ++ [outcome])).waiting = none := by
  -- By induction on the outcomes before the last one, as none of them brings a request into the
  -- slot.
  induction outcomes generalizing s with
  | nil => exact Requests.waiting_resolveFor_of_key used outcome
  | cons first rest ih => exact ih fun entry waits => used entry (Requests.waiting_of_resolveFor waits)

end Hearing

/-- A report is sent to the slot under the session that it is for. -/
theorem inits_initReported (c : Controller H G D) (session : Nat) (report : Except String Unit) :
    (c.initReported session report).inits =
      (c.inits.resolveFor session (reportOutcome report)).2 := by
  -- A report of success and one of failure differ in the outcome that is sent, and in no more.
  cases report <;> rfl

/-- The driver is initialised once it has reported so. -/
theorem ready_initReported (c : Controller H G D) (session : Nat) (report : Except String Unit) :
    (c.initReported session report).ready = (c.ready || report.isOk) := by
  -- Only a report of success says that it is.
  cases report <;> simp [initReported, Except.isOk, Except.toBool]

/-- Neither the requests for sessions change nor what is known of the driver. -/
structure Unreported (c after : Controller H G D) : Prop where
  inits : after.inits = c.inits
  ready : after.ready = c.ready

/-- Where nothing is done, nothing is reported. -/
theorem Unreported.refl (c : Controller H G D) : Unreported c c :=
  ⟨rfl, rfl⟩

section Driver

variable [HackRfDriver D]

/-- The driver is asked for a request that is in the slot, and may report at once. If it cannot even
begin, the request hears of that as well. -/
theorem beginInit_cases (c : Controller H G D) (driver : D) (session : Nat) :
    let reply := (HackRfDriver.begin driver session).1
    let result := c.beginInit driver session
    result.2.ready = (c.ready || reply.report.any Except.isOk) ∧
    (reply.failure = none ∧ result.1 = .ok c.inits.channels.length ∧
        result.2.inits = hear (c.inits.arm session).2 session (replied reply) ∨
      ∃ failure reason, reply.failure = some failure ∧ result.1 = .error (.initFailed reason) ∧
        result.2.inits = hear (c.inits.arm session).2 session
          (replied reply ++ [.error (.initFailed reason)])) := by
  -- The reply has a report or none, and a failure or none.
  unfold beginInit
  dsimp only
  obtain ⟨⟨report, failure⟩, driver⟩ := HackRfDriver.begin driver session
  refine ⟨?_, ?_⟩
  · cases failure <;> rcases report with _ | (reason | ⟨⟩) <;>
      simp [initReported, Except.isOk, Except.toBool]
  · cases failure with
    | none =>
      refine Or.inl ⟨rfl, rfl, ?_⟩
      rcases report with _ | (reason | ⟨⟩) <;> rfl
    | some failure =>
      refine Or.inr ⟨failure, ?_⟩
      -- A failure of another kind is told in words.
      cases failure <;> rcases report with _ | (reason | ⟨⟩) <;> exact ⟨_, rfl, rfl, rfl⟩

/-- The request that the driver is asked for is in the slot, or was given what the driver reported at
once. The caller is given it exactly if the driver can begin. -/
theorem beginInit_request {c : Controller H G D} {settled : List (Outcome Unit)}
    {answered : List (Option (Outcome Unit))}
    (course : Course c.inits.channels.length c.inits settled answered) (driver : D) (session : Nat) :
    let reply := (HackRfDriver.begin driver session).1
    let result := c.beginInit driver session
    (reply.failure ≠ none → (∃ reason, result.1 = .error (.initFailed reason)) ∧
      result.2.inits.waiting = none) ∧
    (reply.failure = none → ∃ request, result.1 = .ok request) ∧
    ∀ request, result.1 = .ok request →
      reply.report = none ∧ result.2.inits.waiting = some (session, request) ∧
        Course request result.2.inits [] [] ∨
      ∃ report, reply.report = some report ∧
        Course request result.2.inits [reportOutcome report] [] ∧
        (reportOutcome report = .ok () → result.2.ready = true) := by
  -- Either the driver can begin, or the new request hears of its failure.
  intro reply result
  obtain ⟨ready, ⟨begun, answer, inits⟩ | ⟨failure, reason, failed, answer, inits⟩⟩ :=
    c.beginInit_cases driver session
  · refine ⟨fun failed => absurd begun failed, fun _ => ⟨_, answer⟩, fun request accepted => ?_⟩
    obtain rfl : c.inits.channels.length = request := Except.ok.inj (answer.symm.trans accepted)
    have armed := course.arm session
    cases reported : reply.report with
    | none =>
      have silent : replied reply = [] := by simp [replied, reported]
      rw [silent] at inits
      exact Or.inl ⟨rfl, congrArg Requests.waiting inits, inits ▸ armed⟩
    | some report =>
      have heard : replied reply = [reportOutcome report] := by simp [replied, reported]
      have own : (c.inits.arm session).2.waiting = some (session, c.inits.channels.length) := rfl
      rw [heard] at inits
      have told := armed.step (Requests.resolveFor_effect armed.once session (reportOutcome report))
      rw [if_pos own] at told
      refine Or.inr ⟨report, rfl, inits ▸ told, fun succeeds => ready.trans ?_⟩
      -- Only a report of success says so.
      rcases report with reason | ⟨⟩
      · simp [reportOutcome] at succeeds
      · simp [show (HackRfDriver.begin driver session).1.report = _ from reported, Except.isOk,
          Except.toBool]
  · refine ⟨fun _ => ⟨⟨reason, answer⟩, ?_⟩, fun begun => ?_, fun request accepted => ?_⟩
    · -- The failure is the last that the request hears, whatever was reported before.
      have own : ∀ entry, (c.inits.arm session).2.waiting = some entry → entry.1 = session :=
        fun entry waits => congrArg Prod.fst (Option.some.inj waits.symm)
      exact (congrArg Requests.waiting inits).trans (waiting_hear_concat own _ _)
    · cases failed.symm.trans begun
    · simp [result, answer] at accepted

/-- A command to the driver is no report of it. -/
theorem Driven.unreported {c after : Controller H G D} (driven : Driven c after) :
    Unreported c after := by
  -- The driver is left alone, or its own state and the log of its calls change.
  rcases driven with rfl | ⟨driver, call, rfl⟩
  · exact .refl _
  · exact ⟨rfl, rfl⟩

end Driver

section Engine

variable [Engine G]

/-- Connecting has nothing to do with the driver. -/
theorem connect_unreported (c : Controller H G D) (backend : Backend) :
    Unreported c (c.connect backend).2 ∧ (c.connect backend).2.driver = c.driver := by
  -- The engine is asked or not, and the driver is left alone.
  rcases c.connect_cases backend with ⟨failure, refused⟩ | ⟨-, asked⟩
  · rw [congrArg Prod.snd refused]
    exact ⟨.refl c, rfl⟩
  · rcases c.trying.issueConnect_cases backend with
      ⟨failure, answer⟩ | ⟨command, -, ⟨-, answer⟩ | ⟨-, failure, answer⟩⟩
    all_goals
      rw [answer] at asked
      rw [congrArg Prod.snd asked]
      exact ⟨⟨rfl, rfl⟩, rfl⟩

/-- Neither does a command for a kind of front end. -/
theorem guarded_unreported (c : Controller H G D) (kind : BackendKind) (command : Command) :
    Unreported c (match c.requireBackend kind with
      | .error failure => (Except.error failure, c)
      | .ok () => c.issue command).2 := by
  -- It is refused, or for the engine alone.
  split <;> exact ⟨rfl, rfl⟩

/-- What an operation does to the requests for sessions and to what is known of the driver. -/
inductive Reporting (c : Controller H G D) (operation : Operation H G D)
    (after : Controller H G D) : Prop where
  | uninvolved (silent : ∀ session, c.initVerdict? session operation = none)
      (untold : ∀ request, c.initAnswer? request operation = none)
      (unreported : Unreported c after)
  | polled (request : Nat) (polls : operation = .pollInit request)
      (inits : after.inits = (c.inits.poll request).2) (ready : after.ready = c.ready)
  | reported (session : Nat) (report : Except String Unit)
      (reports : operation = .initReported session report)
      (inits : after.inits = (c.inits.resolveFor session (reportOutcome report)).2)
      (ready : after.ready = (c.ready || report.isOk))
  | cancelled (failure : Failure)
      (verdict : ∀ session, c.initVerdict? session operation = some (.error failure))
      (untold : ∀ request, c.initAnswer? request operation = none)
      (inits : after.inits = (c.inits.resolve (.error failure)).2) (ready : after.ready = c.ready)
  | readied (tuning : HackRfTuning) (starts : operation = .startHackRf tuning)
      (unasked : c.asksDriver tuning = false)
      (inits : after.inits = (c.inits.ready (.ok ())).2) (ready : after.ready = true)
  | asked (tuning : HackRfTuning) (starts : operation = .startHackRf tuning)
      (asks : c.asksDriver tuning = true) (outcomes : List (Outcome Unit))
      (inits : after.inits = hear (c.inits.arm c.sessions).2 c.sessions outcomes)
      (ready : c.ready = true → after.ready = true)

section Requests

variable {c after : Controller H G D} {operation : Operation H G D} {request : Nat}
  {settled : List (Outcome Unit)} {answered : List (Option (Outcome Unit))}

/-- The outcome that an operation gives to a request. -/
def initGiven? (c : Controller H G D) (request : Nat) (operation : Operation H G D) :
    Option (Outcome Unit) :=
  c.inits.waiting.bind fun entry =>
    if entry.2 = request then c.initVerdict? entry.1 operation else none

/-- An operation that says nothing to any session gives nothing to a request. -/
theorem initGiven?_of_silent (silent : ∀ session, c.initVerdict? session operation = none) :
    c.initGiven? request operation = none := by
  -- Whatever is in the slot, nothing is said to its session.
  unfold initGiven?
  cases c.inits.waiting with
  | none => rfl
  | some entry => simp [silent]

/-- What is said to whatever is in the slot is given to a request that is there. -/
theorem initGiven?_of_keyless {outcome : Outcome Unit}
    (verdict : ∀ session, c.initVerdict? session operation = some outcome) :
    c.initGiven? request operation =
      if c.inits.isWaiting request then some outcome else none := by
  -- What is in the slot is this request, or another one.
  unfold initGiven? Requests.isWaiting
  cases c.inits.waiting with
  | none => rfl
  | some entry => simp [verdict]

/-- A report is given to the request for its own session. -/
theorem initGiven?_initReported (c : Controller H G D) (request session : Nat)
    (report : Except String Unit) :
    c.initGiven? request (.initReported session report) =
      if c.inits.waiting = some (session, request) then some (reportOutcome report) else none := by
  -- The request is in the slot under the session, under another one, or not at all.
  unfold initGiven?
  cases c.inits.waiting with
  | none => simp
  | some entry =>
    obtain ⟨key, number⟩ := entry
    by_cases own : number = request
    · simp [initVerdict?, own, eq_comm]
    · simp [own]

/-- What is in the slot is given what is said to its session. -/
theorem initGiven?_of_waiting {session : Nat} (waits : c.inits.waiting = some (session, request)) :
    c.initGiven? request operation = c.initVerdict? session operation := by
  simp [initGiven?, waits]

/-- What is not in the slot is given nothing. -/
theorem initGiven?_of_elsewhere (elsewhere : c.inits.isWaiting request = false) :
    c.initGiven? request operation = none := by
  -- Whatever is in the slot is another request.
  unfold Requests.isWaiting at elsewhere
  unfold initGiven?
  cases slot : c.inits.waiting with
  | none => rfl
  | some entry =>
    rw [slot, Option.any_some, decide_eq_false_iff_not] at elsewhere
    exact if_neg elsewhere

namespace Reporting

/-- What is known of the driver is never forgotten. -/
theorem ready_of_ready (change : Reporting c operation after) (was : c.ready = true) :
    after.ready = true := by
  -- It is set by what the driver reports, and nothing clears it.
  cases change with
  | uninvolved silent untold unreported => exact unreported.ready.trans was
  | polled asked polls inits ready => exact ready.trans was
  | reported session report reports inits ready => simp [ready, was]
  | cancelled failure verdict untold inits ready => exact ready.trans was
  | readied tuning starts unasked inits ready => exact ready
  | asked tuning starts asks outcomes inits ready => exact ready was

/-- A success that settles a request is known from then on. -/
theorem ready_of_verdict (change : Reporting c operation after) {session : Nat}
    (succeeds : c.initVerdict? session operation = some (.ok ())) : after.ready = true := by
  -- A success is said by a report alone; what cancels or replaces a request is a failure.
  cases change with
  | uninvolved silent untold unreported => simp [silent] at succeeds
  | polled asked polls inits ready => simp [polls, initVerdict?] at succeeds
  | reported reported report reports inits ready =>
    -- Only a report of success says so.
    cases report with
    | ok => simp [ready, Except.isOk, Except.toBool]
    | error reason => simp [reports, initVerdict?, reportOutcome] at succeeds
  | cancelled failure verdict untold inits ready => simp [verdict] at succeeds
  | readied tuning starts unasked inits ready => exact ready
  | asked tuning starts asks outcomes inits ready => simp [starts, initVerdict?, asks] at succeeds

/-- A request that an operation says nothing to stays in the slot. -/
theorem waiting_of_silent (change : Reporting c operation after) {session : Nat}
    (waits : c.inits.waiting = some (session, request))
    (silent : c.initVerdict? session operation = none) :
    after.inits.waiting = some (session, request) := by
  -- What polls leaves the slot alone, and what cancels or asks anew says something to all sessions.
  cases change with
  | uninvolved _ untold unreported => rw [unreported.inits, waits]
  | polled asked polls inits ready => rw [inits, Requests.waiting_poll, waits]
  | reported reported report reports inits ready =>
    -- A report for another session finds no request of its own.
    have different : session ≠ reported := by
      rintro rfl
      simp [reports, initVerdict?] at silent
    have other : c.inits.pendingKey ≠ some reported := by
      simpa [Requests.pendingKey, waits] using different
    rw [inits, Requests.resolveFor_of_other other, waits]
  | cancelled failure verdict untold inits ready => simp [verdict] at silent
  | readied tuning starts unasked inits ready => rw [inits]; exact waits
  | asked tuning starts asks outcomes inits ready => simp [starts, initVerdict?, asks] at silent

/-- Every request stays on its course. -/
theorem course (change : Reporting c operation after)
    (course : Course request c.inits settled answered) :
    ∃ settled answered, Course request after.inits settled answered := by
  -- One case for each thing that an operation may do, each of them a step on the course.
  cases change with
  | uninvolved silent untold unreported => exact ⟨_, _, unreported.inits ▸ course⟩
  | polled asked polls inits ready =>
    rw [inits]
    exact ⟨_, _, course.step (Requests.poll_effect (κ := Nat) asked)⟩
  | reported session report reports inits ready =>
    rw [inits]
    exact ⟨_, _, course.step (Requests.resolveFor_effect course.once session _)⟩
  | cancelled failure verdict untold inits ready =>
    rw [inits]
    exact ⟨_, _, course.step (Requests.resolve_effect course.once _)⟩
  | readied tuning starts unasked inits ready =>
    rw [inits]
    exact ⟨_, _, course.step (Requests.ready_effect _)⟩
  | asked tuning starts asks outcomes inits ready =>
    rw [inits]
    exact course_hear (course.step (Requests.arm_effect course.once course.made _)) outcomes

/-- What an operation does to a request that was made: it gives the request what it says to it, and
tells its owner what it answers. -/
theorem effect (change : Reporting c operation after)
    (course : Course request c.inits settled answered) (made : request < c.inits.channels.length) :
    Effect request c.inits after.inits (c.initGiven? request operation)
      (c.initAnswer? request operation) := by
  -- What an operation may do to the requests is one of the effects on them that are known.
  cases change with
  | uninvolved silent untold unreported =>
    rw [initGiven?_of_silent silent, untold, unreported.inits]
    exact .untouched rfl rfl
  | polled asked polls inits ready =>
    subst polls
    rw [initGiven?_of_silent fun _ => rfl, inits]
    exact Requests.poll_effect asked
  | reported session report reports inits ready =>
    subst reports
    rw [initGiven?_initReported, inits]
    exact Requests.resolveFor_effect course.once session _
  | cancelled failure verdict untold inits ready =>
    rw [initGiven?_of_keyless verdict, untold, inits]
    exact Requests.resolve_effect course.once _
  | readied tuning starts unasked inits ready =>
    subst starts
    -- The request that is settled from the start is a new one.
    have readied : Effect request c.inits _ _ none := Requests.ready_effect (.ok ())
    rw [Requests.settles?, if_neg (Nat.ne_of_lt made)] at readied
    rw [initGiven?_of_silent fun _ => by simp [initVerdict?, unasked], inits]
    exact readied
  | asked tuning starts asks outcomes inits ready =>
    subst starts
    -- The driver's report is for the new request, which took the place of any other.
    have armed : Effect request c.inits _ _ none :=
      Requests.arm_effect course.once course.made c.sessions
    have elsewhere : (c.inits.arm c.sessions).2.isWaiting request = false :=
      decide_eq_false (Nat.ne_of_gt made)
    have verdict : ∀ session, c.initVerdict? session (.startHackRf tuning) =
        some (.error .superseded) := fun _ => if_pos asks
    obtain ⟨channel, senders⟩ := hear_elsewhere elsewhere c.sessions outcomes
    rw [initGiven?_of_keyless verdict, inits]
    exact armed.then_untouched channel senders

end Reporting

end Requests

variable [HackRfDriver D]

/-- The start of receiving has nothing to do with requests. -/
theorem startReceiving_unreported (c : Controller H G D) :
    Unreported c c.startReceiving.2 := by
  -- It may be given up at each of its checks, and no check looks at the requests.
  unfold startReceiving
  split
  · exact .refl c
  · exact .refl c
  · split
    · exact .refl c
    · dsimp only
      split <;> exact ⟨rfl, rfl⟩

/-- Neither has its end. -/
theorem stopReceiving_unreported (c : Controller H G D) : Unreported c c.stopReceiving.2 := by
  -- The driver may be told to stop, and the pipeline is stopped.
  obtain ⟨d, driven, stopped⟩ := c.stopReceiving_cases
  rw [stopped]
  exact ⟨driven.unreported.inits, driven.unreported.ready⟩

/-- Opening a session on a HackRF is refused or finds no driver; or the driver is initialised
already; or it is asked to begin. -/
theorem startHackRf_cases (c : Controller H G D) (tuning : HackRfTuning) :
    ((∃ failure, (c.startHackRf tuning).1 = .error failure) ∧ c.asksDriver tuning = false ∧
      Unreported c (c.startHackRf tuning).2) ∨
    (c.ready = true ∧ c.asksDriver tuning = false ∧
      (c.startHackRf tuning).1 = .ok c.inits.channels.length ∧
      (c.startHackRf tuning).2.standing = .live .hackRf c.sessions ∧
      (c.startHackRf tuning).2.inits = (c.inits.ready (.ok ())).2 ∧
      (c.startHackRf tuning).2.ready = true) ∨
    ∃ driver d, c.driver = some driver ∧ c.asksDriver tuning = true ∧ Unreported c d ∧
      d.standing = .live .hackRf c.sessions ∧
      c.startHackRf tuning = d.beginInit driver c.sessions := by
  -- The connection is made first; then it is looked whether the driver is ready, and then for a
  -- driver.
  obtain ⟨unreported, same⟩ := c.connect_unreported (.hackRf tuning)
  cases asked : c.connect (.hackRf tuning) with
  | mk answer d =>
    rw [asked] at unreported same
    dsimp only at unreported same
    cases answer with
    | error failure =>
      have refused : c.startHackRf tuning = (.error failure, d) := by rw [startHackRf, asked]
      refine Or.inl ⟨⟨failure, by rw [refused]⟩, ?_, by rw [refused]; exact unreported⟩
      simp [asksDriver, asked, Except.isOk, Except.toBool]
    | ok =>
      obtain ⟨-, -, -, -, standing, -⟩ := connect_ok asked
      have numbered : d.session = some c.sessions := congrArg Standing.session standing
      cases ready : c.ready with
      | true =>
        -- The driver is not asked again.
        have done : c.startHackRf tuning =
            (.ok d.inits.channels.length, { d with inits := (d.inits.ready (.ok ())).2 }) := by
          simp only [startHackRf, asked, unreported.ready, ready, if_true]
          rfl
        rw [done, ← unreported.inits]
        exact Or.inr (Or.inl ⟨rfl, by simp [asksDriver, ready], rfl, standing, rfl,
          unreported.ready.trans ready⟩)
      | false =>
        cases has : c.driver with
        | none =>
          -- The session is open, but there is nobody to be asked.
          have unable : c.startHackRf tuning = (.error .contextUnavailable, d) := by
            simp [startHackRf, asked, unreported.ready, ready, same, has]
          rw [unable]
          exact Or.inl ⟨⟨_, rfl⟩, by simp [asksDriver, has], unreported⟩
        | some driver =>
          refine Or.inr (Or.inr ⟨driver, d, rfl, ?_, unreported, standing, ?_⟩)
          · simp [asksDriver, asked, ready, has, Except.isOk, Except.toBool]
          · simp [startHackRf, asked, unreported.ready, ready, same, has, numbered]

/-- Opening a session on a HackRF settles its request at once, asks the driver, or does neither. -/
theorem startHackRf_reporting (c : Controller H G D) (tuning : HackRfTuning) :
    Reporting c (.startHackRf tuning) (c.startHackRf tuning).2 := by
  -- The three cases are those of the operation itself.
  rcases c.startHackRf_cases tuning with ⟨-, unasked, unreported⟩ |
    ⟨-, unasked, -, -, inits, ready⟩ | ⟨driver, d, -, asks, unreported, -, begins⟩
  · exact .uninvolved (fun _ => by simp [initVerdict?, unasked]) (fun _ => rfl) unreported
  · exact .readied tuning rfl unasked inits ready
  · -- The driver's report and its failure to begin are both heard by the new request.
    obtain ⟨ready, ⟨-, -, inits⟩ | ⟨failure, reason, -, -, inits⟩⟩ :=
      d.beginInit_cases driver c.sessions
    all_goals
      rw [unreported.inits] at inits
      rw [begins]
      exact .asked tuning rfl asks _ inits fun was => by simp [ready, unreported.ready, was]

section Release

variable [Host H]

/-- The release of a front end has nothing to do with requests. -/
theorem releaseBackend_unreported (c : Controller H G D) : Unreported c c.releaseBackend := by
  -- Only the release of a HackRF turns to the driver, to stop it.
  refine ⟨(releaseBackend_spec c).1, ?_⟩
  unfold releaseBackend
  dsimp only
  cases c.backend with
  | none => rfl
  | some kind =>
    cases kind with
    | network => rfl
    | rtlUsb => rfl
    | hackRf => exact ({ c with backend := none } : Controller H G D).stopReceiving_unreported.ready

end Release

end Engine

variable [Host H] [Engine G] [HackRfDriver D]

/-- Cleaning up does no more to the requests than to cancel the outstanding one. -/
theorem cleanup_unreported (c : Controller H G D) : Unreported c.cancelled c.cleanup := by
  -- Neither the last command to the engine nor the release of the front end is a report.
  have told : Unreported c.cancelled
      (if c.cancelled.state.acceptsControl then c.cancelled.tell .stop else c.cancelled) := by
    split <;> exact ⟨rfl, rfl⟩
  have released := releaseBackend_unreported
    (if c.cancelled.state.acceptsControl then c.cancelled.tell .stop else c.cancelled)
  exact ⟨released.inits.trans told.inits, released.ready.trans told.ready⟩

/-- Stopping the mode of a HackRF cancels the outstanding request if a session is on one. -/
theorem stopHackRf_reporting (c : Controller H G D) :
    Reporting c .stopHackRf c.stopHackRf := by
  unfold stopHackRf
  split
  · rename_i has
    have released := releaseBackend_unreported ({ c with
      inits := (c.inits.resolve (.error (.invalidState "HackRF mode stopped"))).2 } : Controller H G D)
    exact .cancelled (.invalidState "HackRF mode stopped") (fun _ => if_pos has) (fun _ => rfl)
      released.inits released.ready
  · -- Without a session on a HackRF nothing is done, and nothing said.
    rename_i other
    exact .uninvolved (fun _ => if_neg other) (fun _ => rfl) (.refl c)

/-- Whatever an operation does to the requests for sessions is one of these. -/
theorem perform_reporting (c : Controller H G D) (operation : Operation H G D) :
    Reporting c operation (c.perform operation) := by
  -- Most operations have nothing to do with requests.
  have aside : ∀ {operation : Operation H G D} {after : Controller H G D}, Unreported c after →
      (∀ session, c.initVerdict? session operation = none) →
      (∀ request, c.initAnswer? request operation = none) → Reporting c operation after :=
    fun unreported silent untold => .uninvolved silent untold unreported
  cases operation with
  | connect backend => exact aside (c.connect_unreported backend).1 (fun _ => rfl) fun _ => rfl
  | start =>
    refine aside ?_ (fun _ => rfl) fun _ => rfl
    simp only [perform, start]
    split <;> exact ⟨rfl, rfl⟩
  | stop =>
    refine aside ?_ (fun _ => rfl) fun _ => rfl
    simp only [perform, stop]
    split
    · exact .refl c
    · have released := releaseBackend_unreported ({ c with state := .stopping }.tell .stop)
      exact ⟨released.inits, released.ready⟩
  | cleanup =>
    exact .cancelled (.invalidState "session cleaned up") (fun _ => rfl) (fun _ => rfl)
      c.cleanup_unreported.inits c.cleanup_unreported.ready
  | disconnectRtlUsb =>
    refine aside ?_ (fun _ => rfl) fun _ => rfl
    simp only [perform, disconnectRtlUsb]
    split
    · exact ⟨(releaseBackend_unreported c).inits, (releaseBackend_unreported c).ready⟩
    · exact ⟨rfl, rfl⟩
  | setRtlFrequency frequency => exact aside (c.guarded_unreported _ _) (fun _ => rfl) fun _ => rfl
  | setRtlGain gain => exact aside (c.guarded_unreported _ _) (fun _ => rfl) fun _ => rfl
  | startHackRf tuning => exact c.startHackRf_reporting tuning
  | stopHackRf => exact c.stopHackRf_reporting
  | setFrequency frequency =>
    exact aside (c.setFrequency_driven frequency).unreported (fun _ => rfl) fun _ => rfl
  | setSampleRate rate =>
    exact aside (c.setSampleRate_driven rate).unreported (fun _ => rfl) fun _ => rfl
  | setLnaGain gain => exact aside (c.setLnaGain_driven gain).unreported (fun _ => rfl) fun _ => rfl
  | setVgaGain gain => exact aside (c.setVgaGain_driven gain).unreported (fun _ => rfl) fun _ => rfl
  | startReceiving => exact aside c.startReceiving_unreported (fun _ => rfl) fun _ => rfl
  | stopReceiving => exact aside c.stopReceiving_unreported (fun _ => rfl) fun _ => rfl
  | feed samples => exact aside (c.guarded_unreported _ _) (fun _ => rfl) fun _ => rfl
  | pollInit request => exact .polled request rfl rfl rfl
  | initReported session report =>
    exact .reported session report rfl (c.inits_initReported session report)
      (c.ready_initReported session report)
  | _ => exact aside ⟨rfl, rfl⟩ (fun _ => rfl) fun _ => rfl

end TunerControl.Session.Controller
