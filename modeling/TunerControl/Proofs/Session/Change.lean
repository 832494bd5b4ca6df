import TunerControl.Proofs.Session.Standing
import TunerControl.Proofs.Usb.Connections

/-! Each operation leaves the session that there is alone, opens one, or ends it. -/

namespace TunerControl.Session

open Usb (Host)

namespace Controller

variable {H G D : Type} [Host H]

/-- What an operation does to a session. It leaves the live one alone, or the lack of one; it opens
one; or it ends the live one, by stopping decoding and releasing the front end. -/
inductive Change (c : Controller H G D) (operation : Operation H G D) (after : Controller H G D) :
    Prop where
  | stayed (news : List Issued)
      (goesOn : ∀ kind, c.backend = some kind → operation.ends kind = false)
      (standing : after.standing = c.standing)
      (commands : after.commands = c.commands ++ news) (keeps : Keeps c.backend news)
      (usb : c.backend = some .rtlUsb → after.usb = c.usb ∨
        ∃ acquiring, operation = .acquisition acquiring ∧ after.usb = c.usb.perform acquiring)
      (inits : ∀ entry, after.inits.waiting = some entry → c.inits.waiting = some entry)
      (attended : Attended c.backend after.plant)
  | opened (kind : BackendKind) (opening : Issued)
      (vacant : c.standing = .vacant) (opens : opening.opens? = some kind)
      (hostCalls : opening.hostCalls = c.usb.log.length)
      (standing : after.standing = .live kind c.sessions)
      (commands : after.commands = c.commands ++ [opening]) (usb : after.usb = c.usb)
      (inits : ∀ entry, after.inits.waiting = some entry →
        c.inits.waiting = some entry ∨ kind = .hackRf ∧ entry.1 = c.sessions)
      (plant : after.plant = c.plant)
  | ended (kind : BackendKind) (session : Nat) (stopping release finishing : List Issued)
      (ends : operation.ends kind = true) (live : c.standing = .live kind session)
      (standing : after.standing = .vacant)
      (commands : after.commands = c.commands ++ (stopping ++ release ++ finishing))
      (stops : stopping.map (·.command) = [.stop] ∨ stopping = [] ∧ kind ≠ .network)
      (releases : release.map (·.command) = (Command.releaseOf? kind).toList)
      (finishes : ∀ i ∈ finishing, i.command.isAside = true)
      (hostCalls : ∀ i ∈ release, i.hostCalls = c.usb.log.length)
      (usb : kind = .rtlUsb → after.usb.log = c.usb.close.log ∧ after.usb.handle = none)
      (inits : ∀ entry, after.inits.waiting = some entry →
        c.inits.waiting = some entry ∧ (operation = .stop ∨ kind ≠ .hackRf))
      (resting : after.plant.currentRun? pipeline = none)

namespace Change

variable {c after : Controller H G D} {operation : Operation H G D}

/-- What has no part in sessions leaves the live one alone. -/
theorem of_aside (goesOn : ∀ kind, c.backend = some kind → operation.ends kind = false)
    (aside : Aside c after) (attended : Attended c.backend after.plant) :
    Change c operation after := by
  -- There are no new commands, and no request that was not there before.
  refine .stayed [] goesOn aside.standing ?_ (.nil _) (fun _ => Or.inl aside.usb) ?_ attended
  · rw [aside.commands, List.append_nil]
  · intro entry waits
    rw [← aside.inits]
    exact waits

/-- Only the requests for sessions change, and none becomes outstanding. -/
theorem of_requests (sound : c.Sound)
    (goesOn : ∀ kind, c.backend = some kind → operation.ends kind = false) {ready : Bool}
    {inits : Requests Nat Unit}
    (waits : ∀ entry, inits.waiting = some entry → c.inits.waiting = some entry) :
    Change c operation { c with ready, inits } :=
  .stayed [] goesOn rfl (List.append_nil _).symm (.nil _) (fun _ => Or.inl rfl) waits sound.attended

/-- The driver may be told something. -/
theorem of_driven [HackRfDriver D] (sound : c.Sound)
    (goesOn : ∀ kind, c.backend = some kind → operation.ends kind = false)
    (driven : Driven c after) : Change c operation after :=
  of_aside goesOn driven.aside.1 (driven.aside.2 ▸ sound.attended)

/-- Nothing is done. -/
theorem refl (sound : c.Sound)
    (goesOn : ∀ kind, c.backend = some kind → operation.ends kind = false) : Change c operation c :=
  of_aside goesOn (.refl c) sound.attended

/-- A session ends when its front end is released, after decoding was stopped or without that. The
state is set last, and nothing else is done but what has no part in sessions. -/
theorem of_released {d e : Controller H G D} {kind : BackendKind} {session : Nat}
    {release : List Issued} (stopping finishing : List Issued)
    (live : c.standing = .live kind session) (released : Released d e kind release)
    (ends : operation.ends kind = true)
    (stopped : d.commands = c.commands ++ stopping) (same : d.usb = c.usb)
    (stops : stopping.map (·.command) = [.stop] ∨ stopping = [] ∧ kind ≠ .network)
    (standing : after.standing = ⟨.idle, e.backend, e.session⟩)
    (finished : after.commands = e.commands ++ finishing)
    (finishes : ∀ i ∈ finishing, i.command.isAside = true)
    (usb : e.usb.handle = none → after.usb.log = e.usb.log ∧ after.usb.handle = none)
    (plant : after.plant = e.plant)
    (inits : ∀ entry, after.inits.waiting = some entry →
      c.inits.waiting = some entry ∧ (operation = .stop ∨ kind ≠ .hackRf)) :
    Change c operation after := by
  -- Its front end and number are gone with the release, and each list of commands follows the
  -- others.
  refine .ended kind session stopping release finishing ends live ?_ ?_ stops released.releases
    finishes ?_ ?_ inits (plant ▸ released.resting)
  · rw [standing, released.backend, released.session]
    rfl
  · rw [finished, released.commands, stopped, List.append_assoc, List.append_assoc,
      List.append_assoc]
  · rw [← same]
    exact released.hostCalls
  · -- Whatever was done after the release found no connection open.
    intro onDongle
    have closed : e.usb = c.usb.close := by rw [released.usb, if_pos onDongle, same]
    rw [closed] at usb
    exact usb c.usb.handle_close

variable [Engine G]

/-- A command is given that a session may be given, and no more is done. -/
theorem of_issue (sound : c.Sound)
    (goesOn : ∀ kind, c.backend = some kind → operation.ends kind = false) {command : Command}
    (keeps : Keeps c.backend [c.issued command]) : Change c operation (c.issue command).2 :=
  .stayed [c.issued command] goesOn rfl rfl keeps (fun _ => Or.inl rfl) (fun _ waits => waits)
    sound.attended

/-- A command without part in sessions is given if a session is on the front end that it is for. -/
theorem of_guarded (sound : c.Sound)
    (goesOn : ∀ kind, c.backend = some kind → operation.ends kind = false) (kind : BackendKind)
    {command : Command} (aside : command.isAside = true) :
    Change c operation (match c.requireBackend kind with
      | .error failure => (Except.error failure, c)
      | .ok () => c.issue command).2 := by
  -- Either the guard refuses, or the command is given.
  cases c.requireBackend kind with
  | error failure => exact .refl sound goesOn
  | ok => exact .of_issue sound goesOn (.of_aside (by simp [issued, aside]))

/-- A refused connection leaves the session alone. -/
theorem of_refused {d : Controller H G D} {backend : Backend} {failure : Failure}
    (sound : c.Sound) (goesOn : ∀ kind, c.backend = some kind → operation.ends kind = false)
    (refused : c.connect backend = (.error failure, d)) : Change c operation d := by
  -- The engine may have been asked and have declined, which the log tells.
  obtain ⟨standing, usb, inits, plant, news, commands, keeps⟩ :=
    connect_error sound.settled refused
  refine .stayed news goesOn standing commands keeps (fun _ => Or.inl usb) ?_ ?_
  · intro entry waits
    rw [← inits]
    exact waits
  · rw [plant]
    exact sound.attended

/-- A connection opens a session, for which there may be a request. -/
theorem of_connected {d : Controller H G D} {backend : Backend} (sound : c.Sound)
    (connected : c.connect backend = (.ok (), d)) (standing : after.standing = d.standing)
    (usb : after.usb = d.usb) (commands : after.commands = d.commands)
    (plant : after.plant = d.plant)
    (inits : ∀ entry, after.inits.waiting = some entry →
      d.inits.waiting = some entry ∨ backend.kind = .hackRf ∧ d.session = some entry.1) :
    Change c operation after := by
  obtain ⟨idle, opening, opens, hostCalls, live, log, usb', inits', plant'⟩ := connect_ok connected
  have vacant := sound.settled.vacant_of_idle idle
  refine .opened backend.kind opening vacant opens hostCalls (standing.trans live)
    (commands.trans log) (usb.trans usb') ?_ (plant.trans plant')
  intro entry waits
  -- An older request may be outstanding still, if the session made none.
  rcases inits entry waits with before | ⟨onHackRf, own⟩
  · exact Or.inl (inits' ▸ before)
  · exact Or.inr ⟨onHackRf, Option.some.inj (own.symm.trans (Standing.mk.inj live).2.2)⟩

end Change

variable [Engine G] {c : Controller H G D}

/-- Starting to decode leaves the session alone that it needs. -/
theorem start_change (sound : c.Sound) : Change c .start c.start.2 := by
  -- A command that starts decoding is one that every live session may be given.
  unfold start
  cases control : c.requireControl "start" with
  | error failure => exact .refl sound fun _ _ => rfl
  | ok =>
    obtain ⟨kind, has⟩ := sound.settled.backend_of_requireControl control
    refine .of_issue sound (fun _ _ => rfl) ?_
    rw [has]
    exact .of_isDecoding rfl (by cases kind <;> rfl)

/-- Connecting opens a session, or leaves things as they are. -/
theorem connect_change (sound : c.Sound) (backend : Backend) :
    Change c (.connect backend) (c.connect backend).2 := by
  -- The answer to the attempt tells which of the two it is.
  cases asked : c.connect backend with
  | mk answer d =>
    cases answer with
    | error failure => exact .of_refused sound (fun _ _ => rfl) asked
    | ok =>
      exact .of_connected sound asked rfl rfl rfl rfl fun _ waits => Or.inl waits

variable [HackRfDriver D]

/-- Starting a HackRF opens a session on it, for which a request may be made. -/
theorem startHackRf_change (sound : c.Sound) (tuning : HackRfTuning) :
    Change c (.startHackRf tuning) (c.startHackRf tuning).2 := by
  -- It is an attempt to connect, after which the driver is asked if there is one.
  cases asked : c.connect (.hackRf tuning) with
  | mk answer d =>
    cases answer with
    | error failure =>
      have refused : (c.startHackRf tuning).2 = d := by rw [startHackRf, asked]
      rw [refused]
      exact .of_refused sound (fun _ _ => rfl) asked
    | ok =>
      obtain ⟨standing, usb, commands, plant, inits⟩ := startHackRf_of_ok asked
      refine .of_connected sound asked standing usb commands plant fun entry waits => ?_
      exact (inits entry waits).imp_right fun own => ⟨rfl, own⟩

/-- Stopping settles no request. -/
theorem inits_stop (c : Controller H G D) : c.stop.2.inits = c.inits := by
  -- Neither a refusal nor the release of a front end looks at the requests.
  unfold stop
  split
  · rfl
  · exact (releaseBackend_spec ({ c with state := .stopping }.tell .stop)).1

/-- Stopping ends the session that is live. -/
theorem stop_change (sound : c.Sound) : Change c .stop c.stop.2 := by
  unfold stop
  cases control : c.requireControl "stop" with
  | error failure =>
    -- Stopping is refused where there is no session, so that none should have ended.
    refine .refl sound fun kind has => ?_
    have accepts := sound.settled.acceptsControl
    simp [requireControl, accepts, has] at control
  | ok =>
    obtain ⟨kind, has⟩ := sound.settled.backend_of_requireControl control
    obtain ⟨session, live⟩ := sound.settled.live_of_backend has
    -- The state is set before the release, which does not look at it.
    let told : Controller H G D := { c with state := .stopping }.tell .stop
    obtain ⟨release, released⟩ := releaseBackend_released (c := told) sound.attended has
    exact .of_released [c.issued .stop] [] live released rfl rfl rfl
      (Or.inl rfl) rfl (List.append_nil _).symm (by simp) (fun closed => ⟨rfl, closed⟩) rfl
      fun entry waits => ⟨released.inits ▸ waits, Or.inl rfl⟩

/-- The controller without its outstanding request. -/
def cancelled (c : Controller H G D) : Controller H G D :=
  { c with inits := (c.inits.resolve (.error (.invalidState "session cleaned up"))).2 }

/-- The controller after the acquisition and the engine were cleaned up. -/
def wiped (c : Controller H G D) : Controller H G D :=
  { { c with usb := c.usb.reset }.tell .cleanup with state := .idle }

/-- Decoding is stopped before the rest if a session is live. -/
theorem cleanup_eq (sound : c.Sound) : c.cleanup =
    (if c.backend.isSome then c.cancelled.tell .stop else c.cancelled).releaseBackend.wiped := by
  rw [← sound.settled.acceptsControl]
  rfl

/-- Cleaning up leaves no request outstanding. -/
theorem waiting_cleanup (c : Controller H G D) : c.cleanup.inits.waiting = none := by
  -- The request is cancelled first, and nothing that follows makes another one.
  have same : c.cleanup.inits = c.cancelled.inits := by
    refine Eq.trans (releaseBackend_spec (if c.cancelled.state.acceptsControl then
      c.cancelled.tell .stop else c.cancelled)).1 ?_
    split <;> rfl
  rw [same]
  exact Requests.waiting_resolve _ _

/-- Cleaning up ends the session that is live, if there is one. -/
theorem cleanup_change (sound : c.Sound) : Change c .cleanup c.cleanup := by
  have empty := c.waiting_cleanup
  rw [cleanup_eq sound] at empty ⊢
  cases has : c.backend with
  | none =>
    -- There is nothing to release; the acquisition and the engine are cleaned up all the same.
    have vacant : c.standing = .vacant := sound.settled.vacant_iff.mpr has
    have unreleased : c.cancelled.releaseBackend = c.cancelled := releaseBackend_of_vacant vacant
    simp only [has, Option.isSome_none, Bool.false_eq_true, if_false, unreleased] at empty ⊢
    refine .stayed [{ c.cancelled with usb := c.usb.reset }.issued .cleanup] ?_ ?_ rfl
      (.of_aside ?_) ?_ ?_ sound.attended
    · simp [has]
    · rw [vacant]
      obtain ⟨-, backend, session⟩ := Standing.mk.inj vacant
      exact congrArg₂ (Standing.mk .idle) backend session
    · intro i member
      rw [List.mem_singleton.mp member]
      rfl
    · simp [has]
    · intro entry waits
      exact absurd (empty.symm.trans waits) (by simp)
  | some kind =>
    -- Once the front end is released, resetting the acquisition finds no connection to close.
    rw [has] at empty
    obtain ⟨session, live⟩ := sound.settled.live_of_backend has
    obtain ⟨release, released⟩ := releaseBackend_released (c := c.cancelled.tell .stop)
      sound.attended has
    refine .of_released [c.cancelled.issued .stop] [_] live released
      rfl rfl rfl (Or.inl rfl) rfl rfl ?_ Usb.Acquisition.reset_of_none rfl ?_
    · intro i member
      rw [List.mem_singleton.mp member]
      rfl
    · intro entry waits
      exact absurd (empty.symm.trans waits) (by simp)

/-- Without a session on a dongle, disconnecting only closes the connection to one. -/
theorem disconnectRtlUsb_change (sound : c.Sound) :
    Change c .disconnectRtlUsb c.disconnectRtlUsb := by
  unfold disconnectRtlUsb
  split
  · -- The session on the dongle is released, without stopping decoding first.
    rename_i has
    obtain ⟨session, live⟩ := sound.settled.live_of_backend has
    obtain ⟨release, released⟩ := releaseBackend_released sound.attended has
    exact .of_released [] [] live released rfl
      (List.append_nil _).symm rfl (Or.inr ⟨rfl, by simp⟩) rfl (List.append_nil _).symm (by simp)
      (fun closed => ⟨rfl, closed⟩) rfl fun entry waits =>
      ⟨released.inits ▸ waits, Or.inr (by simp)⟩
  · -- The connection that is closed belongs to no session.
    rename_i elsewhere
    refine .stayed [] ?_ rfl (List.append_nil _).symm (.nil _) (fun has => absurd has elsewhere)
      (fun _ waits => waits) sound.attended
    intro kind has
    exact decide_eq_false fun same => elsewhere (same ▸ has)

/-- Stopping the mode of a HackRF leaves no request outstanding if a session is on one. -/
theorem waiting_stopHackRf {c : Controller H G D} (has : c.backend = some .hackRf) :
    c.stopHackRf.inits.waiting = none := by
  -- The request is settled before the front end is released, which makes no other one.
  rw [stopHackRf, if_pos has]
  refine (congrArg Requests.waiting (releaseBackend_spec _).1).trans ?_
  exact Requests.waiting_resolve _ _

/-- Stopping the mode of a HackRF ends a session on one. -/
theorem stopHackRf_change (sound : c.Sound) : Change c .stopHackRf c.stopHackRf := by
  by_cases has : c.backend = some .hackRf
  · -- The front end is released, and the request settled before that.
    have empty := waiting_stopHackRf has
    rw [stopHackRf, if_pos has] at empty ⊢
    obtain ⟨session, live⟩ := sound.settled.live_of_backend has
    obtain ⟨release, released⟩ := releaseBackend_released (c := { c with
      inits := (c.inits.resolve (.error (.invalidState "HackRF mode stopped"))).2 })
      sound.attended has
    refine .of_released [] [] live released rfl
      (List.append_nil _).symm rfl (Or.inr ⟨rfl, by simp⟩) rfl (List.append_nil _).symm (by simp)
      (fun closed => ⟨rfl, closed⟩) rfl fun entry waits => ?_
    exact absurd (empty.symm.trans waits) (by simp)
  · -- Without a session on one there is nothing to stop.
    rw [stopHackRf, if_neg has]
    refine .refl sound fun kind other => ?_
    exact decide_eq_false fun same => has (same ▸ other)

/-- Every operation leaves the session that there is alone, opens one, or ends it. -/
theorem perform_change (sound : c.Sound) (operation : Operation H G D) :
    Change c operation (c.perform operation) := by
  -- Four operations may end a session and two may open one; no other one does either.
  cases operation with
  | connect backend => exact connect_change sound backend
  | start => exact start_change sound
  | stop => exact stop_change sound
  | cleanup => exact cleanup_change sound
  | disconnectRtlUsb => exact disconnectRtlUsb_change sound
  | setRtlFrequency frequency => exact .of_guarded sound (fun _ _ => rfl) .rtlUsb rfl
  | setRtlGain gain => exact .of_guarded sound (fun _ _ => rfl) .rtlUsb rfl
  | startHackRf tuning => exact startHackRf_change sound tuning
  | stopHackRf => exact stopHackRf_change sound
  | setFrequency frequency =>
    exact .of_driven sound (fun _ _ => rfl) (c.setFrequency_driven frequency)
  | setSampleRate rate => exact .of_driven sound (fun _ _ => rfl) (c.setSampleRate_driven rate)
  | setLnaGain gain => exact .of_driven sound (fun _ _ => rfl) (c.setLnaGain_driven gain)
  | setVgaGain gain => exact .of_driven sound (fun _ _ => rfl) (c.setVgaGain_driven gain)
  | startReceiving =>
    obtain ⟨aside, attended⟩ := startReceiving_spec sound.attended
    exact .of_aside (fun _ _ => rfl) aside attended
  | stopReceiving =>
    exact .of_aside (fun _ _ => rfl) c.stopReceiving_aside
      (.of_resting (stopReceiving_rests sound.attended.manned))
  | feed samples => exact .of_guarded sound (fun _ _ => rfl) .hackRf rfl
  | pollInit request =>
    refine .of_requests sound (fun _ _ => rfl) fun entry waits => ?_
    rw [← c.inits.waiting_poll request]
    exact waits
  | initReported session report =>
    exact .of_requests sound (fun _ _ => rfl) fun _ waits => Requests.waiting_of_resolveFor waits
  | background activities =>
    exact .of_aside (fun _ _ => rfl) ⟨rfl, rfl, rfl, rfl⟩
      (sound.attended.of_sameDuty (c.plant.afterAll_sameDuty activities))
  | acquisition acquiring =>
    -- Others may do anything to the acquisition, which the session does not look at.
    exact .stayed [] (fun _ _ => rfl) rfl (List.append_nil _).symm (.nil _)
      (fun _ => Or.inr ⟨acquiring, rfl, rfl⟩) (fun _ waits => waits) sound.attended
  | aside command free =>
    exact .of_issue sound (fun _ _ => rfl)
      (.of_aside fun i member => List.mem_singleton.mp member ▸ free)
  | engineChange engine => exact .of_aside (fun _ _ => rfl) ⟨rfl, rfl, rfl, rfl⟩ sound.attended
  | driverChange driver => exact .of_aside (fun _ _ => rfl) ⟨rfl, rfl, rfl, rfl⟩ sound.attended

end Controller

end TunerControl.Session
