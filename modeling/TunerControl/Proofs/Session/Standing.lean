import TunerControl.Proofs.Request.Settlement
import TunerControl.Proofs.Samples.Running
import TunerControl.Proofs.Session.Order
import TunerControl.Session.Operation

/-! Where a session stands, and what each part of an operation leaves of it. -/

namespace TunerControl.Session

open Samples (Plant)
open Usb (Host)

/-- Where a session stands. -/
structure Standing where
  state : State
  backend : Option BackendKind
  session : Option Nat
  deriving DecidableEq

/-- There is no session. -/
def Standing.vacant : Standing :=
  ⟨.idle, none, none⟩

/-- A session is live. -/
def Standing.live (kind : BackendKind) (session : Nat) : Standing :=
  ⟨.active, some kind, some session⟩

namespace Controller

variable {H G D : Type}

/-- Where the session of a controller stands. -/
def standing (c : Controller H G D) : Standing :=
  ⟨c.state, c.backend, c.session⟩

/-- There is no session, or one that is live. -/
def Settled (c : Controller H G D) : Prop :=
  c.standing = .vacant ∨ ∃ kind session, c.standing = .live kind session

/-- The pipeline has a run to stop exactly while it is running, which it is only for a session on a
HackRF. -/
structure Attended (backend : Option BackendKind) (plant : Plant) : Prop where
  manned : plant.Manned pipeline
  receives : plant.isRunning pipeline = true → backend = some .hackRf

/-- Between operations a session is live or there is none, and the pipeline is attended to. -/
structure Sound (c : Controller H G D) : Prop where
  settled : c.Settled
  attended : Attended c.backend c.plant

section Standing

variable {c : Controller H G D} {kind : BackendKind} {session : Nat}

/-- Where a session stands, its front end is known as well. -/
theorem backend_of_same {after : Controller H G D} (same : after.standing = c.standing) :
    after.backend = c.backend :=
  congrArg Standing.backend same

/-- Without a session there is no front end. -/
theorem backend_of_vacant (vacant : c.standing = .vacant) : c.backend = none :=
  congrArg Standing.backend vacant

/-- A live session is on its front end. -/
theorem backend_of_live (live : c.standing = .live kind session) : c.backend = some kind :=
  congrArg Standing.backend live

/-- Without a session, none is live on any kind of front end. -/
theorem isLiveOn_of_vacant (vacant : c.standing = .vacant) (kind : BackendKind) :
    c.isLiveOn kind = false := by
  simp [isLiveOn, backend_of_vacant vacant]

/-- A live session is live on its own kind of front end alone. -/
theorem isLiveOn_of_live (live : c.standing = .live kind session) (other : BackendKind) :
    c.isLiveOn other = decide (kind = other) := by
  -- An active session accepts control.
  obtain ⟨state, backend, -⟩ := Standing.mk.inj live
  simp [isLiveOn, state, backend, State.acceptsControl]

/-- Whoever has a kind of front end is live on it. -/
theorem Settled.isLiveOn (settled : c.Settled) (other : BackendKind) :
    c.isLiveOn other = decide (c.backend = some other) := by
  -- Either there is no session, or it is live.
  rcases settled with vacant | ⟨kind, session, live⟩
  · simp [isLiveOn_of_vacant vacant, backend_of_vacant vacant]
  · simp [isLiveOn_of_live live, backend_of_live live]

/-- Without a session there is no front end. -/
theorem Settled.vacant_iff (settled : c.Settled) : c.standing = .vacant ↔ c.backend = none := by
  refine ⟨backend_of_vacant, fun without => ?_⟩
  rcases settled with vacant | ⟨kind, session, live⟩
  · exact vacant
  · -- A live session has a front end.
    simp [backend_of_live live] at without

/-- There is no session in idleness. -/
theorem Settled.vacant_of_idle (settled : c.Settled) (idle : c.state = .idle) :
    c.standing = .vacant := by
  -- A live session is not idle.
  rcases settled with vacant | ⟨kind, session, live⟩
  · exact vacant
  · simp [(Standing.mk.inj live).1] at idle

/-- A front end is that of a live session. -/
theorem Settled.live_of_backend (settled : c.Settled) (has : c.backend = some kind) :
    ∃ session, c.standing = .live kind session := by
  -- There is a session, and its front end is the one that is asked for.
  rcases settled with vacant | ⟨other, session, live⟩
  · simp [backend_of_vacant vacant] at has
  · have same : other = kind := Option.some.inj ((backend_of_live live).symm.trans has)
    exact ⟨session, same ▸ live⟩

/-- Control is accepted for a live session. -/
theorem Settled.acceptsControl (settled : c.Settled) :
    c.state.acceptsControl = c.backend.isSome := by
  -- An active session accepts control, and an idle one does not.
  rcases settled with vacant | ⟨kind, session, live⟩
  · simp [(Standing.mk.inj vacant).1, backend_of_vacant vacant, State.acceptsControl]
  · simp [(Standing.mk.inj live).1, backend_of_live live, State.acceptsControl]

/-- Decoding is started and stopped for a live session. -/
theorem Settled.backend_of_requireControl (settled : c.Settled) {operation : String}
    (allowed : c.requireControl operation = .ok ()) : ∃ kind, c.backend = some kind := by
  -- Control is accepted exactly where there is a front end.
  unfold requireControl at allowed
  rw [settled.acceptsControl] at allowed
  split at allowed
  · exact Option.isSome_iff_exists.mp ‹_›
  · simp at allowed

end Standing

/-- An operation on a kind of front end is allowed when a session is on it. -/
theorem backend_of_requireBackend {c : Controller H G D} {kind : BackendKind}
    (allowed : c.requireBackend kind = .ok ()) : c.backend = some kind := by
  -- The guard looks at the front end, and at the state as well.
  unfold requireBackend at allowed
  split at allowed
  · rename_i live
    simp only [isLiveOn, Bool.and_eq_true, decide_eq_true_eq] at live
    exact live.1
  · simp at allowed

/-- Nothing changes but what the engine, the driver and the pipeline are doing. -/
structure Aside (c after : Controller H G D) : Prop where
  standing : after.standing = c.standing
  usb : after.usb = c.usb
  commands : after.commands = c.commands
  inits : after.inits = c.inits

/-- Where nothing is done, nothing changes. -/
theorem Aside.refl (c : Controller H G D) : Aside c c :=
  ⟨rfl, rfl, rfl, rfl⟩

/-- Where nothing changes twice, nothing changes. -/
theorem Aside.trans {c d after : Controller H G D} (first : Aside c d) (second : Aside d after) :
    Aside c after :=
  ⟨second.standing.trans first.standing, second.usb.trans first.usb,
    second.commands.trans first.commands, second.inits.trans first.inits⟩

namespace Attended

variable {backend : Option BackendKind} {plant after : Plant}

/-- Whatever goes on at the plant beside the commands of its owner does no harm. -/
theorem of_sameDuty (attended : Attended backend plant) (same : Plant.SameDuty plant after) :
    Attended backend after := by
  -- Whether the pipeline has a run to stop and whether it is running are matters of the duties.
  refine ⟨attended.manned.of_sameDuty same, fun running => attended.receives ?_⟩
  rw [same.isRunning] at running
  exact running

/-- A pipeline at rest is attended to for any session. -/
theorem of_resting (resting : plant.currentRun? pipeline = none) : Attended backend plant := by
  -- It is not running, so that no session is needed for it.
  refine ⟨.of_none resting, fun running => ?_⟩
  simp [Plant.isRunning, resting] at running

/-- The pipeline is at rest in a session that is not on a HackRF. -/
theorem resting (attended : Attended backend plant) (elsewhere : backend ≠ some .hackRf) :
    plant.currentRun? pipeline = none := by
  -- A pipeline that is not running has no run to stop.
  have still : plant.isRunning pipeline = false := Bool.eq_false_iff.mpr fun running =>
    elsewhere (attended.receives running)
  have unmanned : (plant.currentRun? pipeline).isSome = false := attended.manned.trans still
  simpa using unmanned

end Attended

section Driver

variable [HackRfDriver D]

/-- What the driver was told, if anything. -/
def Driven (c after : Controller H G D) : Prop :=
  after = c ∨ ∃ driver call, after = (c.drive driver call).2

/-- A command to the driver is nothing to the session or the plant. -/
theorem Driven.aside {c after : Controller H G D} (driven : Driven c after) :
    Aside c after ∧ after.plant = c.plant := by
  -- The driver is left alone, or its own state and the log of its calls change.
  rcases driven with rfl | ⟨driver, call, rfl⟩
  · exact ⟨.refl _, rfl⟩
  · exact ⟨⟨rfl, rfl, rfl, rfl⟩, rfl⟩

/-- Setting the frequency gives the driver one command, or none. -/
theorem setFrequency_driven (c : Controller H G D) (frequency : UInt64) :
    Driven c (c.setFrequency frequency).2 := by
  -- The driver is told if there is one to be used.
  unfold setFrequency
  split
  · exact Or.inl rfl
  · exact Or.inr ⟨_, _, rfl⟩

/-- Setting the rate gives the driver one command, or none. -/
theorem setSampleRate_driven (c : Controller H G D) (rate : UInt32) :
    Driven c (c.setSampleRate rate).2 := by
  -- The driver is told if there is one to be used, and if it supports the rate.
  unfold setSampleRate
  split
  · exact Or.inl rfl
  · split
    · exact Or.inr ⟨_, _, rfl⟩
    · exact Or.inl rfl

/-- Setting the gain of the low-noise amplifier gives the driver one command, or none. -/
theorem setLnaGain_driven (c : Controller H G D) (gain : UInt32) :
    Driven c (c.setLnaGain gain).2 := by
  -- The driver is told if there is one to be used, and if it supports the gain.
  unfold setLnaGain
  split
  · exact Or.inl rfl
  · split
    · exact Or.inl rfl
    · exact Or.inr ⟨_, _, rfl⟩

/-- So does setting the gain of the variable amplifier. -/
theorem setVgaGain_driven (c : Controller H G D) (gain : UInt32) :
    Driven c (c.setVgaGain gain).2 := by
  -- Here as well it is told only a gain that it supports.
  unfold setVgaGain
  split
  · exact Or.inl rfl
  · split
    · exact Or.inl rfl
    · exact Or.inr ⟨_, _, rfl⟩

/-- A driver that begins to initialise leaves the request for its session outstanding, or none. -/
theorem beginInit_spec (c : Controller H G D) (driver : D) (session : Nat) :
    let after := (c.beginInit driver session).2
    after.standing = c.standing ∧ after.usb = c.usb ∧ after.commands = c.commands ∧
      after.plant = c.plant ∧ ∀ entry, after.inits.waiting = some entry → entry.1 = session := by
  -- The request in the slot is the one for the session, until it is settled.
  have armed : ∀ entry, (c.inits.arm session).2.waiting = some entry → entry.1 = session := by
    intro entry waits
    exact congrArg Prod.fst (Option.some.inj waits.symm)
  unfold beginInit
  dsimp only
  obtain ⟨⟨report, failure⟩, driver⟩ := HackRfDriver.begin driver session
  -- A report and a failure may each settle the request that was armed.
  cases report <;> cases failure
  · exact ⟨rfl, rfl, rfl, rfl, armed⟩
  · exact ⟨rfl, rfl, rfl, rfl, fun entry waits =>
      armed entry (Requests.waiting_of_resolveFor waits)⟩
  · exact ⟨rfl, rfl, rfl, rfl, fun entry waits =>
      armed entry (Requests.waiting_of_resolveFor waits)⟩
  · exact ⟨rfl, rfl, rfl, rfl, fun entry waits =>
      armed entry (Requests.waiting_of_resolveFor (Requests.waiting_of_resolveFor waits))⟩

end Driver

section Engine

variable [Engine G]

/-- A command as the log tells of it. -/
def issued (c : Controller H G D) (command : Command) : Issued :=
  ⟨command, (Engine.issue c.engine command).1.isOk, c.usb.log.length⟩

/-- Stopping the pipeline is nothing to the session. -/
theorem stopPipeline_aside (c : Controller H G D) : Aside c c.stopPipeline.2 :=
  ⟨rfl, rfl, rfl, rfl⟩

/-- The pipeline is at rest after it was stopped. -/
theorem stopPipeline_rests {c : Controller H G D} (manned : c.plant.Manned pipeline) :
    c.stopPipeline.2.plant.currentRun? pipeline = none :=
  manned.stop _

/-- A connection is asked for by the command for its kind of front end, or not at all. -/
theorem issueConnect_cases (c : Controller H G D) (backend : Backend) :
    (∃ failure, c.issueConnect backend = (.error failure, c)) ∨
      ∃ command, command.connects? = some backend.kind ∧
        ((c.issued command).accepted = true ∧
            c.issueConnect backend = (.ok (), (c.issue command).2) ∨
          (c.issued command).accepted = false ∧
            ∃ failure, c.issueConnect backend = (.error failure, (c.issue command).2)) := by
  -- The log tells of every command whether the engine accepted it.
  have answered : ∀ command, (c.issued command).accepted = true ∧
      c.issue command = (.ok (), (c.issue command).2) ∨ (c.issued command).accepted = false ∧
        ∃ failure, c.issue command = (.error failure, (c.issue command).2) := by
    intro command
    -- What the log says is the answer to the caller.
    cases answer : (Engine.issue c.engine command).1 with
    | ok => exact Or.inl ⟨by simp [issued, answer, Except.isOk, Except.toBool],
        Prod.ext answer rfl⟩
    | error failure => exact Or.inr ⟨by simp [issued, answer, Except.isOk, Except.toBool], failure,
        Prod.ext answer rfl⟩
  cases backend with
  | network t => exact Or.inr ⟨_, rfl, answered (.connectNetwork t)⟩
  | rtlUsb t =>
    simp only [issueConnect]
    split
    · exact Or.inr ⟨_, rfl, answered (.openRtlUsb t)⟩
    · -- An engine without support for dongles is not asked.
      exact Or.inl ⟨_, rfl⟩
  | hackRf t =>
    -- The failure is another one than the engine's, but the engine has declined all the same.
    refine Or.inr ⟨.startHackRfMode t.frequency t.sampleRate, rfl, ?_⟩
    rcases answered (.startHackRfMode t.frequency t.sampleRate) with
      ⟨accepted, answer⟩ | ⟨declined, failure, answer⟩
    · refine Or.inl ⟨accepted, ?_⟩
      rw [issueConnect, answer]
    · refine Or.inr ⟨declined, .pipeSetupFailed, ?_⟩
      rw [issueConnect, answer]

/-- The controller while it tries to open a session. -/
def trying (c : Controller H G D) : Controller H G D :=
  { c with session := some c.sessions, sessions := c.sessions + 1, state := .connecting }

/-- Connecting is refused at once, or goes on with the engine. -/
theorem connect_cases (c : Controller H G D) (backend : Backend) :
    (∃ failure, c.connect backend = (.error failure, c)) ∨
      c.state = .idle ∧ c.connect backend =
        match c.trying.issueConnect backend with
        | (.ok (), d) => (.ok (), { d with backend := some backend.kind, state := .active })
        | (.error failure, d) => (.error failure, { d with session := none, state := .idle }) := by
  -- A session that is not idle or a backend that is not valid is refused before the engine is
  -- asked.
  unfold connect
  split
  · exact Or.inl ⟨_, rfl⟩
  · -- The backend is looked at before anything changes.
    rename_i idle
    cases backend.validate with
    | error fault => exact Or.inl ⟨_, rfl⟩
    | ok => exact Or.inr ⟨Decidable.not_not.mp idle, rfl⟩

/-- A session that was opened is live. -/
theorem connect_ok {c d : Controller H G D} {backend : Backend}
    (connected : c.connect backend = (.ok (), d)) :
    c.state = .idle ∧ ∃ issued : Issued, issued.opens? = some backend.kind ∧
      issued.hostCalls = c.usb.log.length ∧ d.standing = .live backend.kind c.sessions ∧
      d.commands = c.commands ++ [issued] ∧ d.usb = c.usb ∧ d.inits = c.inits ∧
      d.plant = c.plant := by
  -- It was not refused at once, and the engine has accepted it.
  rcases c.connect_cases backend with ⟨failure, refused⟩ | ⟨idle, asked⟩
  · simp [refused] at connected
  · refine ⟨idle, ?_⟩
    rw [asked] at connected
    rcases c.trying.issueConnect_cases backend with
      ⟨failure, unasked⟩ | ⟨command, connects, ⟨accepted, answer⟩ | ⟨-, failure, answer⟩⟩
    · simp [unasked] at connected
    · -- The session has the number that it was tried under.
      rw [answer] at connected
      obtain ⟨-, rfl⟩ := Prod.mk.inj connected
      refine ⟨c.trying.issued command, ?_, rfl, rfl, rfl, rfl, rfl, rfl⟩
      rw [Issued.opens?, accepted, if_pos rfl]
      exact connects
    · simp [answer] at connected

/-- A refusal leaves everything as it was, though the engine may have been asked. -/
theorem connect_error {c d : Controller H G D} {backend : Backend} {failure : Failure}
    (settled : c.Settled) (refused : c.connect backend = (.error failure, d)) :
    d.standing = c.standing ∧ d.usb = c.usb ∧ d.inits = c.inits ∧ d.plant = c.plant ∧
      ∃ news, d.commands = c.commands ++ news ∧ Keeps c.backend news := by
  -- It was refused at once, by an engine without support for dongles, or by the engine that was
  -- asked.
  rcases c.connect_cases backend with ⟨reason, unasked⟩ | ⟨idle, asked⟩
  · obtain ⟨-, rfl⟩ := Prod.mk.inj (unasked.symm.trans refused)
    exact ⟨rfl, rfl, rfl, rfl, [], by simp, .nil _⟩
  · have vacant := settled.vacant_of_idle idle
    have nothing := backend_of_vacant vacant
    -- The number that the session was tried under is taken away again.
    have stands : (⟨.idle, c.backend, none⟩ : Standing) = c.standing := by
      rw [vacant, nothing]
      rfl
    rw [asked] at refused
    rcases c.trying.issueConnect_cases backend with
      ⟨reason, unasked⟩ | ⟨command, connects, ⟨-, answer⟩ | ⟨declined, reason, answer⟩⟩
    · rw [unasked] at refused
      obtain ⟨-, rfl⟩ := Prod.mk.inj refused
      exact ⟨stands, rfl, rfl, rfl, [], by simp [trying], .nil _⟩
    · simp [answer] at refused
    · rw [answer] at refused
      obtain ⟨-, rfl⟩ := Prod.mk.inj refused
      refine ⟨stands, rfl, rfl, rfl, [c.trying.issued command], rfl, ?_⟩
      rw [nothing]
      exact .of_declined connects declined

section Driver

variable [HackRfDriver D]

/-- Receiving begins only in a session on a HackRF, and not at all if the driver declines. -/
theorem startReceiving_spec {c : Controller H G D} (attended : Attended c.backend c.plant) :
    Aside c c.startReceiving.2 ∧ Attended c.backend c.startReceiving.2.plant := by
  -- Nothing is done without a driver, without a session on a HackRF, or with the pipeline running.
  unfold startReceiving
  split
  · exact ⟨.refl c, attended⟩
  · exact ⟨.refl c, attended⟩
  · rename_i driver _ allowed
    split
    · exact ⟨.refl c, attended⟩
    · rename_i run plant started
      -- What the driver does with its buffers before its call returns changes no duty.
      have begun := (Plant.Manned.of_start started).of_sameDuty
        (plant.afterAll_sameDuty (HackRfDriver.receive driver run plant).1.activities)
      dsimp only
      split
      · exact ⟨⟨rfl, rfl, rfl, rfl⟩, begun, fun _ => backend_of_requireBackend allowed⟩
      · -- The run that was begun for the driver is stopped again.
        exact ⟨⟨rfl, rfl, rfl, rfl⟩, .of_resting (begun.stop _)⟩

/-- The driver may be told to stop before the pipeline is. -/
theorem stopReceiving_cases (c : Controller H G D) :
    ∃ d, Driven c d ∧ c.stopReceiving.2 = d.stopPipeline.2 := by
  -- The driver is told if there is one and samples are received.
  unfold stopReceiving
  cases c.driver with
  | none => exact ⟨c, Or.inl rfl, rfl⟩
  | some driver =>
    cases c.isReceiving with
    | false => exact ⟨c, Or.inl rfl, rfl⟩
    | true => exact ⟨_, Or.inr ⟨driver, .stop, rfl⟩, rfl⟩

/-- The end of receiving is nothing to the session. -/
theorem stopReceiving_aside (c : Controller H G D) : Aside c c.stopReceiving.2 := by
  -- Neither the driver nor the pipeline has a part in it.
  obtain ⟨d, driven, stopped⟩ := c.stopReceiving_cases
  rw [stopped]
  exact driven.aside.1.trans d.stopPipeline_aside

/-- The pipeline is at rest after receiving was stopped, whatever the driver says. -/
theorem stopReceiving_rests {c : Controller H G D} (manned : c.plant.Manned pipeline) :
    c.stopReceiving.2.plant.currentRun? pipeline = none := by
  -- What the driver was told leaves the plant alone, and the pipeline is stopped after that.
  obtain ⟨d, driven, stopped⟩ := c.stopReceiving_cases
  rw [stopped]
  exact stopPipeline_rests (driven.aside.2 ▸ manned)

/-- Once its session is open, the driver of a HackRF changes nothing but the requests. One that is
outstanding is for the session, or was before. -/
theorem startHackRf_of_ok {c d : Controller H G D} {tuning : HackRfTuning}
    (connected : c.connect (.hackRf tuning) = (.ok (), d)) :
    let after := (c.startHackRf tuning).2
    after.standing = d.standing ∧ after.usb = d.usb ∧ after.commands = d.commands ∧
      after.plant = d.plant ∧ ∀ entry, after.inits.waiting = some entry →
        d.inits.waiting = some entry ∨ d.session = some entry.1 := by
  -- The driver is ready, is asked, or is missing.
  unfold startHackRf
  rw [connected]
  dsimp only
  split
  · -- A driver that is ready is not asked, and the request for it is settled at once.
    exact ⟨rfl, rfl, rfl, rfl, fun entry waits => Or.inl waits⟩
  · split
    · -- The request that is armed is for the session that was opened.
      rename_i driver session _ numbered
      obtain ⟨standing, usb, commands, plant, own⟩ := d.beginInit_spec driver session
      refine ⟨standing, usb, commands, plant, fun entry waits => Or.inr ?_⟩
      rw [numbered, own entry waits]
    · exact ⟨rfl, rfl, rfl, rfl, fun entry waits => Or.inl waits⟩

section Release

variable [Host H]

/-- What is left when the front end of a session was released. -/
structure Released (c after : Controller H G D) (kind : BackendKind) (release : List Issued) :
    Prop where
  state : after.state = c.state
  backend : after.backend = none
  session : after.session = none
  inits : after.inits = c.inits
  commands : after.commands = c.commands ++ release
  releases : release.map (·.command) = (Command.releaseOf? kind).toList
  hostCalls : ∀ i ∈ release, i.hostCalls = c.usb.log.length
  usb : after.usb = if kind = .rtlUsb then c.usb.close else c.usb
  resting : after.plant.currentRun? pipeline = none

/-- The front end of a session is released by the one command for it, while the connection to it is
still open. -/
theorem releaseBackend_released {c : Controller H G D} {kind : BackendKind}
    (attended : Attended c.backend c.plant) (has : c.backend = some kind) :
    ∃ release, Released c c.releaseBackend kind release := by
  -- Each kind of front end is released in its own way.
  cases kind with
  | network =>
    -- There is nothing to let go of.
    have resting := attended.resting (by simp [has])
    unfold releaseBackend
    rw [has]
    exact ⟨[], rfl, rfl, rfl, rfl, (List.append_nil _).symm, rfl, by simp, rfl, resting⟩
  | rtlUsb =>
    -- The engine is told before the connection is closed, so that the log has not grown yet.
    have resting := attended.resting (by simp [has])
    unfold releaseBackend
    rw [has]
    exact ⟨[c.issued .closeRtlUsb], rfl, rfl, rfl, rfl, rfl, rfl, by simp [issued], rfl, resting⟩
  | hackRf =>
    -- Receiving is stopped before the engine is told.
    have aside := ({ c with backend := none } : Controller H G D).stopReceiving_aside
    have resting := stopReceiving_rests (c := { c with backend := none }) attended.manned
    obtain ⟨state, backend, -⟩ := Standing.mk.inj aside.standing
    have told : c.releaseBackend =
        { ({ c with backend := none } : Controller H G D).stopReceiving.2.tell .stopHackRfMode with
          session := none } := by
      unfold releaseBackend
      rw [has]
    rw [told]
    generalize ({ c with backend := none } : Controller H G D).stopReceiving.2 = d at *
    refine ⟨[d.issued .stopHackRfMode], state, backend, rfl, aside.inits, ?_, rfl, ?_, aside.usb,
      resting⟩
    · show d.commands ++ _ = _
      rw [aside.commands]
      rfl
    · simp [issued, aside.usb]

/-- Releasing a front end settles no request, and leaves no front end. -/
theorem releaseBackend_spec (c : Controller H G D) :
    c.releaseBackend.inits = c.inits ∧ c.releaseBackend.backend = none := by
  -- Again, each kind of front end is released in its own way.
  unfold releaseBackend
  dsimp only
  cases c.backend with
  | none => exact ⟨rfl, rfl⟩
  | some kind =>
    cases kind with
    | network => exact ⟨rfl, rfl⟩
    | rtlUsb => exact ⟨rfl, rfl⟩
    | hackRf =>
      have aside := ({ c with backend := none } : Controller H G D).stopReceiving_aside
      exact ⟨aside.inits, backend_of_same aside.standing⟩

/-- There is nothing to release without a session. -/
theorem releaseBackend_of_vacant {c : Controller H G D} (vacant : c.standing = .vacant) :
    c.releaseBackend = c := by
  -- The fields that would be cleared are clear already.
  obtain ⟨-, backend, session⟩ := Standing.mk.inj vacant
  unfold releaseBackend
  simp only [backend]
  cases c
  simp_all

end Release

end Driver

end Engine

end Controller

end TunerControl.Session
