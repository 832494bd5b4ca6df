import TunerControl.Proofs.Session.Vetting
import TunerControl.Simulated.Engine
import TunerControl.Simulated.Host

/-! Attempts to connect: the engine is asked once or not at all, and a failed attempt leaves nothing
that a later one could stumble over. -/

namespace TunerControl.Session.Controller

open Usb (Host)

variable {H G D : Type} {c : Controller H G D}

/-- A controller is where it is. -/
theorem Unmoved.refl (c : Controller H G D) : c.Unmoved c :=
  rfl

/-- Where nothing moves and then nothing again, nothing moves. -/
theorem Unmoved.trans {first second third : Controller H G D} (before : first.Unmoved second)
    (behind : second.Unmoved third) : first.Unmoved third := by
  -- Only the engine, the log of commands and the count of sessions were written to, twice.
  unfold Unmoved at before behind ⊢
  rw [behind, before]

/-- The state, front end and number of the session are settled as before. -/
theorem Unmoved.settled {after : Controller H G D} (unmoved : c.Unmoved after)
    (settled : c.Settled) : after.Settled := by
  rw [unmoved]
  exact settled

variable [Engine G] {backend : Backend}

/-- Whatever comes of an attempt, it is as it should be. -/
theorem Settled.connect_attempt (settled : c.Settled) (backend : Backend) :
    Attempt c backend (c.connect backend).1 (c.connect backend).2 := by
  -- The attempt had one of three outcomes, each of which makes the same clauses true.
  rcases settled.connect_outcome backend with ⟨failure, _, unable, refused, answer⟩ |
    ⟨connectable, accepts, answer⟩ | ⟨refusal, connectable, declines, answer⟩
  · -- The engine was not asked, so that the attempt failed by its first need.
    rw [answer]
    exact {
      asked := fun able => absurd able unable
      accepted := fun able => absurd able unable
      declined := fun able => absurd able unable
      unasked := fun _ => ⟨rfl, rfl⟩
      refused := fun _ => ⟨failure, refused, rfl⟩
      succeeded := nofun
      failed := fun _ _ => rfl }
  · -- The session has the number that was next.
    rw [answer]
    exact {
      asked := fun _ => rfl
      accepted := fun _ => iff_of_true rfl accepts
      declined := fun _ refusal declines => absurd (accepts.symm.trans declines) nofun
      unasked := fun unable => absurd connectable unable
      refused := fun unable => absurd connectable unable
      succeeded := fun _ => ⟨rfl, rfl, rfl⟩
      failed := nofun }
  · rw [answer]
    exact {
      asked := fun _ => rfl
      accepted := fun _ => iff_of_false nofun (declines ▸ nofun)
      declined := fun _ other same => by rw [Except.error.inj (declines.symm.trans same)]
      unasked := fun unable => absurd connectable unable
      refused := fun unable => absurd connectable unable
      succeeded := nofun
      failed := fun _ _ => rfl }

/-- What was tried before makes no difference to an attempt. -/
theorem Settled.connect_regardless (settled : c.Settled) (commands : List Issued) (sessions : Nat)
    (backend : Backend) :
    let tried : Controller H G D := { c with commands, sessions }
    (tried.connect backend).1 = (c.connect backend).1 ∧
    (tried.connect backend).2.state = (c.connect backend).2.state ∧
    (tried.connect backend).2.backend = (c.connect backend).2.backend := by
  -- What may be connected to is a matter of the state and the engine, and neither is changed.
  intro tried
  have alike : tried.Connectable backend ↔ c.Connectable backend :=
    ⟨fun ⟨idle, valid, supported⟩ => ⟨idle, valid, supported⟩,
      fun ⟨idle, valid, supported⟩ => ⟨idle, valid, supported⟩⟩
  have triedSettled : tried.Settled := settled
  rcases settled.connect_outcome backend with ⟨failure, _, unable, refused, answer⟩ |
    ⟨connectable, accepts, answer⟩ | ⟨refusal, connectable, declines, answer⟩
  · -- The needs are those of the state and the engine alone.
    have refused : Need.refusal? (tried.connectNeeds backend) = some failure := refused
    obtain ⟨sessions, same⟩ := triedSettled.connect_refused refused
    rw [same, answer]
    exact ⟨rfl, rfl, rfl⟩
  · rw [connect_accepted (alike.mpr connectable) accepts, answer]
    exact ⟨rfl, rfl, rfl⟩
  · rw [triedSettled.connect_declined (alike.mpr connectable) declines, answer]
    exact ⟨rfl, rfl, rfl⟩

variable [Host H] [HackRfDriver D]

/-- Any number of failed attempts leave the controller as it was. -/
theorem Settled.attempts_unmoved (settled : c.Settled) (attempts : List Backend)
    (failed : c.AllFail attempts) : c.Unmoved (c.afterAll (attempts.map .connect)) := by
  -- Each attempt leaves a settled controller to the next one.
  induction attempts generalizing c with
  | nil => exact .refl c
  | cons backend rest ih =>
    obtain ⟨⟨failure, answer⟩, others⟩ := failed
    have first := (settled.connect_attempt backend).failed failure answer
    exact first.trans (ih (first.settled settled) others)

/-- In every state that a run can lead to, connecting asks the engine exactly if there is no session, the
backend is valid, and the engine can use dongles if it is to use one, and then once. An attempt that
fails, and any number of them, leaves the session, the acquisition, the requests, the driver and the
pipeline as they were, and a later attempt ends as if none had been made before. So whatever the engine
is told to connect to can be connected to. -/
theorem afterRun_attempts (usb : Usb.Acquisition H) (engine : G) (driver : Option D)
    (config : PipelineConfig) (operations : List (Operation H G D)) :
    let c := afterRun usb engine driver config operations
    (∀ backend, Attempt c backend (c.connect backend).1 (c.connect backend).2) ∧
    (∀ attempts, c.AllFail attempts →
      let later := c.afterAll (attempts.map .connect)
      let fresh := { c with engine := later.engine }
      c.Unmoved later ∧ ∀ backend,
        (later.connect backend).1 = (fresh.connect backend).1 ∧
        (later.connect backend).2.state = (fresh.connect backend).2.state ∧
        (later.connect backend).2.backend = (fresh.connect backend).2.backend) ∧
    ∀ i ∈ c.commands,
      (∀ tuning, i.command = .connectNetwork tuning →
        Text.isBlank tuning.host = false ∧ tuning.port ≠ 0 ∧ tuning.frequency ≠ 0) ∧
      (∀ tuning, i.command = .openRtlUsb tuning →
        0 ≤ tuning.fd.toInt ∧ tuning.devicePath ≠ "" ∧ tuning.sampleRate ≠ 0) ∧
      ∀ frequency rate, i.command = .startHackRfMode frequency rate →
        1 ≤ rate.toNat ∧ rate.toNat ≤ 20000000 := by
  intro c
  have settled : c.Settled := (afterRun_sound usb engine driver config operations).settled
  refine ⟨settled.connect_attempt, ?_, ?_⟩
  · intro attempts failed later fresh
    have unmoved : c.Unmoved later := settled.attempts_unmoved attempts failed
    refine ⟨unmoved, fun backend => ?_⟩
    -- The later controller differs from a fresh one in its log and its count alone.
    have freshSettled : fresh.Settled := settled
    have regardless := freshSettled.connect_regardless later.commands later.sessions backend
    have same : later = { fresh with commands := later.commands, sessions := later.sessions } :=
      unmoved
    rw [← same] at regardless
    exact regardless
  · -- Whatever the engine was told was vetted on the way.
    intro i told
    have sound := (vetted_afterRun usb engine driver config operations).commands i told
    refine ⟨?_, ?_, ?_⟩
    · intro tuning connects
      rw [connects] at sound
      obtain ⟨host, others⟩ := of_decide_eq_true sound
      exact ⟨(Bool.not_eq_true' _).mp host, others⟩
    · intro tuning connects
      rw [connects] at sound
      exact of_decide_eq_true sound
    · intro frequency rate connects
      rw [connects] at sound
      exact of_decide_eq_true sound

/-- An engine that accepts no connection but to a dongle. -/
def reluctantEngine : Simulated.Engine :=
  { refusals := [("connect_network", .operationFailed "no route"),
      ("start_hackrf_mode", .operationFailed "no pipe")] }

/-- Attempts that such an engine fails, one of them without being asked. -/
def vainAttempts : List Backend :=
  [.network { host := " " }, .network { host := "receiver" }, .hackRf { }]

/-- Such an engine still accepts a connection to a dongle after the attempts that failed, and callers
are told of each failure in its own way. -/
theorem reluctantEngine_attempts :
    let c := afterRun (D := Simulated.Driver) { host := ({ } : Simulated.Service), models := [] }
      reluctantEngine none { } []
    let later := c.afterAll (vainAttempts.map .connect)
    let dongle : Backend := .rtlUsb { fd := 3, devicePath := "dongle" }
    c.AllFail vainAttempts ∧ c.Unmoved later ∧
    (c.connect (.network { host := "receiver" })).1 = .error (.operationFailed "no route") ∧
    (c.connect (.hackRf { })).1 = .error .pipeSetupFailed ∧
    (later.connect dongle).1 = .ok () ∧ (later.connect dongle).2.backend = some .rtlUsb := by
  -- The attempts fail one by one; what later ones come to follows from the theorem.
  intro c later dongle
  have failed : c.AllFail vainAttempts := ⟨⟨_, rfl⟩, ⟨_, rfl⟩, ⟨_, rfl⟩, trivial⟩
  obtain ⟨attempt, retry, -⟩ := afterRun_attempts (D := Simulated.Driver)
    { host := ({ } : Simulated.Service), models := [] } reluctantEngine none { } []
  obtain ⟨unmoved, regardless⟩ := retry vainAttempts failed
  obtain ⟨answer, -, backend⟩ := regardless dongle
  refine ⟨failed, unmoved, ?_, ?_, answer.trans rfl, backend.trans rfl⟩
  · exact (attempt (.network { host := "receiver" })).declined ⟨rfl, rfl, nofun⟩ _ rfl
  · exact (attempt (.hackRf { })).declined ⟨rfl, rfl, nofun⟩ _ rfl

end TunerControl.Session.Controller
