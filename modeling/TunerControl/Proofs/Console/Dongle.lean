import TunerControl.Console.Operation
import TunerControl.Proofs.Session.Dongle
import TunerControl.Simulated.Engine
import TunerControl.Simulated.Host

/-! A console keeps the dongle for the session that is using it. -/

namespace TunerControl

open Session (Command Controller Engine HackRfDriver HasDongle Issued)
open Usb (Host)

/-- Settings have no part in sessions. -/
theorem Session.Command.isAside_of_isSetting {c : Command} (isSetting : c.isSetting = true) :
    c.isAside = true := by
  -- One case for each command. The settings are all aside.
  cases c <;> first | exact absurd isSetting Bool.false_ne_true | rfl

namespace Console

variable {H G D : Type}

/-- What a console has its controller do for an operation. -/
def parts (c : Console H G D) : Operation H G D → List (Session.Operation H G D)
  | .session operation _ => [operation]
  | .startHackRf frequency sampleRate => [.startHackRf { frequency, sampleRate }]
  | .shutdown => [.cleanup, .aside .clearEventHandler rfl]
  | .listDongles => [.acquisition .list]
  | .openDongle path =>
    match c.controller.requireDongleFree openingDongle with
    | .error _ => []
    | .ok () => [.acquisition (.acquirePath path)]
  | .closeDongle =>
    match c.controller.requireDongleFree closingDongle with
    | .error _ => []
    | .ok () => [.acquisition .close]
  | .permissionResult path granted =>
    match c.controller.requireDongleFree openingDongle with
    | .error failure => [.acquisition (.failPending path failure)]
    | .ok () => [.acquisition (.permissionResult path granted)]
  | .setFilterMode n =>
    match FilterMode.ofRaw n with
    | .error _ => []
    | .ok mode => [.aside (.setFilterMode mode.raw) rfl]
  | .setting command isSetting => [.aside command (Command.isAside_of_isSetting isSetting)]
  | _ => []

/-- Why something cannot be done to the dongle of a session. -/
def inUse (operation : String) : Failure :=
  .invalidState
    ("cannot " ++ operation ++ " while the RTL-SDR session is " ++ Session.State.active.name)

/-- The dongle is free unless a session is using it. -/
theorem requireDongleFree_eq {c : Controller H G D} (settled : c.Settled) (operation : String) :
    c.requireDongleFree operation =
      if c.backend = some .rtlUsb then .error (inUse operation) else .ok () := by
  -- Whoever has a dongle between operations is active on it.
  unfold Controller.requireDongleFree
  rw [settled.isLiveOn]
  by_cases has : c.backend = some .rtlUsb
  · obtain ⟨session, live⟩ := settled.live_of_backend has
    simp [has, (Session.Standing.mk.inj live).1, inUse]
  · simp [has]

/-- A session on a dongle is ended by the operations that close the dongle in the engine. -/
theorem parts_unended {c : Console H G D} {operation : Operation H G D}
    (keeps : operation.closesDongle = false) :
    ∀ part ∈ c.parts operation, part.ends .rtlUsb = false := by
  intro part member
  cases operation with
  | session operation passedOn =>
    rw [List.mem_singleton.mp member]
    -- What ends such a session is either not passed on or closes the dongle.
    cases operation <;> first
      | exact absurd passedOn Bool.false_ne_true
      | exact absurd keeps.symm Bool.false_ne_true
      | rfl
  | shutdown => simp [Operation.closesDongle] at keeps
  | openDongle path =>
    simp only [parts] at member
    -- Refused, nothing is done, and otherwise it is the acquisition's.
    split at member <;> simp_all [Session.Operation.ends]
  | closeDongle =>
    simp only [parts] at member
    split at member <;> simp_all [Session.Operation.ends]
  | permissionResult path granted =>
    simp only [parts] at member
    split at member <;> simp_all [Session.Operation.ends]
  | setFilterMode n =>
    simp only [parts] at member
    split at member <;> simp_all [Session.Operation.ends]
  | _ => simp_all [parts, Session.Operation.ends]

/-- A console has its controller do at most one thing, unless it shuts down. -/
theorem parts_cases (c : Console H G D) (operation : Operation H G D) :
    operation = .shutdown ∨ c.parts operation = [] ∨ ∃ part, c.parts operation = [part] := by
  -- One case for each operation. What may be refused has one part or none.
  cases operation with
  | shutdown => exact Or.inl rfl
  | session operation passedOn => exact Or.inr (Or.inr ⟨_, rfl⟩)
  | startHackRf frequency sampleRate => exact Or.inr (Or.inr ⟨_, rfl⟩)
  | listDongles => exact Or.inr (Or.inr ⟨_, rfl⟩)
  | setting command isSetting => exact Or.inr (Or.inr ⟨_, rfl⟩)
  | openDongle path =>
    simp only [parts]
    cases c.controller.requireDongleFree openingDongle <;> simp
  | closeDongle =>
    simp only [parts]
    cases c.controller.requireDongleFree closingDongle <;> simp
  | permissionResult path granted =>
    simp only [parts]
    cases c.controller.requireDongleFree openingDongle <;> simp
  | setFilterMode n =>
    simp only [parts]
    cases FilterMode.ofRaw n <;> simp
  | _ => exact Or.inr (Or.inl rfl)

variable [Host H] [Engine G] [HackRfDriver D]

/-- The controller of a console does the parts of each operation. -/
theorem perform_controller (c : Console H G D) (operation : Operation H G D) :
    (c.perform operation).controller = c.controller.afterAll (c.parts operation) := by
  -- What may be refused is refused alike on both sides.
  cases operation with
  | openDongle path =>
    simp only [perform, openDongle, parts]
    cases c.controller.requireDongleFree openingDongle <;> rfl
  | closeDongle =>
    simp only [perform, closeDongle, parts]
    cases c.controller.requireDongleFree closingDongle <;> rfl
  | permissionResult path granted =>
    simp only [perform, permissionResult, parts]
    cases c.controller.requireDongleFree openingDongle <;> rfl
  | setFilterMode n =>
    simp only [perform, setFilterMode, parts]
    cases FilterMode.ofRaw n <;> rfl
  | emit event =>
    -- An event is none of the controller's business.
    simp only [perform, emit]
    split <;> rfl
  | _ => rfl

/-- While a session is using the dongle, a console has the acquisition ask for nothing. -/
theorem parts_sparing {c : Console H G D} (settled : c.controller.Settled)
    (operation : Operation H G D) : c.controller.Sparing (c.parts operation) := by
  -- Between operations, whether the dongle is in use is a matter of the backend.
  have refused : c.controller.backend = some .rtlUsb → ∀ word,
      c.controller.requireDongleFree word = .error (inUse word) := fun has word =>
    (requireDongleFree_eq settled word).trans (if_pos has)
  have free : c.controller.backend ≠ some .rtlUsb → ∀ word,
      c.controller.requireDongleFree word = .ok () := fun elsewhere word =>
    (requireDongleFree_eq settled word).trans (if_neg elsewhere)
  cases operation with
  | session operation passedOn =>
    -- Of the acquisition, only asking for outcomes and changes of the service are passed on.
    refine ⟨?_, trivial⟩
    rintro - acquiring rfl
    cases acquiring <;> first | exact absurd passedOn Bool.false_ne_true | rfl
  | shutdown => exact ⟨nofun, nofun, trivial⟩
  | listDongles =>
    refine ⟨?_, trivial⟩
    rintro - acquiring ⟨⟩
    rfl
  | openDongle path =>
    simp only [parts]
    by_cases has : c.controller.backend = some .rtlUsb
    · -- The host is refused before the acquisition is asked.
      rw [refused has]
      trivial
    · rw [free has]
      exact ⟨fun used => absurd used has, trivial⟩
  | closeDongle =>
    simp only [parts]
    by_cases has : c.controller.backend = some .rtlUsb
    · rw [refused has]
      trivial
    · rw [free has]
      exact ⟨fun used => absurd used has, trivial⟩
  | permissionResult path granted =>
    simp only [parts]
    by_cases has : c.controller.backend = some .rtlUsb
    · -- The answer only settles the request that it is for.
      rw [refused has]
      refine ⟨?_, trivial⟩
      rintro - acquiring ⟨⟩
      rfl
    · rw [free has]
      exact ⟨fun used => absurd used has, trivial⟩
  | setFilterMode n =>
    simp only [parts]
    cases FilterMode.ofRaw n with
    | error failure => trivial
    | ok mode => exact ⟨nofun, trivial⟩
  | startHackRf frequency sampleRate => exact ⟨nofun, trivial⟩
  | setting command isSetting => exact ⟨nofun, trivial⟩
  | _ => trivial

section InUse

variable {c : Console H G D} (sheltered : c.controller.Sheltered)

include sheltered

/-- Every operation of a console keeps its controller sheltered. -/
theorem perform_sheltered (operation : Operation H G D) :
    (c.perform operation).controller.Sheltered := by
  -- Its parts ask for nothing while a session is using the dongle.
  rw [perform_controller]
  exact sheltered.afterAll (parts_sparing sheltered.sound.settled operation)

/-- A session on a dongle is opened without the acquisition. -/
theorem usb_of_opening {operation : Operation H G D}
    (elsewhere : c.controller.backend ≠ some .rtlUsb)
    (has : (c.perform operation).controller.backend = some .rtlUsb) :
    (c.perform operation).controller.usb = c.controller.usb := by
  -- One part opens the session or none does.
  rcases c.parts_cases operation with rfl | none_ | ⟨part, one⟩
  · -- Shutting down leaves no session.
    have nothing : (c.perform .shutdown).controller.backend = none :=
      (Controller.releaseBackend_spec _).2
    simp [nothing] at has
  · rw [perform_controller, none_] at has
    exact absurd has elsewhere
  · rw [perform_controller, one] at has ⊢
    exact (Controller.perform_change sheltered.sound part).usb_of_opened elsewhere has

variable (has : c.controller.backend = some .rtlUsb) {operation : Operation H G D}

include has

/-- An operation that does not close the dongle spares it. -/
theorem perform_spared (keeps : operation.closesDongle = false) :
    Controller.Spared c.controller (c.perform operation).controller := by
  -- Its parts neither end the session nor ask the acquisition for anything.
  rw [perform_controller]
  exact sheltered.spared has (parts_sparing sheltered.sound.settled operation)
    (parts_unended keeps)

/-- As long as no operation closes the dongle, it is spared. -/
theorem afterAll_spared {operations : List (Operation H G D)}
    (keeps : ∀ operation ∈ operations, operation.closesDongle = false) :
    Controller.Spared c.controller (c.afterAll operations).controller := by
  -- The session goes on after each operation, so that the next one finds it too.
  induction operations generalizing c with
  | nil => exact .refl c.controller
  | cons operation rest ih =>
    have first := perform_spared sheltered has (keeps operation List.mem_cons_self)
    exact first.trans (ih (perform_sheltered sheltered operation) (first.backend.trans has)
      fun other member => keeps other (List.mem_cons_of_mem operation member))

/-- An operation that closes the dongle has the engine close it before the connection is closed. -/
theorem perform_closed (closes : operation.closesDongle = true) :
    Controller.Closed c.controller (c.perform operation).controller := by
  have ended : ∀ part : Session.Operation H G D, part.ends .rtlUsb = true →
      Controller.Closed c.controller (c.controller.perform part) := fun part ends =>
    (Controller.perform_change sheltered.sound part).closed has ends
  cases operation with
  | session operation passedOn =>
    -- Of what is passed on, only what ends such a session closes the dongle.
    have ends : operation.ends .rtlUsb = true := by
      cases operation <;> first | exact absurd closes Bool.false_ne_true | rfl
    exact ended operation ends
  | shutdown =>
    -- The engine is told of one thing more after the controller was cleaned up.
    exact (ended .cleanup rfl).tell
  | _ => simp [Operation.closesDongle] at closes

end InUse

/-- A new console has given the engine one command, which has no part in sessions. -/
theorem new_sheltered {host : H} {engine : G} {driver : Option D} {config : Config}
    {fresh : Console H G D} (made : new host engine driver config = .ok fresh) :
    fresh.controller.Sheltered := by
  -- A controller starts without a session, and a command aside leaves it so.
  unfold new at made
  split at made
  · simp at made
  · obtain rfl := Except.ok.inj made
    have start : (Controller.new (⟨host, Usb.rtlSdrModels, .idle, none, { }, []⟩) engine driver
        config.pipeline).Sheltered :=
      ⟨Controller.new_sound _ engine driver config.pipeline, trivial, rfl, trivial, rfl⟩
    exact start.perform (.aside .setEventHandler rfl) nofun

/-- Between operations, the controller of a console is sheltered. -/
theorem afterAll_sheltered {c : Console H G D} (sheltered : c.controller.Sheltered)
    (operations : List (Operation H G D)) : (c.afterAll operations).controller.Sheltered := by
  -- Each operation leaves the console sheltered to the ones after it.
  induction operations generalizing c with
  | nil => exact sheltered
  | cons operation rest ih => exact ih (perform_sheltered sheltered operation)

/-- After every run of a new console. Whenever the engine was told to close a dongle, the service
had had no call since the engine opened it. As long as the engine has one, the same holds so far:
the dongle can be neither replaced nor closed; whatever is done leaves the connection as it is; and
only the operations that have the engine close the dongle end this, before they close the
connection. Without such a dongle, opening and closing are left to the acquisition, and the engine
comes to have one without it. -/
theorem afterAll_dongle {host : H} {engine : G} {driver : Option D} {config : Config}
    {fresh : Console H G D} (made : new host engine driver config = .ok fresh)
    (operations : List (Operation H G D)) :
    let c := fresh.afterAll operations
    (∀ before closing after calls, c.controller.commands = before ++ closing :: after →
      closing.command = .closeRtlUsb → HasDongle before calls → closing.hostCalls = calls) ∧
    (∀ calls, HasDongle c.controller.commands calls →
      c.controller.usb.log.length = calls ∧
      (∀ path, c.openDongle path = (.error (inUse openingDongle), c)) ∧
      c.closeDongle = (.error (inUse closingDongle), c) ∧
      (∀ more : List (Operation H G D), (∀ operation ∈ more, operation.closesDongle = false) →
        Controller.Spared c.controller (c.afterAll more).controller) ∧
      ∀ operation : Operation H G D, operation.closesDongle = true →
        Controller.Closed c.controller (c.perform operation).controller) ∧
    ((∀ calls, ¬ HasDongle c.controller.commands calls) →
      (∀ path, c.openDongle path = c.acquire fun usb => usb.acquirePath path) ∧
      c.closeDongle = (c.acquire fun usb => (.ok (), usb.close)) ∧
      ∀ operation calls, HasDongle (c.perform operation).controller.commands calls →
        (c.perform operation).controller.usb = c.controller.usb) := by
  -- The controller is sheltered after every run, and that says how commands and calls go together.
  intro c
  have sheltered : c.controller.Sheltered := afterAll_sheltered (new_sheltered made) operations
  have settled := sheltered.sound.settled
  refine ⟨fun before closing after calls split closes has =>
    sheltered.hostCalls_of_closing split closes has, ?_, ?_⟩
  · -- While the engine has the dongle, the session on it is live.
    intro calls inUse
    obtain ⟨has, length⟩ := (sheltered.hasDongle_iff calls).mp inUse
    refine ⟨length, fun path => ?_, ?_, fun more keeps => afterAll_spared sheltered has keeps,
      fun operation closes => perform_closed sheltered has closes⟩
    · rw [openDongle, requireDongleFree_eq settled, if_pos has]
    · rw [closeDongle, requireDongleFree_eq settled, if_pos has]
  · -- Without a dongle in the engine's hands there is no session on one.
    intro free
    have elsewhere : c.controller.backend ≠ some .rtlUsb := fun has =>
      free _ ((sheltered.hasDongle_iff _).mpr ⟨has, rfl⟩)
    refine ⟨fun path => ?_, ?_, fun operation calls has => ?_⟩
    · rw [openDongle, requireDongleFree_eq settled, if_neg elsewhere]
    · rw [closeDongle, requireDongleFree_eq settled, if_neg elsewhere]
    · have opened := ((perform_sheltered sheltered operation).hasDongle_iff calls).mp has
      exact usb_of_opening sheltered elsewhere opened.1

/-- A service with one dongle, which may be opened. -/
def dongleService : Simulated.Service :=
  { devices := [⟨⟨0x0bda, 0x2838⟩, "dongle", none, none⟩], permitted := ["dongle"] }

/-- A console on that service. -/
def dongleConsole : Console Simulated.Service Simulated.Engine Simulated.Driver :=
  let usb : Usb.Acquisition Simulated.Service :=
    { host := dongleService, models := Usb.rtlSdrModels }
  { controller := (Controller.new usb { } none { }).tell .setEventHandler, listening := true }

/-- In a session on the dongle it cannot be closed, and the service has had the one call that opened
it. -/
theorem dongleConsole_dongle :
    let c := dongleConsole.afterAll [.openDongle "dongle",
      .session (.connect (.rtlUsb { fd := 20, devicePath := "dongle" })) rfl]
    new dongleService { } none { } = .ok dongleConsole ∧
    HasDongle c.controller.commands 1 ∧ c.controller.usb.log.length = 1 ∧
    c.closeDongle = (.error (inUse closingDongle), c) := by
  -- The commands of the run are computed. The last of them opened the dongle.
  intro c
  have made : new dongleService { } none { } = .ok dongleConsole := rfl
  have commands : c.controller.commands = [⟨.setEventHandler, true, 0⟩,
      ⟨.openRtlUsb { fd := 20, devicePath := "dongle" }, true, 1⟩] := by decide
  have has : HasDongle c.controller.commands 1 := ⟨[_], _, [], commands, rfl, rfl, by simp⟩
  obtain ⟨length, -, refused, -⟩ := (afterAll_dongle made _).2.1 1 has
  exact ⟨made, has, length, refused⟩

end Console

end TunerControl
