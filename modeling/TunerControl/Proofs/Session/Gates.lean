import TunerControl.Proofs.Session.Boundary
import TunerControl.Session.Refusal

/-! What the guards of operations say is what the operations need, in the order in which it is
looked at. -/

namespace TunerControl.Session

open Samples (Bytes)
open Usb (Host)

/-- What comes first is looked at first. -/
theorem Need.refusal?_append (first second : List Need) :
    Need.refusal? (first ++ second) = (Need.refusal? first).or (Need.refusal? second) := by
  -- The first unmet need of both is one of the first list, if that has one.
  unfold Need.refusal?
  rw [List.find?_append, Option.map_or]

/-- Nothing is refused where all needs are met. -/
theorem Need.refusal?_eq_none {needs : List Need} :
    Need.refusal? needs = none ↔ ∀ need ∈ needs, need.met = true := by
  unfold Need.refusal?
  simp

/-- The first need is looked at first, and the others if it is met. -/
theorem Need.refusal?_cons (need : Need) (rest : List Need) :
    Need.refusal? (need :: rest) = if need.met then Need.refusal? rest else some need.failure := by
  unfold Need.refusal?
  cases met : need.met <;> simp [met]

/-- A single need is all that is needed. -/
theorem Need.outcome_singleton (need : Need) :
    Need.outcome [need] = if need.met then .ok () else .error need.failure := by
  -- It is met, or it is what is refused for.
  rw [Need.outcome, Need.refusal?_cons]
  cases need.met <;> rfl

namespace Controller

variable {H G D : Type} {c : Controller H G D}

/-- A session accepts control while it is active. -/
theorem Settled.requireControl (settled : c.Settled) (operation : String) :
    c.requireControl operation = Need.outcome [c.activeNeed operation] := by
  -- Between operations a session is active or idle.
  have same : c.state.acceptsControl = decide (c.state = .active) := by
    rcases settled with vacant | ⟨kind, session, live⟩
    · rw [(Standing.mk.inj vacant).1]
      rfl
    · rw [(Standing.mk.inj live).1]
      rfl
  rw [Need.outcome_singleton, Controller.requireControl, same]
  rfl

/-- A session on a kind of front end accepts control while it is active. -/
theorem Settled.requireBackend (settled : c.Settled) (kind : BackendKind) :
    c.requireBackend kind = Need.outcome [c.backendNeed kind] := by
  -- The guard asks for the front end alone, and whoever has one is active.
  have same : c.isLiveOn kind = decide (c.state = .active ∧ c.backend = some kind) := by
    rw [settled.isLiveOn]
    rcases settled with vacant | ⟨other, session, live⟩
    · simp [backend_of_vacant vacant]
    · simp [backend_of_live live, (Standing.mk.inj live).1]
  rw [Need.outcome_singleton, Controller.requireBackend, same]
  rfl

/-- There is a driver to be used exactly if nothing is missing for it. -/
theorem requireDriver_cases (c : Controller H G D) :
    (∃ failure, Need.refusal? c.driverNeeds = some failure ∧ c.requireDriver = .error failure) ∨
      ∃ driver, Need.refusal? c.driverNeeds = none ∧ c.driver = some driver ∧
        c.requireDriver = .ok driver := by
  -- The driver comes first, and then whether it is ready.
  unfold Controller.requireDriver driverNeeds Need.refusal?
  cases c.driver with
  | none => exact Or.inl ⟨_, rfl, rfl⟩
  | some driver =>
    cases c.ready with
    | false => exact Or.inl ⟨_, rfl, rfl⟩
    | true => exact Or.inr ⟨driver, rfl, rfl, rfl⟩

/-- What comes of an operation: it is refused and changes nothing while something that it needs is
missing, and goes its way otherwise. -/
structure Gated (c : Controller H G D) (needs : List Need)
    (goes result : Outcome Unit × Controller H G D) : Prop where
  refused : ∀ failure, Need.refusal? needs = some failure → result = (.error failure, c)
  allowed : Need.refusal? needs = none → result = goes

/-- An operation behind a guard that says what is missing. -/
def guarded (c : Controller H G D) (guard : Outcome Unit) (goes : Outcome Unit × Controller H G D) :
    Outcome Unit × Controller H G D :=
  match guard with
  | .error failure => (.error failure, c)
  | .ok () => goes

/-- An operation on the driver, once there is one to be used. -/
def withDriver (c : Controller H G D) (result : D → Outcome Unit × Controller H G D) :
    Outcome Unit × Controller H G D :=
  match c.requireDriver with
  | .error failure => (.error failure, c)
  | .ok driver => result driver

namespace Gated

variable {needs more : List Need} {goes : Outcome Unit × Controller H G D}

/-- A guard that says what is missing is a gate. -/
theorem of_guard {guard : Outcome Unit} (same : guard = Need.outcome needs) :
    Gated c needs goes (c.guarded guard goes) := by
  -- The outcome of needs is an error exactly if one of them is refused for.
  unfold guarded
  rw [same, Need.outcome]
  refine ⟨?_, ?_⟩
  · intro failure refused
    rw [refused]
  · intro allowed
    rw [allowed]

/-- So is a condition of which one says that it is not met. -/
theorem of_need (need : Need) :
    Gated c [need] goes (if need.met then goes else (.error need.failure, c)) := by
  -- A condition is a guard with a single need.
  have gate : Gated c [need] goes (c.guarded _ goes) := of_guard (Need.outcome_singleton need).symm
  split
  · rename_i met
    rwa [if_pos met] at gate
  · rename_i unmet
    rwa [if_neg unmet] at gate

/-- An operation on the driver is as it is with the driver that there is, once there is one to be
used. -/
theorem of_driver {result : D → Outcome Unit × Controller H G D}
    (behind : ∀ driver, c.driver = some driver → Gated c more goes (result driver)) :
    Gated c (c.driverNeeds ++ more) goes (c.withDriver result) := by
  unfold withDriver
  rcases c.requireDriver_cases with ⟨reason, missing, answer⟩ | ⟨driver, complete, has, answer⟩
  · -- Without a driver to be used, it is what is missing of the driver that refuses.
    rw [answer]
    refine ⟨?_, ?_⟩
    · intro failure refused
      rw [Need.refusal?_append, missing, Option.some_or] at refused
      rw [Option.some.inj refused]
    · intro allowed
      simp [Need.refusal?_append, missing] at allowed
  · -- The driver is not missing, so that what else is needed decides.
    rw [answer]
    obtain ⟨refused, allowed⟩ := behind driver has
    have rest : Need.refusal? (c.driverNeeds ++ more) = Need.refusal? more := by
      rw [Need.refusal?_append, complete, Option.none_or]
    exact ⟨fun failure told => refused failure (rest ▸ told), fun told => allowed (rest ▸ told)⟩

end Gated

section Driver

variable [HackRfDriver D]

/-- A command to the driver that there is. -/
def instruct (c : Controller H G D) (call : DriverCall) : Outcome Unit × Controller H G D :=
  match c.driver with
  | some driver => c.drive driver call
  | none => (.error .contextUnavailable, c)

/-- A frequency is set once there is a driver to be used. -/
theorem setFrequency_gated (c : Controller H G D) (frequency : UInt64) :
    Gated c (c.needs (.setFrequency frequency)) (c.instruct (.setFrequency frequency))
      (c.setFrequency frequency) := by
  -- Nothing is needed but the driver.
  have needs : c.needs (.setFrequency frequency) = c.driverNeeds ++ [] := (List.append_nil _).symm
  rw [needs]
  refine .of_driver fun driver has => ⟨?_, ?_⟩
  · intro failure refused
    simp [Need.refusal?] at refused
  · intro allowed
    rw [instruct, has]

/-- The values of a command are looked at once there is a driver. -/
theorem Gated.of_values {call : DriverCall} {result : D → Outcome Unit × Controller H G D}
    (valued : ∀ driver, result driver =
      if call.isSupported then c.drive driver call
      else (.error (.invalidArgument call.reproach), c)) :
    Gated c (c.driverNeeds ++ [valueNeed call]) (c.instruct call) (c.withDriver result) := by
  -- Behind the driver, the values are a condition of their own.
  refine .of_driver fun driver has => ?_
  rw [valued, instruct, has]
  exact .of_need (valueNeed call)

/-- A rate is set if it is supported, once there is a driver to be used. -/
theorem setSampleRate_gated (c : Controller H G D) (rate : UInt32) :
    Gated c (c.needs (.setSampleRate rate)) (c.instruct (.setSampleRate rate))
      (c.setSampleRate rate) := by
  -- That a rate is not zero is that it is one at least.
  have same : HackRfTuning.supportsRate rate = (DriverCall.setSampleRate rate).isSupported := by
    unfold HackRfTuning.supportsRate HackRfTuning.maxSampleRate
    rw [← Bool.decide_and]
    exact decide_eq_decide.mpr (by omega)
  refine .of_values fun driver => ?_
  rw [← same]
  rfl

/-- A gain of the low-noise amplifier is set if it is supported, once there is a driver to be used.
-/
theorem setLnaGain_gated (c : Controller H G D) (gain : UInt32) :
    Gated c (c.needs (.setLnaGain gain)) (c.instruct (.setLnaGain gain)) (c.setLnaGain gain) := by
  -- The step of a gain is looked at by its remainder.
  have same : (gain.toNat ≤ 40 && gain.toNat % 8 = 0 : Bool) =
      (DriverCall.setLnaGain gain).isSupported := by
    rw [← Bool.decide_and]
    exact decide_eq_decide.mpr (by omega)
  refine .of_values fun driver => ?_
  rw [HackRfTuning.validateLnaGain, ConfigFault.unless, same]
  cases (DriverCall.setLnaGain gain).isSupported <;> rfl

/-- So is a gain of the variable amplifier. -/
theorem setVgaGain_gated (c : Controller H G D) (gain : UInt32) :
    Gated c (c.needs (.setVgaGain gain)) (c.instruct (.setVgaGain gain)) (c.setVgaGain gain) := by
  -- As with the other gain, the step is looked at by its remainder.
  have same : (gain.toNat ≤ 62 && gain.toNat % 2 = 0 : Bool) =
      (DriverCall.setVgaGain gain).isSupported := by
    rw [← Bool.decide_and]
    exact decide_eq_decide.mpr (by omega)
  refine .of_values fun driver => ?_
  rw [HackRfTuning.validateVgaGain, ConfigFault.unless, same]
  cases (DriverCall.setVgaGain gain).isSupported <;> rfl

end Driver

section Engine

variable [Engine G]

/-- Decoding is started in an active session. -/
theorem start_gated (settled : c.Settled) :
    Gated c (c.needs .start) (c.issue .start) c.start :=
  .of_guard (settled.requireControl "start")

/-- A dongle is tuned in an active session on one. -/
theorem setRtlFrequency_gated (settled : c.Settled) (frequency : UInt64) :
    Gated c (c.needs (.setRtlFrequency frequency)) (c.issue (.setRtlFrequency frequency))
      (c.setRtlFrequency frequency) :=
  .of_guard (settled.requireBackend .rtlUsb)

/-- The gain of a dongle is set in an active session on one. -/
theorem setRtlGain_gated (settled : c.Settled) (gain : Int32) :
    Gated c (c.needs (.setRtlGain gain)) (c.issue (.setRtlGain gain)) (c.setRtlGain gain) :=
  .of_guard (settled.requireBackend .rtlUsb)

/-- Samples are fed in an active session on a HackRF. -/
theorem feed_gated (settled : c.Settled) (samples : Bytes) :
    Gated c (c.needs (.feed samples)) (c.issue (.feedSamples samples)) (c.feed samples) :=
  .of_guard (settled.requireBackend .hackRf)

section Driver

variable [HackRfDriver D]

/-- Receiving is refused without a driver, without a session for it, and while the pipeline runs. -/
theorem startReceiving_refused (settled : c.Settled) (failure : Failure)
    (refused : Need.refusal? (c.needs .startReceiving) = some failure) :
    c.startReceiving = (.error failure, c) := by
  -- The needs are gone through in the order in which the operation looks at them.
  rw [needs, Need.refusal?_append] at refused
  unfold startReceiving
  rw [settled.requireBackend, Need.outcome_singleton]
  rcases c.requireDriver_cases with ⟨reason, missing, answer⟩ | ⟨driver, complete, -, answer⟩
  · rw [missing, Option.some_or] at refused
    rw [answer, Option.some.inj refused]
  · -- With a driver, the session is looked at, and then the pipeline.
    rw [complete, Option.none_or, Need.refusal?_cons, Need.refusal?_cons] at refused
    rw [answer]
    split at refused
    · rename_i live
      rw [if_pos live]
      split at refused
      · simp [Need.refusal?] at refused
      · rename_i busy
        have running : c.plant.isRunning pipeline = true := by
          simpa [restNeed, isReceiving] using busy
        have declined : c.plant.start pipeline = (.error c.restNeed.failure, c.plant) := by
          unfold Samples.Plant.start
          rw [if_pos running]
          rfl
        simp only [declined]
        rw [Option.some.inj refused]
    · rename_i elsewhere
      rw [if_neg elsewhere, Option.some.inj refused]

variable [Host H]

/-- Stopping is refused without an active session. -/
theorem stop_refused (settled : c.Settled) (failure : Failure)
    (refused : Need.refusal? (c.needs .stop) = some failure) : c.stop = (.error failure, c) :=
  -- The guard comes first, whatever stopping does then.
  (Gated.of_guard (settled.requireControl "stop")).refused failure refused

end Driver

end Engine

end Controller

end TunerControl.Session
