import TunerControl.Proofs.Session.Change

/-! What holds of a controller between any two operations. -/

namespace TunerControl.Session.Controller

open Samples (Plant)
open Usb (Host)

variable {H G D : Type}

/-- The pipeline of a new controller has no run. -/
theorem new_sound (usb : Usb.Acquisition H) (engine : G) (driver : Option D)
    (config : PipelineConfig) : (new usb engine driver config).Sound :=
  -- There is no session, and nothing has been started.
  ⟨Or.inl rfl, .of_resting rfl⟩

variable [Host H]

/-- Whatever an operation does to a session, the controller is sound after it. -/
theorem Change.sound {c after : Controller H G D} {operation : Operation H G D} (sound : c.Sound)
    (change : Change c operation after) : after.Sound := by
  cases change with
  | stayed news goesOn standing commands keeps usb inits attended =>
    -- The session is the same, and the pipeline was attended to for it.
    refine ⟨?_, ?_⟩
    · rw [Settled, standing]
      exact sound.settled
    · rw [backend_of_same standing]
      exact attended
  | opened kind opening vacant opens hostCalls standing commands usb inits plant =>
    -- There was no session, so that the pipeline was at rest.
    have resting := sound.attended.resting (by simp [backend_of_vacant vacant])
    exact ⟨Or.inr ⟨kind, _, standing⟩, .of_resting (plant ▸ resting)⟩
  | ended kind session stopping release finishing ends live standing commands stops releases
      finishes hostCalls usb inits resting =>
    exact ⟨Or.inl standing, .of_resting resting⟩

variable [Engine G] [HackRfDriver D]

/-- The last operation of a run is performed after all others. -/
theorem afterRun_concat (usb : Usb.Acquisition H) (engine : G) (driver : Option D)
    (config : PipelineConfig) (operations : List (Operation H G D)) (operation : Operation H G D) :
    afterRun usb engine driver config (operations ++ [operation]) =
      (afterRun usb engine driver config operations).perform operation :=
  List.foldl_append

/-- What holds of a controller, and is kept by every operation, holds after all operations. -/
theorem afterAll_rule {P : Controller H G D → Prop} {c : Controller H G D} (start : P c)
    (kept : ∀ d operation, P d → P (d.perform operation)) (operations : List (Operation H G D)) :
    P (c.afterAll operations) :=
  -- Operations are performed as a fold, each on what the earlier ones led to.
  List.foldlRecOn operations perform start fun d holds operation _ => kept d operation holds

/-- After every run, the controller is sound. -/
theorem afterRun_sound (usb : Usb.Acquisition H) (engine : G) (driver : Option D)
    (config : PipelineConfig) (operations : List (Operation H G D)) :
    (afterRun usb engine driver config operations).Sound := by
  -- Each operation finds a sound controller, and does to its session what is known to keep it sound.
  refine afterAll_rule (new_sound usb engine driver config) ?_ operations
  intro d operation sound
  exact (perform_change sound operation).sound sound

/-- What holds of a new controller, and is kept by each change to the session on the way, holds
after every run. It may be about the operations themselves. -/
theorem afterRun_induction {usb : Usb.Acquisition H} {engine : G} {driver : Option D}
    {config : PipelineConfig} {P : List (Operation H G D) → Controller H G D → Prop}
    (start : P [] (new usb engine driver config))
    (step : ∀ earlier operation after,
      let c := afterRun usb engine driver config earlier
      c.Sound → P earlier c → Change c operation after → P (earlier ++ [operation]) after)
    (operations : List (Operation H G D)) :
    P operations (afterRun usb engine driver config operations) := by
  -- By induction on the run, from its end, as each change is to what all earlier ones led to.
  induction operations using List.reverseRecOn with
  | nil => exact start
  | append_singleton earlier operation ih =>
    have sound := afterRun_sound usb engine driver config earlier
    rw [afterRun_concat]
    exact step earlier operation _ sound ih (perform_change sound operation)

/-- After every run there is no session, front end or number, or a session is active and has both.
Samples are received only in a session on a HackRF. The pipeline has a worker exactly while samples
are received, and no start takes the place of another worker. -/
theorem afterRun_standing (usb : Usb.Acquisition H) (engine : G) (driver : Option D)
    (config : PipelineConfig) (operations : List (Operation H G D)) :
    let c := afterRun usb engine driver config operations
    (c.state = .idle ∧ c.backend = none ∧ c.session = none ∨
      ∃ kind session, c.state = .active ∧ c.backend = some kind ∧ c.session = some session) ∧
    (c.isReceiving = true → c.state = .active ∧ c.backend = some .hackRf) ∧
    (c.plant.currentRun? pipeline).isSome = c.isReceiving ∧
    ∀ run plant, c.plant.start pipeline = (.ok run, plant) →
      c.plant.currentRun? pipeline = none := by
  -- All of it is what soundness says, spelled out.
  intro c
  obtain ⟨settled, attended⟩ : c.Sound := afterRun_sound usb engine driver config operations
  refine ⟨?_, ?_, attended.manned, fun run plant started =>
    attended.manned.currentRun?_of_start started⟩
  · rcases settled with vacant | ⟨kind, session, live⟩
    · exact Or.inl (Standing.mk.inj vacant)
    · exact Or.inr ⟨kind, session, Standing.mk.inj live⟩
  · -- Whoever has a front end is live on it.
    intro receiving
    have onHackRf := attended.receives receiving
    obtain ⟨session, live⟩ := settled.live_of_backend onHackRf
    exact ⟨(Standing.mk.inj live).1, onHackRf⟩

end TunerControl.Session.Controller
