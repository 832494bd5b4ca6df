import TunerControl.Proofs.Usb.Connections
import TunerControl.Proofs.Usb.Steps

/-! The phase of an acquisition agrees with the connection that it holds and with the request that is
outstanding, however these were changed. -/

namespace TunerControl.Usb.Acquisition

variable {H : Type}

/-- The phase says that a device is open only if one is; it says so whenever one is, unless the user
is being asked; and it says that the user is being asked only while a request is outstanding. -/
structure Coherent (a : Acquisition H) : Prop where
  opened : a.phase = .opened → a.handle.isSome = true
  held : a.handle.isSome = true → a.phase = .opened ∨ a.phase = .permissionRequested
  asked : a.phase = .permissionRequested → a.requests.isPending = true

/-- The phase is what the connection alone says. -/
def PhaseOfHandle (a : Acquisition H) : Prop :=
  a.handle.isSome = true ∧ a.phase = .opened ∨ a.handle = none ∧ a.phase = .enumerating

/-- Leaving the prompt, nothing but the connection counts. -/
theorem phaseOfHandle_settlePhase (a : Acquisition H) : a.settlePhase.PhaseOfHandle := by
  -- Either a connection is held, or none is.
  unfold settlePhase PhaseOfHandle
  cases a.handle with
  | none => exact Or.inr ⟨rfl, rfl⟩
  | some handle => exact Or.inl ⟨rfl, rfl⟩

namespace Coherent

variable {a b : Acquisition H}

/-- Without a connection, every phase will do that is about none. -/
theorem of_closed (closed : a.handle = none) (unopened : a.phase ≠ .opened)
    (unasked : a.phase ≠ .permissionRequested) : a.Coherent :=
  ⟨fun opened => absurd opened unopened, fun held => by simp [closed] at held,
    fun asks => absurd asks unasked⟩

/-- A phase that the connection alone determines suits any requests. -/
theorem of_phaseOfHandle (determined : a.PhaseOfHandle) : a.Coherent := by
  -- Neither of the two phases is about a request.
  rcases determined with ⟨held, opened⟩ | ⟨closed, looking⟩
  · exact ⟨fun _ => held, fun _ => Or.inl opened, fun asks => by simp [opened] at asks⟩
  · exact .of_closed closed (by simp [looking]) (by simp [looking])

/-- What is neither phase, connection nor slot does not matter. -/
theorem of_same (coherent : a.Coherent) (phase : b.phase = a.phase) (handle : b.handle = a.handle)
    (waiting : b.requests.waiting = a.requests.waiting) : b.Coherent := by
  -- Each clause looks at two of the three.
  refine ⟨?_, ?_, ?_⟩
  · rw [phase, handle]
    exact coherent.opened
  · rw [phase, handle]
    exact coherent.held
  · rw [phase, Requests.isPending, waiting]
    exact coherent.asked

/-- In the other phases no connection is held. -/
theorem handle_eq_none (coherent : a.Coherent) (unopened : a.phase ≠ .opened)
    (unasked : a.phase ≠ .permissionRequested) : a.handle = none := by
  -- A connection would make the phase one of the other two.
  have unheld : ¬ a.handle.isSome = true := fun held =>
    (coherent.held held).elim unopened unasked
  simpa using unheld

/-- A failure that is reported for a prompt leaves the phase in agreement. -/
theorem failPending (coherent : a.Coherent) (path : String) (failure : Failure) :
    (a.failPending path failure).2.Coherent := by
  -- It settles the request for the path, or does nothing.
  by_cases pending : a.requests.pendingKey = some path
  · rw [failPending_of_pending pending]
    exact .of_phaseOfHandle (phaseOfHandle_settlePhase _)
  · rw [failPending_of_other pending]
    exact coherent

end Coherent

variable [Host H]

/-- Opening leaves a device open, or none. -/
theorem phaseOfHandle_openNow (a : Acquisition H) (path : String) :
    (a.openNow path).2.PhaseOfHandle := by
  have closed := a.handle_close
  unfold openNow PhaseOfHandle
  dsimp only
  split
  · -- A refusal comes when the connection that was open is closed already.
    exact Or.inr ⟨closed, rfl⟩
  · exact Or.inl ⟨rfl, rfl⟩

/-- Whatever the answer, the phase afterwards is what the connection says. -/
theorem phaseOfHandle_onAnswer (a : Acquisition H) (path : String) (granted : Bool) :
    (a.onAnswer path granted).2.PhaseOfHandle := by
  -- A grant opens the device, and a denial leaves the connection as it is.
  cases granted with
  | true => exact a.phaseOfHandle_openNow path
  | false => exact a.phaseOfHandle_settlePhase

namespace Coherent

variable {a : Acquisition H}

/-- Scanning is a phase only where nothing is held and nobody is asked. -/
theorem list (coherent : a.Coherent) : a.list.2.Coherent := by
  -- Only from idleness and after closing does listing change the phase.
  unfold Acquisition.list
  dsimp only
  split
  · rename_i idle
    exact .of_closed (coherent.handle_eq_none (by simp [idle]) (by simp [idle])) nofun nofun
  · rename_i closed
    exact .of_closed (coherent.handle_eq_none (by simp [closed]) (by simp [closed])) nofun nofun
  · exact coherent

/-- Closing leaves the phase in agreement. -/
theorem close (coherent : a.Coherent) : a.close.Coherent := by
  -- Without a connection nothing is done, and with one it is gone.
  unfold Acquisition.close
  split
  · exact coherent
  · exact .of_closed rfl nofun nofun

/-- An answer for the pending path settles the phase, and any other changes nothing. -/
theorem permissionResult (coherent : a.Coherent) (path : String) (granted : Bool) :
    (a.permissionResult path granted).2.Coherent := by
  -- The request for the path is in the slot, or it is not.
  by_cases pending : a.requests.pendingKey = some path
  · rw [permissionResult_of_pending pending]
    exact .of_phaseOfHandle (a.phaseOfHandle_onAnswer path granted)
  · rw [permissionResult_of_other pending]
    exact coherent

/-- A step keeps the phase in agreement with connection and request, also one that is taken while the
service shows a prompt. -/
theorem advance (coherent : a.Coherent) (step : Step H) : (a.advance step).Coherent := by
  -- A step for a request settles the phase by the connection, and the others set it with that.
  cases step with
  | list => exact coherent.list
  | ask path =>
    -- The request is in the slot from the moment that the phase says so.
    exact ⟨fun opened => (by cases opened), fun _ => Or.inr rfl, fun _ => rfl⟩
  | askFailed path failure => exact .of_phaseOfHandle (phaseOfHandle_settlePhase _)
  | openNow path => exact .of_phaseOfHandle (a.phaseOfHandle_openNow path)
  | permissionResult path granted => exact coherent.permissionResult path granted
  | told settled => exact coherent.of_same rfl rfl rfl
  | failPending path failure => exact coherent.failPending path failure
  | close => exact coherent.close
  | reset =>
    simp only [Acquisition.advance, reset_eq]
    exact .of_closed a.handle_close (fun opened => by cases opened) (fun asks => by cases asks)
  | poll request => exact coherent.of_same rfl rfl (a.requests.waiting_poll request)
  | hostChange host => exact coherent.of_same rfl rfl rfl

/-- So does a run of steps. -/
theorem afterSteps (coherent : a.Coherent) (steps : List (Step H)) :
    (a.afterSteps steps).Coherent := by
  -- Each step finds the phase in agreement, and leaves it so to the next.
  exact afterSteps_rule coherent (fun b step agrees => agrees.advance step) steps

end Coherent

/-- After every run, a device is held where the phase says that one is open; where one is held, the
phase says so or that the user is being asked; and where it says that, a request is outstanding. In
the remaining phases none is held. A reset leads from any state to idleness, with nothing held and
nothing outstanding. -/
theorem afterRun_phases (host : H) (models : List DeviceId) (operations : List (Operation H)) :
    let a := afterRun host models operations
    (a.phase = .opened → ∃ handle, a.handle = some handle) ∧
    (∀ handle, a.handle = some handle → a.phase = .opened ∨ a.phase = .permissionRequested) ∧
    (a.phase = .permissionRequested → a.requests.isPending = true) ∧
    (∀ phase ∈ [Phase.idle, .enumerating, .closed], a.phase = phase → a.handle = none) ∧
    ∀ other : Acquisition H, other.reset.phase = .idle ∧ other.reset.handle = none ∧
      other.reset.requests.isPending = false := by
  intro a
  -- An operation does what its steps do, each of which keeps the phase in agreement.
  have start : ({ host, models } : Acquisition H).Coherent := .of_closed rfl nofun nofun
  have coherent : a.Coherent := by
    have steps := start.afterSteps (({ host, models } : Acquisition H).allSteps operations)
    rwa [afterSteps_allSteps] at steps
  refine ⟨fun opened => Option.isSome_iff_exists.mp (coherent.opened opened), ?_, coherent.asked,
    ?_, ?_⟩
  · intro handle held
    exact coherent.held (Option.isSome_iff_exists.mpr ⟨handle, held⟩)
  · intro phase member same
    refine coherent.handle_eq_none ?_ ?_
    · rintro opened
      simp [← same, opened] at member
    · rintro asks
      simp [← same, asks] at member
  · -- From wherever it starts, a reset closes the connection and empties the slot.
    intro other
    rw [reset_eq]
    refine ⟨rfl, other.handle_close, ?_⟩
    show Option.isSome (Requests.waiting _) = false
    rw [Requests.waiting_resolve]
    rfl

end TunerControl.Usb.Acquisition
