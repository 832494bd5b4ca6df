import TunerControl.Proofs.Usb.Steps
import TunerControl.Simulated.Host

/-! Whatever is opened was found to be a device of one of the models: just before it is opened, or
when the prompt was shown that is answered now. -/

namespace TunerControl.Usb.Acquisition

variable {H : Type} [Host H]

/-- Before a device is opened at once, and before the user is asked for it, it was looked up. -/
def Justified (a : Acquisition H) : Step H → Prop
  | .ask path | .openNow path => Vetted a.models a.host path
  | _ => True

/-- Each of some steps is justified when its turn comes. -/
def AllJustified (a : Acquisition H) : List (Step H) → Prop
  | [] => True
  | step :: rest => a.Justified step ∧ (a.advance step).AllJustified rest

/-- Steps in a row are justified if those before are, and those after where they lead. -/
theorem allJustified_append {a : Acquisition H} {earlier later : List (Step H)} :
    a.AllJustified (earlier ++ later) ↔
      a.AllJustified earlier ∧ (a.afterSteps earlier).AllJustified later := by
  -- The later steps go on from where the earlier ones lead, so the induction is on the earlier
  -- ones.
  induction earlier generalizing a with
  | nil => simp [AllJustified, afterSteps]
  | cons step rest ih => simp [AllJustified, ih, afterSteps, and_assoc]

/-- What the service does while it shows a prompt opens nothing without an answer. -/
theorem promptSteps_justified (a : Acquisition H) (path : String) (prompt : Prompt H) :
    a.AllJustified (a.promptSteps path prompt) := by
  -- Nothing but answers and changes of the service are among the steps.
  induction prompt generalizing a with
  | ended failure host => cases failure <;> exact ⟨trivial, by trivial⟩
  | answered answered granted host rest ih => exact ⟨trivial, trivial, trivial, ih _ _ _⟩

/-- What is to be opened was looked up when the steps were chosen. -/
theorem acquireSteps_justified (a : Acquisition H) (d : Descriptor) :
    a.AllJustified (a.acquireSteps d) := by
  -- Nothing is done, the device is opened, or a prompt is shown for it: the last two after a look.
  rcases a.acquire_cases d with ⟨-, -, none_⟩ | ⟨vetted, -, one⟩ | ⟨vetted, -, many⟩
  · rw [none_]
    trivial
  · rw [one]
    exact ⟨vetted, trivial⟩
  · rw [many]
    exact ⟨vetted, promptSteps_justified _ _ _⟩

/-- So are the steps of every operation. -/
theorem steps_justified (a : Acquisition H) (operation : Operation H) :
    a.AllJustified (a.steps operation) := by
  -- Only what opens a device opens or asks for one.
  rcases a.steps_cases operation with none_ | ⟨d, acquiring⟩ | ⟨step, one, plain, -⟩
  · rw [none_]
    trivial
  · rw [acquiring]
    exact a.acquireSteps_justified d
  · rw [one]
    refine ⟨?_, trivial⟩
    cases step with
    | ask path => exact absurd rfl (plain path).1
    | openNow path => exact absurd rfl (plain path).2
    | _ => trivial

/-- So are the steps of a run. -/
theorem allSteps_justified (a : Acquisition H) (operations : List (Operation H)) :
    a.AllJustified (a.allSteps operations) := by
  -- The operations that follow find the acquisition where the steps of the first one lead.
  induction operations generalizing a with
  | nil => trivial
  | cons operation rest ih =>
    rw [allSteps, allJustified_append, afterSteps_steps]
    exact ⟨a.steps_justified operation, ih _⟩

/-- The last prompt was for a path, whose device was looked up when the prompt was shown. -/
def PromptVetted (a : Acquisition H) (path : String) : Prop :=
  ∃ before asked after, a.log = before ++ (asked, .prompted path) :: after ∧
    (∀ entry ∈ after, entry.2.isPrompt = false) ∧ Vetted a.models asked path

/-- Only asking shows a prompt. -/
theorem isPrompt_newCalls {a : Acquisition H} {step : Step H} (older : ∀ path, step ≠ .ask path) :
    ∀ entry ∈ a.newCalls step, entry.2.isPrompt = false := by
  -- Besides showing prompts, the service takes note of answers, closes and opens.
  intro entry member
  rcases newCalls_cases member with ⟨path, asks, -⟩ | ⟨settled, -, rfl⟩ | ⟨handle, -, rfl⟩ |
    ⟨path, rfl, -⟩
  · exact absurd asks (older path)
  · rfl
  · rfl
  · exact isPrompt_of_attempt (a.attempt?_opening path)

/-- The request that is outstanding is for the device of the last prompt. -/
theorem promptVetted_advance {a : Acquisition H} {step : Step H}
    (vetted : ∀ path, a.requests.pendingKey = some path → a.PromptVetted path)
    (justified : a.Justified step) :
    ∀ path, (a.advance step).requests.pendingKey = some path →
      (a.advance step).PromptVetted path := by
  -- The step has asked for the path, or the request is an older one.
  intro path pending
  by_cases asks : ∃ other, step = .ask other
  · obtain ⟨other, rfl⟩ := asks
    obtain rfl : other = path := Option.some.inj pending
    exact ⟨a.log, a.host, [], rfl, by simp, justified⟩
  · -- The request is older, and so is the prompt, since the step showed none.
    have older : ∀ other, step ≠ .ask other := fun other same => asks ⟨other, same⟩
    obtain ⟨request, waits⟩ := Requests.pendingKey_eq_some_iff.mp pending
    have before := waiting_of_advance older waits
    obtain ⟨earlier, asked, later, log, unprompted, found⟩ :=
      vetted path (Requests.pendingKey_eq_some_iff.mpr ⟨request, before⟩)
    refine ⟨earlier, asked, later ++ a.newCalls step, ?_, ?_, ?_⟩
    · rw [log_advance, log, List.append_assoc, List.cons_append]
    · intro entry member
      rcases List.mem_append.mp member with old | new
      · exact unprompted entry old
      · exact isPrompt_newCalls older entry new
    · rw [models_advance]
      exact found

/-- It is so after a run of steps as well. -/
theorem promptVetted_afterSteps {a : Acquisition H} {steps : List (Step H)}
    (vetted : ∀ path, a.requests.pendingKey = some path → a.PromptVetted path)
    (justified : a.AllJustified steps) :
    ∀ path, (a.afterSteps steps).requests.pendingKey = some path →
      (a.afterSteps steps).PromptVetted path := by
  -- The induction is on the steps, each of which finds the request vetted and leaves it so.
  induction steps generalizing a with
  | nil => exact vetted
  | cons step rest ih => exact ih (promptVetted_advance vetted justified.1) justified.2

/-- The service is asked to open a device once nothing is open, and only by a step for that path. -/
theorem attempt_newCalls {a : Acquisition H} {step : Step H} {seen : H} {call : HostCall}
    {path : String} (member : (seen, call) ∈ a.newCalls step)
    (attempt : call.attempt? = some path) :
    seen = a.close.host ∧ (step = .openNow path ∨
      step = .permissionResult path true ∧ a.requests.pendingKey = some path) := by
  -- Of all that a step may have the service do, only opening is an attempt.
  rcases newCalls_cases member with ⟨_, -, same⟩ | ⟨_, -, same⟩ | ⟨_, -, same⟩ | ⟨other, same, how⟩
  · simp [(Prod.mk.inj same).2, HostCall.attempt?] at attempt
  · simp [(Prod.mk.inj same).2, HostCall.attempt?] at attempt
  · simp [(Prod.mk.inj same).2, HostCall.attempt?] at attempt
  · have named := a.attempt?_opening other
    rw [← same, attempt] at named
    obtain rfl : path = other := Option.some.inj named
    exact ⟨congrArg Prod.fst same, how⟩

/-- Whenever the service is asked to open a device in a run, the device was looked up before and was
of one of the models. For one that is opened at once this was at that moment, with nothing but the
closing of another one in between; for one that the user grants it was when the prompt was shown,
which was the last prompt. As long as the same device is at the path, it is of one of the models
when it is opened. -/
theorem afterRun_vetted (host : H) (models : List DeviceId) (operations : List (Operation H)) :
    let start : Acquisition H := { host, models }
    start.afterSteps (start.allSteps operations) = afterRun host models operations ∧
    ∀ earlier step later, start.allSteps operations = earlier ++ step :: later →
      let a := start.afterSteps earlier
      ∃ news, (a.advance step).log = a.log ++ news ∧
        ∀ seen call path, (seen, call) ∈ news → call.attempt? = some path →
          ∃ checked : H, Vetted models checked path ∧
            (Host.find seen path = Host.find checked path → Vetted models seen path) ∧
            (step = .openNow path ∧ checked = a.host ∧
                (seen = a.host ∨
                  ∃ handle, a.handle = some handle ∧ seen = Host.release a.host handle) ∨
              step = .permissionResult path true ∧ a.requests.pendingKey = some path ∧
                ∃ before after, a.log = before ++ (checked, .prompted path) :: after ∧
                  ∀ entry ∈ after, entry.2.isPrompt = false) := by
  intro start
  refine ⟨start.afterSteps_allSteps operations, ?_⟩
  intro earlier step later split a
  have justified := start.allSteps_justified operations
  rw [split, allJustified_append] at justified
  have same : a.models = models := start.models_afterSteps earlier
  refine ⟨a.newCalls step, a.log_advance step, ?_⟩
  intro seen call path member attempt
  have unchanged : ∀ checked : H, Vetted models checked path →
      Host.find seen path = Host.find checked path → Vetted models seen path := by
    rintro checked ⟨d, found, listed⟩ still
    exact ⟨d, still.trans found, listed⟩
  obtain ⟨closed, rfl | ⟨rfl, pending⟩⟩ := attempt_newCalls member attempt
  · -- The device is opened at once, right after it was looked up.
    have vetted : Vetted models a.host path := same ▸ justified.2.1
    refine ⟨a.host, vetted, unchanged _ vetted, Or.inl ⟨rfl, rfl, ?_⟩⟩
    rw [closed]
    exact a.host_close
  · -- The request that is granted was made when the last prompt was shown.
    have none_ : ∀ path, start.requests.pendingKey = some path → start.PromptVetted path :=
      fun path pending => absurd pending (by simp [start, Requests.pendingKey])
    obtain ⟨before, asked, after, log, unprompted, vetted⟩ :=
      promptVetted_afterSteps none_ justified.1 path pending
    have vetted : Vetted models asked path := same ▸ vetted
    exact ⟨asked, vetted, unchanged _ vetted, Or.inr ⟨rfl, pending, before, after, log,
      unprompted⟩⟩

/-- A service with one dongle, for which the user is to be asked. -/
def askingService : Simulated.Service :=
  { devices := [⟨⟨0x0bda, 0x2838⟩, "dongle", none, none⟩] }

/-- The same service when another device has taken the place of the dongle, and may be opened. -/
def replacedService : Simulated.Service :=
  { devices := [⟨⟨0x046d, 0xc52b⟩, "dongle", none, none⟩], permitted := ["dongle"] }

/-- A dongle that is still there when the user grants the request is one of the models when it is
opened. -/
theorem askingService_vetted :
    let grantingNow := askingService.permit "dongle"
    let a : Acquisition Simulated.Service :=
      ({ host := askingService, models := rtlSdrModels } : Acquisition Simulated.Service).afterSteps
        [.ask "dongle", .hostChange askingService, .hostChange grantingNow]
    (a.advance (.permissionResult "dongle" true)).log =
      a.log ++ [(grantingNow, .opened "dongle" 20)] ∧ Vetted rtlSdrModels grantingNow "dongle" := by
  -- The one prompt of the run tells where the device was looked up.
  intro grantingNow a
  have log : (a.advance (.permissionResult "dongle" true)).log =
      a.log ++ [(grantingNow, .opened "dongle" 20)] := by decide
  have prompts : a.log = [(askingService, .prompted "dongle")] := by decide
  obtain ⟨news, added, vetted⟩ := (afterRun_vetted askingService rtlSdrModels
    [.acquirePath "dongle", .hostChange grantingNow, .permissionResult "dongle" true]).2
    [.ask "dongle", .hostChange askingService, .hostChange grantingNow] _ [] rfl
  obtain rfl := List.append_cancel_left (added.symm.trans log)
  obtain ⟨checked, -, unchanged, ⟨opens, -⟩ | ⟨-, -, before, after, shown, -⟩⟩ :=
    vetted _ _ _ (List.mem_singleton.mpr rfl) rfl
  · simp at opens
  · -- The only prompt was shown by the service with the dongle.
    have member : (checked, HostCall.prompted "dongle") ∈ a.log := by
      rw [show a.log = _ from shown]
      simp
    rw [prompts] at member
    have same : checked = askingService := congrArg Prod.fst (List.mem_singleton.mp member)
    exact ⟨log, unchanged (by rw [same]; rfl)⟩

/-- A device that has taken the place of a dongle since the prompt was shown is opened, though it is
of none of the models. -/
theorem grant_opens_replacement :
    (afterRun askingService rtlSdrModels [.acquirePath "dongle", .hostChange replacedService,
      .permissionResult "dongle" true]).log.getLast? =
        some (replacedService, .opened "dongle" 20) ∧
    ¬ Vetted rtlSdrModels replacedService "dongle" := by
  -- What is opened is computed; the one device that is there is on no list.
  refine ⟨by decide, ?_⟩
  rintro ⟨d, found, listed⟩
  obtain rfl := Option.some.inj found
  revert listed
  decide

end TunerControl.Usb.Acquisition
