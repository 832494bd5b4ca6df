import TunerControl.Proofs.Request.Settlement
import TunerControl.Usb.Step

/-! What each step of an acquisition does, and that an operation does what its steps do. -/

namespace TunerControl.Usb

/-- The device at a path is there and of one of the models. -/
def Vetted {H : Type} [Host H] (models : List DeviceId) (host : H) (path : String) : Prop :=
  ∃ d, Host.find host path = some d ∧ d.id ∈ models

namespace Acquisition

variable {H : Type}

section Pending

variable {a : Acquisition H} {path : String}

/-- Failing the request for a path settles it. -/
theorem failPending_of_pending (pending : a.requests.pendingKey = some path) (failure : Failure) :
    a.failPending path failure = (true, a.askFailed path failure) := by
  -- The request is taken out of the slot, and settled by whoever took it.
  obtain ⟨request, waits⟩ := Requests.pendingKey_eq_some_iff.mp pending
  have taken := (a.requests.takeFor_eq path).resolve_right fun left => left.2 request waits
  unfold failPending askFailed Requests.resolveFor
  rw [taken.1, Requests.take_of_some waits]

/-- Failing a request for another path does nothing. -/
theorem failPending_of_other (other : a.requests.pendingKey ≠ some path) (failure : Failure) :
    a.failPending path failure = (false, a) := by
  -- There is no request for the path to be taken.
  unfold failPending
  rw [Requests.takeFor_of_other other]

/-- To the requests, a reported failure is an outcome for its path. -/
theorem requests_failPending (a : Acquisition H) (path : String) (failure : Failure) :
    (a.failPending path failure).2.requests =
      (a.requests.resolveFor path (.error failure)).2 := by
  -- The request in the slot is for the path, or it is not.
  by_cases pending : a.requests.pendingKey = some path
  · rw [failPending_of_pending pending]
    rfl
  · rw [failPending_of_other pending, Requests.resolveFor_of_other pending]

variable [Host H]

/-- Closing does not look at requests. -/
theorem close_requests (a : Acquisition H) (requests : Requests String Handle) :
    ({ a with requests } : Acquisition H).close = { a.close with requests } := by
  -- All that closing depends on is whether a connection is open.
  obtain ⟨host, models, phase, handle, _, log⟩ := a
  cases handle <;> rfl

/-- Closing settles no request. -/
theorem requests_close (a : Acquisition H) : a.close.requests = a.requests := by
  -- All that closing touches is the connection and the log.
  unfold close
  split <;> rfl

/-- Opening does not look at requests. -/
theorem openNow_requests (a : Acquisition H) (requests : Requests String Handle) (path : String) :
    ({ a with requests } : Acquisition H).openNow path =
      ((a.openNow path).1, { (a.openNow path).2 with requests }) := by
  -- Closing comes first, and does not look at them either.
  unfold openNow
  rw [close_requests]
  dsimp only
  split <;> rfl

/-- Opening settles no request. -/
theorem requests_openNow (a : Acquisition H) (path : String) :
    (a.openNow path).2.requests = a.requests := by
  -- Whether the service refuses or not, no more is done than to close and to call it.
  unfold openNow
  dsimp only
  split <;> exact a.requests_close

/-- What an answer means to the request that it is for, and what is done about it. -/
def onAnswer (a : Acquisition H) (path : String) : Bool → Outcome Handle × Acquisition H
  | true => a.openNow path
  | false => (.error .permissionDenied, a.settlePhase)

/-- An answer settles the request for its path. -/
theorem permissionResult_of_pending (pending : a.requests.pendingKey = some path) (granted : Bool) :
    a.permissionResult path granted =
      (true, { (a.onAnswer path granted).2 with
        requests := (a.requests.resolveFor path (a.onAnswer path granted).1).2 }) := by
  -- The device is opened with the request already out of the slot, which opening does not look at.
  obtain ⟨request, waits⟩ := Requests.pendingKey_eq_some_iff.mp pending
  have taken := (a.requests.takeFor_eq path).resolve_right fun left => left.2 request waits
  unfold permissionResult Requests.resolveFor
  rw [taken.1, Requests.take_of_some waits]
  cases granted with
  | true => simp only [openNow_requests, if_true, onAnswer]
  | false => rfl

/-- An answer to the request leaves the connections as what is done about it does. -/
theorem onAnswer_of_pending (pending : a.requests.pendingKey = some path) (granted : Bool) :
    (a.permissionResult path granted).2.handle = (a.onAnswer path granted).2.handle ∧
      (a.permissionResult path granted).2.log = (a.onAnswer path granted).2.log := by
  -- Only the requests are changed besides.
  rw [permissionResult_of_pending pending]
  exact ⟨rfl, rfl⟩

/-- A denial settles the request like a failure to show its prompt. -/
theorem permissionResult_of_denied (pending : a.requests.pendingKey = some path) :
    a.permissionResult path false = (true, a.askFailed path .permissionDenied) :=
  permissionResult_of_pending pending false

/-- An answer for another path is ignored. -/
theorem permissionResult_of_other (other : a.requests.pendingKey ≠ some path) (granted : Bool) :
    a.permissionResult path granted = (false, a) := by
  -- There is no request for the path to be taken.
  unfold permissionResult
  rw [Requests.takeFor_of_other other]

end Pending

variable [Host H]

/-- A reset settles the request in the slot, and closes what is open. -/
theorem reset_eq (a : Acquisition H) :
    a.reset = { a.close with
      requests := (a.requests.resolve (.error (.invalidState "USB acquisition reset"))).2
      phase := .idle } := by
  -- Settling comes first, and closing does not look at the requests.
  exact congrArg (fun closed : Acquisition H => { closed with phase := .idle })
    (a.close_requests _)

/-- To the requests, an answer is an outcome for its path. -/
theorem requests_permissionResult (a : Acquisition H) (path : String) (granted : Bool) :
    (a.permissionResult path granted).2.requests =
      (a.requests.resolveFor path (a.onAnswer path granted).1).2 := by
  -- The request in the slot is for the path, or it is not.
  by_cases pending : a.requests.pendingKey = some path
  · rw [permissionResult_of_pending pending]
  · rw [permissionResult_of_other pending, Requests.resolveFor_of_other pending]

section Log

/-- What closing has the service do. -/
def closing (a : Acquisition H) : List (H × HostCall) :=
  (a.handle.map fun handle => (a.host, .closed handle.fd handle.devicePath)).toList

/-- What opening has the service do once nothing is open. -/
def opening (a : Acquisition H) (path : String) : H × HostCall :=
  (a.close.host, match (Host.openPath a.close.host path).1 with
    | some fd => .opened path fd
    | none => .refused path)

/-- What a step has the service do, and the state that the service is in each time. -/
def newCalls (a : Acquisition H) : Step H → List (H × HostCall)
  | .ask path => [(a.host, .prompted path)]
  | .told settled => [(a.host, .answered settled)]
  | .openNow path => a.closing ++ [a.opening path]
  | .permissionResult path true =>
    if a.requests.pendingKey = some path then a.closing ++ [a.opening path] else []
  | .close | .reset => a.closing
  | _ => []

/-- What a step may have the service do: show a prompt, take note of an answer, close what is open,
or open a device at once or because a request for it is granted. -/
theorem newCalls_cases {a : Acquisition H} {step : Step H} {entry : H × HostCall}
    (member : entry ∈ a.newCalls step) :
    (∃ path, step = .ask path ∧ entry = (a.host, .prompted path)) ∨
    (∃ settled, step = .told settled ∧ entry = (a.host, .answered settled)) ∨
    (∃ handle, a.handle = some handle ∧
      entry = (a.host, .closed handle.fd handle.devicePath)) ∨
    ∃ path, entry = a.opening path ∧ (step = .openNow path ∨
      step = .permissionResult path true ∧ a.requests.pendingKey = some path) := by
  -- Opening may come after closing, and so may both come after a grant.
  have closed : entry ∈ a.closing → ∃ handle, a.handle = some handle ∧
      entry = (a.host, .closed handle.fd handle.devicePath) := by
    intro member
    obtain ⟨handle, held, same⟩ := Option.map_eq_some_iff.mp (Option.mem_toList.mp member)
    exact ⟨handle, held, same.symm⟩
  cases step with
  | ask path => exact Or.inl ⟨path, rfl, List.mem_singleton.mp member⟩
  | told settled => exact Or.inr (Or.inl ⟨settled, rfl, List.mem_singleton.mp member⟩)
  | openNow path =>
    rcases List.mem_append.mp member with first | last
    · exact Or.inr (Or.inr (Or.inl (closed first)))
    · exact Or.inr (Or.inr (Or.inr ⟨path, List.mem_singleton.mp last, Or.inl rfl⟩))
  | permissionResult path granted =>
    cases granted with
    | false => simp [newCalls] at member
    | true =>
      simp only [newCalls] at member
      split at member
      · rename_i pending
        rcases List.mem_append.mp member with first | last
        · exact Or.inr (Or.inr (Or.inl (closed first)))
        · exact Or.inr (Or.inr (Or.inr
            ⟨path, List.mem_singleton.mp last, Or.inr ⟨rfl, pending⟩⟩))
      · simp at member
  | close => exact Or.inr (Or.inr (Or.inl (closed member)))
  | reset => exact Or.inr (Or.inr (Or.inl (closed member)))
  | _ => simp [newCalls] at member

/-- The service is asked to open a device in the state that closing left it in. -/
theorem host_close (a : Acquisition H) :
    a.close.host = a.host ∨
      ∃ handle, a.handle = some handle ∧ a.close.host = Host.release a.host handle := by
  -- The service changes only if there is something to close.
  unfold close
  cases a.handle with
  | none => exact Or.inl rfl
  | some handle => exact Or.inr ⟨handle, rfl, rfl⟩

/-- Opening a device is an attempt at its path, whether the service refuses it or not. -/
theorem attempt?_opening (a : Acquisition H) (path : String) :
    (a.opening path).2.attempt? = some path := by
  -- The service gives a connection, or refuses.
  unfold opening
  dsimp only
  split <;> rfl

/-- An attempt to open a device is no prompt. -/
theorem isPrompt_of_attempt {call : HostCall} {path : String} (attempt : call.attempt? = some path) :
    call.isPrompt = false := by
  -- Only a prompt is one, and that attempts nothing.
  cases call with
  | prompted _ => simp [HostCall.attempt?] at attempt
  | _ => rfl

/-- The service learns of a closing what closing does. -/
theorem log_close (a : Acquisition H) : a.close.log = a.log ++ a.closing := by
  -- There is a connection to close, or there is none.
  unfold close closing
  cases a.handle with
  | none => exact (List.append_nil _).symm
  | some handle => rfl

/-- The service learns of an opening that what was open is closed and the device opened. -/
theorem log_openNow (a : Acquisition H) (path : String) :
    (a.openNow path).2.log = a.log ++ (a.closing ++ [a.opening path]) := by
  -- The log after closing is known, and one call follows it.
  rw [← List.append_assoc, ← log_close]
  unfold openNow opening
  dsimp only
  split <;> simp [*, note]

/-- The service learns of each step what the step has it do. -/
theorem log_advance (a : Acquisition H) (step : Step H) :
    (a.advance step).log = a.log ++ a.newCalls step := by
  -- The log only grows, by the calls of the step in their order.
  cases step with
  | list =>
    simp only [advance, list]
    split <;> exact (List.append_nil _).symm
  | ask path => rfl
  | askFailed path failure => exact (List.append_nil _).symm
  | openNow path => exact a.log_openNow path
  | permissionResult path granted =>
    simp only [advance]
    by_cases pending : a.requests.pendingKey = some path
    · rw [permissionResult_of_pending pending]
      cases granted with
      | true =>
        rw [newCalls, if_pos pending]
        exact a.log_openNow path
      | false => exact (List.append_nil _).symm
    · rw [permissionResult_of_other pending]
      cases granted <;> simp [newCalls, pending]
  | told settled => rfl
  | failPending path failure =>
    simp only [advance]
    by_cases pending : a.requests.pendingKey = some path
    · rw [failPending_of_pending pending]
      exact (List.append_nil _).symm
    · rw [failPending_of_other pending]
      exact (List.append_nil _).symm
  | close => exact a.log_close
  | reset =>
    simp only [advance, reset_eq]
    exact a.log_close
  | poll request => exact (List.append_nil _).symm
  | hostChange host => exact (List.append_nil _).symm

end Log

/-- The requests after a step. -/
def requestsAfter (a : Acquisition H) : Step H → Requests String Handle
  | .ask path => (a.requests.arm path).2
  | .askFailed path failure | .failPending path failure =>
    (a.requests.resolveFor path (.error failure)).2
  | .permissionResult path granted => (a.requests.resolveFor path (a.onAnswer path granted).1).2
  | .reset => (a.requests.resolve (.error (.invalidState "USB acquisition reset"))).2
  | .poll request => (a.requests.poll request).2
  | .list | .openNow _ | .told _ | .close | .hostChange _ => a.requests

/-- The requests after a step are those that the step leads to. -/
theorem requests_advance (a : Acquisition H) (step : Step H) :
    (a.advance step).requests = a.requestsAfter step := by
  -- Most steps are the operation on requests itself, or leave them alone.
  cases step with
  | list =>
    simp only [advance, list]
    split <;> rfl
  | openNow path => exact a.requests_openNow path
  | permissionResult path granted => exact a.requests_permissionResult path granted
  | failPending path failure => exact a.requests_failPending path failure
  | close => exact a.requests_close
  | reset => simp only [advance, reset_eq, requestsAfter]
  | _ => rfl

/-- A request that is outstanding after a step was so before, unless it was made by the step. -/
theorem waiting_of_advance {a : Acquisition H} {step : Step H} {entry : String × Nat}
    (older : ∀ path, step ≠ .ask path) (waits : (a.advance step).requests.waiting = some entry) :
    a.requests.waiting = some entry := by
  -- Settling empties the slot, and all else but asking leaves it as it is.
  rw [requests_advance] at waits
  cases step with
  | ask path => exact absurd rfl (older path)
  | askFailed path failure => exact Requests.waiting_of_resolveFor waits
  | permissionResult path granted => exact Requests.waiting_of_resolveFor waits
  | failPending path failure => exact Requests.waiting_of_resolveFor waits
  | reset => exact absurd ((a.requests.waiting_resolve _).symm.trans waits) (by simp)
  | poll request => exact (a.requests.waiting_poll request).symm.trans waits
  | _ => exact waits

/-- What holds of an acquisition, and is kept by every step, holds after all steps. -/
theorem afterSteps_rule {P : Acquisition H → Prop} {a : Acquisition H} (start : P a)
    (kept : ∀ b step, P b → P (b.advance step)) (steps : List (Step H)) :
    P (a.afterSteps steps) :=
  -- Steps are taken as a fold, each from where the earlier ones led.
  List.foldlRecOn steps advance start fun b holds step _ => kept b step holds

section Models

/-- Closing changes no model. -/
theorem models_close (a : Acquisition H) : a.close.models = a.models := by
  -- All that closing touches is the connection and the log.
  unfold close
  split <;> rfl

/-- Opening changes no model. -/
theorem models_openNow (a : Acquisition H) (path : String) :
    (a.openNow path).2.models = a.models := by
  -- Opening closes first, and then changes the connection, the phase and the log.
  unfold openNow
  dsimp only
  split <;> exact a.models_close

/-- No step changes the models. -/
theorem models_advance (a : Acquisition H) (step : Step H) : (a.advance step).models = a.models := by
  -- The models are not among what any step writes to.
  cases step with
  | list =>
    simp only [advance, list]
    split <;> rfl
  | openNow path => exact a.models_openNow path
  | permissionResult path granted =>
    simp only [advance]
    by_cases pending : a.requests.pendingKey = some path
    · rw [permissionResult_of_pending pending]
      cases granted with
      | true => exact a.models_openNow path
      | false => rfl
    · rw [permissionResult_of_other pending]
  | failPending path failure =>
    simp only [advance]
    by_cases pending : a.requests.pendingKey = some path
    · rw [failPending_of_pending pending]
      rfl
    · rw [failPending_of_other pending]
  | close => exact a.models_close
  | reset =>
    simp only [advance, reset_eq]
    exact a.models_close
  | _ => rfl

/-- No run of steps changes the models. -/
theorem models_afterSteps (a : Acquisition H) (steps : List (Step H)) :
    (a.afterSteps steps).models = a.models := by
  -- Each step hands the models on to the next one.
  refine afterSteps_rule (P := fun b => b.models = a.models) rfl ?_ steps
  intro b step same
  exact (b.models_advance step).trans same

end Models

section Operations

/-- The steps while the prompt is shown do what the service's answers do. A failure to show it
settles the request. -/
theorem afterSteps_promptSteps (a : Acquisition H) (path : String) (prompt : Prompt H) :
    a.afterSteps (a.promptSteps path prompt) =
      match a.converse prompt with
      | (none, b) => b
      | (some failure, b) => b.askFailed path failure := by
  -- The induction is on the answers, each of which finds what the ones before it left.
  induction prompt generalizing a with
  | ended failure host => cases failure <;> rfl
  | answered answered granted host rest ih => exact ih _ _ _

/-- A failure to show the prompt is the last of the steps, if there is one. -/
theorem promptSteps_failed {a : Acquisition H} {path : String} {prompt : Prompt H}
    (shown : (a.converse prompt).1 = none) (other : String) (failure : Failure) :
    .askFailed other failure ∉ a.promptSteps path prompt := by
  -- How the prompt ends is known from its last part, whatever answers came before.
  induction prompt generalizing a with
  | ended ending host =>
    obtain rfl : ending = none := shown
    simp [promptSteps]
  | answered answered granted host rest ih =>
    intro member
    simp only [promptSteps, List.mem_cons, reduceCtorEq, false_or] at member
    exact ih _ _ shown member

/-- Opening a device fails at once; or opens it, since it may be opened; or has the prompt shown. In
the last two cases the device was found to be one of the models. -/
theorem acquire_cases (a : Acquisition H) (d : Descriptor) :
    (∃ failure, a.acquire d = (.error failure, a) ∧ a.acquireSteps d = []) ∨
    (Vetted a.models a.host d.path ∧
      a.acquire d = ((a.openNow d.path).1.map .ready, (a.openNow d.path).2) ∧
      a.acquireSteps d = [.openNow d.path]) ∨
    (Vetted a.models a.host d.path ∧
      a.acquire d = (match (a.ask d.path).converse (Host.prompt a.host d.path) with
        | (none, b) => (.ok (.pending a.requests.channels.length), b)
        | (some failure, b) => (.error failure, b.askFailed d.path failure)) ∧
      a.acquireSteps d =
        .ask d.path :: (a.ask d.path).promptSteps d.path (Host.prompt a.host d.path)) := by
  -- The checks are gone through in their order: the list, the service, and whether it is the same
  -- device.
  cases listed : d.isOn a.models with
  | false => exact Or.inl ⟨.deviceNotApplicable d.path, by simp [acquire, acquireSteps, listed]⟩
  | true =>
    cases found : Host.find a.host d.path with
    | none => exact Or.inl ⟨.deviceNotFound d.path, by simp [acquire, acquireSteps, listed, found]⟩
    | some attached =>
      by_cases same : attached.id = d.id
      · -- The device that is attached is the one that is asked for, which is on the list.
        have vetted : Vetted a.models a.host d.path :=
          ⟨attached, found, by simpa [Descriptor.isOn, same] using listed⟩
        refine Or.inr ?_
        cases permitted : d.hasPermission || Host.permitted a.host d.path with
        | true =>
          exact Or.inl ⟨vetted, by simp [acquire, acquireSteps, listed, found, same, permitted]⟩
        | false =>
          refine Or.inr ⟨vetted, ?_, by simp [acquireSteps, listed, found, same, permitted]⟩
          simp only [acquire, listed, found, same, permitted, Bool.not_true, Bool.false_eq_true,
            if_false, ne_eq, not_true_eq_false]
          rfl
      · exact Or.inl ⟨.deviceNotApplicable d.path,
          by simp [acquire, acquireSteps, listed, found, same]⟩

/-- Opening a device by its descriptor does what its steps do. -/
theorem afterSteps_acquireSteps (a : Acquisition H) (d : Descriptor) :
    a.afterSteps (a.acquireSteps d) = (a.acquire d).2 := by
  -- It fails at once, opens the device, or has a prompt shown.
  rcases a.acquire_cases d with ⟨failure, done, none_⟩ | ⟨-, done, one⟩ | ⟨-, done, many⟩
  · rw [done, none_]
    rfl
  · rw [done, one]
    rfl
  · rw [done, many]
    refine ((a.ask d.path).afterSteps_promptSteps d.path _).trans ?_
    split <;> simp [*]

/-- Whatever is to be opened, an operation opens it by its descriptor. -/
theorem perform_of_wanted {a : Acquisition H} {operation : Operation H} {d : Descriptor}
    (wanted : a.wanted? operation = some d) :
    a.perform operation = (a.acquire d).2 ∧ a.steps operation = a.acquireSteps d := by
  -- A path stands for the device that is attached there.
  cases operation with
  | acquire other =>
    obtain rfl : other = d := Option.some.inj wanted
    exact ⟨rfl, rfl⟩
  | acquirePath path =>
    obtain ⟨attached, found, rfl⟩ := Option.map_eq_some_iff.mp wanted
    simp [perform, acquirePath, found, steps, wanted]
  | _ => simp [wanted?] at wanted

/-- An operation takes the steps that open a device, one other step, or none. The other one neither
asks for anything nor opens it, nor is it the failure to ask. -/
theorem steps_cases (a : Acquisition H) (operation : Operation H) :
    a.steps operation = [] ∨ (∃ d, a.steps operation = a.acquireSteps d) ∨
    ∃ step, a.steps operation = [step] ∧ (∀ path, step ≠ .ask path ∧ step ≠ .openNow path) ∧
      ∀ path failure, step ≠ .askFailed path failure := by
  -- Only what opens a device takes more than one step, and a path may have none behind it.
  cases operation with
  | acquire d => exact Or.inr (Or.inl ⟨d, rfl⟩)
  | acquirePath path =>
    cases wanted : a.wanted? (.acquirePath path) with
    | none => exact Or.inl (by simp [steps, wanted])
    | some d => exact Or.inr (Or.inl ⟨d, (perform_of_wanted wanted).2⟩)
  | _ => exact Or.inr (Or.inr ⟨_, rfl, fun _ => ⟨nofun, nofun⟩, nofun⟩)

/-- An operation does what its steps do. -/
theorem afterSteps_steps (a : Acquisition H) (operation : Operation H) :
    a.afterSteps (a.steps operation) = a.perform operation := by
  -- All but the two that open a device are a step themselves.
  cases operation with
  | acquire d => exact a.afterSteps_acquireSteps d
  | acquirePath path =>
    cases wanted : a.wanted? (.acquirePath path) with
    | none =>
      have missing : Host.find a.host path = none := by simpa [wanted?] using wanted
      simp [steps, wanted, perform, acquirePath, missing, afterSteps]
    | some d =>
      obtain ⟨done, taken⟩ := perform_of_wanted wanted
      rw [done, taken]
      exact a.afterSteps_acquireSteps d
  | _ => rfl

/-- Steps are taken one after another. -/
theorem afterSteps_append (a : Acquisition H) (earlier later : List (Step H)) :
    a.afterSteps (earlier ++ later) = (a.afterSteps earlier).afterSteps later :=
  List.foldl_append

/-- Operations do what their steps do. -/
theorem afterSteps_allSteps (a : Acquisition H) (operations : List (Operation H)) :
    a.afterSteps (a.allSteps operations) = a.afterAll operations := by
  -- The steps of the first operation lead to where the other operations begin.
  induction operations generalizing a with
  | nil => rfl
  | cons operation rest ih =>
    rw [allSteps, afterSteps_append, afterSteps_steps, ih]
    rfl

end Operations

end Acquisition

end TunerControl.Usb
