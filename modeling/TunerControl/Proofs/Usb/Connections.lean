import TunerControl.Simulated.Host
import TunerControl.Usb.Operation

/-! An acquisition has at most one connection open, and closes each that it opened once. -/

namespace TunerControl.Usb

namespace HostCall

/-- The connection that is open after a call. Opening is in order while none is open, and closing
is for the one that is. -/
def next? : HostCall → Option Handle → Option (Option Handle)
  | opened path fd, none => some (some ⟨fd, path⟩)
  | refused _, none => some none
  | closed fd path, some handle => if handle = ⟨fd, path⟩ then some none else none
  | prompted _, current | answered _, current => some current
  | _, _ => none

/-- A prompt opens and closes nothing. -/
@[simp] theorem next?_prompted (current : Option Handle) (path : String) :
    (prompted path).next? current = some current := by
  -- The call is in order with a connection open and with none.
  cases current <;> rfl

/-- How an answer was received opens and closes nothing. -/
@[simp] theorem next?_answered (current : Option Handle) (resolved : Bool) :
    (answered resolved).next? current = some current := by
  -- The call is in order with a connection open and with none.
  cases current <;> rfl

/-- The connection that is open after some calls, if all of them are in order. -/
def follow : Option Handle → List HostCall → Option (Option Handle)
  | current, [] => some current
  | current, call :: rest => (call.next? current).bind (follow · rest)

/-- Calls in a row are in order if those before are, and those after go on from there. -/
theorem follow_append (current : Option Handle) (before after : List HostCall) :
    follow current (before ++ after) = (follow current before).bind (follow · after) := by
  -- By induction on the calls before, from any connection that is open at first.
  induction before generalizing current with
  | nil => rfl
  | cons call rest ih => simp only [List.cons_append, follow, ih, Option.bind_assoc]

/-- Calls in order close the connections in the order in which they were opened, and leave the last
one open at most. -/
theorem openings_eq_of_follow {calls : List HostCall} {current last : Option Handle}
    (inOrder : follow current calls = some last) :
    current.toList ++ calls.filterMap opening? = calls.filterMap closing? ++ last.toList := by
  -- The induction is on the calls, from any connection that may be open before them.
  induction calls generalizing current with
  | nil =>
    have same : current = last := Option.some.inj inOrder
    rw [same]
    simp
  | cons call rest ih =>
    obtain ⟨middle, next, others⟩ := Option.bind_eq_some_iff.mp inOrder
    have settled := ih others
    cases call with
    | prompted path =>
      rw [next?_prompted] at next
      rw [Option.some.inj next]
      exact settled
    | answered resolved =>
      rw [next?_answered] at next
      rw [Option.some.inj next]
      exact settled
    | opened path fd =>
      cases current with
      | some handle => simp [next?] at next
      | none =>
        -- The new connection is the one that the rest of the calls find open.
        have new : middle = some ⟨fd, path⟩ := (Option.some.inj next).symm
        rw [new] at settled
        exact settled
    | refused path =>
      cases current with
      | some handle => simp [next?] at next
      | none =>
        have none_ : middle = none := (Option.some.inj next).symm
        rw [none_] at settled
        exact settled
    | closed fd path =>
      cases current with
      | none => simp [next?] at next
      | some handle =>
        -- What is closed is what was open, so it comes first on both sides.
        simp only [next?] at next
        split at next
        · rename_i same
          have none_ : middle = none := (Option.some.inj next).symm
          rw [none_] at settled
          rw [same]
          exact congrArg (Handle.mk fd path :: ·) settled
        · simp at next

/-- Opening is asked for only while nothing is open. -/
theorem closed_of_attempt {before after : List HostCall} {call : HostCall}
    {current last : Option Handle} (inOrder : follow current (before ++ call :: after) = some last)
    (attempt : call.isAttempt = true) : follow current before = some none := by
  -- With a connection open, neither an opening nor a refusal would be in order.
  rw [follow_append] at inOrder
  obtain ⟨middle, first, rest⟩ := Option.bind_eq_some_iff.mp inOrder
  obtain ⟨_, next, -⟩ := Option.bind_eq_some_iff.mp rest
  cases middle with
  | none => exact first
  | some handle => cases call <;> simp [next?, isAttempt] at next attempt

end HostCall

namespace Acquisition

variable {H : Type}

/-- The calls so far were in order, and leave open what the acquisition takes for open. -/
def InOrder (a : Acquisition H) : Prop :=
  HostCall.follow none a.calls = some a.handle

/-- Only the log and the connection count. -/
theorem InOrder.of_same {a b : Acquisition H} (inOrder : a.InOrder) (log : b.log = a.log)
    (handle : b.handle = a.handle) : b.InOrder := by
  rw [InOrder, calls, log, handle]
  exact inOrder

/-- A call in order keeps the calls in order. -/
theorem InOrder.call {a b : Acquisition H} (inOrder : a.InOrder) (call : HostCall)
    (log : b.calls = a.calls ++ [call]) (next : call.next? a.handle = some b.handle) :
    b.InOrder := by
  -- The calls before lead to what was open, and the new call goes on from there.
  rw [InOrder, log, HostCall.follow_append, inOrder]
  show (call.next? a.handle).bind _ = _
  rw [next]
  rfl

/-- What is noted is called last. -/
theorem calls_note (a : Acquisition H) (call : HostCall) :
    (a.note call).calls = a.calls ++ [call] := by
  simp [calls, note]

/-- A failure that is reported for a prompt opens and closes nothing. -/
theorem InOrder.failPending {a : Acquisition H} (inOrder : a.InOrder) (path : String)
    (failure : Failure) : (a.failPending path failure).2.InOrder := by
  -- It settles a request or does nothing.
  unfold Acquisition.failPending
  split
  · exact inOrder
  · exact inOrder.of_same rfl rfl

variable [Host H]

/-- After closing, nothing is open. -/
theorem handle_close (a : Acquisition H) : a.close.handle = none := by
  -- It was closed before, or is closed now.
  unfold close
  split
  · assumption
  · rfl

/-- Without an open connection there is nothing to close. -/
theorem close_of_none {a : Acquisition H} (closed : a.handle = none) : a.close = a := by
  unfold close
  rw [closed]

/-- Without an open connection, the service does not learn of a reset. -/
theorem reset_of_none {a : Acquisition H} (closed : a.handle = none) :
    a.reset.log = a.log ∧ a.reset.handle = none := by
  -- There is nothing to close, and settling a request is no call.
  unfold reset
  dsimp only
  rw [close_of_none (by exact closed)]
  exact ⟨rfl, closed⟩

/-- Closing is in order. -/
theorem InOrder.close {a : Acquisition H} (inOrder : a.InOrder) : a.close.InOrder := by
  -- Nothing is open, or what is open is closed.
  unfold Acquisition.close
  split
  · exact inOrder
  · rename_i handle open_
    -- The call names the connection that the acquisition holds.
    refine inOrder.call (.closed handle.fd handle.devicePath) (a.calls_note _) ?_
    rw [open_]
    exact if_pos rfl

/-- Opening is in order, whether the service refuses it or not. -/
theorem InOrder.openNow {a : Acquisition H} (inOrder : a.InOrder) (path : String) :
    (a.openNow path).2.InOrder := by
  -- Whatever was open is closed before the service is asked.
  have closed := inOrder.close
  have nothing := a.handle_close
  unfold Acquisition.openNow
  dsimp only
  split
  · refine closed.call (.refused path) (a.close.calls_note _) ?_
    show HostCall.next? _ a.close.handle = some a.close.handle
    rw [nothing]
    rfl
  · rename_i fd host opened
    refine closed.call (.opened path fd) (a.close.calls_note _) ?_
    rw [nothing]
    rfl

/-- An answer to a prompt is in order. -/
theorem InOrder.permissionResult {a : Acquisition H} (inOrder : a.InOrder) (path : String)
    (granted : Bool) : (a.permissionResult path granted).2.InOrder := by
  -- It is for the request in the slot, or is ignored.
  unfold Acquisition.permissionResult
  split
  · exact inOrder
  · -- Only a granted request touches the connections.
    rename_i request requests taken
    have taken : ({ a with requests } : Acquisition H).InOrder := inOrder.of_same rfl rfl
    cases granted with
    | true => exact (taken.openNow path).of_same rfl rfl
    | false => exact taken.of_same rfl rfl

/-- Answers that come before the service's call ends keep the calls in order, however many. -/
theorem InOrder.converse {a : Acquisition H} (inOrder : a.InOrder) (prompt : Prompt H) :
    (a.converse prompt).2.InOrder := by
  -- The induction is on the answers, since each may open a device before the next one comes.
  induction prompt generalizing a with
  | ended failure host => exact inOrder.of_same rfl rfl
  | answered path granted host rest ih =>
    have changed : ({ a with host } : Acquisition H).InOrder := inOrder.of_same rfl rfl
    have settled := changed.permissionResult path granted
    unfold Acquisition.converse
    exact ih _ _ (settled.call (.answered _) (calls_note _ _) (HostCall.next?_answered _ _))

/-- Showing a prompt is in order. -/
theorem InOrder.askPermission {a : Acquisition H} (inOrder : a.InOrder) (path : String) :
    (a.askPermission path).2.InOrder := by
  -- The prompt is noted, and then the answers come.
  exact InOrder.converse
    (inOrder.call (.prompted path) (a.calls_note _) (HostCall.next?_prompted _ _)) _

/-- Opening a device by its descriptor is in order, however it is done. -/
theorem InOrder.acquire {a : Acquisition H} (inOrder : a.InOrder) (d : Descriptor) :
    (a.acquire d).2.InOrder := by
  -- Most of it is refused before the service is asked; what is left opens the device or shows a
  -- prompt.
  unfold Acquisition.acquire
  split
  · exact inOrder
  · split
    · exact inOrder
    · split
      · exact inOrder
      · split
        · exact inOrder.openNow d.path
        · -- Arming a request and showing the prompt open nothing, but an answer to it may.
          have armed : ({ a with
              requests := (a.requests.arm d.path).2
              phase := .permissionRequested } : Acquisition H).InOrder := inOrder.of_same rfl rfl
          have asked := armed.askPermission d.path
          dsimp only
          split
          · rename_i answered
            rw [answered] at asked
            exact asked
          · rename_i answered
            rw [answered] at asked
            exact asked.of_same rfl rfl

/-- A reset is in order. -/
theorem InOrder.reset {a : Acquisition H} (inOrder : a.InOrder) : a.reset.InOrder := by
  -- It settles the request, and closes what is open.
  unfold Acquisition.reset
  split
  rename_i requests cancelled
  have settled : ({ a with requests } : Acquisition H).InOrder := inOrder.of_same rfl rfl
  exact settled.close.of_same rfl rfl

/-- So is opening a device by its path. -/
theorem InOrder.acquirePath {a : Acquisition H} (inOrder : a.InOrder) (path : String) :
    (a.acquirePath path).2.InOrder := by
  -- Nothing is at the path, or what is there is opened by its descriptor.
  unfold Acquisition.acquirePath
  split
  · exact inOrder
  · exact inOrder.acquire _

/-- The service learns of no quiet operation, and the connection stays the same. -/
theorem perform_of_isQuiet (a : Acquisition H) {operation : Operation H}
    (quiet : operation.isQuiet = true) :
    (a.perform operation).log = a.log ∧ (a.perform operation).handle = a.handle := by
  -- Quiet operations touch the phase, the requests or the service, but nothing of the connection.
  cases operation with
  | list =>
    simp only [Acquisition.perform, Acquisition.list]
    split <;> exact ⟨rfl, rfl⟩
  | failPending path failure =>
    simp only [Acquisition.perform, Acquisition.failPending]
    split <;> exact ⟨rfl, rfl⟩
  | poll request => exact ⟨rfl, rfl⟩
  | hostChange host => exact ⟨rfl, rfl⟩
  | acquire d => simp [Operation.isQuiet] at quiet
  | acquirePath path => simp [Operation.isQuiet] at quiet
  | permissionResult path granted => simp [Operation.isQuiet] at quiet
  | close => simp [Operation.isQuiet] at quiet
  | reset => simp [Operation.isQuiet] at quiet

/-- Every operation keeps the calls in order. -/
theorem InOrder.perform {a : Acquisition H} (inOrder : a.InOrder) (operation : Operation H) :
    (a.perform operation).InOrder := by
  -- Listing changes the phase alone, and all other operations that matter were looked at above.
  cases operation with
  | list =>
    -- Only the phase changes.
    refine inOrder.of_same ?_ ?_
    · simp only [Acquisition.perform, Acquisition.list]
      split <;> rfl
    · simp only [Acquisition.perform, Acquisition.list]
      split <;> rfl
  | acquire d => exact inOrder.acquire d
  | acquirePath path => exact inOrder.acquirePath path
  | permissionResult path granted => exact inOrder.permissionResult path granted
  | failPending path failure => exact inOrder.failPending path failure
  | close => exact inOrder.close
  | reset => exact inOrder.reset
  | poll request => exact inOrder.of_same rfl rfl
  | hostChange host => exact inOrder.of_same rfl rfl

/-- After every run, the calls were in order. -/
theorem afterRun_inOrder (host : H) (models : List DeviceId) (operations : List (Operation H)) :
    (afterRun host models operations).InOrder := by
  -- At first there was no call, and every operation keeps the calls in order.
  have start : ({ host, models } : Acquisition H).InOrder := rfl
  exact List.foldlRecOn operations perform start fun a inOrder operation _ =>
    inOrder.perform operation

/-- After every run, the connections that the service opened are those that were closed, in the same
order and each once, and then the one that the acquisition holds. At no time is more than one open,
and the service is asked for another only when all before are closed. -/
theorem afterRun_connections (host : H) (models : List DeviceId)
    (operations : List (Operation H)) :
    let a := afterRun host models operations
    a.calls.filterMap HostCall.opening? =
      a.calls.filterMap HostCall.closing? ++ a.handle.toList ∧
    (∀ before after, a.calls = before ++ after →
      ∃ current : Option Handle,
        before.filterMap HostCall.opening? =
          before.filterMap HostCall.closing? ++ current.toList) ∧
    ∀ before call after, a.calls = before ++ call :: after → call.isAttempt = true →
      before.filterMap HostCall.opening? = before.filterMap HostCall.closing? := by
  -- All three parts are read off the order of the calls.
  intro a
  have inOrder : HostCall.follow none a.calls = some a.handle :=
    afterRun_inOrder host models operations
  refine ⟨HostCall.openings_eq_of_follow inOrder, ?_, ?_⟩
  · intro before after split
    -- What came first was in order by itself, and left some connection open.
    rw [split, HostCall.follow_append] at inOrder
    obtain ⟨current, first, -⟩ := Option.bind_eq_some_iff.mp inOrder
    exact ⟨current, HostCall.openings_eq_of_follow first⟩
  · intro before call after split attempt
    -- Before an attempt nothing is open, so that all that was opened was closed.
    rw [split] at inOrder
    have closed := HostCall.openings_eq_of_follow (HostCall.closed_of_attempt inOrder attempt)
    simpa using closed

/-- A service with one dongle that grants each prompt before the prompting call returns. -/
def grantingService : Simulated.Service :=
  { devices := [⟨⟨0x0bda, 0x2838⟩, "dongle", none, none⟩], autoAnswer := some true }

/-- The dongle is opened from inside the prompt. It is closed before it is opened again. -/
theorem grantingService_connections :
    let a := afterRun grantingService rtlSdrModels [.acquirePath "dongle", .acquirePath "dongle"]
    let before := [.prompted "dongle", .opened "dongle" 20, .answered true, .closed 20 "dongle"]
    a.calls = before ++ [.opened "dongle" 21] ∧
    before.filterMap HostCall.opening? = before.filterMap HostCall.closing? := by
  -- The calls are those of this run; what they say of the connections is the theorem.
  intro a before
  have calls : a.calls = before ++ [.opened "dongle" 21] := by decide
  have connections := afterRun_connections grantingService rtlSdrModels
    [.acquirePath "dongle", .acquirePath "dongle"]
  exact ⟨calls, connections.2.2 before (.opened "dongle" 21) [] calls rfl⟩

end Acquisition

end TunerControl.Usb
