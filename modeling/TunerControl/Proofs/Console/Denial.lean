import TunerControl.Proofs.Console.Dongle
import TunerControl.Proofs.Session.Acquiring
import TunerControl.Proofs.Usb.Completions

/-! A denial settles the request that it is for and leaves the dongle alone, in whatever session. -/

namespace TunerControl.Console

open Session (Controller Engine HackRfDriver)
open Usb (Acquisition Host)

variable {H G D : Type} [Host H]

/-- What a denial means to the request that it is for: that the user denied it, or that the dongle is
in use. -/
def denial (c : Console H G D) : Failure :=
  if c.controller.backend = some .rtlUsb then inUse openingDongle else .permissionDenied

/-- A denial for the path of the request in the slot settles it. -/
theorem permissionResult_of_denied {c : Console H G D} (settled : c.controller.Settled)
    {path : String} (pending : c.controller.usb.requests.pendingKey = some path) :
    c.permissionResult path false = (true, { c with controller := { c.controller with
      usb := c.controller.usb.askFailed path c.denial } }) := by
  -- Whether the dongle is in use decides which of two ways the answer takes. Both fail the request.
  unfold permissionResult denial
  rw [requireDongleFree_eq settled]
  by_cases has : c.controller.backend = some .rtlUsb
  · -- The answer is not looked at while a session is using the dongle.
    rw [if_pos has, if_pos has]
    simp only [acquire, control, Acquisition.failPending_of_pending pending]
  · rw [if_neg has, if_neg has]
    simp only [acquire, control, Acquisition.permissionResult_of_denied pending]

variable [Engine G] [HackRfDriver D]

/-- Whatever is done to a console, its controller could be told by itself. -/
theorem afterAll_controller (c : Console H G D) (operations : List (Operation H G D)) :
    ∃ parts, (c.afterAll operations).controller = c.controller.afterAll parts := by
  -- By induction on the operations: each has the controller do its own parts.
  induction operations generalizing c with
  | nil => exact ⟨[], rfl⟩
  | cons operation rest ih =>
    obtain ⟨later, others⟩ := ih (c.perform operation)
    refine ⟨c.parts operation ++ later, others.trans ?_⟩
    rw [perform_controller]
    exact List.foldl_append.symm

/-- The acquisition of a console is where its own operations may have brought it. -/
theorem afterAll_acquisition {host : H} {engine : G} {driver : Option D} {config : Config}
    {fresh : Console H G D} (made : new host engine driver config = .ok fresh)
    (operations : List (Operation H G D)) :
    ∃ acquiring, (fresh.afterAll operations).controller.usb =
      Acquisition.afterRun host Usb.rtlSdrModels acquiring := by
  -- The console's operations come to those of its controller, and these to those of the
  -- acquisition.
  have sound := (new_sheltered made).sound
  obtain ⟨parts, controller⟩ := fresh.afterAll_controller operations
  obtain ⟨acquiring, usb⟩ := (Controller.afterAll_acquires sound parts).2
  -- A new console has not used its acquisition.
  have start : fresh.controller.usb = { host, models := Usb.rtlSdrModels } := by
    unfold new at made
    split at made
    · simp at made
    · obtain rfl := Except.ok.inj made
      rfl
  refine ⟨acquiring, ?_⟩
  rw [controller, usb, start]
  rfl

/-- After every run of a new console, whatever session there is, a denial for the path of the request
that is outstanding settles it: its owner is told that the user denied it, or in a session on a dongle
that the dongle is in use. Nothing is opened or closed, the connection stays as it is, and no request
is outstanding. -/
theorem afterAll_denial {host : H} {engine : G} {driver : Option D} {config : Config}
    {fresh : Console H G D} (made : new host engine driver config = .ok fresh)
    {operations : List (Operation H G D)} {path : String} {request : Nat}
    (waits : (fresh.afterAll operations).controller.usb.requests.waiting = some (path, request)) :
    let c := fresh.afterAll operations
    let usb := c.controller.usb
    let denied := c.permissionResult path false
    let after := denied.2.controller.usb
    denied.1 = true ∧ (usb.poll request).1 = none ∧
    (after.poll request).1 = some (.error
      (if c.controller.backend = some .rtlUsb then inUse openingDongle else .permissionDenied)) ∧
    after.requests.waiting = none ∧ after.handle = usb.handle ∧ after.host = usb.host ∧
    after.log = usb.log ∧
    denied.2 = { c with controller := { c.controller with usb := after } } := by
  intro c usb denied after
  have sheltered : c.controller.Sheltered := afterAll_sheltered (new_sheltered made) operations
  have tracked : usb.Tracked := by
    -- What is known of every run of an acquisition holds of the one that the console uses.
    obtain ⟨acquiring, same⟩ := afterAll_acquisition made operations
    rw [show usb = _ from same]
    exact (Acquisition.new_tracked host Usb.rtlSdrModels).afterAll acquiring
  have answer : denied = (true, _) := permissionResult_of_denied sheltered.sound.settled
    (Requests.pendingKey_eq_some_iff.mpr ⟨request, waits⟩)
  have untold : (usb.poll request).1 = none :=
    tracked.poll_eq_none_iff.mpr (Requests.isWaiting_iff.mpr ⟨path, waits⟩)
  -- In any session the request fails, if not for the same reason.
  obtain ⟨told, empty, handle, host, log⟩ := tracked.askFailed waits c.denial
  simp only [after, answer]
  exact ⟨trivial, untold, told, empty, handle, host, log, trivial⟩

/-- A service with two dongles, of which the first one may be opened. -/
def dongleAndLocked : Simulated.Service :=
  { devices := [⟨⟨0x0bda, 0x2838⟩, "first", none, none⟩, ⟨⟨0x0bda, 0x2838⟩, "second", none, none⟩]
    permitted := ["first"] }

/-- A console on that service. -/
def lockedConsole : Console Simulated.Service Simulated.Engine Simulated.Driver :=
  let usb : Acquisition Simulated.Service := { host := dongleAndLocked, models := Usb.rtlSdrModels }
  { controller := (Controller.new usb { } none { }).tell .setEventHandler, listening := true }

/-- The user denies a second dongle while a first one is open and no session is using it. -/
theorem lockedConsole_denial :
    let c := lockedConsole.afterAll [.openDongle "first", .openDongle "second"]
    let denied := c.permissionResult "second" false
    new dongleAndLocked { } none { } = .ok lockedConsole ∧
    c.controller.usb.requests.waiting = some ("second", 0) ∧ denied.1 = true ∧
    (denied.2.controller.usb.poll 0).1 = some (.error .permissionDenied) ∧
    denied.2.controller.usb.handle = some ⟨20, "first"⟩ := by
  -- That the request waits is computed, and what a denial does to it is known from the theorem.
  intro c denied
  have made : new dongleAndLocked { } none { } = .ok lockedConsole := rfl
  have waits : c.controller.usb.requests.waiting = some ("second", 0) := by decide
  obtain ⟨settled, -, told, -, handle, -⟩ := afterAll_denial made waits
  exact ⟨made, waits, settled, told, handle⟩

/-- In a session on the first dongle, the owner of the request for the second one is not told that the
user denied it. -/
theorem session_hides_denial :
    let c := lockedConsole.afterAll [.openDongle "first", .openDongle "second",
      .session (.connect (.rtlUsb { fd := 20, devicePath := "first" })) rfl]
    let denied := c.permissionResult "second" false
    c.controller.usb.requests.waiting = some ("second", 0) ∧ denied.1 = true ∧
    (denied.2.controller.usb.poll 0).1 = some (.error (inUse openingDongle)) ∧
    inUse openingDongle ≠ .permissionDenied := by
  -- All four are computed.
  decide

end TunerControl.Console
