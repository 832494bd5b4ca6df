import TunerControl.Proofs.Session.Boundary

/-! Whatever a session does to the acquisition could be done to the acquisition by others. -/

namespace TunerControl.Session.Controller

open Usb (Host)

variable {H G D : Type} [Host H]

/-- The acquisition comes to where it is by operations of its own. -/
def Acquires (c after : Controller H G D) : Prop :=
  ∃ acquiring, after.usb = c.usb.afterAll acquiring

namespace Acquires

variable {c d after : Controller H G D}

/-- The acquisition is left alone. -/
theorem of_same (same : after.usb = c.usb) : Acquires c after :=
  ⟨[], same⟩

/-- Closing the connection is an operation of the acquisition. -/
theorem of_close (closed : after.usb = c.usb.close) : Acquires c after :=
  ⟨[.close], closed⟩

/-- What is done to the acquisition in two parts is done to it as a whole. -/
theorem trans (first : Acquires c d) (second : Acquires d after) : Acquires c after := by
  obtain ⟨earlier, usb⟩ := first
  obtain ⟨later, usb'⟩ := second
  -- The operations of both follow one another.
  refine ⟨earlier ++ later, usb'.trans ?_⟩
  rw [usb]
  exact List.foldl_append.symm

end Acquires

variable [Engine G] {c : Controller H G D}

/-- A refusal is an answer without any effect. -/
theorem guarded_acquires (kind : BackendKind) (command : Command) :
    Acquires c (match c.requireBackend kind with
      | .error failure => (Except.error failure, c)
      | .ok () => c.issue command).2 := by
  split <;> exact .of_same rfl

/-- A connection leaves the acquisition as it is, and so does the attempt at one. -/
theorem connect_acquires (settled : c.Settled) (backend : Backend) :
    Acquires c (c.connect backend).2 := by
  -- Connecting gives the engine a device that was opened before.
  cases asked : c.connect backend with
  | mk answer d =>
    cases answer with
    | error failure => exact .of_same (connect_error settled asked).2.1
    | ok =>
      obtain ⟨-, opening, -, -, -, -, usb, -⟩ := connect_ok asked
      exact .of_same usb

variable [HackRfDriver D]

/-- So does the start of a HackRF. -/
theorem startHackRf_acquires (settled : c.Settled) (tuning : HackRfTuning) :
    Acquires c (c.startHackRf tuning).2 := by
  have opening := connect_acquires settled (.hackRf tuning)
  cases asked : c.connect (.hackRf tuning) with
  | mk answer d =>
    rw [asked] at opening
    cases answer with
    | error failure =>
      have refused : (c.startHackRf tuning).2 = d := by rw [startHackRf, asked]
      rw [refused]
      exact opening
    | ok =>
      -- The driver that is initialised then has its own way to the device.
      exact opening.trans (.of_same (startHackRf_of_ok asked).2.1)

/-- The connection to a dongle is closed when its session is released. -/
theorem releaseBackend_acquires (c : Controller H G D) : Acquires c c.releaseBackend := by
  -- Each front end is released in its own way, and only that of a dongle has a connection to close.
  unfold releaseBackend
  dsimp only
  cases c.backend with
  | none => exact .of_same rfl
  | some kind =>
    cases kind with
    | network => exact .of_same rfl
    | rtlUsb => exact .of_close rfl
    | hackRf =>
      exact .of_same ({ c with backend := none } : Controller H G D).stopReceiving_aside.usb

/-- Stopping releases whatever the session was on. -/
theorem stop_acquires (c : Controller H G D) : Acquires c c.stop.2 := by
  -- It is refused, or the release is all that it does to the acquisition.
  unfold stop
  split
  · exact .of_same rfl
  · exact releaseBackend_acquires ({ c with state := .stopping }.tell .stop)

/-- The acquisition is reset after whatever the session held was released. -/
theorem cleanup_acquires (c : Controller H G D) : Acquires c c.cleanup := by
  -- Cancelling the request for a session and stopping decoding come first, and do nothing to it.
  have same : Acquires c (if c.cancelled.state.acceptsControl then c.cancelled.tell .stop
      else c.cancelled) := by
    refine .of_same ?_
    split <;> rfl
  exact (same.trans (releaseBackend_acquires _)).trans ⟨[.reset], rfl⟩

/-- Disconnecting a dongle closes the connection, whether a session is on it or not. -/
theorem disconnectRtlUsb_acquires (c : Controller H G D) : Acquires c c.disconnectRtlUsb := by
  -- A session on it is released; without one, the connection alone is closed.
  unfold disconnectRtlUsb
  split
  · exact releaseBackend_acquires c
  · exact .of_close rfl

/-- Stopping a HackRF releases the session on it, and no connection is closed for that. -/
theorem stopHackRf_acquires (c : Controller H G D) : Acquires c c.stopHackRf := by
  -- Without a session on one, nothing is done.
  unfold stopHackRf
  split
  · exact releaseBackend_acquires
      { c with inits := (c.inits.resolve (.error (.invalidState "HackRF mode stopped"))).2 }
  · exact .of_same rfl

/-- Every operation uses the acquisition as others may. -/
theorem perform_acquires (sound : c.Sound) (operation : Operation H G D) :
    Acquires c (c.perform operation) := by
  -- What ends a session may close the connection, and cleaning up resets all; no other operation
  -- of a session does anything to the acquisition.
  cases operation with
  | connect backend => exact connect_acquires sound.settled backend
  | start =>
    simp only [perform, start]
    split <;> exact .of_same rfl
  | stop => exact c.stop_acquires
  | cleanup => exact c.cleanup_acquires
  | disconnectRtlUsb => exact c.disconnectRtlUsb_acquires
  | setRtlFrequency frequency => exact guarded_acquires .rtlUsb _
  | setRtlGain gain => exact guarded_acquires .rtlUsb _
  | startHackRf tuning => exact startHackRf_acquires sound.settled tuning
  | stopHackRf => exact c.stopHackRf_acquires
  | setFrequency frequency => exact .of_same (c.setFrequency_driven frequency).aside.1.usb
  | setSampleRate rate => exact .of_same (c.setSampleRate_driven rate).aside.1.usb
  | setLnaGain gain => exact .of_same (c.setLnaGain_driven gain).aside.1.usb
  | setVgaGain gain => exact .of_same (c.setVgaGain_driven gain).aside.1.usb
  | startReceiving => exact .of_same (startReceiving_spec sound.attended).1.usb
  | stopReceiving => exact .of_same c.stopReceiving_aside.usb
  | feed samples => exact guarded_acquires .hackRf _
  | acquisition acquiring => exact ⟨[acquiring], rfl⟩
  | _ => exact .of_same rfl

/-- So does a run. -/
theorem afterAll_acquires (sound : c.Sound) (operations : List (Operation H G D)) :
    (c.afterAll operations).Sound ∧ Acquires c (c.afterAll operations) := by
  -- Each operation finds a sound controller, which is what its use of the acquisition rests on.
  refine afterAll_rule (P := fun d => d.Sound ∧ Acquires c d) ⟨sound, .of_same rfl⟩ ?_ operations
  rintro d operation ⟨sound, earlier⟩
  exact ⟨(perform_change sound operation).sound sound,
    earlier.trans (perform_acquires sound operation)⟩

end TunerControl.Session.Controller
