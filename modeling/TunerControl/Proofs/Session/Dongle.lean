import TunerControl.Proofs.Session.Balance

/-! As long as the engine has a dongle, its connection is neither closed nor replaced. -/

namespace TunerControl.Session

/-- Sessions on a dongle are ended by closing it in the engine. -/
theorem Command.ends_rtlUsb (c : Command) : c.ends .rtlUsb = true ↔ c = .closeRtlUsb := by
  -- Of all commands, only the one that closes a dongle ends sessions on one.
  cases c <;> simp [ends]

/-- The dongle that the engine has after more commands follows from the one it had before them. -/
theorem heldAfter_append (held : Option Nat) (before after : List Issued) :
    heldAfter held (before ++ after) = heldAfter (heldAfter held before) after :=
  List.foldl_append

/-- A dongle that was opened is the one that the engine has, whatever it had before. -/
theorem Issued.nextHold_of_opens? {i : Issued} (opens : i.opens? = some .rtlUsb)
    (held : Option Nat) : i.nextHold held = some i.hostCalls := by
  rw [nextHold, if_pos opens]

/-- A command gives the engine no dongle and closes none. -/
def Issued.SparesDongle (i : Issued) : Prop :=
  i.opens? ≠ some .rtlUsb ∧ i.command ≠ .closeRtlUsb

/-- Only connecting gives the engine a dongle. -/
theorem Issued.SparesDongle.of_command {i : Issued} (connects : i.command.connects? = none)
    (releases : i.command.releases? ≠ some .rtlUsb) : i.SparesDongle := by
  -- To open a dongle is to connect, and to close it is to let it go.
  refine ⟨by simp [opens?_of_connects? connects], fun closes => releases ?_⟩
  rw [closes]
  rfl

/-- A command without part in sessions spares the dongle. -/
theorem Issued.SparesDongle.of_isAside {i : Issued} (aside : i.command.isAside = true) :
    i.SparesDongle := by
  simp only [Command.isAside, Bool.and_eq_true, Option.isNone_iff_eq_none] at aside
  exact .of_command aside.1.1 (by simp [aside.1.2])

namespace Undisturbed

variable {held : Option Nat} {before after log : List Issued}

/-- The dongle is left alone by commands in a row if it is left alone by those before and those
after. -/
theorem append_iff : Undisturbed held (before ++ after) ↔
    Undisturbed held before ∧ Undisturbed (heldAfter held before) after := by
  -- The induction is on the earlier commands, from whatever dongle the engine has before them.
  induction before generalizing held with
  | nil => exact ⟨fun undisturbed => ⟨trivial, undisturbed⟩, fun both => both.2⟩
  | cons i rest ih =>
    simp only [List.cons_append, Undisturbed, ih, and_assoc, heldAfter, List.foldl_cons]

/-- As long as the engine is given no dongle and closes none, it has the one that it had. -/
theorem of_spares (held : Option Nat) (spares : ∀ i ∈ log, i.SparesDongle) :
    Undisturbed held log ∧ heldAfter held log = held := by
  -- By induction on the commands, each of which finds the same dongle.
  induction log with
  | nil => exact ⟨trivial, rfl⟩
  | cons i rest ih =>
    obtain ⟨unopened, unclosed⟩ := spares i List.mem_cons_self
    obtain ⟨undisturbed, same⟩ := ih fun j member => spares j (List.mem_cons_of_mem i member)
    have kept : i.nextHold held = held := by
      rw [Issued.nextHold, if_neg unopened, if_neg unclosed]
    refine ⟨⟨fun closes => absurd closes unclosed, ?_⟩, ?_⟩
    · rw [kept]
      exact undisturbed
    · show heldAfter (i.nextHold held) rest = held
      rw [kept]
      exact same

/-- A dongle is closed for a session on it, and for others there is none. -/
theorem of_release {kind : BackendKind} {calls : Nat}
    (releases : log.map (·.command) = (Command.releaseOf? kind).toList)
    (hostCalls : ∀ i ∈ log, i.hostCalls = calls) :
    Undisturbed (if kind = .rtlUsb then some calls else none) log ∧
      heldAfter (if kind = .rtlUsb then some calls else none) log = none := by
  by_cases onDongle : kind = .rtlUsb
  · -- The one command closes the dongle, which was opened when the service was last called.
    subst onDongle
    obtain ⟨closing, rfl, closes⟩ := List.map_eq_singleton_iff.mp releases
    have since : closing.hostCalls = calls := hostCalls closing (by simp)
    refine ⟨⟨fun _ => congrArg some since.symm, trivial⟩, ?_⟩
    show closing.nextHold _ = none
    rw [Issued.nextHold, closes, if_pos rfl, Issued.opens?_of_connects? (by rw [closes]; rfl)]
    rfl
  · -- No other front end is released by closing a dongle.
    rw [if_neg onDongle]
    refine of_spares none fun i member => ?_
    have inside := List.mem_map_of_mem (f := fun i : Issued => i.command) member
    rw [releases] at inside
    cases kind with
    | network => simp [Command.releaseOf?] at inside
    | rtlUsb => exact absurd rfl onDongle
    | hackRf =>
      have is : i.command = .stopHackRfMode := by simpa [Command.releaseOf?] using inside
      exact .of_command (by rw [is]; rfl) (by rw [is]; simp [Command.releases?])

/-- A session that ends leaves the engine without a dongle. One that it had was left alone until it
was closed. -/
theorem of_ending {kind : BackendKind} {calls : Nat} {stopping release finishing : List Issued}
    (stops : ∀ i ∈ stopping, i.command = .stop)
    (releases : release.map (·.command) = (Command.releaseOf? kind).toList)
    (hostCalls : ∀ i ∈ release, i.hostCalls = calls)
    (finishes : ∀ i ∈ finishing, i.command.isAside = true) :
    Undisturbed (if kind = .rtlUsb then some calls else none)
        (stopping ++ release ++ finishing) ∧
      heldAfter (if kind = .rtlUsb then some calls else none)
        (stopping ++ release ++ finishing) = none := by
  -- Stopping leaves the dongle alone, the release takes it, and nothing gives it back.
  have first := of_spares (if kind = .rtlUsb then some calls else none) fun i member =>
    .of_command (i := i) (by rw [stops i member]; rfl)
      (by rw [stops i member]; simp [Command.releases?])
  have second := of_release releases hostCalls
  have third := of_spares none fun i member => .of_isAside (finishes i member)
  simp only [append_iff, heldAfter_append, first.2, second.2]
  exact ⟨⟨⟨first.1, second.1⟩, third.1⟩, third.2⟩

end Undisturbed

/-- Commands that leave the live session alone spare the dongle. -/
theorem Keeps.spares {live : Option BackendKind} {log : List Issued} (keeps : Keeps live log) :
    ∀ i ∈ log, i.SparesDongle := by
  -- Opening and closing a dongle would open and end a session.
  intro i member
  refine ⟨by simp [keeps.opens? member], fun closes => ?_⟩
  have kept := keeps.releases? member
  rw [closes] at kept
  simp [Command.releases?] at kept

/-- Nothing is connected in a session that nothing ends. -/
theorem Orderly.connects?_of_unended {kind : BackendKind} {log : List Issued}
    (orderly : Orderly (some kind) log) (unended : ∀ i ∈ log, i.command.ends kind = false) :
    ∀ i ∈ log, i.command.connects? = none := by
  -- By induction on the commands, each of which finds the session live.
  induction log with
  | nil => simp
  | cons i rest ih =>
    obtain ⟨fits, others⟩ := orderly
    -- A connection would need that no session is live.
    have quiet : i.command.connects? = none := by
      cases connects : i.command.connects? with
      | none => rfl
      | some _ => simpa using fits.connects (by simp [connects])
    have next : i.next (some kind) = some kind := by
      rw [Issued.next_of_quiet quiet, unended i List.mem_cons_self]
      rfl
    rw [next] at others
    intro j member
    rcases List.mem_cons.mp member with rfl | inside
    · exact quiet
    · exact ih others (fun k inside => unended k (List.mem_cons_of_mem i inside)) j inside

/-- The dongle that the engine has after commands in order was opened and not closed. -/
theorem HasDongle.heldAfter {log : List Issued} {calls : Nat} (has : HasDongle log calls)
    (orderly : Orderly none log) : Session.heldAfter none log = some calls := by
  obtain ⟨earlier, opening, during, rfl, opens, rfl, unclosed⟩ := has
  have later : Orderly (some .rtlUsb) during := by
    have since := (Orderly.append_iff.mp orderly).2.2
    rwa [Issued.next_of_opens? opens] at since
  -- A session on the dongle is live from the opening on, so that no other one is opened.
  have unconnected := later.connects?_of_unended fun i member =>
    Bool.eq_false_iff.mpr fun ends => unclosed i member ((Command.ends_rtlUsb _).mp ends)
  rw [heldAfter_append]
  show Session.heldAfter (opening.nextHold _) during = _
  rw [Issued.nextHold_of_opens? opens]
  refine (Undisturbed.of_spares _ fun i member => ⟨?_, unclosed i member⟩).2
  simp [Issued.opens?_of_connects? (unconnected i member)]

/-- A session on a dongle is live only where the engine has the dongle. -/
theorem IsLive.exists_hasDongle {log : List Issued} (isLive : IsLive log .rtlUsb) :
    ∃ calls, HasDongle log calls := by
  -- Closing the dongle would have ended the session.
  obtain ⟨earlier, opening, during, split, opens, quiet⟩ := isLive
  refine ⟨_, earlier, opening, during, split, opens, rfl, fun i member closes => ?_⟩
  have unended := (quiet i member).2
  rw [(Command.ends_rtlUsb _).mpr closes] at unended
  simp at unended

namespace Controller

open Usb (Host)

variable {H G D : Type}

/-- Since how many calls of the service the engine has had a dongle, as the controller has it. -/
def held (c : Controller H G D) : Option Nat :=
  if c.backend = some .rtlUsb then some c.usb.log.length else none

/-- The controller is sound, the engine's commands were in order, and the dongle that the engine has
was left alone. -/
structure Sheltered (c : Controller H G D) : Prop where
  sound : c.Sound
  orderly : Orderly none c.commands
  live : liveAfter none c.commands = c.backend
  undisturbed : Undisturbed none c.commands
  held : heldAfter none c.commands = c.held

/-- An operation asks the service for nothing in a session on a dongle. -/
def Spares (c : Controller H G D) (operation : Operation H G D) : Prop :=
  c.backend = some .rtlUsb → ∀ acquiring, operation = .acquisition acquiring →
    acquiring.isQuiet = true

/-- The session goes on, the connections stay as they are, and the engine is told to close no
dongle. -/
structure Spared (c after : Controller H G D) : Prop where
  backend : after.backend = c.backend
  log : after.usb.log = c.usb.log
  handle : after.usb.handle = c.usb.handle
  commands : ∃ news, after.commands = c.commands ++ news ∧ ∀ i ∈ news, i.command ≠ .closeRtlUsb

/-- What does nothing spares the dongle. -/
theorem Spared.refl (c : Controller H G D) : Spared c c :=
  ⟨rfl, rfl, rfl, [], (List.append_nil _).symm, by simp⟩

/-- What spares the dongle twice spares it. -/
theorem Spared.trans {c d after : Controller H G D} (first : Spared c d) (second : Spared d after) :
    Spared c after := by
  -- What the engine is told is what it was told first, and then what it was told next.
  obtain ⟨backend, log, handle, news, commands, unclosed⟩ := first
  obtain ⟨backend', log', handle', more, commands', unclosed'⟩ := second
  refine ⟨backend'.trans backend, log'.trans log, handle'.trans handle, news ++ more, ?_, ?_⟩
  · rw [commands', commands, List.append_assoc]
  · intro i member
    exact (List.mem_append.mp member).elim (unclosed i) (unclosed' i)

/-- The engine is told to close its dongle, and the connection to it is closed after that. -/
structure Closed [Host H] (c after : Controller H G D) : Prop where
  log : after.usb.log = c.usb.close.log
  handle : after.usb.handle = none
  commands : ∃ earlier closing later, after.commands = c.commands ++ (earlier ++ closing :: later) ∧
    closing.command = .closeRtlUsb ∧ closing.hostCalls = c.usb.log.length

/-- A dongle is closed by the engine without a call of the service since it was opened. -/
theorem Sheltered.hostCalls_of_closing {c : Controller H G D} (sheltered : c.Sheltered)
    {before after : List Issued} {closing : Issued} {calls : Nat}
    (split : c.commands = before ++ closing :: after)
    (closes : closing.command = .closeRtlUsb) (has : HasDongle before calls) :
    closing.hostCalls = calls := by
  -- The dongle that the command found in the engine's hands is the one that was opened.
  have undisturbed := sheltered.undisturbed
  have orderly := sheltered.orderly
  rw [split] at undisturbed orderly
  have since := (Undisturbed.append_iff.mp undisturbed).2.1 closes
  rw [has.heldAfter (Orderly.append_iff.mp orderly).1] at since
  exact (Option.some.inj since).symm

/-- The engine has a dongle exactly in a session on one, and since the last call of the service. -/
theorem Sheltered.hasDongle_iff {c : Controller H G D} (sheltered : c.Sheltered) (calls : Nat) :
    HasDongle c.commands calls ↔ c.backend = some .rtlUsb ∧ c.usb.log.length = calls := by
  -- The log tells which dongle the engine has, as the controller does.
  have forth : ∀ calls, HasDongle c.commands calls →
      c.backend = some .rtlUsb ∧ c.usb.log.length = calls := by
    intro calls has
    have same : c.held = some calls := sheltered.held.symm.trans (has.heldAfter sheltered.orderly)
    unfold Controller.held at same
    split at same
    · exact ⟨‹_›, Option.some.inj same⟩
    · simp at same
  refine ⟨forth calls, ?_⟩
  rintro ⟨has, rfl⟩
  -- The opening is found in the log, and what it says of the calls is known already.
  have isLive := sheltered.orderly.isLive (sheltered.live.trans has)
  obtain ⟨calls, has⟩ := isLive.exists_hasDongle
  rw [(forth calls has).2]
  exact has

variable [Host H] {c after : Controller H G D} {operation : Operation H G D}

/-- The acquisition is left alone, or used for nothing that the service learns of. -/
theorem Spares.same (spares : Spares c operation) (has : c.backend = some .rtlUsb)
    (usb : after.usb = c.usb ∨
      ∃ acquiring, operation = .acquisition acquiring ∧ after.usb = c.usb.perform acquiring) :
    after.usb.log = c.usb.log ∧ after.usb.handle = c.usb.handle := by
  -- Whatever uses it in a session on a dongle is quiet.
  rcases usb with same | ⟨acquiring, is, same⟩
  · rw [same]
    exact ⟨rfl, rfl⟩
  · rw [same]
    exact c.usb.perform_of_isQuiet (spares has acquiring is)

/-- In a session on a dongle, whatever does not end it spares the dongle. -/
theorem Change.spared (change : Change c operation after) (has : c.backend = some .rtlUsb)
    (unended : operation.ends .rtlUsb = false) (spares : Spares c operation) : Spared c after := by
  -- A session cannot be opened while another is live, and none is ended here.
  cases change with
  | stayed news goesOn standing commands keeps usb inits attended =>
    obtain ⟨log, handle⟩ := spares.same has (usb has)
    exact ⟨backend_of_same standing, log, handle, news, commands,
      fun i member => (keeps.spares i member).2⟩
  | opened kind opening vacant opens hostCalls standing commands usb inits plant =>
    simp [backend_of_vacant vacant] at has
  | ended kind session stopping release finishing ends live standing commands stops releases
      finishes hostCalls usb inits resting =>
    obtain rfl : kind = .rtlUsb := Option.some.inj ((backend_of_live live).symm.trans has)
    simp [unended] at ends

/-- Whatever ends a session on a dongle has the engine close it first. -/
theorem Change.closed (change : Change c operation after) (has : c.backend = some .rtlUsb)
    (ends : operation.ends .rtlUsb = true) : Closed c after := by
  -- The session is live, so that it is neither left alone nor opened.
  cases change with
  | stayed news goesOn standing commands keeps usb inits attended =>
    simp [goesOn .rtlUsb has] at ends
  | opened kind opening vacant opens hostCalls standing commands usb inits plant =>
    simp [backend_of_vacant vacant] at has
  | ended kind session stopping release finishing _ live standing commands stops releases
      finishes hostCalls usb inits resting =>
    obtain rfl : kind = .rtlUsb := Option.some.inj ((backend_of_live live).symm.trans has)
    -- The release is the one command to close the dongle.
    obtain ⟨closing, rfl, closes⟩ := List.map_eq_singleton_iff.mp releases
    obtain ⟨log, handle⟩ := usb rfl
    refine ⟨log, handle, stopping, closing, finishing, ?_, closes, hostCalls _ (by simp)⟩
    rw [commands, List.append_assoc]
    rfl

/-- Opening a session on a dongle leaves the acquisition alone. -/
theorem Change.usb_of_opened (change : Change c operation after)
    (elsewhere : c.backend ≠ some .rtlUsb) (has : after.backend = some .rtlUsb) :
    after.usb = c.usb := by
  -- Only what opens a session leads from none on a dongle to one.
  cases change with
  | stayed news goesOn standing commands keeps usb inits attended =>
    exact absurd ((backend_of_same standing).symm.trans has) elsewhere
  | opened kind opening vacant opens hostCalls standing commands usb inits plant => exact usb
  | ended kind session stopping release finishing ends live standing commands stops releases
      finishes hostCalls usb inits resting =>
    simp [backend_of_vacant standing] at has

/-- What an operation has the engine do leaves the dongle alone that the engine has. -/
theorem Change.undisturbed (change : Change c operation after) (spares : Spares c operation) :
    ∃ news, after.commands = c.commands ++ news ∧ Undisturbed c.held news ∧
      heldAfter c.held news = after.held := by
  cases change with
  | stayed news goesOn standing commands keeps usb inits attended =>
    obtain ⟨undisturbed, same⟩ := Undisturbed.of_spares c.held keeps.spares
    refine ⟨news, commands, undisturbed, same.trans ?_⟩
    rw [held, held, backend_of_same standing]
    -- A dongle is held as before, and the service was not called.
    by_cases has : c.backend = some .rtlUsb
    · rw [(spares.same has (usb has)).1]
    · rw [if_neg has, if_neg has]
  | opened kind opening vacant opens hostCalls standing commands usb inits plant =>
    -- Without a session the engine had no dongle, and it has one now if the session is on one.
    have connects := Issued.connects?_of_opens? opens
    have without : c.held = none := if_neg (by simp [backend_of_vacant vacant])
    refine ⟨[opening], commands, ⟨fun closes => ?_, trivial⟩, ?_⟩
    · simp [closes, Command.connects?] at connects
    · show opening.nextHold c.held = after.held
      rw [without, held, backend_of_live standing, usb]
      by_cases onDongle : kind = .rtlUsb
      · rw [if_pos (congrArg some onDongle), ← hostCalls]
        exact Issued.nextHold_of_opens? (onDongle ▸ opens) none
      · rw [if_neg (by simp [onDongle]), Issued.nextHold, if_neg (by simp [opens, onDongle])]
        exact ite_self none
  | ended kind session stopping release finishing ends live standing commands stops releases
      finishes hostCalls usb inits resting =>
    -- The session that ends is the one that is live, and takes the dongle with it.
    have has : c.held = if kind = .rtlUsb then some c.usb.log.length else none := by
      simp [held, backend_of_live live]
    have without : after.held = none := if_neg (by simp [backend_of_vacant standing])
    have stop : ∀ i ∈ stopping, i.command = .stop := by
      rcases stops with stops | ⟨rfl, -⟩
      · obtain ⟨i, rfl, is⟩ := List.map_eq_singleton_iff.mp stops
        simpa using is
      · simp
    rw [has, without]
    exact ⟨_, commands, Undisturbed.of_ending stop releases hostCalls finishes⟩

/-- Sessions on a dongle that were ended stay ended when others give commands. -/
theorem Closed.tell [Engine G] {command : Command} (closed : Closed c after) :
    Closed c (after.tell command) := by
  -- One command more follows those that are there.
  obtain ⟨log, handle, earlier, closing, later, commands, closes⟩ := closed
  refine ⟨log, handle, earlier, closing, later ++ [after.issued command], ?_, closes⟩
  show after.commands ++ _ = _
  rw [commands, List.append_assoc, List.append_assoc]
  rfl

variable [Engine G] [HackRfDriver D]

/-- Every operation that asks the service for nothing in a session on a dongle keeps it sheltered.
-/
theorem Sheltered.perform (sheltered : c.Sheltered) (operation : Operation H G D)
    (spares : Spares c operation) : (c.perform operation).Sheltered := by
  have change := perform_change sheltered.sound operation
  obtain ⟨news, commands, fits, live⟩ := change.news
  obtain ⟨more, commands', undisturbed, held⟩ := change.undisturbed spares
  -- What the log gained is the same list in both accounts of the change.
  obtain rfl : news = more := List.append_cancel_left (commands.symm.trans commands')
  refine ⟨change.sound sheltered.sound, ?_, ?_, ?_, ?_⟩
  · rw [commands, Orderly.append_iff, sheltered.live]
    exact ⟨sheltered.orderly, fits⟩
  · rw [commands, liveAfter_append, sheltered.live]
    exact live
  · rw [commands, Undisturbed.append_iff, sheltered.held]
    exact ⟨sheltered.undisturbed, undisturbed⟩
  · rw [commands, heldAfter_append, sheltered.held]
    exact held

/-- Each operation asks the service for nothing in a session on a dongle, when its turn comes. -/
def Sparing (c : Controller H G D) : List (Operation H G D) → Prop
  | [] => True
  | operation :: rest => Spares c operation ∧ Sparing (c.perform operation) rest

/-- So does a run of them. -/
theorem Sheltered.afterAll {operations : List (Operation H G D)} (sheltered : c.Sheltered)
    (sparing : c.Sparing operations) : (c.afterAll operations).Sheltered := by
  -- Each operation leaves the dongle sheltered to the ones after it.
  induction operations generalizing c with
  | nil => exact sheltered
  | cons operation rest ih => exact ih (sheltered.perform operation sparing.1) sparing.2

/-- Operations spare the dongle together if none of them ends sessions on one. -/
theorem Sheltered.spared {operations : List (Operation H G D)} (sheltered : c.Sheltered)
    (has : c.backend = some .rtlUsb) (sparing : c.Sparing operations)
    (unended : ∀ operation ∈ operations, operation.ends .rtlUsb = false) :
    Spared c (c.afterAll operations) := by
  -- By induction on the operations: the session goes on after each of them.
  induction operations generalizing c with
  | nil => exact .refl c
  | cons operation rest ih =>
    obtain ⟨spares, others⟩ := sparing
    have first := (perform_change sheltered.sound operation).spared has
      (unended operation List.mem_cons_self) spares
    exact first.trans (ih (sheltered.perform operation spares) (first.backend.trans has) others
      fun other member => unended other (List.mem_cons_of_mem operation member))

end Controller

end TunerControl.Session
