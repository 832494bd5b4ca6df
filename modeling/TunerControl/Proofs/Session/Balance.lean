import TunerControl.Proofs.Session.Boundary

/-! The engine is connected for one session at a time, and each session that was opened is ended by
one command. -/

namespace TunerControl.Session.Controller

open Usb (Host)

variable {H G D : Type} [Host H]

/-- What an operation has the engine do is in order, and leaves the session live that there is. -/
theorem Change.news {c after : Controller H G D} {operation : Operation H G D}
    (change : Change c operation after) :
    ∃ news, after.commands = c.commands ++ news ∧ Orderly c.backend news ∧
      liveAfter c.backend news = after.backend := by
  -- The session goes on, is opened by one command, or is ended by commands in order.
  cases change with
  | stayed news goesOn standing commands keeps usb inits attended =>
    rw [backend_of_same standing]
    exact ⟨news, commands, Orderly.of_keeps keeps⟩
  | opened kind opening vacant opens hostCalls standing commands usb inits plant =>
    refine ⟨[opening], commands, ?_⟩
    rw [backend_of_vacant vacant, backend_of_live standing]
    exact ⟨⟨.of_connects (Issued.connects?_of_opens? opens), trivial⟩,
      Issued.next_of_opens? opens none⟩
  | ended kind session stopping release finishing ends live standing commands stops releases
      finishes hostCalls usb inits resting =>
    refine ⟨_, commands, ?_⟩
    rw [backend_of_live live, backend_of_vacant standing]
    exact Orderly.of_ending stops releases finishes

variable [Engine G] [HackRfDriver D]

/-- All commands so far were in order, and left the session live that there is. -/
theorem afterRun_orderly (usb : Usb.Acquisition H) (engine : G) (driver : Option D)
    (config : PipelineConfig) (operations : List (Operation H G D)) :
    let c := afterRun usb engine driver config operations
    Orderly none c.commands ∧ liveAfter none c.commands = c.backend := by
  -- That the whole log is in order is kept together with what it leaves live.
  refine afterRun_induction
    (P := fun _ c => Orderly none c.commands ∧ liveAfter none c.commands = c.backend)
    ⟨trivial, rfl⟩ ?_ operations
  intro earlier operation after c sound orderly change
  -- The new commands start from the session that the older ones left live.
  obtain ⟨news, commands, fits, left⟩ := change.news
  rw [commands, Orderly.append_iff, liveAfter_append, orderly.2]
  exact ⟨⟨orderly.1, fits⟩, left⟩

/-- After every run, the session that there is is the one that the commands to the engine leave
live. At each command: a connection is asked for while none is live; a front end is let go of in a
session on it; and decoding is started and stopped in a session. A session that was opened is ended
by one command before the next connection is asked for, and by none while it is live. -/
theorem afterRun_sessions (usb : Usb.Acquisition H) (engine : G) (driver : Option D)
    (config : PipelineConfig) (operations : List (Operation H G D)) :
    let c := afterRun usb engine driver config operations
    (∀ kind, c.backend = some kind ↔ IsLive c.commands kind) ∧
    ∀ before i after, c.commands = before ++ i :: after →
      (i.command.connects? ≠ none → ∀ kind, ¬ IsLive before kind) ∧
      (∀ kind, i.command.releases? = some kind → IsLive before kind) ∧
      (i.command.isDecoding = true → ∃ kind, IsLive before kind) ∧
      ∀ kind, i.opens? = some kind →
        (∀ during next rest, after = during ++ next :: rest →
          (∀ d ∈ during, d.command.connects? = none) → next.command.connects? ≠ none →
          during.countP (·.command.ends kind) = 1) ∧
        ((∀ d ∈ after, d.command.connects? = none) →
          after.countP (·.command.ends kind) = if c.backend = some kind then 0 else 1) := by
  intro c
  obtain ⟨orderly, live⟩ : Orderly none c.commands ∧ liveAfter none c.commands = c.backend :=
    afterRun_orderly usb engine driver config operations
  refine ⟨fun kind => ⟨fun has => orderly.isLive (live.trans has), fun isLive => ?_⟩, ?_⟩
  · rw [← live]
    exact isLive.liveAfter none
  intro before i after split
  rw [split] at orderly
  have fits := orderly.fits
  obtain ⟨earlier, -, later⟩ := Orderly.append_iff.mp orderly
  refine ⟨?_, ?_, ?_, ?_⟩
  · -- A connection fits no live session.
    intro connects kind isLive
    simpa [isLive.liveAfter none] using fits.connects connects
  · exact fun kind releases => earlier.isLive (fits.releases kind releases)
  · intro decodes
    obtain ⟨kind, isLive⟩ := Option.ne_none_iff_exists'.mp (fits.decodes decodes)
    exact ⟨kind, earlier.isLive isLive⟩
  · intro kind opens
    rw [Issued.next_of_opens? opens] at later
    refine ⟨?_, ?_⟩
    · rintro during next rest rfl quiet connects
      -- Until the next connection is asked for the session is live, if nothing ends it.
      have fitsNext := later.fits
      rcases (Orderly.append_iff.mp later).1.countP_ends quiet with ⟨-, isLive⟩ | ⟨once, -⟩
      · simpa [isLive] using fitsNext.connects connects
      · exact once
    · intro quiet
      -- No connection follows, so that the session that is live at last is this one or none.
      have last : liveAfter (some kind) after = c.backend := by
        rw [← live, split, liveAfter_append]
        show _ = liveAfter (i.next _) after
        rw [Issued.next_of_opens? opens]
      rcases later.countP_ends quiet with ⟨none_, isLive⟩ | ⟨once, ended⟩
      · rw [if_pos (last.symm.trans isLive), none_]
      · rw [if_neg (by simp [← last, ended]), once]

end TunerControl.Session.Controller
