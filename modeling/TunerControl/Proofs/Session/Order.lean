import Mathlib.Data.List.Induction
import TunerControl.Session.Log

/-! Commands in order open sessions one after another, and end each of them once. -/

namespace TunerControl.Session

namespace Command

/-- The one command that ends sessions on each kind of front end. -/
theorem ends_iff (c : Command) (kind : BackendKind) :
    c.ends kind = true ↔ c.releases? = some kind ∨ c = .stop ∧ kind = .network := by
  -- Letting go of a front end ends sessions on it, and stopping those on the network alone.
  cases kind <;> cases c <;> simp [ends, releases?]

/-- A command without part in sessions neither connects nor lets go, and does not decode. -/
theorem quiet_of_isAside {c : Command} (aside : c.isAside = true) :
    c.connects? = none ∧ c.releases? = none ∧ c.isDecoding = false := by
  -- It is what having no part in sessions means.
  simpa [isAside, and_assoc] using aside

/-- A command without part in sessions ends none. -/
theorem ends_of_isAside {c : Command} (aside : c.isAside = true) (kind : BackendKind) :
    c.ends kind = false := by
  -- Ending takes a command that lets go or stops decoding, and this one does neither.
  apply Bool.eq_false_iff.mpr
  intro ends
  obtain ⟨-, kept, silent⟩ := quiet_of_isAside aside
  rcases (c.ends_iff kind).mp ends with releases | ⟨rfl, -⟩
  · simp [kept] at releases
  · simp [isDecoding] at silent

/-- Nothing is connected or let go of by starting or stopping. -/
theorem quiet_of_isDecoding {c : Command} (decodes : c.isDecoding = true) :
    c.connects? = none ∧ c.releases? = none := by
  -- One case for each command, most of which do not decode.
  cases c <;> simp_all [isDecoding, connects?, releases?]

/-- Nothing is connected by letting go. -/
theorem connects?_of_releases {c : Command} {kind : BackendKind}
    (releases : c.releases? = some kind) : c.connects? = none := by
  -- One case for each command, most of which let nothing go.
  cases c <;> simp_all [releases?, connects?]

end Command

namespace Issued

variable {i : Issued} {kind : BackendKind}

/-- Decoding may be started and stopped in every live session. -/
theorem Fits.of_isDecoding (decodes : i.command.isDecoding = true) : i.Fits (some kind) := by
  -- Only a live session is needed, and there is one.
  obtain ⟨unconnected, kept⟩ := Command.quiet_of_isDecoding decodes
  refine ⟨?_, ?_, fun _ => Option.some_ne_none kind⟩
  · simp [unconnected]
  · simp [kept]

/-- The front end of a live session may be let go of. -/
theorem Fits.of_releases (releases : i.command.releases? = some kind) : i.Fits (some kind) := by
  -- It is asked for in the session on the front end that it names.
  refine ⟨?_, ?_, fun _ => Option.some_ne_none kind⟩
  · simp [Command.connects?_of_releases releases]
  · intro other lets
    rw [← releases, lets]

/-- A command that does not connect opens nothing. -/
theorem opens?_of_connects? (quiet : i.command.connects? = none) : i.opens? = none := by
  rw [opens?, quiet, ite_self]

/-- What opens a session is a connection. -/
theorem connects?_of_opens? (opens : i.opens? = some kind) : i.command.connects? = some kind := by
  -- Whether it was accepted decides that it opens something, and the command decides what.
  unfold opens? at opens
  split at opens
  · exact opens
  · simp at opens

/-- A session that was opened is live, whatever there was before. -/
theorem next_of_opens? (opens : i.opens? = some kind) (live : Option BackendKind) :
    i.next live = some kind := by
  rw [next, opens]

/-- A command without part in sessions is always in order. -/
theorem Fits.of_isAside (aside : i.command.isAside = true) (live : Option BackendKind) :
    i.Fits live := by
  -- There is nothing that such a command would need.
  obtain ⟨unconnected, kept, silent⟩ := Command.quiet_of_isAside aside
  refine ⟨?_, ?_, ?_⟩
  · simp [unconnected]
  · simp [kept]
  · simp [silent]

/-- A command without part in sessions leaves the live one alone. -/
theorem next_of_isAside (aside : i.command.isAside = true) (live : Option BackendKind) :
    i.next live = live := by
  -- Nothing is opened, and sessions of no kind are ended.
  have unopened : i.opens? = none := opens?_of_connects? (Command.quiet_of_isAside aside).1
  have kept : ∀ kind, i.command.ends kind = false := Command.ends_of_isAside aside
  cases live <;> simp [next, unopened, kept]

/-- A command that connects nothing leaves the live session alone, unless it ends sessions on its
kind of front end. -/
theorem next_of_quiet (quiet : i.command.connects? = none) :
    i.next (some kind) = if i.command.ends kind = true then none else some kind := by
  -- Nothing is opened, so that only an end could make a difference.
  cases ends : i.command.ends kind <;> simp [next, opens?_of_connects? quiet, ends]

/-- A connection may be asked for when no session is live. -/
theorem Fits.of_connects (connects : i.command.connects? = some kind) : i.Fits none := by
  -- What connects neither lets go nor decodes, so that it needs nothing of a live session.
  refine ⟨fun _ => rfl, ?_, ?_⟩
  · intro other releases
    simp [Command.connects?_of_releases releases] at connects
  · intro decodes
    simp [(Command.quiet_of_isDecoding decodes).1] at connects

/-- Without a live session, a command that is in order ends none. -/
theorem Fits.not_ends (fits : i.Fits none) (kind : BackendKind) : i.command.ends kind = false := by
  -- Letting go and stopping both need a live session.
  apply Bool.eq_false_iff.mpr
  intro ends
  rcases (i.command.ends_iff kind).mp ends with releases | ⟨stops, -⟩
  · simpa using fits.releases kind releases
  · exact fits.decodes (by rw [stops]; rfl) rfl

end Issued

/-- All commands are in order with the live session, or with none, and leave it alone. -/
def Keeps (live : Option BackendKind) (log : List Issued) : Prop :=
  ∀ i ∈ log, i.Fits live ∧ i.next live = live

namespace Keeps

variable {live : Option BackendKind} {log : List Issued} {i : Issued}

/-- No commands leave the live session alone. -/
theorem nil (live : Option BackendKind) : Keeps live [] := by
  intro i member
  simp at member

/-- A command in order that leaves the live session alone does so by itself. -/
theorem singleton (fits : i.Fits live) (next : i.next live = live) : Keeps live [i] := by
  intro j member
  rw [List.mem_singleton.mp member]
  exact ⟨fits, next⟩

/-- Commands without part in sessions leave every session alone. -/
theorem of_aside (aside : ∀ i ∈ log, i.command.isAside = true) : Keeps live log :=
  fun i member => ⟨.of_isAside (aside i member) live,
    Issued.next_of_isAside (aside i member) live⟩

/-- A connection that the engine declines opens nothing. -/
theorem of_declined {kind : BackendKind} (connects : i.command.connects? = some kind)
    (declined : i.accepted = false) : Keeps none [i] :=
  singleton (.of_connects connects) (by simp [Issued.next, Issued.opens?, declined])

/-- A session goes on when decoding is started, and on some front ends when it is stopped. -/
theorem of_isDecoding {kind : BackendKind} (decodes : i.command.isDecoding = true)
    (goesOn : i.command.ends kind = false) : Keeps (some kind) [i] := by
  -- It is in order in every live session, and does not end this one.
  refine singleton (.of_isDecoding decodes) ?_
  rw [Issued.next_of_quiet (Command.quiet_of_isDecoding decodes).1, goesOn]
  rfl

/-- No session is opened. -/
theorem opens? (keeps : Keeps live log) (member : i ∈ log) : i.opens? = none := by
  obtain ⟨fits, next⟩ := keeps i member
  cases opened : i.opens? with
  | none => rfl
  | some kind =>
    -- The session would be live from then on, but only where there was none.
    have isLive : live = some kind := by
      rw [← next, Issued.next, opened]
    have connects : i.command.connects? ≠ none := fun quiet => by
      simp [Issued.opens?_of_connects? quiet] at opened
    simp [fits.connects connects] at isLive

/-- Nothing is let go of. -/
theorem releases? (keeps : Keeps live log) (member : i ∈ log) : i.command.releases? = none := by
  obtain ⟨fits, next⟩ := keeps i member
  cases lets : i.command.releases? with
  | none => rfl
  | some kind =>
    -- Only the front end of the live session can be let go of, which would end the session.
    rw [fits.releases kind lets, Issued.next_of_quiet (Command.connects?_of_releases lets),
      if_pos ((i.command.ends_iff kind).mpr (Or.inl lets))] at next
    simp at next

end Keeps

/-- The session that is live after more commands follows from the one that was live before them. -/
theorem liveAfter_append (live : Option BackendKind) (before after : List Issued) :
    liveAfter live (before ++ after) = liveAfter (liveAfter live before) after :=
  List.foldl_append

/-- A session that was opened, and that nothing ended, is live. -/
theorem IsLive.liveAfter {log : List Issued} {kind : BackendKind} (isLive : IsLive log kind)
    (live : Option BackendKind) : Session.liveAfter live log = some kind := by
  obtain ⟨earlier, opening, during, rfl, opens, quiet⟩ := isLive
  rw [liveAfter_append]
  show Session.liveAfter (opening.next _) during = some kind
  rw [Issued.next_of_opens? opens]
  clear opens
  -- Each command since the opening finds the session live and leaves it so.
  induction during with
  | nil => rfl
  | cons i rest ih =>
    obtain ⟨unconnected, kept⟩ := quiet i List.mem_cons_self
    show Session.liveAfter (i.next (some kind)) rest = some kind
    rw [Issued.next_of_quiet unconnected, kept]
    exact ih fun j member => quiet j (List.mem_cons_of_mem i member)

namespace Orderly

variable {live : Option BackendKind} {kind : BackendKind} {before after log : List Issued}
  {i : Issued}

/-- Commands in a row are in order if those before are, and those after find what they need. -/
theorem append_iff : Orderly live (before ++ after) ↔
    Orderly live before ∧ Orderly (liveAfter live before) after := by
  -- The induction is on the earlier commands, from whatever session is live before them.
  induction before generalizing live with
  | nil => exact ⟨fun orderly => ⟨trivial, orderly⟩, fun both => both.2⟩
  | cons i rest ih =>
    simp only [List.cons_append, Orderly, ih, and_assoc, liveAfter, List.foldl_cons]

/-- A command fits what those before it left. -/
theorem fits (orderly : Orderly live (before ++ i :: after)) : i.Fits (liveAfter live before) :=
  (append_iff.mp orderly).2.1

/-- Commands that all fit a live session, and leave it alone, are in order. -/
theorem of_keeps (kept : Keeps live log) :
    Orderly live log ∧ liveAfter live log = live := by
  -- Each command finds the same session as the first one, and leaves it.
  induction log with
  | nil => exact ⟨trivial, rfl⟩
  | cons i rest ih =>
    -- The commands after the first one find the same session as it did.
    obtain ⟨fits, same⟩ := kept i List.mem_cons_self
    have others := ih fun j member => kept j (List.mem_cons_of_mem i member)
    refine ⟨⟨fits, ?_⟩, ?_⟩
    · rw [same]
      exact others.1
    · show liveAfter (i.next live) rest = live
      rw [same]
      exact others.2

/-- Letting go of the front end of a live session ends it. -/
theorem of_release (elsewhere : kind ≠ .network)
    (releases : log.map (·.command) = (Command.releaseOf? kind).toList) :
    Orderly (some kind) log ∧ liveAfter (some kind) log = none := by
  -- There is a command to let go with, except on the network.
  obtain ⟨command, is, lets⟩ : ∃ command, Command.releaseOf? kind = some command ∧
      command.releases? = some kind := by
    cases kind with
    | network => exact absurd rfl elsewhere
    | rtlUsb => exact ⟨_, rfl, rfl⟩
    | hackRf => exact ⟨_, rfl, rfl⟩
  rw [is] at releases
  obtain ⟨i, rfl, same⟩ := List.map_eq_singleton_iff.mp releases
  rw [← same] at lets
  refine ⟨⟨.of_releases lets, trivial⟩, ?_⟩
  show i.next (some kind) = none
  rw [Issued.next_of_quiet (Command.connects?_of_releases lets),
    if_pos ((i.command.ends_iff kind).mpr (Or.inl lets))]

/-- Elsewhere than on the network, a session goes on when decoding is stopped. -/
theorem keeps_of_stopping {stopping : List Issued} (elsewhere : kind ≠ .network)
    (stops : stopping.map (·.command) = [.stop] ∨ stopping = []) :
    Keeps (some kind) stopping := by
  -- A single stop goes on with the session there, and so does no stop at all.
  rcases stops with stops | rfl
  · obtain ⟨i, rfl, is⟩ := List.map_eq_singleton_iff.mp stops
    refine .of_isDecoding (by rw [is]; rfl) ?_
    rw [is]
    cases kind <;> first | exact absurd rfl elsewhere | rfl
  · exact .nil _

/-- A session ends when decoding is stopped and its front end is released. On the network stopping
is all there is, and elsewhere it may be left out. -/
theorem of_ending {stopping release finishing : List Issued}
    (stops : stopping.map (·.command) = [.stop] ∨ stopping = [] ∧ kind ≠ .network)
    (releases : release.map (·.command) = (Command.releaseOf? kind).toList)
    (finishes : ∀ i ∈ finishing, i.command.isAside = true) :
    Orderly (some kind) (stopping ++ release ++ finishing) ∧
      liveAfter (some kind) (stopping ++ release ++ finishing) = none := by
  have ended : Orderly (some kind) (stopping ++ release) ∧
      liveAfter (some kind) (stopping ++ release) = none := by
    by_cases elsewhere : kind = .network
    · -- Nothing is let go of, and stopping decoding ends the session.
      subst elsewhere
      rcases stops with stops | ⟨-, elsewhere⟩
      · obtain ⟨i, rfl, is⟩ := List.map_eq_singleton_iff.mp stops
        rw [List.map_eq_nil_iff.mp releases]
        refine ⟨⟨.of_isDecoding (by rw [is]; rfl), trivial⟩, ?_⟩
        show i.next (some .network) = none
        rw [Issued.next_of_quiet (by rw [is]; rfl), is]
        rfl
      · exact absurd rfl elsewhere
    · -- Stopping leaves the session live, and letting go of its front end ends it.
      have stopped : Orderly (some kind) stopping ∧ liveAfter (some kind) stopping = some kind :=
        of_keeps (keeps_of_stopping elsewhere (stops.imp_right And.left))
      have released := of_release elsewhere releases
      rw [append_iff, liveAfter_append, stopped.2]
      exact ⟨⟨stopped.1, released.1⟩, released.2⟩
  -- What follows the end finds no session, and needs none.
  have rest : Orderly none finishing ∧ liveAfter none finishing = none :=
    of_keeps (.of_aside finishes)
  rw [append_iff, ended.2, liveAfter_append, ended.2]
  exact ⟨⟨ended.1, rest.1⟩, rest.2⟩

/-- The front end that commands in order leave live is that of a session that was opened. -/
theorem isLive (orderly : Orderly none log) (isLive : liveAfter none log = some kind) :
    IsLive log kind := by
  -- The induction is from the last command, which opened the session or found it live.
  induction log using List.reverseRecOn with
  | nil => simp [liveAfter] at isLive
  | append_singleton log i ih =>
    obtain ⟨orderly, fits, -⟩ := append_iff.mp orderly
    rw [liveAfter_append] at isLive
    have last : i.next (liveAfter none log) = some kind := isLive
    cases opened : i.opens? with
    | some opens =>
      -- Nothing has happened since the last command opened the session.
      have same : opens = kind := by simpa [Issued.next, opened] using last
      exact ⟨log, i, [], rfl, opened.trans (congrArg some same), by simp⟩
    | none =>
      -- The session was live before, and the last command let it be.
      have kept : liveAfter none log = some kind ∧ i.command.ends kind = false := by
        simpa [Issued.next, opened, Option.filter_eq_some_iff] using last
      obtain ⟨earlier, opening, during, split, opens, quiet⟩ := ih orderly kept.1
      refine ⟨earlier, opening, during ++ [i], by rw [split]; simp, opens, ?_⟩
      intro d member
      rcases List.mem_append.mp member with inside | same
      · exact quiet d inside
      · rw [List.mem_singleton.mp same]
        refine ⟨?_, kept.2⟩
        -- Whatever connects needs that no session is live.
        cases connects : i.command.connects? with
        | none => rfl
        | some _ => simp [fits.connects (by simp [connects])] at kept

/-- Without a live session and without connecting, nothing is ended. -/
theorem countP_ends_of_none (orderly : Orderly none log)
    (quiet : ∀ i ∈ log, i.command.connects? = none) (kind : BackendKind) :
    log.countP (·.command.ends kind) = 0 ∧ liveAfter none log = none := by
  -- As nothing connects, each command finds no session, in which it can end none.
  induction log with
  | nil => exact ⟨rfl, rfl⟩
  | cons i rest ih =>
    -- Nothing connects, so that the other commands find no session either.
    obtain ⟨fits, others⟩ := orderly
    have still : i.next none = none := by
      simp [Issued.next, Issued.opens?_of_connects? (quiet i List.mem_cons_self)]
    rw [still] at others
    obtain ⟨counted, last⟩ := ih others fun j member => quiet j (List.mem_cons_of_mem i member)
    refine ⟨?_, ?_⟩
    · rw [List.countP_cons_of_neg (by simp [fits.not_ends kind])]
      exact counted
    · show liveAfter (i.next none) rest = none
      rw [still]
      exact last

/-- A live session is ended at most once before the next connecting, and is live until then. -/
theorem countP_ends (orderly : Orderly (some kind) log)
    (quiet : ∀ i ∈ log, i.command.connects? = none) :
    log.countP (·.command.ends kind) = 0 ∧ liveAfter (some kind) log = some kind ∨
      log.countP (·.command.ends kind) = 1 ∧ liveAfter (some kind) log = none := by
  -- The induction goes on until the command that ends the session; nothing is ended after it.
  induction log with
  | nil => exact Or.inl ⟨rfl, rfl⟩
  | cons i rest ih =>
    obtain ⟨-, others⟩ := orderly
    have next : i.next (some kind) = if i.command.ends kind = true then none else some kind :=
      Issued.next_of_quiet (quiet i List.mem_cons_self)
    have unconnected := fun j member => quiet j (List.mem_cons_of_mem i member)
    show _ ∧ liveAfter (i.next (some kind)) rest = _ ∨ _ ∧ liveAfter (i.next (some kind)) rest = _
    cases ends : i.command.ends kind with
    | false =>
      -- The session goes on, and is left for the other commands to end.
      rw [ends, if_neg Bool.false_ne_true] at next
      rw [next] at others ⊢
      rw [List.countP_cons_of_neg (by simp [ends])]
      exact ih others unconnected
    | true =>
      rw [ends, if_pos rfl] at next
      rw [next] at others ⊢
      obtain ⟨counted, last⟩ := countP_ends_of_none others unconnected kind
      rw [List.countP_cons_of_pos (by simp [ends]), counted]
      exact Or.inr ⟨rfl, last⟩

end Orderly

end TunerControl.Session
