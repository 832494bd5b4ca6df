import TunerControl.Session.Command

/-! What the commands that were given to the engine say of sessions: on which front end one is
live, and since when the engine has a dongle. -/

namespace TunerControl.Session

namespace Command

/-- The kind of front end that a command connects the engine to. -/
def connects? : Command → Option BackendKind
  | connectNetwork _ => some .network
  | openRtlUsb _ => some .rtlUsb
  | startHackRfMode .. => some .hackRf
  | _ => none

/-- The kind of front end that a command has the engine let go of. -/
def releases? : Command → Option BackendKind
  | closeRtlUsb => some .rtlUsb
  | stopHackRfMode => some .hackRf
  | _ => none

/-- The command that has the engine let go of a kind of front end. -/
def releaseOf? : BackendKind → Option Command
  | .network => none
  | .rtlUsb => some closeRtlUsb
  | .hackRf => some stopHackRfMode

/-- Whether a command starts or stops decoding. -/
def isDecoding : Command → Bool
  | start | stop => true
  | _ => false

/-- Whether a command ends the sessions on a kind of front end. Nothing is let go of for the
network, where it is enough to stop decoding. -/
def ends : Command → BackendKind → Bool
  | stop, .network | closeRtlUsb, .rtlUsb | stopHackRfMode, .hackRf => true
  | _, _ => false

/-- Whether a command has no part in the course of a session. -/
def isAside (c : Command) : Bool :=
  c.connects?.isNone && c.releases?.isNone && !c.isDecoding

/-- Whether a command changes a setting of the engine. -/
def isSetting : Command → Bool
  | setAudioEnabled _ | setFilterTalkgroups _ | addFilterTalkgroup _ | removeFilterTalkgroup _
  | clearFilterTalkgroups | setCustomArgs _ | setRetuneFrozen _ | retune _ | resetP25State
  | setBiasTee _ => true
  | _ => false

end Command

namespace Issued

/-- The kind of front end on which a command opened a session. -/
def opens? (i : Issued) : Option BackendKind :=
  if i.accepted then i.command.connects? else none

/-- The front end on which a session is live after a command. -/
def next (i : Issued) (live : Option BackendKind) : Option BackendKind :=
  match i.opens? with
  | some kind => some kind
  | none => live.filter fun kind => !i.command.ends kind

/-- Since how many calls of the USB service the engine has had a dongle, after a command. -/
def nextHold (i : Issued) (held : Option Nat) : Option Nat :=
  if i.opens? = some .rtlUsb then some i.hostCalls
  else if i.command = .closeRtlUsb then none
  else held

/-- A command is in order with a session that is live, or with none. -/
structure Fits (i : Issued) (live : Option BackendKind) : Prop where
  connects : i.command.connects? ≠ none → live = none
  releases : ∀ kind, i.command.releases? = some kind → live = some kind
  decodes : i.command.isDecoding = true → live ≠ none

end Issued

/-- A session on a kind of front end is live after some commands: the engine accepted to open it,
and since then nothing was connected and nothing ended it. -/
def IsLive (log : List Issued) (kind : BackendKind) : Prop :=
  ∃ earlier opening during, log = earlier ++ opening :: during ∧ opening.opens? = some kind ∧
    ∀ i ∈ during, i.command.connects? = none ∧ i.command.ends kind = false

/-- The engine has had a dongle since a number of calls of the USB service: it accepted to open one
then, and was not told to close it since. -/
def HasDongle (log : List Issued) (calls : Nat) : Prop :=
  ∃ earlier opening during, log = earlier ++ opening :: during ∧
    opening.opens? = some .rtlUsb ∧ opening.hostCalls = calls ∧
    ∀ i ∈ during, i.command ≠ .closeRtlUsb

/-- The front end on which a session is live after some commands. -/
def liveAfter (live : Option BackendKind) (log : List Issued) : Option BackendKind :=
  log.foldl (fun live i => i.next live) live

/-- Since how many calls of the USB service the engine has had a dongle, after some commands. -/
def heldAfter (held : Option Nat) (log : List Issued) : Option Nat :=
  log.foldl (fun held i => i.nextHold held) held

/-- Each command is in order after those before it. -/
def Orderly : Option BackendKind → List Issued → Prop
  | _, [] => True
  | live, i :: rest => i.Fits live ∧ Orderly (i.next live) rest

/-- Whenever the engine is told to close its dongle, the USB service had no call since the dongle
was opened. -/
def Undisturbed : Option Nat → List Issued → Prop
  | _, [] => True
  | held, i :: rest =>
    (i.command = .closeRtlUsb → held = some i.hostCalls) ∧ Undisturbed (i.nextHold held) rest

end TunerControl.Session
