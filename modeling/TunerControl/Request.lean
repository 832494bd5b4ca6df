import TunerControl.Failure

/-! Requests that are answered later. A slot holds at most one of them under a key; a request taken
out of the slot is settled by whoever took it; and each is settled at most once.

Every operation is one step. In particular an outcome is sent and the sending end dropped at once, so
that nobody who polls in between finds the outcome gone and the sending end still there; and a new
request supersedes the one in the slot and takes its place at once. -/

namespace TunerControl

/-- How a request ends. -/
abbrev Outcome (α : Type) := Except Failure α

/-- The outcome of a request that was given up. -/
def abandoned : Failure :=
  .invalidState "pending request abandoned"

/-- The way of one outcome from whoever settles a request to whoever made it: the outcome that was
sent and not collected yet, and whether the sending end is still there. -/
structure Channel (α : Type) where
  content : Option (Outcome α) := none
  connected : Bool := true

namespace Channel

variable {α : Type}

/-- Sends an outcome. A channel that has one in it takes no other. -/
def send (c : Channel α) (outcome : Outcome α) : Channel α :=
  match c.content with
  | none => { c with content := some outcome }
  | some _ => c

/-- Drops the sending end. -/
def disconnect (c : Channel α) : Channel α :=
  { c with connected := false }

/-- Collects what was sent, if anything was. Nothing is to be expected of a channel without a
sending end once that is collected. -/
def receive (c : Channel α) : Option (Outcome α) × Channel α :=
  match c.content, c.connected with
  | some outcome, _ => (some outcome, { c with content := none })
  | none, true => (none, c)
  | none, false => (some (.error abandoned), c)

end Channel

/-- The channels of the requests made so far, the number of the request in the slot with its key,
and the numbers of those that were taken out of the slot and are in a resolver. -/
structure Requests (κ α : Type) where
  channels : List (Channel α) := []
  waiting : Option (κ × Nat) := none
  taken : List Nat := []

namespace Requests

variable {κ α : Type}

/-- Sends an outcome to a request by its only sender, which is used up. -/
def settle (s : Requests κ α) (request : Nat) (outcome : Outcome α) : Requests κ α :=
  { s with channels := s.channels.modify request fun c => (c.send outcome).disconnect }

/-- Gives up a request by dropping its only sender. -/
def giveUp (s : Requests κ α) (request : Nat) : Requests κ α :=
  { s with channels := s.channels.modify request Channel.disconnect }

/-- Puts a new request into the slot and tells its number. One that is there is superseded. -/
def arm (s : Requests κ α) (key : κ) : Nat × Requests κ α :=
  let request := s.channels.length
  let s := match s.waiting with
    | some (_, previous) => s.settle previous (.error .superseded)
    | none => s
  (request, { s with channels := s.channels ++ [⟨none, true⟩], waiting := some (key, request) })

/-- Makes a request that is settled from the start, and tells its number. -/
def ready (s : Requests κ α) (outcome : Outcome α) : Nat × Requests κ α :=
  let c : Channel α := { }
  (s.channels.length, { s with channels := s.channels ++ [(c.send outcome).disconnect] })

/-- Takes the request out of the slot. -/
def take (s : Requests κ α) : Option Nat × Requests κ α :=
  match s.waiting with
  | none => (none, s)
  | some (_, request) => (some request, { s with waiting := none, taken := request :: s.taken })

/-- Takes the request out of the slot if it is there under the given key. -/
def takeFor [DecidableEq κ] (s : Requests κ α) (key : κ) : Option Nat × Requests κ α :=
  match s.waiting with
  | none => (none, s)
  | some (armed, _) => if armed = key then s.take else (none, s)

/-- Uses up the resolver of a request that was taken out of the slot. -/
def useUp (s : Requests κ α) (request : Nat) : Requests κ α :=
  { s with taken := s.taken.filter (· ≠ request) }

/-- Settles a request that was taken out of the slot. -/
def finish (s : Requests κ α) (request : Nat) (outcome : Outcome α) : Requests κ α :=
  if request ∈ s.taken then (s.settle request outcome).useUp request else s

/-- Gives up a request that was taken out of the slot. -/
def forget (s : Requests κ α) (request : Nat) : Requests κ α :=
  if request ∈ s.taken then (s.giveUp request).useUp request else s

/-- Settles the request in the slot, and tells whether there was one. -/
def resolve (s : Requests κ α) (outcome : Outcome α) : Bool × Requests κ α :=
  match s.take with
  | (none, s) => (false, s)
  | (some request, s) => (true, s.finish request outcome)

/-- Settles the request in the slot if it is there under the given key, and tells whether it was. -/
def resolveFor [DecidableEq κ] (s : Requests κ α) (key : κ) (outcome : Outcome α) :
    Bool × Requests κ α :=
  match s.takeFor key with
  | (none, s) => (false, s)
  | (some request, s) => (true, s.finish request outcome)

/-- Drops the slot. The request in it is given up. -/
def close (s : Requests κ α) : Requests κ α :=
  match s.waiting with
  | none => s
  | some (_, request) => { s.giveUp request with waiting := none }

/-- Whether a request is in the slot. -/
def isPending (s : Requests κ α) : Bool :=
  s.waiting.isSome

/-- The key of the request in the slot. -/
def pendingKey (s : Requests κ α) : Option κ :=
  s.waiting.map (·.1)

/-- Asks for the outcome of a request. An outcome is handed out once. -/
def poll (s : Requests κ α) (request : Nat) : Option (Outcome α) × Requests κ α :=
  match s.channels[request]? with
  | none => (some (.error abandoned), s)
  | some c =>
    let (outcome, c) := c.receive
    (outcome, { s with channels := s.channels.set request c })

end Requests

end TunerControl
