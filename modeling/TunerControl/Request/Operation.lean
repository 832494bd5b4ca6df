import TunerControl.Request

/-! Runs of operations on requests, and what they mean for one of them: which outcome it is given,
and what its owner is told. -/

namespace TunerControl.Requests

/-- An operation on the slot, on a request that was taken out of it, or by the owner of one. -/
inductive Operation (κ α : Type) where
  | arm (key : κ)
  | ready (outcome : Outcome α)
  | take
  | takeFor (key : κ)
  | resolve (outcome : Outcome α)
  | finish (request : Nat) (outcome : Outcome α)
  | forget (request : Nat)
  | close
  | poll (request : Nat)

variable {κ α : Type}

/-- Whether a request is the one in the slot. -/
def isWaiting (s : Requests κ α) (request : Nat) : Bool :=
  s.waiting.any fun entry => entry.2 = request

/-- In how many places a request can still be settled: in the slot, and in resolvers. -/
def senders (s : Requests κ α) (request : Nat) : Nat :=
  (if s.isWaiting request then 1 else 0) + s.taken.count request

/-- The outcome that an operation gives to a request. -/
def settles? (s : Requests κ α) (request : Nat) : Operation κ α → Option (Outcome α)
  | .arm _ => if s.isWaiting request then some (.error .superseded) else none
  | .ready outcome => if request = s.channels.length then some outcome else none
  | .resolve outcome => if s.isWaiting request then some outcome else none
  | .finish taken outcome => if taken = request ∧ taken ∈ s.taken then some outcome else none
  | .forget taken => if taken = request ∧ taken ∈ s.taken then some (.error abandoned) else none
  | .close => if s.isWaiting request then some (.error abandoned) else none
  | .take | .takeFor _ | .poll _ => none

/-- What the owner of a request is told by an operation, if that asks for its outcome. -/
def answer? (s : Requests κ α) (request : Nat) : Operation κ α → Option (Option (Outcome α))
  | .poll asked =>
    if asked = request ∧ request < s.channels.length then some (s.poll request).1 else none
  | _ => none

variable [DecidableEq κ]

/-- The requests after an operation. -/
def perform (s : Requests κ α) : Operation κ α → Requests κ α
  | .arm key => (s.arm key).2
  | .ready outcome => (s.ready outcome).2
  | .take => s.take.2
  | .takeFor key => (s.takeFor key).2
  | .resolve outcome => (s.resolve outcome).2
  | .finish request outcome => s.finish request outcome
  | .forget request => s.forget request
  | .close => s.close
  | .poll request => (s.poll request).2

/-- The requests after some operations, one by one. -/
def afterAll (s : Requests κ α) (operations : List (Operation κ α)) : Requests κ α :=
  operations.foldl perform s

/-- All that is observed while operations go on, in order. -/
def trace {β : Type} (observe : Requests κ α → Operation κ α → Option β) (s : Requests κ α) :
    List (Operation κ α) → List β
  | [] => []
  | operation :: rest =>
    (observe s operation).toList ++ trace observe (s.perform operation) rest

/-- The outcomes that a run gives to a request, in order. -/
def settlements (operations : List (Operation κ α)) (request : Nat) : List (Outcome α) :=
  trace (·.settles? request) { } operations

/-- What the owner of a request is told in a run, in order. -/
def answers (operations : List (Operation κ α)) (request : Nat) : List (Option (Outcome α)) :=
  trace (·.answer? request) { } operations

/-- Waits for the outcome of a request while other operations go on. The last of them is followed by
the deadline. -/
def waitFor (s : Requests κ α) (request : Nat) :
    List (Operation κ α) → Option (Outcome α) × Requests κ α
  | [] => s.poll request
  | operation :: rest =>
    match s.poll request with
    | (none, _) => (s.perform operation).waitFor request rest
    | found => found

end TunerControl.Requests
