import TunerControl.Request
import TunerControl.Samples.Plant

/-! Labels for what a caller holds: buffers, runs to submit to, and requests to settle. A label that
is given again loses what it stood for. -/

namespace TunerControl.Simulated

open Samples (Buffer Bytes Plant)

/-- Labels with what they stand for. -/
abbrev Labels (α : Type) := List (String × α)

namespace Labels

variable {α : Type}

/-- What a label stands for. -/
def get? (ls : Labels α) (label : String) : Option α :=
  ls.lookup label

/-- The labels without one. -/
def erase (ls : Labels α) (label : String) : Labels α :=
  ls.filter (·.1 ≠ label)

/-- The labels with one that stands for something. -/
def put (ls : Labels α) (label : String) (value : α) : Labels α :=
  (label, value) :: ls.erase label

end Labels

/-- A plant whose buffers in callers' hands have labels. -/
structure Shelf where
  plant : Plant := { }
  buffers : Labels Nat := []

namespace Shelf

/-- Labels a new loan, if there is one. The buffer that had the label is dropped. -/
def keep (s : Shelf) (label : String) (loan : Option Nat × Plant) : Bool × Shelf :=
  match loan with
  | (none, plant) => (false, { s with plant })
  | (some serial, plant) =>
    let plant := match s.buffers.get? label with
      | some old => plant.discard old
      | none => plant
    (true, { plant, buffers := s.buffers.put label serial })

/-- The buffer with a label. -/
def buffer? (s : Shelf) (label : String) : Option Buffer :=
  s.buffers.get? label >>= s.plant.held?

/-- Changes the buffer with a label. -/
def edit (s : Shelf) (label : String) (change : Buffer → Buffer) : Shelf :=
  match s.buffers.get? label with
  | none => s
  | some serial => { s with plant := s.plant.edit serial change }

/-- Drops the buffer with a label. -/
def drop (s : Shelf) (label : String) : Shelf :=
  match s.buffers.get? label with
  | none => s
  | some serial => { plant := s.plant.discard serial, buffers := s.buffers.erase label }

/-- Submits the buffer with a label to a run, and tells whether it was accepted. -/
def submit (s : Shelf) (run : Nat) (label : String) : Bool × Shelf :=
  match s.buffers.get? label with
  | none => (false, s)
  | some serial =>
    match s.plant.submit run serial with
    | (true, plant) => (true, { plant, buffers := s.buffers.erase label })
    | (false, plant) => (false, { s with plant })

end Shelf

/-- Requests whose resolvers have labels. -/
structure Desk (κ α : Type) where
  requests : Requests κ α := { }
  resolvers : Labels Nat := []

namespace Desk

variable {κ α : Type}

/-- Labels the resolver of a request that was taken out of the slot, if one was. The request that
had the label is given up. -/
def keep (d : Desk κ α) (label : String) (taken : Option Nat × Requests κ α) : Bool × Desk κ α :=
  match taken with
  | (none, requests) => (false, { d with requests })
  | (some request, requests) =>
    let requests := match d.resolvers.get? label with
      | some old => requests.forget old
      | none => requests
    (true, { requests, resolvers := d.resolvers.put label request })

/-- Settles the request whose resolver has a label, and tells whether there is one. -/
def finish (d : Desk κ α) (label : String) (outcome : Outcome α) : Bool × Desk κ α :=
  match d.resolvers.get? label with
  | none => (false, d)
  | some request =>
    (true, { requests := d.requests.finish request outcome, resolvers := d.resolvers.erase label })

/-- Drops the resolver with a label, and tells whether there is one. -/
def drop (d : Desk κ α) (label : String) : Bool × Desk κ α :=
  match d.resolvers.get? label with
  | none => (false, d)
  | some request =>
    (true, { requests := d.requests.forget request, resolvers := d.resolvers.erase label })

end Desk

end TunerControl.Simulated
