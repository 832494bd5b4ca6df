import TunerControl.Samples.Journal
import TunerControl.Samples.Move

/-! What the holder of a loan does to the content of its buffer, and which positions that writes. -/

namespace TunerControl.Samples

/-- What is done to the content of a buffer. -/
inductive Edit where
  | fill (source : Bytes)
  | write (start : Nat) (source : Bytes)
  | setLength (length : Nat)
  deriving DecidableEq, Repr

namespace Buffer

/-- The buffer after an edit. -/
def apply (b : Buffer) : Edit → Buffer
  | .fill source => b.fill source
  | .write start source => b.write start source
  | .setLength length => b.setLength length

/-- The buffer after some edits, one by one. -/
def applyAll (b : Buffer) (edits : List Edit) : Buffer :=
  edits.foldl apply b

end Buffer

/-- Whether an edit of a buffer writes to a position. -/
def Edit.Writes (capacity : Nat) : Edit → Nat → Prop
  | fill source, i => i < min source.length capacity
  | write start source, i => start ≤ i ∧ i < min (start + source.length) capacity
  | setLength _, _ => False

/-- Whether one of some edits of a buffer writes to a position. -/
def Written (capacity : Nat) (edits : List Edit) (i : Nat) : Prop :=
  ∃ e ∈ edits, e.Writes capacity i

instance Edit.decidableWrites (capacity : Nat) : (e : Edit) → (i : Nat) → Decidable (e.Writes capacity i)
  | fill source, i => inferInstanceAs (Decidable (i < min source.length capacity))
  | write start source, i =>
    inferInstanceAs (Decidable (start ≤ i ∧ i < min (start + source.length) capacity))
  | setLength _, _ => inferInstanceAs (Decidable False)

instance (capacity : Nat) (edits : List Edit) (i : Nat) : Decidable (Written capacity edits i) :=
  inferInstanceAs (Decidable (∃ e ∈ edits, e.Writes capacity i))

/-- Bytes are marked as valid only where an earlier edit has written. -/
def Covered (capacity : Nat) (edits : List Edit) : Prop :=
  ∀ before length after, edits = before ++ .setLength length :: after →
    ∀ i < min length capacity, Written capacity before i

/-- The edit that goes on at a plant, with the number of the loan that it is for. -/
def Activity.edit? : Activity → Option (Nat × Edit)
  | .fill serial source => some (serial, .fill source)
  | .write serial start source => some (serial, .write start source)
  | .setLength serial length => some (serial, .setLength length)
  | _ => none

/-- The edit that a step is, with the number of the loan that it is for. -/
def Move.edit? : Move → Option (Nat × Edit)
  | .background activity => activity.edit?
  | _ => none

namespace Plant

/-- The number of the loan that a step gets, if it asks for one and gets it. -/
def loans? (p : Plant) : Move → Option Nat
  | .background (.loan run) => (p.loan run).1
  | .take pool => (p.lend pool).1
  | _ => none

/-- The edit that a step makes to the buffer of a loan, while that is in a caller's hands. -/
def edits? (serial : Nat) (p : Plant) (m : Move) : Option Edit :=
  match m.edit? with
  | some (n, e) => if n = serial ∧ (p.held? serial).isSome then some e else none
  | none => none

/-- The buffers that are on loan, and those that were accepted, as they were then. -/
def copies (p : Plant) : List Buffer :=
  p.buffers ++ p.journal.acceptances

/-- The buffers that sinks were handed, in order. -/
def fed (p : Plant) : List Buffer :=
  p.journal.filterMap fun entry => entry.2.fed?

/-- The buffer of a loan, as it is while on loan, as it was accepted, and as a sink was handed it. -/
def sightings (p : Plant) (serial : Nat) : List Buffer :=
  (p.copies ++ p.fed).filter (·.serial = serial)

end Plant

/-- A loan that some step of some history gets: its number, and the buffer that it begins with. -/
structure Lending where
  earlier : List Move
  step : Move
  serial : Nat
  buffer : Buffer
  lent : (Plant.afterMoves earlier).loans? step = some serial
  held : (Plant.afterMoves (earlier ++ [step])).held? serial = some buffer

namespace Lending

/-- The history up to the loan and on. -/
def moves (l : Lending) (later : List Move) : List Move :=
  l.earlier ++ [l.step] ++ later

/-- What was done to the content of the buffer since the loan. -/
def edits (l : Lending) (later : List Move) : List Edit :=
  (Plant.afterMoves (l.earlier ++ [l.step])).answers (Plant.edits? l.serial) later

/-- The buffer, in whatever places it can be looked at after some more steps. -/
def sightings (l : Lending) (later : List Move) : List Buffer :=
  (Plant.afterMoves (l.moves later)).sightings l.serial

end Lending

end TunerControl.Samples
