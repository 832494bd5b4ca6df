import TunerControl.Json.Value

/-! Reading a value as a record: by key from an object, or by position from an array. -/

namespace TunerControl.Json

/-- The values given for a record's fields, each under its field's key. -/
abbrev Fields := List (String × Value)

/-- The members whose keys are known, if every key has a text and no known one comes twice. -/
def Fields.ofMembers? (known : List String) :
    List (Option String × Value) → Option Fields
  | [] => some []
  | (none, _) :: _ => none
  | (some key, value) :: rest => do
    let fields ← ofMembers? known rest
    if key ∈ known then
      if (fields.lookup key).isSome then none else return (key, value) :: fields
    else return fields

/-- The items in the order of the known keys, if there are no more of them than keys. -/
def Fields.ofItems? (known : List String) (items : List Value) : Option Fields :=
  if known.length < items.length then none else some (known.zip items)

/-- The fields of a record with the given keys, in the order of their declaration. -/
def Value.fields? (known : List String) : Value → Option Fields
  | .object members => Fields.ofMembers? known members
  | .array items => Fields.ofItems? known items
  | _ => none

/-- A field's value. A field that is not given has its default. -/
def Fields.get? {α : Type} (fields : Fields) (key : String) (read : Value → Option α)
    (default : α) : Option α :=
  match fields.lookup key with
  | some value => read value
  | none => some default

namespace Value

/-- The truth value that a value is. -/
def toBool? : Value → Option Bool
  | .bool b => some b
  | _ => none

/-- The text that a value is. -/
def toText? : Value → Option String
  | .string s => s
  | _ => none

/-- The integer that a value is, if it lies between the bounds. -/
def toIntWithin? (low high : Int) : Value → Option Int
  | .number n => n.toInt?.filter fun i => low ≤ i && i ≤ high
  | _ => none

/-- The unsigned 16-bit integer that a value is. -/
def toUInt16? (v : Value) : Option UInt16 :=
  (v.toIntWithin? 0 (UInt16.size - 1)).map fun i => UInt16.ofNat i.toNat

/-- The unsigned 32-bit integer that a value is. -/
def toUInt32? (v : Value) : Option UInt32 :=
  (v.toIntWithin? 0 (UInt32.size - 1)).map fun i => UInt32.ofNat i.toNat

/-- The unsigned 64-bit integer that a value is. -/
def toUInt64? (v : Value) : Option UInt64 :=
  (v.toIntWithin? 0 (UInt64.size - 1)).map fun i => UInt64.ofNat i.toNat

/-- The signed 32-bit integer that a value is. -/
def toInt32? (v : Value) : Option Int32 :=
  (v.toIntWithin? Int32.minValue.toInt Int32.maxValue.toInt).map Int32.ofInt

end Value

end TunerControl.Json
