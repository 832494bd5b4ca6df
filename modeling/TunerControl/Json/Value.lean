/-! JSON values. A number keeps its decimal form, and a string its text if it has one. -/

namespace TunerControl.Json

/-- A number as it is written, up to the spelling of its exponent. -/
structure Number where
  negative : Bool
  whole : Nat
  fraction : List (Fin 10)
  exponent : Option Int
  deriving DecidableEq, Repr

/-- A JSON value. A string or a key whose escapes spell no Unicode text is `none`. -/
inductive Value where
  | null
  | bool (value : Bool)
  | number (value : Number)
  | string (text : Option String)
  | array (items : List Value)
  | object (members : List (Option String × Value))

/-- The number of an integer. -/
def Number.ofInt (n : Int) : Number :=
  ⟨n < 0, n.natAbs, [], none⟩

/-- The integer that a number is written as: no fraction, no exponent and no negative zero. -/
def Number.toInt? (n : Number) : Option Int :=
  if n.fraction ≠ [] ∨ n.exponent ≠ none then none
  else if n.negative then if n.whole = 0 then none else some (-n.whole)
  else some n.whole

namespace Value

/-- The value of an integer. -/
def int (n : Int) : Value :=
  .number (.ofInt n)

/-- The value of a text. -/
def text (s : String) : Value :=
  .string (some s)

/-- An object with the given members. -/
def record (members : List (String × Value)) : Value :=
  .object (members.map fun (key, value) => (some key, value))

/-- An array of the values that a function gives for the members of a list. -/
def list {α : Type} (f : α → Value) (xs : List α) : Value :=
  .array (xs.map f)

mutual

/-- How deeply arrays and objects are nested. -/
def depth : Value → Nat
  | .array items => 1 + depthItems items
  | .object members => 1 + depthMembers members
  | _ => 0

/-- The depth of the deepest item. -/
def depthItems : List Value → Nat
  | [] => 0
  | item :: rest => max (depth item) (depthItems rest)

/-- The depth of the deepest member. -/
def depthMembers : List (Option String × Value) → Nat
  | [] => 0
  | (_, value) :: rest => max (depth value) (depthMembers rest)

end

end Value

/-- Reading a written integer gives the integer back. -/
theorem Number.toInt?_ofInt (n : Int) : (Number.ofInt n).toInt? = some n := by
  -- A negative integer is not zero, so its sign is kept.
  have plain : ¬((Number.ofInt n).fraction ≠ [] ∨ (Number.ofInt n).exponent ≠ none) := by
    simp [Number.ofInt]
  have size : (Number.ofInt n).whole = n.natAbs := rfl
  rw [Number.toInt?, if_neg plain, size]
  by_cases below : n < 0
  · have sign : (Number.ofInt n).negative = true := by simp [Number.ofInt, below]
    have nonzero : n.natAbs ≠ 0 := by omega
    have value : -(n.natAbs : Int) = n := by omega
    rw [if_pos sign, if_neg nonzero, value]
  · have sign : ¬(Number.ofInt n).negative = true := by simp [Number.ofInt, below]
    have value : (n.natAbs : Int) = n := by omega
    rw [if_neg sign, value]

end TunerControl.Json
