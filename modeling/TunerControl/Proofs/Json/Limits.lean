import TunerControl.Json.Limits

/-! What can be held in memory: an array or an object whose parts can be, and every plain value. -/

namespace TunerControl.Json

open Decimal

namespace Number

/-- What is spelled on the way is no greater than what is spelled in the end. -/
theorem le_spelled (n : Nat) (ds : List (Fin 10)) : n ≤ spelled n ds := by
  -- Each digit multiplies what was spelled so far by ten and adds to it.
  induction ds generalizing n with
  | nil => exact Nat.le_refl n
  | cons d ds ih =>
    have step := ih (10 * n + d.val)
    show n ≤ spelled (10 * n + d.val) ds
    omega

/-- Digits that spell a number in bounds are all taken. -/
theorem absorb_of_le (ds : List (Fin 10)) {start : Nat} (small : spelled start ds ≤ maxSignificand) :
    absorb start ds = (spelled start ds, 0) := by
  induction ds generalizing start with
  | nil => rfl
  | cons d ds ih =>
    -- What is spelled only grows, so that no digit takes it out of bounds on the way.
    have bound : spelled (10 * start + d.val) ds ≤ maxSignificand := small
    have within : ¬ maxSignificand < 10 * start + d.val := by
      have step := le_spelled (10 * start + d.val) ds
      omega
    rw [absorb, if_neg within, ih bound]
    rfl

/-- An integer of at most 64 bits is in range. -/
theorem inRange_ofInt {n : Int} (small : n.natAbs ≤ maxSignificand) : (ofInt n).inRange = true := by
  -- All digits are taken, so that there is no power of ten to multiply by.
  have taken : absorb 0 (digits n.natAbs) = (n.natAbs, 0) := by
    rw [absorb_of_le _ (by rwa [spelled_digits]), spelled_digits]
  simp [inRange, scaled, ofInt, taken, absorb]

end Number

namespace Value

/-- A value is sound, and neither an array nor an object. -/
structure IsFlat (v : Value) : Prop where
  sound : v.sound = true
  depth : v.depth = 0

namespace IsFlat

/-- A text is flat. -/
theorem text (s : String) : (Value.text s).IsFlat :=
  -- It has a text, and holds no other values.
  ⟨rfl, rfl⟩

/-- A truth value is flat. -/
theorem bool (b : Bool) : (Value.bool b).IsFlat :=
  -- It holds no other values.
  ⟨rfl, rfl⟩

/-- An integer of at most 64 bits is flat. -/
theorem int {n : Int} (small : n.natAbs ≤ Number.maxSignificand) : (Value.int n).IsFlat :=
  -- Its number is in range, and it holds no other values.
  ⟨Number.inRange_ofInt small, rfl⟩

/-- So is an unsigned one of 16 bits. -/
theorem uint16 (n : UInt16) : (Value.int n.toNat).IsFlat := by
  -- It is below the greatest significand.
  have bound := n.toNat_lt
  exact int (by simp only [Number.maxSignificand, UInt64.size]; omega)

/-- So is an unsigned one of 32 bits. -/
theorem uint32 (n : UInt32) : (Value.int n.toNat).IsFlat := by
  -- It is below the greatest significand.
  have bound := n.toNat_lt
  exact int (by simp only [Number.maxSignificand, UInt64.size]; omega)

/-- So is an unsigned one of 64 bits. -/
theorem uint64 (n : UInt64) : (Value.int n.toNat).IsFlat := by
  -- The greatest significand is the greatest of these.
  have bound := n.toNat_lt
  exact int (by simp only [Number.maxSignificand, UInt64.size]; omega)

/-- So is a signed one of 32 bits. -/
theorem int32 (n : Int32) : (Value.int n.toInt).IsFlat := by
  -- Its size is below the greatest significand on either side of zero.
  have low := n.le_toInt
  have high := n.toInt_lt
  exact int (by simp only [Number.maxSignificand, UInt64.size]; omega)

end IsFlat

/-- Items are sound if each of them is. -/
theorem soundItems_iff {items : List Value} :
    soundItems items = true ↔ ∀ v ∈ items, v.sound = true := by
  -- Soundness goes through the items one by one.
  induction items with
  | nil => simp [soundItems]
  | cons v rest ih => simp [soundItems, ih]

/-- Members are sound if each of them has a key with a text and a sound value. -/
theorem soundMembers_iff {members : List (Option String × Value)} :
    soundMembers members = true ↔ ∀ m ∈ members, m.1.isSome = true ∧ m.2.sound = true := by
  -- Soundness goes through the members one by one.
  induction members with
  | nil => simp [soundMembers]
  | cons m rest ih =>
    obtain ⟨key, v⟩ := m
    simp [soundMembers, ih]

/-- Items are nested no deeper than a limit if none of them is. -/
theorem depthItems_le {items : List Value} {limit : Nat} :
    depthItems items ≤ limit ↔ ∀ v ∈ items, v.depth ≤ limit := by
  -- The depth of items is the greatest among them.
  induction items with
  | nil => simp [depthItems]
  | cons v rest ih => rw [depthItems, Nat.max_le, ih, List.forall_mem_cons]

/-- Members are nested no deeper than a limit if none of their values is. -/
theorem depthMembers_le {members : List (Option String × Value)} {limit : Nat} :
    depthMembers members ≤ limit ↔ ∀ m ∈ members, m.2.depth ≤ limit := by
  -- The depth of members is the greatest among their values.
  induction members with
  | nil => simp [depthMembers]
  | cons m rest ih =>
    obtain ⟨key, v⟩ := m
    rw [depthMembers, Nat.max_le, ih, List.forall_mem_cons]

/-- An array can be held if its items can be, one level deeper. -/
theorem holdable_array {items : List Value}
    (each : ∀ v ∈ items, v.sound = true ∧ v.depth < depthLimit) :
    (Value.array items).holdable = true := by
  -- The array is one level deeper than its deepest item.
  have shallow : depthItems items ≤ depthLimit - 1 :=
    depthItems_le.mpr fun v member => Nat.le_sub_one_of_lt (each v member).2
  have sound : soundItems items = true := soundItems_iff.mpr fun v member => (each v member).1
  have limit : 0 < depthLimit := by decide
  have deep : 1 + depthItems items ≤ depthLimit := by omega
  simp [holdable, Value.sound, sound, depth, deep]

/-- An object can be held if the values of its members can be, one level deeper, and each key has a
text. -/
theorem holdable_object {members : List (Option String × Value)}
    (each : ∀ m ∈ members, m.1.isSome = true ∧ m.2.sound = true ∧ m.2.depth < depthLimit) :
    (Value.object members).holdable = true := by
  -- The object is one level deeper than the deepest of its values.
  have shallow : depthMembers members ≤ depthLimit - 1 :=
    depthMembers_le.mpr fun m member => Nat.le_sub_one_of_lt (each m member).2.2
  have sound : soundMembers members = true :=
    soundMembers_iff.mpr fun m member => ⟨(each m member).1, (each m member).2.1⟩
  have limit : 0 < depthLimit := by decide
  have deep : 1 + depthMembers members ≤ depthLimit := by omega
  simp [holdable, Value.sound, sound, depth, deep]

end Value

end TunerControl.Json
