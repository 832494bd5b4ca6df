import TunerControl.Json.Layout

/-! The fields of a record: which of an object's members they are, and what each is read as. -/

namespace TunerControl.Json

namespace Number

/-- Only the number that an integer is written as is read as the integer. -/
theorem eq_ofInt_of_toInt? {n : Number} {i : Int} (read : n.toInt? = some i) : n = .ofInt i := by
  -- A number is read as an integer only if it has neither a fraction nor an exponent, and then by
  -- its sign.
  obtain ⟨negative, whole, fraction, exponent⟩ := n
  unfold toInt? at read
  split at read
  · simp at read
  · rename_i plain
    obtain ⟨rfl, rfl⟩ : fraction = [] ∧ exponent = none := by simpa using plain
    split at read
    · -- A negative number has a size, as negative zero is no integer.
      split at read
      · simp at read
      · rename_i sign some
        obtain rfl : -(whole : Int) = i := Option.some.inj read
        have below : -(whole : Int) < 0 := by
          have positive : whole ≠ 0 := some
          omega
        simp_all [ofInt]
    · -- A number without a sign is its digits.
      rename_i sign
      obtain rfl : (whole : Int) = i := Option.some.inj read
      simp_all [ofInt]

end Number

namespace Value

/-- Different integers are written as different values. -/
theorem int_injective {n m : Int} (same : Value.int n = Value.int m) : n = m := by
  -- Both are read back from what they are written as.
  have numbers : Number.ofInt n = Number.ofInt m := by simpa [int] using same
  have read := Number.toInt?_ofInt n
  rw [numbers, Number.toInt?_ofInt] at read
  exact (Option.some.inj read).symm

section Integers

variable {low high : Int}

/-- An integer between the bounds is read back. -/
theorem toIntWithin?_int {n : Int} (above : low ≤ n) (below : n ≤ high) :
    (Value.int n).toIntWithin? low high = some n := by
  -- The bounds are checked on what the number is read as, which is the integer itself.
  simp [int, toIntWithin?, Number.toInt?_ofInt, Option.filter, above, below]

/-- What is no integer between the bounds is not read as one. -/
theorem toIntWithin?_eq_none {v : Value} (none_ : ∀ n, low ≤ n → n ≤ high → v ≠ .int n) :
    v.toIntWithin? low high = none := by
  -- What passes the filter would be an integer between the bounds.
  refine Option.eq_none_iff_forall_ne_some.mpr fun n read => ?_
  -- Only a number could be read at all.
  cases v with
  | number m =>
    obtain ⟨value, within⟩ := Option.filter_eq_some_iff.mp read
    simp only [Bool.and_eq_true, decide_eq_true_eq] at within
    exact none_ n within.1 within.2 (congrArg Value.number (Number.eq_ofInt_of_toInt? value))
  | _ => simp [toIntWithin?] at read

variable {α : Type} {convert : Int → α}

/-- An integer between the bounds of some width is read as what it is converted to. -/
theorem map_toIntWithin?_int {n : Int} {a : α} (above : low ≤ n) (below : n ≤ high)
    (back : convert n = a) : ((Value.int n).toIntWithin? low high).map convert = some a := by
  -- The bounds are met, so that only the conversion is left.
  rw [toIntWithin?_int above below, Option.map_some, back]

/-- What is no integer between the bounds of some width is not read as one. -/
theorem map_toIntWithin?_eq_none {v : Value} (none_ : ∀ n, low ≤ n → n ≤ high → v ≠ .int n) :
    (v.toIntWithin? low high).map convert = none := by
  -- There is nothing to convert.
  rw [toIntWithin?_eq_none none_, Option.map_none]

/-- An unsigned integer is read back at every width that it fits. -/
theorem map_toIntWithin?_toNat {size n : Nat} {a : α} (fits : n < size) (back : convert n = a) :
    ((Value.int n).toIntWithin? 0 (size - 1)).map convert = some a :=
  -- The bounds are those of the width.
  map_toIntWithin?_int (by omega) (by omega) back

/-- A signed integer is read back. -/
theorem toInt32?_int (n : Int32) : (Value.int n.toInt).toInt32? = some n :=
  -- Its bounds are those of its width.
  map_toIntWithin?_int n.minValue_le_toInt n.toInt_le n.ofInt_toInt

end Integers

/-- A text is read back. -/
theorem toText?_text (s : String) : (Value.text s).toText? = some s :=
  -- This is how texts are written.
  rfl

/-- A truth value is read back. -/
theorem toBool?_bool (b : Bool) : (Value.bool b).toBool? = some b :=
  -- This is how truth values are written.
  rfl

end Value

namespace Fields

variable {known : List String} {members : List (Option String × Value)} {fields : Fields}

/-- The keys of some fields. -/
def keys (fields : Fields) : List String :=
  fields.map (·.1)

/-- A lookup finds nothing exactly if the key is none of the keys. -/
theorem lookup_eq_none {key : String} : fields.lookup key = none ↔ key ∉ fields.keys := by
  -- The lookup goes through the fields in order, as the induction does.
  induction fields with
  | nil => simp [keys]
  | cons field rest ih =>
    rw [List.lookup_cons]
    by_cases same : key = field.1
    · simp [keys, same]
    · have differs : (key == field.1) = false := by simpa using same
      simpa [keys, differs, same] using ih

/-- The field in front is found under its key. -/
theorem lookup_cons_self (key : String) (v : Value) :
    List.lookup key ((key, v) :: fields) = some v := by
  -- It is the first that the lookup comes to.
  simp

/-- The field in front does not count under other keys. -/
theorem lookup_cons_of_ne {key other : String} (differs : key ≠ other) (v : Value) :
    List.lookup key ((other, v) :: fields) = fields.lookup key := by
  -- The lookup passes it.
  have unequal : (key == other) = false := by simpa using differs
  rw [List.lookup_cons, unequal]

/-- A member is taken if its key is known, and then the key is new; a member with another key is left
out. -/
theorem ofMembers?_cons {name : Option String} {value : Value}
    (taken : ofMembers? known ((name, value) :: members) = some fields) :
    ∃ key others, name = some key ∧ ofMembers? known members = some others ∧
      (key ∈ known ∧ others.lookup key = none ∧ fields = (key, value) :: others ∨
        key ∉ known ∧ fields = others) := by
  -- A key without a text ends the reading, so that there is one.
  cases name with
  | none => simp [ofMembers?] at taken
  | some key =>
    obtain ⟨others, further, taken⟩ := Option.bind_eq_some_iff.mp taken
    refine ⟨key, others, rfl, further, ?_⟩
    split at taken
    · -- A known key must not have been among the fields already.
      rename_i is
      split at taken
      · simp at taken
      · rename_i fresh
        exact Or.inl ⟨is, Option.not_isSome_iff_eq_none.mp fresh, (Option.some.inj taken).symm⟩
    · -- An unknown one is passed over with its value.
      rename_i unknown
      exact Or.inr ⟨unknown, (Option.some.inj taken).symm⟩

/-- Taking the known members of an object keeps each of them, and finds none of them twice. -/
theorem of_ofMembers? (taken : ofMembers? known members = some fields) {key : String}
    (is : key ∈ known) : (members.countP fun m => m.1 = some key) ≤ 1 ∧
      ∀ v, (some key, v) ∈ members → fields.lookup key = some v := by
  -- The induction is on the members, the first of which is under the key or not.
  induction members generalizing fields with
  | nil => simp
  | cons member rest ih =>
    obtain ⟨_, value⟩ := member
    obtain ⟨name, others, rfl, further, kept⟩ := ofMembers?_cons taken
    obtain ⟨once, found⟩ := ih further
    by_cases same : name = key
    · subst same
      rcases kept with ⟨-, absent, rfl⟩ | ⟨unknown, -⟩
      · -- The key is new, so that it is none of the other members.
        have never : ∀ v, (some name, v) ∉ rest := fun v member => by
          simp [absent] at found
          exact found v member
        refine ⟨?_, fun v member => ?_⟩
        · have none : (rest.countP fun m => m.1 = some name) = 0 := by
            rw [List.countP_eq_zero]
            rintro ⟨other, v⟩ member is
            obtain rfl : other = some name := by simpa using is
            exact never v member
          simp [none]
        · rcases List.mem_cons.mp member with same | earlier
          · rw [lookup_cons_self, (Prod.mk.inj same).2]
          · exact absurd earlier (never v)
      · exact absurd is unknown
    · -- Another member is no member under the key, whether it is taken or not.
      have unchanged : fields.lookup key = others.lookup key := by
        rcases kept with ⟨-, -, rfl⟩ | ⟨-, rfl⟩
        · exact lookup_cons_of_ne (Ne.symm same) value
        · rfl
      refine ⟨by simpa [same] using once, fun v member => ?_⟩
      rw [unchanged]
      rcases List.mem_cons.mp member with is | earlier
      · exact absurd (Option.some.inj (Prod.mk.inj is).1).symm same
      · exact found v earlier

section Get

variable {α R : Type} {key other : String} {v : Value} {read : Value → Option α} {default : α}
  {next next' : α → Option R} {set : R → R}

/-- A field that is not given has its default. -/
theorem get?_of_absent (absent : fields.lookup key = none) :
    fields.get? key read default = some default := by
  -- The lookup finds nothing to read.
  simp [get?, absent]

/-- A field that is given has the value that it is given. -/
theorem get?_of_lookup (found : fields.lookup key = some v) :
    fields.get? key read default = read v := by
  -- The lookup finds the value, whatever the default is.
  simp [get?, found]

/-- Where a reader comes to a new field, it goes on with what was written instead of the default. -/
theorem bind_get?_new {a : α} (absent : fields.lookup key = none) (is : read v = some a)
    (further : next a = (next' default).map set) :
    (Fields.get? ((key, v) :: fields) key read default).bind next =
      ((fields.get? key read default).bind next').map set := by
  -- One reader finds the new value in front, and the other one finds nothing.
  rw [get?_of_lookup (lookup_cons_self key v), is, get?_of_absent absent]
  exact further

/-- Where a reader comes to another field, the new one makes no difference. -/
theorem bind_get?_other (differs : key ≠ other)
    (further : ∀ a, next a = (next' a).map set) :
    (Fields.get? ((other, v) :: fields) key read default).bind next =
      ((fields.get? key read default).bind next').map set := by
  -- Both readers find the same, and go on alike.
  have same :
      Fields.get? ((other, v) :: fields) key read default = fields.get? key read default := by
    rw [get?, lookup_cons_of_ne differs, get?]
  rw [same, Option.map_bind]
  exact congrArg _ (funext further)

end Get

end Fields

end TunerControl.Json
