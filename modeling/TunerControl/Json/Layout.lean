import TunerControl.Json.Fields
import TunerControl.Json.Grammar
import TunerControl.Json.Limits
import TunerControl.Json.Printer

/-! Records as JSON, field by field: the values that give some fields of a record, and what a reader
has to make of the texts of such values. -/

namespace TunerControl.Json

/-- What a text is to a reader of values. -/
def Value.read? {α : Type} (ofJson? : Value → Option α) (text : String) : Option α :=
  parse? text >>= ofJson?

/-- What is written for what a text is read as. -/
def Value.normalise? {α : Type} (toJson : α → Value) (ofJson? : Value → Option α)
    (text : String) : Option String :=
  (read? ofJson? text).map fun a => (toJson a).render

/-- What is written for a record is read back as the record. So a text that is read is normalised to
one that is read as the same and is normal. -/
structure RoundTrips {α : Type} (toJson : α → Value) (ofJson? : Value → Option α) : Prop where
  reads_back : ∀ a, Value.read? ofJson? (toJson a).render = some a
  normalises : ∀ text, (Value.read? ofJson? text).isSome = true →
    ∃ normal, Value.normalise? toJson ofJson? text = some normal ∧
      Value.read? ofJson? normal = Value.read? ofJson? text ∧
      Value.normalise? toJson ofJson? normal = some normal

/-- The layout of a record, whose fields are given by settings, one field by each. -/
structure Layout (R S : Type) where
  /-- The keys of the fields, in the order of their declaration. -/
  keys : List String
  /-- The key of the field that a setting is for. -/
  key : S → String
  /-- A value is one that a setting is written as. -/
  Writes : S → Value → Prop
  /-- The record with the field of a setting set. -/
  set : S → R → R
  /-- The record with the defaults of all fields. -/
  base : R
  /-- A value is none that the field with a key has. -/
  Misfit : String → Value → Prop

/-- A value is no integer between the bounds for a key. -/
def NoIntegerOf (bounds : List (String × Int × Int)) (key : String) (v : Value) : Prop :=
  ∃ low high, (key, low, high) ∈ bounds ∧ ∀ n, low ≤ n → n ≤ high → v ≠ .int n

namespace Layout

variable {R S : Type}

/-- The defaults, overridden by some settings. -/
def override (l : Layout R S) (settings : List S) : R :=
  settings.foldr l.set l.base

/-- A setting gives its field the default. -/
def IsDefault (l : Layout R S) (setting : S) : Prop :=
  l.set setting l.base = l.base

/-- Members give some settings, each for a field of its own. All other keys are unknown. -/
inductive Members (l : Layout R S) : List (Option String × Value) → List S → Prop where
  | nil : Members l [] []
  | known {setting : S} {v : Value} {members : List (Option String × Value)} {settings : List S}
      (writes : l.Writes setting v) (fresh : l.key setting ∉ settings.map l.key)
      (rest : Members l members settings) :
      Members l ((some (l.key setting), v) :: members) (setting :: settings)
  | unknown {key : String} {v : Value} {members : List (Option String × Value)}
      {settings : List S} (foreign : key ∉ l.keys) (rest : Members l members settings) :
      Members l ((some key, v) :: members) settings

/-- Items give settings for the first of some fields, in the order of their keys. -/
inductive Items (l : Layout R S) : List String → List Value → List S → Prop where
  | nil {keys : List String} : Items l keys [] []
  | cons {setting : S} {v : Value} {keys : List String} {items : List Value} {settings : List S}
      (writes : l.Writes setting v) (rest : Items l keys items settings) :
      Items l (l.key setting :: keys) (v :: items) (setting :: settings)

/-- A value gives some settings, by key or by position. -/
inductive Gives (l : Layout R S) : Value → List S → Prop where
  | object {members : List (Option String × Value)} {settings : List S}
      (given : l.Members members settings) : Gives l (.object members) settings
  | array {items : List Value} {settings : List S} (given : l.Items l.keys items settings) :
      Gives l (.array items) settings

/-- Two lists of settings say the same but for defaults that only one of them spells out. -/
def Agree (l : Layout R S) (settings others : List S) : Prop :=
  ∀ s, ¬ l.IsDefault s → (s ∈ settings ↔ s ∈ others)

/-- An object has a known key twice, or a value under a known key that its field does not have. -/
inductive Flawed (l : Layout R S) : List (Option String × Value) → Prop where
  | repeated {members : List (Option String × Value)} {key : String} (known : key ∈ l.keys)
      (twice : 1 < members.countP fun m => m.1 = some key) : Flawed l members
  | misfit {members : List (Option String × Value)} {key : String} {v : Value}
      (given : (some key, v) ∈ members) (misfit : l.Misfit key v) : Flawed l members

/-- A reader makes of each text that gives some settings the defaults overridden by them, which are
the same for settings that agree, and refuses the text of each object that is flawed. -/
structure IsReader (l : Layout R S) (ofJson? : Value → Option R) : Prop where
  overrides : ∀ text v settings, IsDocument v text → l.Gives v settings →
    Value.read? ofJson? text = some (l.override settings)
  insensitive : ∀ text v settings text' v' others, IsDocument v text → l.Gives v settings →
    IsDocument v' text' → l.Gives v' others → l.Agree settings others →
      Value.read? ofJson? text = Value.read? ofJson? text'
  refuses : ∀ text members, IsDocument (.object members) text → l.Flawed members →
    Value.read? ofJson? text = none

/-- Some members have none with a tag among them, and those with unknown keys have values that can be
held in memory, one level deeper than they are. -/
structure Held (l : Layout R S) (tagKey : String) (members : List (Option String × Value)) :
    Prop where
  untagged : ∀ m ∈ members, m.1 ≠ some tagKey
  sound : ∀ key v, (some key, v) ∈ members → key ∉ l.keys → v.sound = true
  shallow : ∀ key v, (some key, v) ∈ members → key ∉ l.keys → v.depth < Value.depthLimit

/-- A value gives some settings beside a tag, which stands anywhere in an object and first in an
array. -/
inductive GivesTagged (l : Layout R S) (tagKey tag : String) : Value → List S → Prop where
  | object {before after : List (Option String × Value)} {settings : List S}
      (held : l.Held tagKey (before ++ after)) (given : l.Members (before ++ after) settings) :
      GivesTagged l tagKey tag (.object (before ++ (some tagKey, .text tag) :: after)) settings
  | array {items : List Value} {settings : List S} (given : l.Items l.keys items settings) :
      GivesTagged l tagKey tag (.array (.text tag :: items)) settings

/-- A reader that tells records apart by a tag makes a record of the tagged texts as another reader
makes one of the texts without the tag. -/
structure IsTaggedReader {B : Type} (l : Layout R S) (tagKey tag : String) (wrap : R → B)
    (ofJson? : Value → Option B) : Prop where
  overrides : ∀ text v settings, IsDocument v text → l.GivesTagged tagKey tag v settings →
    Value.read? ofJson? text = some (wrap (l.override settings))
  insensitive : ∀ text v settings text' v' others, IsDocument v text →
    l.GivesTagged tagKey tag v settings → IsDocument v' text' →
    l.GivesTagged tagKey tag v' others → l.Agree settings others →
      Value.read? ofJson? text = Value.read? ofJson? text'
  refuses : ∀ text before after,
    IsDocument (.object (before ++ (some tagKey, .text tag) :: after)) text →
    l.Flawed (before ++ after) → Value.read? ofJson? text = none

end Layout

end TunerControl.Json
