import Mathlib.Data.List.Nodup
import Mathlib.Data.List.Perm.Basic
import TunerControl.Json.Layout
import TunerControl.Proofs.Json.Fields
import TunerControl.Proofs.Json.Reading

/-! Readers of records: one that takes fields one by one makes of every text what the layout says. -/

namespace TunerControl.Json

/-- Keys of bounds are known if all of them are. -/
theorem NoIntegerOf.known {bounds : List (String × Int × Int)} {known : List String}
    (all : ∀ b ∈ bounds, b.1 ∈ known) {key : String} {v : Value}
    (misfit : NoIntegerOf bounds key v) : key ∈ known := by
  -- The bounds are listed under the keys of the integer fields.
  obtain ⟨low, high, member, -⟩ := misfit
  exact all _ member

namespace Layout

variable {R S : Type} {l : Layout R S}

/-- The fields are read one by one: each setting sets its own, whatever the others are. -/
structure Lawful (l : Layout R S) (ofFields? : Fields → Option R) : Prop where
  distinct : l.keys.Nodup
  known : ∀ s, l.key s ∈ l.keys
  base : ofFields? [] = some l.base
  cons : ∀ {s v} {fields : Fields}, l.Writes s v → fields.lookup (l.key s) = none →
    ofFields? ((l.key s, v) :: fields) = (ofFields? fields).map (l.set s)
  comm : ∀ {s s'} r, l.key s ≠ l.key s' → l.set s (l.set s' r) = l.set s' (l.set s r)
  misfit : ∀ {key v} {fields : Fields}, l.Misfit key v → fields.lookup key = some v →
    ofFields? fields = none
  misfit_known : ∀ {key v}, l.Misfit key v → key ∈ l.keys

section Settings

variable {members : List (Option String × Value)} {settings others : List S}

/-- The settings that an object's members give are of different fields. -/
theorem Members.nodup (given : l.Members members settings) : (settings.map l.key).Nodup := by
  -- A known key must be new among the members behind it, and unknown ones give no setting.
  induction given with
  | nil => exact List.nodup_nil
  | known writes fresh rest ih => exact List.nodup_cons.mpr ⟨fresh, ih⟩
  | unknown foreign rest ih => exact ih

/-- Settings of different fields are given by the members that they are written as. -/
theorem Members.of_written (value : S → Value) (writes : ∀ s, l.Writes s (value s))
    (distinct : (settings.map l.key).Nodup) :
    l.Members (settings.map fun s => (some (l.key s), value s)) settings := by
  -- Each setting is given by its own member, whose key none of the others has.
  induction settings with
  | nil => exact .nil
  | cons s rest ih =>
    obtain ⟨fresh, distinct⟩ := List.nodup_cons.mp distinct
    exact .known (writes s) fresh (ih distinct)

/-- Each member is that of a setting, or unknown. -/
theorem Members.cases_mem (given : l.Members members settings) {m : Option String × Value}
    (member : m ∈ members) : ∃ key v, m = (some key, v) ∧
      ((∃ s, key = l.key s ∧ l.Writes s v) ∨ key ∉ l.keys) := by
  -- The member is the first one or among the rest, in each of the ways in which members give
  -- settings.
  induction given with
  | nil => simp at member
  | @known s v members settings writes fresh rest ih =>
    rcases List.mem_cons.mp member with rfl | earlier
    · exact ⟨_, _, rfl, Or.inl ⟨s, rfl, writes⟩⟩
    · exact ih earlier
  | unknown foreign rest ih =>
    rcases List.mem_cons.mp member with rfl | earlier
    · exact ⟨_, _, rfl, Or.inr foreign⟩
    · exact ih earlier

/-- Each item is that of a setting. -/
theorem Items.exists_of_mem {keys : List String} {items : List Value}
    (given : l.Items keys items settings) {v : Value} (member : v ∈ items) :
    ∃ s, l.Writes s v := by
  -- Every item is written for a setting, since an array has no unknown ones.
  induction given with
  | nil => simp at member
  | cons writes rest ih =>
    rcases List.mem_cons.mp member with rfl | earlier
    · exact ⟨_, writes⟩
    · exact ih earlier

/-- The keys of settings that are given by position are the first ones. -/
theorem Items.keys_eq {keys : List String} {items : List Value}
    (given : l.Items keys items settings) : ∃ further, keys = settings.map l.key ++ further := by
  -- Each item uses up the first of the keys that are left.
  induction given with
  | nil => exact ⟨_, rfl⟩
  | cons writes rest ih =>
    obtain ⟨further, rfl⟩ := ih
    exact ⟨further, rfl⟩

/-- The settings that an array's items give are of different fields. -/
theorem Items.nodup {items : List Value} (given : l.Items l.keys items settings)
    (distinct : l.keys.Nodup) : (settings.map l.key).Nodup := by
  -- Their keys are the first of the layout's, which are all different.
  obtain ⟨further, split⟩ := given.keys_eq
  exact (List.nodup_append.mp (split ▸ distinct)).1

variable {ofFields? : Fields → Option R} (lawful : l.Lawful ofFields?)

include lawful

/-- The settings that a value gives are of different fields. -/
theorem Gives.nodup {v : Value} (gives : l.Gives v settings) : (settings.map l.key).Nodup := by
  -- An object has no known key twice, and an array follows the keys.
  cases gives with
  | object given => exact given.nodup
  | array given => exact given.nodup lawful.distinct

/-- Settings of different fields may be made in any order. -/
theorem Lawful.override_perm (distinct : (settings.map l.key).Nodup)
    (perm : settings.Perm others) : l.override settings = l.override others := by
  -- Any two of the settings may be swapped, as they are of different fields or the same setting.
  refine perm.foldr_eq' (fun s is s' is' r => ?_) l.base
  by_cases same : l.key s = l.key s'
  · rw [List.inj_on_of_nodup_map distinct is is' same]
  · exact (lawful.comm r same).symm

open Classical in
/-- Settings that give their fields the defaults change nothing. -/
theorem Lawful.override_filter (distinct : (settings.map l.key).Nodup) :
    l.override (settings.filter fun s => ¬ l.IsDefault s) = l.override settings := by
  -- Those with the defaults are made first, which leaves the defaults as they are.
  have idle : ∀ defaults : List S, (∀ s ∈ defaults, l.IsDefault s) →
      l.override defaults = l.base := by
    intro defaults all
    induction defaults with
    | nil => rfl
    | cons s rest ih =>
      have others := ih fun s member => all s (List.mem_cons_of_mem _ member)
      show l.set s (l.override rest) = l.base
      rw [others]
      exact all s List.mem_cons_self
  have split := List.filter_append_perm (fun s => decide (¬ l.IsDefault s)) settings
  have same := lawful.override_perm distinct split.symm
  have first : l.override (settings.filter fun s => !decide (¬ l.IsDefault s)) = l.base :=
    idle _ fun s member => by simpa using (List.mem_filter.mp member).2
  unfold override at first same ⊢
  rw [same, List.foldr_append, first]

/-- Settings that agree override the defaults alike. -/
theorem Lawful.override_eq_of_agree (distinct : (settings.map l.key).Nodup)
    (distinct' : (others.map l.key).Nodup) (agree : l.Agree settings others) :
    l.override settings = l.override others := by
  -- Without those that say the default, the settings are the same ones in some order.
  classical
  have perm : (settings.filter fun s => ¬ l.IsDefault s).Perm
      (others.filter fun s => ¬ l.IsDefault s) := by
    refine (List.perm_ext_iff_of_nodup (distinct.of_map.filter _) (distinct'.of_map.filter _)).mpr
      fun s => ?_
    simp only [List.mem_filter, decide_eq_true_eq]
    exact ⟨fun ⟨is, own⟩ => ⟨(agree s own).mp is, own⟩,
      fun ⟨is, own⟩ => ⟨(agree s own).mpr is, own⟩⟩
  rw [← lawful.override_filter distinct, ← lawful.override_filter distinct']
  exact lawful.override_perm ((distinct.sublist (List.filter_sublist.map l.key))) perm

/-- The fields that an object's members give are read as the defaults overridden by them. -/
theorem Members.read (given : l.Members members settings) :
    ∃ fields, Fields.ofMembers? l.keys members = some fields ∧
      fields.keys = settings.map l.key ∧ ofFields? fields = some (l.override settings) := by
  -- The reader takes the members one by one, each as it gives a setting or none.
  induction given with
  | nil => exact ⟨[], rfl, rfl, lawful.base⟩
  | @known s v members settings writes fresh rest ih =>
    obtain ⟨fields, taken, keys, read⟩ := ih
    -- The key is none of those taken so far, which are the keys of the settings behind it.
    have absent : fields.lookup (l.key s) = none := by rwa [Fields.lookup_eq_none, keys]
    refine ⟨(l.key s, v) :: fields, ?_, ?_, ?_⟩
    · simp [Fields.ofMembers?, taken, lawful.known s, absent]
    · rw [Fields.keys, List.map_cons, List.map_cons, ← keys]
      rfl
    · rw [lawful.cons writes absent, read]
      rfl
  | @unknown key v members settings foreign rest ih =>
    obtain ⟨fields, taken, keys, read⟩ := ih
    exact ⟨fields, by simp [Fields.ofMembers?, taken, foreign], keys, read⟩

/-- The fields that an array's items give are read as the defaults overridden by them. -/
theorem Items.read {keys : List String} {items : List Value} (given : l.Items keys items settings)
    (distinct : keys.Nodup) : items.length ≤ keys.length ∧
      ofFields? (keys.zip items) = some (l.override settings) := by
  -- The reader pairs the items with the keys in order.
  induction given with
  | nil =>
    rw [List.zip_nil_right]
    exact ⟨Nat.zero_le _, lawful.base⟩
  | @cons s v keys items settings writes rest ih =>
    obtain ⟨fresh, distinct⟩ := List.nodup_cons.mp distinct
    obtain ⟨short, read⟩ := ih distinct
    -- The key is none of the later ones.
    have absent : List.lookup (l.key s) (keys.zip items) = none := by
      rw [Fields.lookup_eq_none]
      intro member
      obtain ⟨⟨key, value⟩, within, same⟩ := List.mem_map.mp member
      obtain rfl : key = l.key s := same
      exact fresh (List.of_mem_zip within).1
    refine ⟨by simpa using short, ?_⟩
    rw [List.zip_cons_cons, lawful.cons writes absent, read]
    rfl

/-- A value that gives some settings is read as the defaults overridden by them. -/
theorem Gives.read {v : Value} (gives : l.Gives v settings) :
    (v.fields? l.keys >>= ofFields?) = some (l.override settings) := by
  -- The members or items give the fields, and the fields are read as the settings.
  cases gives with
  | object given =>
    obtain ⟨fields, taken, -, read⟩ := given.read lawful
    simp [Value.fields?, taken, read]
  | array given =>
    obtain ⟨short, read⟩ := given.read lawful lawful.distinct
    simp [Value.fields?, Fields.ofItems?, Nat.not_lt.mpr short, read]

/-- A flawed object is refused. -/
theorem Flawed.read (flawed : l.Flawed members) :
    ((Value.object members).fields? l.keys >>= ofFields?) = none := by
  -- An object whose members are taken has no known key twice, so that only a misfit is left.
  cases taken : Fields.ofMembers? l.keys members with
  | none => simp [Value.fields?, taken]
  | some fields =>
    cases flawed with
    | repeated known twice =>
      have once := (Fields.of_ofMembers? taken known).1
      omega
    | misfit given misfit =>
      have found := (Fields.of_ofMembers? taken (lawful.misfit_known misfit)).2 _ given
      simp [Value.fields?, taken, lawful.misfit misfit found]

/-- Whoever reads the fields one by one reads each text as the layout says. -/
theorem Lawful.isReader {ofJson? : Value → Option R}
    (reads : ∀ v, ofJson? v = (v.fields? l.keys >>= ofFields?)) : l.IsReader ofJson? := by
  -- A text is read as the value that it spells, and the rest is up to the fields.
  have overrides : ∀ text v settings, IsDocument v text → l.Gives v settings →
      Value.read? ofJson? text = some (l.override settings) := by
    intro text v settings document gives
    rw [Value.read?, parse?_of_isDocument document, ← gives.read lawful]
    exact reads v
  refine ⟨overrides, ?_, ?_⟩
  · -- Texts that agree override the defaults alike.
    intro text v settings text' v' others document gives document' gives' agree
    rw [overrides text v settings document gives, overrides text' v' others document' gives',
      lawful.override_eq_of_agree (gives.nodup lawful) (gives'.nodup lawful) agree]
  · -- A flawed object is refused whatever else is in it.
    intro text members document flawed
    rw [Value.read?, parse?_of_isDocument document, ← flawed.read lawful]
    exact reads _

end Settings

end Layout

end TunerControl.Json
