import TunerControl.Proofs.Tuning.Layouts

/-! Backends are read by the tag of their kind, which may stand before, after or among the fields of
the tuning that it selects. -/

namespace TunerControl

open Json (Fields IsDocument Layout Value parse?_of_isDocument)

/-- The tag of a kind stands for it. -/
theorem BackendKind.ofTag?_tag (kind : BackendKind) : ofTag? kind.tag = some kind := by
  -- One case for each kind. The tags differ.
  cases kind <;> rfl

namespace Backend

section Tags

variable {members before after : List (Option String × Value)} {tag : Value}

/-- Members without a tag are all left over. -/
theorem splitTag_of_untagged (untagged : ∀ m ∈ members, m.1 ≠ some tagKey) :
    splitTag members = ([], members) := by
  -- The two filters of the partition keep nothing and everything.
  have tags : members.filter (fun m => m.1 = some tagKey) = [] :=
    List.filter_eq_nil_iff.mpr fun m member => by simpa using untagged m member
  have others : members.filter (fun m => !decide (m.1 = some tagKey)) = members :=
    List.filter_eq_self.mpr fun m member => by simpa using untagged m member
  simp [splitTag, List.partition_eq_filter_filter, Function.comp_def, tags, others]

/-- A tag is told apart from the members around it. -/
theorem splitTag_tagged : splitTag (before ++ (some tagKey, tag) :: after) =
    ((splitTag before).1 ++ tag :: (splitTag after).1,
      (splitTag before).2 ++ (splitTag after).2) := by
  -- Filtering goes member by member, so that it splits where the list does.
  simp [splitTag, List.partition_eq_filter_filter, Function.comp_def]

/-- Each member with the tag key gives a tag. -/
theorem length_tags : (splitTag members).1.length = members.countP fun m => m.1 = some tagKey := by
  -- The tags are the values of the members that are filtered out.
  simp [splitTag, List.partition_eq_filter_filter, List.countP_eq_length_filter]

/-- An object is not read unless exactly one of its members is a tag. -/
theorem ofJson?_of_tags (tags : (members.countP fun m => m.1 = some tagKey) ≠ 1) :
    ofJson? (.object members) = none := by
  -- Reading goes on with exactly one tag. No tag and two tags are the two other forms of the list.
  rw [← length_tags] at tags
  unfold ofJson?
  split
  · rfl
  · cases split_ : splitTag members with
    | mk tagged rest =>
      rw [split_] at tags
      cases tagged with
      | nil => simp [split_]
      | cons first others =>
        cases others with
        | nil => exact absurd rfl tags
        | cons second others => simp [split_]

/-- An object with one tag is read as a tuning of the kind that it names. -/
theorem ofJson?_tagged (kind : BackendKind) (untagged : ∀ m ∈ before ++ after, m.1 ≠ some tagKey)
    (holdable : (Value.object (before ++ (some tagKey, .text kind.tag) :: after)).holdable = true) :
    ofJson? (.object (before ++ (some tagKey, .text kind.tag) :: after)) =
      ofTuning? kind (.object (before ++ after)) := by
  -- The members before and after give no tag of their own and are all left over.
  have left := splitTag_of_untagged fun m member => untagged m (List.mem_append_left after member)
  have right := splitTag_of_untagged fun m member => untagged m (List.mem_append_right before member)
  simp [ofJson?, holdable, splitTag_tagged, left, right, kindOf?, Value.toText?_text,
    BackendKind.ofTag?_tag]

end Tags

/-- Tunings of a kind are laid out in some way, with plain values and no field with the tag key, and
make backends. -/
structure Tunes {R S : Type} (l : Layout R S) (ofFields? : Fields → Option R) (kind : BackendKind)
    (wrap : R → Backend) : Prop where
  lawful : l.Lawful ofFields?
  flat : ∀ {s v}, l.Writes s v → v.IsFlat
  untagged : tagKey ∉ l.keys
  reads : ∀ v, ofTuning? kind v = (v.fields? l.keys >>= ofFields?).map wrap

/-- Tunings over the network are read as their layout says, after the tag of their kind. -/
theorem network_tunes :
    Tunes NetworkTuning.layout NetworkTuning.ofFields? .network .network where
  lawful := NetworkTuning.layout_lawful
  flat writes := writes ▸ NetworkTuning.flat _
  untagged := by decide
  reads _ := rfl

/-- Tunings of an attached dongle are read as their layout says, after the tag of their kind. -/
theorem rtlUsb_tunes : Tunes RtlUsbTuning.layout RtlUsbTuning.ofFields? .rtlUsb .rtlUsb where
  lawful := RtlUsbTuning.layout_lawful
  flat writes := writes ▸ RtlUsbTuning.flat _
  untagged := by decide
  reads _ := rfl

/-- Tunings of a transceiver are read as their layout says, after the tag of their kind. -/
theorem hackRf_tunes : Tunes HackRfTuning.layout HackRfTuning.ofFields? .hackRf .hackRf where
  lawful := HackRfTuning.layout_lawful
  flat writes := writes ▸ HackRfTuning.flat _
  untagged := by decide
  reads _ := rfl

namespace Tunes

variable {R S : Type} {l : Layout R S} {ofFields? : Fields → Option R} {kind : BackendKind}
  {wrap : R → Backend} (tunes : Tunes l ofFields? kind wrap)

include tunes

/-- The members that give settings beside a tag can be held in memory with the object around them. -/
theorem holdable_object {before after : List (Option String × Value)} {settings : List S}
    (held : l.Held tagKey (before ++ after)) (given : l.Members (before ++ after) settings)
    (tag : String) :
    (Value.object (before ++ (some tagKey, .text tag) :: after)).holdable = true := by
  refine Value.holdable_object fun m member => ?_
  -- It is the tag, the plain value of a field, or one of the unknown members.
  have limit : 0 < Value.depthLimit := by decide
  rcases List.mem_cons.mp (List.perm_middle.mem_iff.mp member) with rfl | other
  · exact ⟨rfl, rfl, limit⟩
  · obtain ⟨key, v, rfl, ⟨s, -, writes⟩ | foreign⟩ := given.cases_mem other
    · have flat := tunes.flat writes
      exact ⟨rfl, flat.sound, flat.depth ▸ limit⟩
    · exact ⟨rfl, held.sound key v other foreign, held.shallow key v other foreign⟩

/-- Settings of different fields are given by the members that they are written as, after a tag. -/
theorem givesTagged_of_written {settings : List S} (value : S → Value)
    (writes : ∀ s, l.Writes s (value s)) (distinct : (settings.map l.key).Nodup) (tag : String) :
    l.GivesTagged tagKey tag
      (.object ((some tagKey, .text tag) :: settings.map fun s => (some (l.key s), value s)))
      settings := by
  -- All members are of known keys, and the tag key is none of them.
  have known : ∀ key v, (some key, v) ∈ settings.map (fun s => (some (l.key s), value s)) →
      key ∈ l.keys := by
    intro key v member
    obtain ⟨s, -, same⟩ := List.mem_map.mp member
    exact Option.some.inj (Prod.mk.inj same).1 ▸ tunes.lawful.known s
  have held : l.Held tagKey ([] ++ settings.map fun s => (some (l.key s), value s)) :=
    { untagged := fun m member tagged => tunes.untagged (known tagKey m.2 (tagged ▸ member))
      sound := fun key v member foreign => absurd (known key v member) foreign
      shallow := fun key v member foreign => absurd (known key v member) foreign }
  exact .object held (.of_written value writes distinct)

/-- The items that give settings after a tag can be held in memory with the array around them. -/
theorem holdable_array {items : List Value} {settings : List S}
    (given : l.Items l.keys items settings) (tag : String) :
    (Value.array (.text tag :: items)).holdable = true := by
  refine Value.holdable_array fun v member => ?_
  have limit : 0 < Value.depthLimit := by decide
  -- The tag is a string, and each item is the plain value of a field.
  rcases List.mem_cons.mp member with rfl | item
  · exact ⟨rfl, limit⟩
  · obtain ⟨s, writes⟩ := given.exists_of_mem item
    have flat := tunes.flat writes
    exact ⟨flat.sound, flat.depth ▸ limit⟩

/-- A value that gives settings beside the tag is read as the defaults overridden by them. -/
theorem ofJson?_of_gives {v : Value} {settings : List S}
    (gives : l.GivesTagged tagKey kind.tag v settings) :
    ofJson? v = some (wrap (l.override settings)) := by
  -- The tag is taken out first, and what is left is read by the layout of the tuning.
  cases gives with
  | object held given =>
    rw [ofJson?_tagged kind held.untagged (tunes.holdable_object held given kind.tag),
      tunes.reads, (Layout.Gives.object given).read tunes.lawful]
    rfl
  | @array items _ given =>
    have read : ofTuning? kind (.array items) = some (wrap (l.override settings)) := by
      rw [tunes.reads, (Layout.Gives.array given).read tunes.lawful]
      rfl
    simpa [ofJson?, tunes.holdable_array given kind.tag, kindOf?, Value.toText?_text,
      BackendKind.ofTag?_tag] using read

/-- An object that is flawed beside a tag is refused, whatever else is tagged in it. -/
theorem ofJson?_of_flawed {before after : List (Option String × Value)}
    (flawed : l.Flawed (before ++ after)) :
    ofJson? (.object (before ++ (some tagKey, .text kind.tag) :: after)) = none := by
  by_cases untagged : ∀ m ∈ before ++ after, m.1 ≠ some tagKey
  · -- With one tag the rest is read by the layout, which refuses it.
    cases holdable : (Value.object (before ++ (some tagKey, .text kind.tag) :: after)).holdable with
    | false => simp [ofJson?, holdable]
    | true =>
      rw [ofJson?_tagged kind untagged holdable, tunes.reads, flawed.read tunes.lawful]
      rfl
  · -- There is a second tag.
    simp only [not_forall, not_not] at untagged
    obtain ⟨m, member, tagged⟩ := untagged
    refine ofJson?_of_tags ?_
    have others : 0 < (before ++ after).countP fun m => m.1 = some tagKey :=
      List.countP_pos_iff.mpr ⟨m, member, by simpa using tagged⟩
    simp only [List.countP_append, List.countP_cons] at others ⊢
    simp
    omega

/-- Whoever tells backends apart by the tag reads each text as the layout says. -/
theorem isTaggedReader : l.IsTaggedReader tagKey kind.tag wrap Backend.ofJson? := by
  have overrides : ∀ text v settings, IsDocument v text →
      l.GivesTagged tagKey kind.tag v settings →
      Value.read? Backend.ofJson? text = some (wrap (l.override settings)) := by
    intro text v settings document gives
    rw [Value.read?, parse?_of_isDocument document]
    exact tunes.ofJson?_of_gives gives
  have nodup : ∀ {v settings}, l.GivesTagged tagKey kind.tag v settings →
      (settings.map l.key).Nodup := by
    intro v settings gives
    cases gives with
    | object held given => exact given.nodup
    | array given => exact given.nodup tunes.lawful.distinct
  -- Two texts whose settings agree override the defaults alike, and a flawed one is refused.
  refine ⟨overrides, ?_, ?_⟩
  · intro text v settings text' v' others document gives document' gives' agree
    rw [overrides text v settings document gives, overrides text' v' others document' gives',
      tunes.lawful.override_eq_of_agree (nodup gives) (nodup gives') agree]
  · intro text before after document flawed
    rw [Value.read?, parse?_of_isDocument document]
    exact tunes.ofJson?_of_flawed flawed

end Tunes

end Backend

end TunerControl
