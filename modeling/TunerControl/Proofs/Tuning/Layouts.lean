import TunerControl.Proofs.Json.Layout
import TunerControl.Proofs.Json.Limits
import TunerControl.Tuning.Settings

/-! Tunings are read field by field, and written with all their fields. The three kinds are each shown to
follow their own layouts, by the same steps: the reader goes through the fields in the order of their
declaration, and a new field makes a difference where it comes to that field and nowhere else. -/

namespace TunerControl

open Json (Fields NoIntegerOf Value)

namespace NetworkTuning

/-- A new field is read as the setting that it was written for. -/
theorem ofFields?_cons (s : Setting) {fields : Fields} (absent : fields.lookup s.key = none) :
    ofFields? ((s.key, s.value) :: fields) = (ofFields? fields).map s.set := by
  cases s
  all_goals dsimp only [ofFields?, Setting.key, Setting.value] at absent ⊢
  -- The fields in front of the new one are read as they were before it came.
  all_goals repeat refine Fields.bind_get?_other (by decide) fun _ => ?_
  -- The new one is read as what was written, by the reader of its type.
  case' host => refine Fields.bind_get?_new absent (Value.toText?_text _) ?_
  case' port =>
    refine Fields.bind_get?_new absent
      (Value.map_toIntWithin?_toNat (UInt16.toNat_lt_size _) UInt16.ofNat_toNat) ?_
  case' frequency =>
    refine Fields.bind_get?_new absent
      (Value.map_toIntWithin?_toNat (UInt64.toNat_lt_size _) UInt64.ofNat_toNat) ?_
  case' gain | ppm => refine Fields.bind_get?_new absent (Value.toInt32?_int _) ?_
  case' biasTee => refine Fields.bind_get?_new absent (Value.toBool?_bool _) ?_
  -- The fields behind it are read as before, and the setting leaves all others alone.
  all_goals repeat refine Fields.bind_get?_other (by decide) fun _ => ?_
  all_goals rfl

/-- A record with an integer field that has no integer of its width is refused. -/
theorem ofFields?_misfit {key : String} {v : Value} {fields : Fields}
    (misfit : NoIntegerOf bounds key v) (found : fields.lookup key = some v) :
    ofFields? fields = none := by
  obtain ⟨low, high, member, none_⟩ := misfit
  simp only [bounds, List.mem_cons, Prod.mk.injEq, List.not_mem_nil, or_false] at member
  -- Each integer field is refused by the reader of its own width, whatever the others are.
  rcases member with ⟨rfl, rfl, rfl⟩ | ⟨rfl, rfl, rfl⟩ | ⟨rfl, rfl, rfl⟩ | ⟨rfl, rfl, rfl⟩
  · have refused : v.toUInt16? = none := Value.map_toIntWithin?_eq_none none_
    simp [ofFields?, Fields.get?_of_lookup found, refused]
  · have refused : v.toUInt64? = none := Value.map_toIntWithin?_eq_none none_
    simp [ofFields?, Fields.get?_of_lookup found, refused]
  · have refused : v.toInt32? = none := Value.map_toIntWithin?_eq_none none_
    simp [ofFields?, Fields.get?_of_lookup found, refused]
  · have refused : v.toInt32? = none := Value.map_toIntWithin?_eq_none none_
    simp [ofFields?, Fields.get?_of_lookup found, refused]

/-- The layout of the tuning is that of its reader. -/
theorem layout_lawful : layout.Lawful ofFields? where
  distinct := by decide
  known s := by cases s <;> simp [layout, Setting.key, keys]
  base := rfl
  cons writes absent := writes ▸ ofFields?_cons _ absent
  -- Settings with different keys are of different fields, so that their order does not matter.
  comm {s s'} r differs := by
    cases s <;> cases s' <;> first | rfl | exact absurd rfl differs
  misfit := ofFields?_misfit
  misfit_known := NoIntegerOf.known (by decide)

/-- All fields of a tuning are different ones. -/
theorem settings_nodup (t : NetworkTuning) : (t.settings.map layout.key).Nodup := by
  -- Their keys are all there is to see of them.
  simp [layout, settings, Setting.key]

/-- A tuning is written with all its fields. -/
theorem layout_gives (t : NetworkTuning) : layout.Gives t.toJson t.settings :=
  -- The members of the object are the settings, one by one.
  .object (.of_written Setting.value (fun _ => rfl) t.settings_nodup)

/-- Every field has a value that holds no others. -/
theorem flat (s : Setting) : s.value.IsFlat := by
  -- It is a text, a truth value, or an integer of some width.
  cases s with
  | host s => exact .text s
  | port n => exact .uint16 n
  | frequency n => exact .uint64 n
  | gain n => exact .int32 n
  | ppm n => exact .int32 n
  | biasTee b => exact .bool b

end NetworkTuning

namespace RtlUsbTuning

/-- A new field is read as the setting that it was written for. -/
theorem ofFields?_cons (s : Setting) {fields : Fields} (absent : fields.lookup s.key = none) :
    ofFields? ((s.key, s.value) :: fields) = (ofFields? fields).map s.set := by
  cases s
  all_goals dsimp only [ofFields?, Setting.key, Setting.value] at absent ⊢
  -- The fields in front of the new one are read as they were before it came.
  all_goals repeat refine Fields.bind_get?_other (by decide) fun _ => ?_
  -- The new one is read as what was written, by the reader of its type.
  case' fd | gain | ppm => refine Fields.bind_get?_new absent (Value.toInt32?_int _) ?_
  case' devicePath => refine Fields.bind_get?_new absent (Value.toText?_text _) ?_
  case' frequency =>
    refine Fields.bind_get?_new absent
      (Value.map_toIntWithin?_toNat (UInt64.toNat_lt_size _) UInt64.ofNat_toNat) ?_
  case' sampleRate =>
    refine Fields.bind_get?_new absent
      (Value.map_toIntWithin?_toNat (UInt32.toNat_lt_size _) UInt32.ofNat_toNat) ?_
  case' biasTee => refine Fields.bind_get?_new absent (Value.toBool?_bool _) ?_
  -- The fields behind it are read as before, and the setting leaves all others alone.
  all_goals repeat refine Fields.bind_get?_other (by decide) fun _ => ?_
  all_goals rfl

/-- A record with an integer field that has no integer of its width is refused. -/
theorem ofFields?_misfit {key : String} {v : Value} {fields : Fields}
    (misfit : NoIntegerOf bounds key v) (found : fields.lookup key = some v) :
    ofFields? fields = none := by
  obtain ⟨low, high, member, none_⟩ := misfit
  simp only [bounds, List.mem_cons, Prod.mk.injEq, List.not_mem_nil, or_false] at member
  -- Each integer field is refused by the reader of its own width, whatever the others are.
  rcases member with ⟨rfl, rfl, rfl⟩ | ⟨rfl, rfl, rfl⟩ | ⟨rfl, rfl, rfl⟩ | ⟨rfl, rfl, rfl⟩ |
    ⟨rfl, rfl, rfl⟩
  · have refused : v.toInt32? = none := Value.map_toIntWithin?_eq_none none_
    simp [ofFields?, Fields.get?_of_lookup found, refused]
  · have refused : v.toUInt64? = none := Value.map_toIntWithin?_eq_none none_
    simp [ofFields?, Fields.get?_of_lookup found, refused]
  · have refused : v.toUInt32? = none := Value.map_toIntWithin?_eq_none none_
    simp [ofFields?, Fields.get?_of_lookup found, refused]
  · have refused : v.toInt32? = none := Value.map_toIntWithin?_eq_none none_
    simp [ofFields?, Fields.get?_of_lookup found, refused]
  · have refused : v.toInt32? = none := Value.map_toIntWithin?_eq_none none_
    simp [ofFields?, Fields.get?_of_lookup found, refused]

/-- The layout of the tuning is that of its reader. -/
theorem layout_lawful : layout.Lawful ofFields? where
  distinct := by decide
  known s := by cases s <;> simp [layout, Setting.key, keys]
  base := rfl
  cons writes absent := writes ▸ ofFields?_cons _ absent
  -- Settings with different keys are of different fields, so that their order does not matter.
  comm {s s'} r differs := by
    cases s <;> cases s' <;> first | rfl | exact absurd rfl differs
  misfit := ofFields?_misfit
  misfit_known := NoIntegerOf.known (by decide)

/-- All fields of a tuning are different ones. -/
theorem settings_nodup (t : RtlUsbTuning) : (t.settings.map layout.key).Nodup := by
  -- Their keys are all there is to see of them.
  simp [layout, settings, Setting.key]

/-- A tuning is written with all its fields. -/
theorem layout_gives (t : RtlUsbTuning) : layout.Gives t.toJson t.settings :=
  -- The members of the object are the settings, one by one.
  .object (.of_written Setting.value (fun _ => rfl) t.settings_nodup)

/-- Every field has a value that holds no others. -/
theorem flat (s : Setting) : s.value.IsFlat := by
  -- It is a text, a truth value, or an integer of some width.
  cases s with
  | fd n => exact .int32 n
  | devicePath s => exact .text s
  | frequency n => exact .uint64 n
  | sampleRate n => exact .uint32 n
  | gain n => exact .int32 n
  | ppm n => exact .int32 n
  | biasTee b => exact .bool b

end RtlUsbTuning

namespace HackRfTuning

/-- A new field is read as the setting that it was written for. -/
theorem ofFields?_cons (s : Setting) {fields : Fields} (absent : fields.lookup s.key = none) :
    ofFields? ((s.key, s.value) :: fields) = (ofFields? fields).map s.set := by
  cases s
  all_goals dsimp only [ofFields?, Setting.key, Setting.value] at absent ⊢
  -- The fields in front of the new one are read as they were before it came.
  all_goals repeat refine Fields.bind_get?_other (by decide) fun _ => ?_
  -- The new one is read as what was written, by the reader of its type.
  case' frequency =>
    refine Fields.bind_get?_new absent
      (Value.map_toIntWithin?_toNat (UInt64.toNat_lt_size _) UInt64.ofNat_toNat) ?_
  case' sampleRate | lnaGain | vgaGain =>
    refine Fields.bind_get?_new absent
      (Value.map_toIntWithin?_toNat (UInt32.toNat_lt_size _) UInt32.ofNat_toNat) ?_
  -- The fields behind it are read as before, and the setting leaves all others alone.
  all_goals repeat refine Fields.bind_get?_other (by decide) fun _ => ?_
  all_goals rfl

/-- A record with an integer field that has no integer of its width is refused. -/
theorem ofFields?_misfit {key : String} {v : Value} {fields : Fields}
    (misfit : NoIntegerOf bounds key v) (found : fields.lookup key = some v) :
    ofFields? fields = none := by
  obtain ⟨low, high, member, none_⟩ := misfit
  simp only [bounds, List.mem_cons, Prod.mk.injEq, List.not_mem_nil, or_false] at member
  -- Each integer field is refused by the reader of its own width, whatever the others are.
  rcases member with ⟨rfl, rfl, rfl⟩ | ⟨rfl, rfl, rfl⟩ | ⟨rfl, rfl, rfl⟩ | ⟨rfl, rfl, rfl⟩
  · have refused : v.toUInt64? = none := Value.map_toIntWithin?_eq_none none_
    simp [ofFields?, Fields.get?_of_lookup found, refused]
  · have refused : v.toUInt32? = none := Value.map_toIntWithin?_eq_none none_
    simp [ofFields?, Fields.get?_of_lookup found, refused]
  · have refused : v.toUInt32? = none := Value.map_toIntWithin?_eq_none none_
    simp [ofFields?, Fields.get?_of_lookup found, refused]
  · have refused : v.toUInt32? = none := Value.map_toIntWithin?_eq_none none_
    simp [ofFields?, Fields.get?_of_lookup found, refused]

/-- The layout of the tuning is that of its reader. -/
theorem layout_lawful : layout.Lawful ofFields? where
  distinct := by decide
  known s := by cases s <;> simp [layout, Setting.key, keys]
  base := rfl
  cons writes absent := writes ▸ ofFields?_cons _ absent
  -- Settings with different keys are of different fields, so that their order does not matter.
  comm {s s'} r differs := by
    cases s <;> cases s' <;> first | rfl | exact absurd rfl differs
  misfit := ofFields?_misfit
  misfit_known := NoIntegerOf.known (by decide)

/-- All fields of a tuning are different ones. -/
theorem settings_nodup (t : HackRfTuning) : (t.settings.map layout.key).Nodup := by
  -- Their keys are all there is to see of them.
  simp [layout, settings, Setting.key]

/-- A tuning is written with all its fields. -/
theorem layout_gives (t : HackRfTuning) : layout.Gives t.toJson t.settings :=
  -- The members of the object are the settings, one by one.
  .object (.of_written Setting.value (fun _ => rfl) t.settings_nodup)

/-- Every field has a value that holds no others. -/
theorem flat (s : Setting) : s.value.IsFlat := by
  -- It is an integer of some width.
  cases s with
  | frequency n => exact .uint64 n
  | sampleRate n => exact .uint32 n
  | lnaGain n => exact .uint32 n
  | vgaGain n => exact .uint32 n

end HackRfTuning

end TunerControl
