import TunerControl.Proofs.Json.Layout
import TunerControl.Samples.Settings

/-! A host's configuration is read field by field, and written with all its fields. -/

namespace TunerControl

open Json (Fields Layout NoIntegerOf Value)

namespace PipelineConfig

/-- A new field is read as the setting that it was written for. -/
theorem ofFields?_cons (s : Setting) {fields : Fields} (absent : fields.lookup s.key = none) :
    ofFields? ((s.key, s.value) :: fields) = (ofFields? fields).map s.set := by
  cases s
  all_goals dsimp only [ofFields?, Setting.key, Setting.value] at absent ⊢
  -- The fields in front of the new one are read as they were before it came.
  all_goals repeat refine Fields.bind_get?_other (by decide) fun _ => ?_
  -- The new one is read as what was written. All fields have the same reader.
  all_goals
    refine Fields.bind_get?_new absent
      (Value.map_toIntWithin?_toNat (UInt64.toNat_lt_size _) UInt64.ofNat_toNat) ?_
  -- The fields behind it are read as before, and the setting leaves all others alone.
  all_goals repeat refine Fields.bind_get?_other (by decide) fun _ => ?_
  all_goals rfl

/-- A record with a field that has no integer of 64 bits is refused. -/
theorem ofFields?_misfit {key : String} {v : Value} {fields : Fields}
    (misfit : NoIntegerOf bounds key v) (found : fields.lookup key = some v) :
    ofFields? fields = none := by
  obtain ⟨low, high, member, none_⟩ := misfit
  obtain ⟨name, known, same⟩ := List.mem_map.mp member
  obtain ⟨rfl, rfl, rfl⟩ : name = key ∧ 0 = low ∧ (UInt64.size : Int) - 1 = high := by
    simpa using same
  -- All fields are read alike, so that it does not matter which of them this is.
  have refused : ∀ default, fields.get? name (·.toUInt64?) default = none := fun default =>
    (Fields.get?_of_lookup found).trans (Value.map_toIntWithin?_eq_none none_)
  simp only [keys, List.mem_cons, List.not_mem_nil, or_false] at known
  rcases known with rfl | rfl | rfl | rfl | rfl <;> simp [ofFields?, refused]

/-- The layout of the configuration is that of its reader. -/
theorem layout_lawful : layout.Lawful ofFields? where
  distinct := by decide
  known s := by cases s <;> simp [layout, Setting.key, keys]
  base := rfl
  cons writes absent := writes ▸ ofFields?_cons _ absent
  -- Settings with different keys are of different fields, so that their order does not matter.
  comm {s s'} r differs := by
    cases s <;> cases s' <;> first | rfl | exact absurd rfl differs
  misfit := ofFields?_misfit
  misfit_known := NoIntegerOf.known (by simp [bounds, layout])

/-- A configuration is written with all its fields. -/
theorem layout_gives (c : PipelineConfig) : layout.Gives c.toJson c.settings := by
  -- The members of the object are the settings, which are of different fields.
  have distinct : (c.settings.map layout.key).Nodup := by simp [layout, settings, Setting.key]
  exact .object (.of_written Setting.value (fun _ => rfl) distinct)

end PipelineConfig

namespace Config

/-- The one field is read as the setting that it was written for. -/
theorem ofFields?_cons {s : Setting} {v : Value} {fields : Fields} (writes : s.Writes v)
    (absent : fields.lookup s.key = none) :
    ofFields? ((s.key, v) :: fields) = (ofFields? fields).map s.set := by
  cases s with
  | pipeline c =>
    -- The value gives the settings of the inner record, which is read by its own layout.
    obtain ⟨settings, gives, rfl⟩ := writes
    have read : PipelineConfig.ofJson? v = some _ := gives.read PipelineConfig.layout_lawful
    dsimp only [ofFields?, Setting.key] at absent ⊢
    exact Fields.bind_get?_new absent read rfl

/-- The layout of the configuration is that of its reader. -/
theorem layout_lawful : layout.Lawful ofFields? where
  distinct := by decide
  known s := by
    cases s
    exact List.mem_singleton.mpr rfl
  base := rfl
  cons := ofFields?_cons
  -- There is only the one field.
  comm {s s'} r differs := by
    cases s
    cases s'
    exact absurd rfl differs
  -- What is under its key is refused if it is no record that could be read.
  misfit {key v fields} misfit found := by
    obtain ⟨rfl, members, rfl, flawed⟩ := misfit
    have read : PipelineConfig.ofJson? (.object members) = none :=
      flawed.read PipelineConfig.layout_lawful
    simp [ofFields?, Fields.get?_of_lookup found, read]
  misfit_known {key v} misfit := by
    obtain ⟨rfl, -⟩ := misfit
    exact List.mem_singleton.mpr rfl

/-- A configuration is written with all its fields. -/
theorem layout_gives (c : Config) : layout.Gives c.toJson c.settings :=
  -- The one member gives the settings of the inner record.
  .object (.known ⟨c.pipeline.settings, c.pipeline.layout_gives, rfl⟩ List.not_mem_nil .nil)

end Config

end TunerControl
