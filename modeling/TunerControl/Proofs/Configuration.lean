import TunerControl.Proofs.Json.RoundTrip
import TunerControl.Proofs.Samples.Layouts
import TunerControl.Proofs.Tuning.Backends

/-! The texts of tunings, backends and configurations: what is written is read back, and what is read
is what the fields in the text say. -/

namespace TunerControl

open Json (IsDocument Layout RoundTrips Value isDocument_render parse?_of_isDocument)

namespace Json

/-- A text that is read is normalised if all records are read back. -/
theorem RoundTrips.of_reads_back {α : Type} {toJson : α → Value} {ofJson? : Value → Option α}
    (reads_back : ∀ a, Value.read? ofJson? (toJson a).render = some a) :
    RoundTrips toJson ofJson? where
  -- The text that is written for what was read is the normal form. It is read back as the same.
  reads_back := reads_back
  normalises text read := by
    obtain ⟨a, is⟩ := Option.isSome_iff_exists.mp read
    refine ⟨(toJson a).render, ?_, ?_, ?_⟩
    · rw [Value.normalise?, is]
      rfl
    · rw [reads_back, is]
    · rw [Value.normalise?, reads_back]
      rfl

/-- Records are read back if they are written with all their fields. -/
theorem Layout.IsReader.roundTrips {R S : Type} {l : Layout R S} {ofJson? : Value → Option R}
    (reader : l.IsReader ofJson?) {toJson : R → Value} {settings : R → List S}
    (gives : ∀ r, l.Gives (toJson r) (settings r)) (whole : ∀ r, l.override (settings r) = r) :
    RoundTrips toJson ofJson? :=
  -- What is written gives all the settings, and these leave nothing of the defaults.
  .of_reads_back fun r => by
    rw [reader.overrides _ _ _ (isDocument_render _) (gives r), whole]

end Json

/-- Tunings over the network are read as their layout says. -/
theorem NetworkTuning.isReader : layout.IsReader ofJson? :=
  -- Reading takes the fields of a value and makes a record of them, by definition.
  layout_lawful.isReader fun _ => rfl

/-- Tunings of an attached dongle are read as their layout says. -/
theorem RtlUsbTuning.isReader : layout.IsReader ofJson? :=
  layout_lawful.isReader fun _ => rfl

/-- Tunings of a transceiver are read as their layout says. -/
theorem HackRfTuning.isReader : layout.IsReader ofJson? :=
  layout_lawful.isReader fun _ => rfl

/-- Configurations of pipelines are read as their layout says. -/
theorem PipelineConfig.isReader : layout.IsReader ofJson? :=
  layout_lawful.isReader fun _ => rfl

/-- Configurations are read as their layout says. -/
theorem Config.isReader : layout.IsReader ofJson? :=
  layout_lawful.isReader fun _ => rfl

/-- Configurations are read back from what is written for them. -/
theorem Config.roundTrips : RoundTrips Config.toJson Config.ofJson? :=
  -- All fields are written, so that nothing is left of the defaults.
  isReader.roundTrips layout_gives fun _ => rfl

/-- A backend is written with its tag and all the fields of its tuning. -/
theorem Backend.read?_render (b : Backend) : Value.read? ofJson? b.toJson.render = some b := by
  -- One case for each kind: the tag comes first, and the fields of the tuning come after it.
  cases b with
  | network t =>
    exact network_tunes.isTaggedReader.overrides _ _ _ (isDocument_render _) <|
      network_tunes.givesTagged_of_written NetworkTuning.Setting.value (fun _ => rfl)
        t.settings_nodup BackendKind.network.tag
  | rtlUsb t =>
    exact rtlUsb_tunes.isTaggedReader.overrides _ _ _ (isDocument_render _) <|
      rtlUsb_tunes.givesTagged_of_written RtlUsbTuning.Setting.value (fun _ => rfl)
        t.settings_nodup BackendKind.rtlUsb.tag
  | hackRf t =>
    exact hackRf_tunes.isTaggedReader.overrides _ _ _ (isDocument_render _) <|
      hackRf_tunes.givesTagged_of_written HackRfTuning.Setting.value (fun _ => rfl)
        t.settings_nodup BackendKind.hackRf.tag

/-- A configuration is spelled by exactly the texts that are read as it, and by none unless it is
valid. -/
theorem Config.load_eq_ok_iff {text : String} {c : Config} :
    load text = .ok c ↔ Value.read? ofJson? text = some c ∧ c.validate = .ok () := by
  unfold load Value.read?
  -- Nothing is spelled by a text that is not read, and what is read is checked as it is.
  cases Value.parse? text >>= ofJson? with
  | none => simp
  | some config =>
    dsimp only
    cases valid : config.validate with
    | ok =>
      constructor
      · intro loaded
        obtain rfl : config = c := Except.ok.inj loaded
        exact ⟨rfl, valid⟩
      · rintro ⟨read, -⟩
        rw [Option.some.inj read]
    | error fault =>
      -- Being valid would be against what the check said.
      refine iff_of_false (by simp) ?_
      rintro ⟨read, good⟩
      rw [← Option.some.inj read, valid] at good
      simp at good

/-- A text that spells no configuration is refused for one of two reasons: that it is not read, or what
is wrong with what it is read as. -/
theorem Config.load_eq_error_iff {text : String} {failure : Failure} :
    load text = .error failure ↔
      (Value.read? ofJson? text = none ∧ failure = .invalidArgument "failed to parse config") ∨
      ∃ c fault, Value.read? ofJson? text = some c ∧ c.validate = .error fault ∧
        failure = .invalidArgument fault.message := by
  unfold load Value.read?
  -- The two reasons are the two ways in which loading does not come to its end.
  cases Value.parse? text >>= ofJson? with
  | none => simp [eq_comm]
  | some config =>
    dsimp only
    cases valid : config.validate with
    | ok => simp [valid]
    | error fault => simp [valid, eq_comm]

/-- A configuration that a text spells is valid, and what is written for it spells it. -/
theorem Config.load_render {text : String} {c : Config} (loaded : load text = .ok c) :
    c.validate = .ok () ∧ load c.toJson.render = .ok c := by
  -- The text was read and the configuration found valid, which it is in any text.
  obtain ⟨-, valid⟩ := load_eq_ok_iff.mp loaded
  exact ⟨valid, load_eq_ok_iff.mpr ⟨roundTrips.reads_back c, valid⟩⟩

/-- Every tuning, backend and configuration is read back from what is written for it, whatever its
strings and numbers are, so that every text that is read is normalised by writing what it was read
as. A configuration that a text spells is valid, and is spelled by what is written for it. -/
theorem configurations_round_trip :
    RoundTrips NetworkTuning.toJson NetworkTuning.ofJson? ∧
      RoundTrips RtlUsbTuning.toJson RtlUsbTuning.ofJson? ∧
      RoundTrips HackRfTuning.toJson HackRfTuning.ofJson? ∧
      RoundTrips PipelineConfig.toJson PipelineConfig.ofJson? ∧
      RoundTrips Config.toJson Config.ofJson? ∧
      RoundTrips Backend.toJson Backend.ofJson? ∧
      ∀ text c, Config.load text = .ok c →
        c.validate = .ok () ∧ Config.load c.toJson.render = .ok c :=
  -- Each kind of record by its own layout, and a backend by the layout of its tuning after the tag.
  ⟨NetworkTuning.isReader.roundTrips NetworkTuning.layout_gives fun _ => rfl,
    RtlUsbTuning.isReader.roundTrips RtlUsbTuning.layout_gives fun _ => rfl,
    HackRfTuning.isReader.roundTrips HackRfTuning.layout_gives fun _ => rfl,
    PipelineConfig.isReader.roundTrips PipelineConfig.layout_gives fun _ => rfl,
    Config.roundTrips,
    .of_reads_back Backend.read?_render,
    fun _ _ => Config.load_render⟩

/-- Tunings and configurations are read from objects in any layout: the known fields, each at most
once, in any order and among any unknown members, override the defaults, and nothing else counts. So
are backends, whose tag may stand anywhere. A known field or a tag that comes twice, or an integer
field with anything but an integer of its width, makes a text unreadable. -/
theorem configurations_read_by_layout :
    NetworkTuning.layout.IsReader NetworkTuning.ofJson? ∧
      RtlUsbTuning.layout.IsReader RtlUsbTuning.ofJson? ∧
      HackRfTuning.layout.IsReader HackRfTuning.ofJson? ∧
      PipelineConfig.layout.IsReader PipelineConfig.ofJson? ∧
      Config.layout.IsReader Config.ofJson? ∧
      NetworkTuning.layout.IsTaggedReader Backend.tagKey BackendKind.network.tag .network
        Backend.ofJson? ∧
      RtlUsbTuning.layout.IsTaggedReader Backend.tagKey BackendKind.rtlUsb.tag .rtlUsb
        Backend.ofJson? ∧
      HackRfTuning.layout.IsTaggedReader Backend.tagKey BackendKind.hackRf.tag .hackRf
        Backend.ofJson? ∧
      ∀ text members, IsDocument (.object members) text →
        1 < (members.countP fun m => m.1 = some Backend.tagKey) →
          Value.read? Backend.ofJson? text = none := by
  -- Each kind of record is read by its layout, and there is one case more: two tags.
  refine ⟨NetworkTuning.isReader, RtlUsbTuning.isReader, HackRfTuning.isReader,
    PipelineConfig.isReader, Config.isReader, Backend.network_tunes.isTaggedReader,
    Backend.rtlUsb_tunes.isTaggedReader, Backend.hackRf_tunes.isTaggedReader, ?_⟩
  -- With two tags it is not even looked at what they say.
  intro text members document twice
  rw [Value.read?, parse?_of_isDocument document]
  exact Backend.ofJson?_of_tags (Nat.ne_of_gt twice)

/-- The port and the host are read from an object with a comment in front of them. -/
theorem commented_tuning_is_read :
    Value.read? NetworkTuning.ofJson?
        (Value.record [("comment", .list Value.text ["a"]), ("port", .int 80),
          ("host", .text "tuner")]).render =
      some { host := "tuner", port := 80 } := by
  -- The unknown member comes first, and the two settings are written behind it.
  have foreign : "comment" ∉ NetworkTuning.layout.keys := by decide
  have distinct : (([.port 80, .host "tuner"] : List NetworkTuning.Setting).map
      NetworkTuning.layout.key).Nodup := by decide
  have given := Layout.Members.of_written NetworkTuning.Setting.value (fun _ => rfl) distinct
  exact configurations_read_by_layout.1.overrides _ _ _ (isDocument_render _)
    (.object (.unknown foreign given))

end TunerControl
