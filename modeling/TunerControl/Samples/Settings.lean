import TunerControl.Json.Layout
import TunerControl.Samples.Config

/-! The fields of a host's configuration as settings, one by one. -/

namespace TunerControl

open Json (Layout NoIntegerOf Value)

namespace PipelineConfig

/-- A field of the configuration with its value. -/
inductive Setting where
  | bufferCount (n : UInt64)
  | bufferSize (n : UInt64)
  | queueCapacity (n : UInt64)
  | pollInterval (n : UInt64)
  | joinTimeout (n : UInt64)
  deriving DecidableEq, Repr

namespace Setting

/-- The key of the field. -/
def key : Setting → String
  | bufferCount _ => "bufferCount"
  | bufferSize _ => "bufferSize"
  | queueCapacity _ => "queueCapacity"
  | pollInterval _ => "pollInterval"
  | joinTimeout _ => "joinTimeout"

/-- The value of the field as JSON. -/
def value : Setting → Value
  | bufferCount n => .int n.toNat
  | bufferSize n => .int n.toNat
  | queueCapacity n => .int n.toNat
  | pollInterval n => .int n.toNat
  | joinTimeout n => .int n.toNat

/-- The configuration with the field set. -/
def set : Setting → PipelineConfig → PipelineConfig
  | bufferCount n, c => { c with bufferCount := n }
  | bufferSize n, c => { c with bufferSize := n }
  | queueCapacity n, c => { c with queueCapacity := n }
  | pollInterval n, c => { c with pollInterval := n }
  | joinTimeout n, c => { c with joinTimeout := n }

end Setting

/-- The bounds of the integer fields. -/
def bounds : List (String × Int × Int) :=
  keys.map fun key => (key, 0, UInt64.size - 1)

/-- The configuration field by field. -/
def layout : Layout PipelineConfig Setting where
  keys := keys
  key := Setting.key
  Writes setting v := v = setting.value
  set := Setting.set
  base := { }
  Misfit := NoIntegerOf bounds

/-- All fields of a configuration. -/
def settings (c : PipelineConfig) : List Setting :=
  [.bufferCount c.bufferCount, .bufferSize c.bufferSize, .queueCapacity c.queueCapacity,
   .pollInterval c.pollInterval, .joinTimeout c.joinTimeout]

end PipelineConfig

namespace Config

/-- A field of the configuration with its value. -/
inductive Setting where
  | pipeline (c : PipelineConfig)
  deriving DecidableEq, Repr

namespace Setting

/-- The key of the field. -/
def key : Setting → String
  | pipeline _ => "pipeline"

/-- A value is one that the field is written as: it gives settings that make up the field's value. -/
def Writes : Setting → Value → Prop
  | pipeline c, v => ∃ settings, PipelineConfig.layout.Gives v settings ∧
    PipelineConfig.layout.override settings = c

/-- The configuration with the field set. -/
def set : Setting → Config → Config
  | pipeline p, c => { c with pipeline := p }

end Setting

/-- The configuration field by field. No field has the value of a flawed object. -/
def layout : Layout Config Setting where
  keys := keys
  key := Setting.key
  Writes := Setting.Writes
  set := Setting.set
  base := { }
  Misfit key v := key = "pipeline" ∧ ∃ members, v = .object members ∧
    PipelineConfig.layout.Flawed members

/-- All fields of a configuration. -/
def settings (c : Config) : List Setting :=
  [.pipeline c.pipeline]

end Config

end TunerControl
