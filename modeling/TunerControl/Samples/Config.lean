import TunerControl.Failure
import TunerControl.Json.Fields
import TunerControl.Json.Parser
import TunerControl.Tuning.Basic

/-! Sizing and timing of sample forwarding, and the whole configuration that a host supplies. -/

namespace TunerControl

open Json (Value)

/-- Sizes in buffers and bytes, times in milliseconds. -/
structure PipelineConfig where
  bufferCount : UInt64 := 16
  bufferSize : UInt64 := 262144
  queueCapacity : UInt64 := 64
  pollInterval : UInt64 := 100
  joinTimeout : UInt64 := 1000
  deriving DecidableEq, Repr

namespace PipelineConfig

/-- All sizes and the poll interval are positive. -/
def validate (c : PipelineConfig) : Except ConfigFault Unit := do
  ConfigFault.zeroBufferCount.unless (c.bufferCount ≠ 0)
  ConfigFault.zeroBufferSize.unless (c.bufferSize ≠ 0)
  ConfigFault.zeroQueueCapacity.unless (c.queueCapacity ≠ 0)
  ConfigFault.zeroPollInterval.unless (c.pollInterval ≠ 0)

/-- The keys of the fields, in order. -/
def keys : List String :=
  ["bufferCount", "bufferSize", "queueCapacity", "pollInterval", "joinTimeout"]

/-- The configuration as JSON. -/
def toJson (c : PipelineConfig) : Value :=
  .record [("bufferCount", .int c.bufferCount.toNat), ("bufferSize", .int c.bufferSize.toNat),
    ("queueCapacity", .int c.queueCapacity.toNat), ("pollInterval", .int c.pollInterval.toNat),
    ("joinTimeout", .int c.joinTimeout.toNat)]

/-- The configuration that the given fields make. -/
def ofFields? (fields : Json.Fields) : Option PipelineConfig := do
  let basis : PipelineConfig := { }
  return { bufferCount := ← fields.get? "bufferCount" (·.toUInt64?) basis.bufferCount
           bufferSize := ← fields.get? "bufferSize" (·.toUInt64?) basis.bufferSize
           queueCapacity := ← fields.get? "queueCapacity" (·.toUInt64?) basis.queueCapacity
           pollInterval := ← fields.get? "pollInterval" (·.toUInt64?) basis.pollInterval
           joinTimeout := ← fields.get? "joinTimeout" (·.toUInt64?) basis.joinTimeout }

/-- The configuration that a value is. -/
def ofJson? (v : Value) : Option PipelineConfig :=
  v.fields? keys >>= ofFields?

end PipelineConfig

/-- What a host configures. -/
structure Config where
  pipeline : PipelineConfig := { }
  deriving DecidableEq, Repr

namespace Config

/-- A configuration is as valid as its parts. -/
def validate (c : Config) : Except ConfigFault Unit :=
  c.pipeline.validate

/-- The keys of the fields, in order. -/
def keys : List String :=
  ["pipeline"]

/-- The configuration as JSON. -/
def toJson (c : Config) : Value :=
  .record [("pipeline", c.pipeline.toJson)]

/-- The configuration that the given fields make. -/
def ofFields? (fields : Json.Fields) : Option Config := do
  let basis : Config := { }
  return { pipeline := ← fields.get? "pipeline" PipelineConfig.ofJson? basis.pipeline }

/-- The configuration that a value is. -/
def ofJson? (v : Value) : Option Config :=
  v.fields? keys >>= ofFields?

/-- The valid configuration that a text spells. -/
def load (text : String) : Except Failure Config :=
  match Value.parse? text >>= ofJson? with
  | none => .error (.invalidArgument "failed to parse config")
  | some config =>
    match config.validate with
    | .ok () => .ok config
    | .error fault => .error (.invalidArgument fault.message)

end Config

end TunerControl
