import TunerControl.Json.Fields
import TunerControl.Json.Limits
import TunerControl.Tuning.Basic

/-! Tunings and backends as JSON. Fields that are not given have their defaults. -/

namespace TunerControl

open Json (Value)

namespace NetworkTuning

/-- The keys of the fields, in order. -/
def keys : List String :=
  ["host", "port", "freqHz", "gain", "ppm", "biasTee"]

/-- The fields with their values, in order. -/
def members (t : NetworkTuning) : List (String × Value) :=
  [("host", .text t.host), ("port", .int t.port.toNat), ("freqHz", .int t.frequency.toNat),
   ("gain", .int t.gain.toInt), ("ppm", .int t.ppm.toInt), ("biasTee", .bool t.biasTee)]

/-- The tuning as JSON. -/
def toJson (t : NetworkTuning) : Value :=
  .record t.members

/-- The tuning that the given fields make. -/
def ofFields? (fields : Json.Fields) : Option NetworkTuning := do
  let basis : NetworkTuning := { }
  return { host := ← fields.get? "host" (·.toText?) basis.host
           port := ← fields.get? "port" (·.toUInt16?) basis.port
           frequency := ← fields.get? "freqHz" (·.toUInt64?) basis.frequency
           gain := ← fields.get? "gain" (·.toInt32?) basis.gain
           ppm := ← fields.get? "ppm" (·.toInt32?) basis.ppm
           biasTee := ← fields.get? "biasTee" (·.toBool?) basis.biasTee }

/-- The tuning that a value is. -/
def ofJson? (v : Value) : Option NetworkTuning :=
  v.fields? keys >>= ofFields?

end NetworkTuning

namespace RtlUsbTuning

/-- The keys of the fields, in order. -/
def keys : List String :=
  ["fd", "devicePath", "freqHz", "sampleRate", "gain", "ppm", "biasTee"]

/-- The fields with their values, in order. -/
def members (t : RtlUsbTuning) : List (String × Value) :=
  [("fd", .int t.fd.toInt), ("devicePath", .text t.devicePath),
   ("freqHz", .int t.frequency.toNat), ("sampleRate", .int t.sampleRate.toNat),
   ("gain", .int t.gain.toInt), ("ppm", .int t.ppm.toInt), ("biasTee", .bool t.biasTee)]

/-- The tuning as JSON. -/
def toJson (t : RtlUsbTuning) : Value :=
  .record t.members

/-- The tuning that the given fields make. -/
def ofFields? (fields : Json.Fields) : Option RtlUsbTuning := do
  let basis : RtlUsbTuning := { }
  return { fd := ← fields.get? "fd" (·.toInt32?) basis.fd
           devicePath := ← fields.get? "devicePath" (·.toText?) basis.devicePath
           frequency := ← fields.get? "freqHz" (·.toUInt64?) basis.frequency
           sampleRate := ← fields.get? "sampleRate" (·.toUInt32?) basis.sampleRate
           gain := ← fields.get? "gain" (·.toInt32?) basis.gain
           ppm := ← fields.get? "ppm" (·.toInt32?) basis.ppm
           biasTee := ← fields.get? "biasTee" (·.toBool?) basis.biasTee }

/-- The tuning that a value is. -/
def ofJson? (v : Value) : Option RtlUsbTuning :=
  v.fields? keys >>= ofFields?

end RtlUsbTuning

namespace HackRfTuning

/-- The keys of the fields, in order. -/
def keys : List String :=
  ["freqHz", "sampleRate", "lnaGain", "vgaGain"]

/-- The fields with their values, in order. -/
def members (t : HackRfTuning) : List (String × Value) :=
  [("freqHz", .int t.frequency.toNat), ("sampleRate", .int t.sampleRate.toNat),
   ("lnaGain", .int t.lnaGain.toNat), ("vgaGain", .int t.vgaGain.toNat)]

/-- The tuning as JSON. -/
def toJson (t : HackRfTuning) : Value :=
  .record t.members

/-- The tuning that the given fields make. -/
def ofFields? (fields : Json.Fields) : Option HackRfTuning := do
  let basis : HackRfTuning := { }
  return { frequency := ← fields.get? "freqHz" (·.toUInt64?) basis.frequency
           sampleRate := ← fields.get? "sampleRate" (·.toUInt32?) basis.sampleRate
           lnaGain := ← fields.get? "lnaGain" (·.toUInt32?) basis.lnaGain
           vgaGain := ← fields.get? "vgaGain" (·.toUInt32?) basis.vgaGain }

/-- The tuning that a value is. -/
def ofJson? (v : Value) : Option HackRfTuning :=
  v.fields? keys >>= ofFields?

end HackRfTuning

/-- The kind as JSON. -/
def BackendKind.toJson (k : BackendKind) : Value :=
  .text k.tag

namespace Backend

/-- The key of the member that names the kind. -/
def tagKey : String := "backend"

/-- The backend as JSON: its kind, then the fields of its tuning. -/
def toJson (b : Backend) : Value :=
  .record <| (tagKey, b.kind.toJson) :: match b with
    | network t => t.members
    | rtlUsb t => t.members
    | hackRf t => t.members

/-- The backend of a kind whose tuning a value is. -/
def ofTuning? (kind : BackendKind) (v : Value) : Option Backend :=
  match kind with
  | .network => (NetworkTuning.ofJson? v).map network
  | .rtlUsb => (RtlUsbTuning.ofJson? v).map rtlUsb
  | .hackRf => (HackRfTuning.ofJson? v).map hackRf

/-- The kind that a tag names. -/
def kindOf? (tag : Value) : Option BackendKind :=
  tag.toText? >>= BackendKind.ofTag?

/-- The values under the tag key, and the other members. -/
def splitTag (members : List (Option String × Value)) :
    List Value × List (Option String × Value) :=
  let (tagged, rest) := members.partition fun (key, _) => key = some tagKey
  (tagged.map (·.2), rest)

/-- The backend that a value is. The kind decides how the rest is read, wherever it stands, so
the whole value is held in memory first. -/
def ofJson? (v : Value) : Option Backend :=
  if !v.holdable then none else
  match v with
  | .object members =>
    match splitTag members with
    -- Exactly one member names the kind.
    | ([tag], rest) => do ofTuning? (← kindOf? tag) (.object rest)
    | _ => none
  | .array (tag :: rest) => do ofTuning? (← kindOf? tag) (.array rest)
  | _ => none

end Backend

end TunerControl
