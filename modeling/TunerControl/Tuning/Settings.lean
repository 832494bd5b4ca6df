import TunerControl.Json.Layout
import TunerControl.Tuning.Json

/-! The fields of tunings as settings, one by one. -/

namespace TunerControl

open Json (Layout NoIntegerOf Value)

namespace NetworkTuning

/-- A field of the tuning with its value. -/
inductive Setting where
  | host (s : String)
  | port (n : UInt16)
  | frequency (n : UInt64)
  | gain (n : Int32)
  | ppm (n : Int32)
  | biasTee (b : Bool)
  deriving DecidableEq, Repr

namespace Setting

/-- The key of the field. -/
def key : Setting → String
  | host _ => "host"
  | port _ => "port"
  | frequency _ => "freqHz"
  | gain _ => "gain"
  | ppm _ => "ppm"
  | biasTee _ => "biasTee"

/-- The value of the field as JSON. -/
def value : Setting → Value
  | host s => .text s
  | port n => .int n.toNat
  | frequency n => .int n.toNat
  | gain n => .int n.toInt
  | ppm n => .int n.toInt
  | biasTee b => .bool b

/-- The tuning with the field set. -/
def set : Setting → NetworkTuning → NetworkTuning
  | host s, t => { t with host := s }
  | port n, t => { t with port := n }
  | frequency n, t => { t with frequency := n }
  | gain n, t => { t with gain := n }
  | ppm n, t => { t with ppm := n }
  | biasTee b, t => { t with biasTee := b }

end Setting

/-- The bounds of the integer fields. -/
def bounds : List (String × Int × Int) :=
  [("port", 0, UInt16.size - 1), ("freqHz", 0, UInt64.size - 1),
   ("gain", Int32.minValue.toInt, Int32.maxValue.toInt),
   ("ppm", Int32.minValue.toInt, Int32.maxValue.toInt)]

/-- The tuning field by field. -/
def layout : Layout NetworkTuning Setting where
  keys := keys
  key := Setting.key
  Writes setting v := v = setting.value
  set := Setting.set
  base := { }
  Misfit := NoIntegerOf bounds

/-- All fields of a tuning. -/
def settings (t : NetworkTuning) : List Setting :=
  [.host t.host, .port t.port, .frequency t.frequency, .gain t.gain, .ppm t.ppm,
   .biasTee t.biasTee]

end NetworkTuning

namespace RtlUsbTuning

/-- A field of the tuning with its value. -/
inductive Setting where
  | fd (n : Int32)
  | devicePath (s : String)
  | frequency (n : UInt64)
  | sampleRate (n : UInt32)
  | gain (n : Int32)
  | ppm (n : Int32)
  | biasTee (b : Bool)
  deriving DecidableEq, Repr

namespace Setting

/-- The key of the field. -/
def key : Setting → String
  | fd _ => "fd"
  | devicePath _ => "devicePath"
  | frequency _ => "freqHz"
  | sampleRate _ => "sampleRate"
  | gain _ => "gain"
  | ppm _ => "ppm"
  | biasTee _ => "biasTee"

/-- The value of the field as JSON. -/
def value : Setting → Value
  | fd n => .int n.toInt
  | devicePath s => .text s
  | frequency n => .int n.toNat
  | sampleRate n => .int n.toNat
  | gain n => .int n.toInt
  | ppm n => .int n.toInt
  | biasTee b => .bool b

/-- The tuning with the field set. -/
def set : Setting → RtlUsbTuning → RtlUsbTuning
  | fd n, t => { t with fd := n }
  | devicePath s, t => { t with devicePath := s }
  | frequency n, t => { t with frequency := n }
  | sampleRate n, t => { t with sampleRate := n }
  | gain n, t => { t with gain := n }
  | ppm n, t => { t with ppm := n }
  | biasTee b, t => { t with biasTee := b }

end Setting

/-- The bounds of the integer fields. -/
def bounds : List (String × Int × Int) :=
  [("fd", Int32.minValue.toInt, Int32.maxValue.toInt), ("freqHz", 0, UInt64.size - 1),
   ("sampleRate", 0, UInt32.size - 1), ("gain", Int32.minValue.toInt, Int32.maxValue.toInt),
   ("ppm", Int32.minValue.toInt, Int32.maxValue.toInt)]

/-- The tuning field by field. -/
def layout : Layout RtlUsbTuning Setting where
  keys := keys
  key := Setting.key
  Writes setting v := v = setting.value
  set := Setting.set
  base := { }
  Misfit := NoIntegerOf bounds

/-- All fields of a tuning. -/
def settings (t : RtlUsbTuning) : List Setting :=
  [.fd t.fd, .devicePath t.devicePath, .frequency t.frequency, .sampleRate t.sampleRate,
   .gain t.gain, .ppm t.ppm, .biasTee t.biasTee]

end RtlUsbTuning

namespace HackRfTuning

/-- A field of the tuning with its value. -/
inductive Setting where
  | frequency (n : UInt64)
  | sampleRate (n : UInt32)
  | lnaGain (n : UInt32)
  | vgaGain (n : UInt32)
  deriving DecidableEq, Repr

namespace Setting

/-- The key of the field. -/
def key : Setting → String
  | frequency _ => "freqHz"
  | sampleRate _ => "sampleRate"
  | lnaGain _ => "lnaGain"
  | vgaGain _ => "vgaGain"

/-- The value of the field as JSON. -/
def value : Setting → Value
  | frequency n => .int n.toNat
  | sampleRate n => .int n.toNat
  | lnaGain n => .int n.toNat
  | vgaGain n => .int n.toNat

/-- The tuning with the field set. -/
def set : Setting → HackRfTuning → HackRfTuning
  | frequency n, t => { t with frequency := n }
  | sampleRate n, t => { t with sampleRate := n }
  | lnaGain n, t => { t with lnaGain := n }
  | vgaGain n, t => { t with vgaGain := n }

end Setting

/-- The bounds of the integer fields. -/
def bounds : List (String × Int × Int) :=
  [("freqHz", 0, UInt64.size - 1), ("sampleRate", 0, UInt32.size - 1),
   ("lnaGain", 0, UInt32.size - 1), ("vgaGain", 0, UInt32.size - 1)]

/-- The tuning field by field. -/
def layout : Layout HackRfTuning Setting where
  keys := keys
  key := Setting.key
  Writes setting v := v = setting.value
  set := Setting.set
  base := { }
  Misfit := NoIntegerOf bounds

/-- All fields of a tuning. -/
def settings (t : HackRfTuning) : List Setting :=
  [.frequency t.frequency, .sampleRate t.sampleRate, .lnaGain t.lnaGain, .vgaGain t.vgaGain]

end HackRfTuning

end TunerControl
