/-! What a session is tuned to, one record per kind of front end, and which tunings are valid. -/

namespace TunerControl

namespace Text

/-- The code points with the property White_Space of Unicode, as closed ranges. -/
def whiteSpace : List (Nat × Nat) :=
  [(0x09, 0x0d), (0x20, 0x20), (0x85, 0x85), (0xa0, 0xa0), (0x1680, 0x1680), (0x2000, 0x200a),
   (0x2028, 0x2029), (0x202f, 0x202f), (0x205f, 0x205f), (0x3000, 0x3000)]

/-- Whether a character is white space. -/
def isWhiteSpace (c : Char) : Bool :=
  whiteSpace.any fun (low, high) => low ≤ c.toNat && c.toNat ≤ high

/-- Whether a text holds nothing but white space. -/
def isBlank (s : String) : Bool :=
  s.toList.all isWhiteSpace

end Text

/-- Why a configuration is not valid. -/
inductive ConfigFault where
  | blankHost
  | zeroPort
  | zeroFrequency
  | negativeDescriptor (fd : Int32)
  | emptyDevicePath
  | zeroSampleRate
  | unsupportedSampleRate (rate : UInt32)
  | unsupportedLnaGain (gain : UInt32)
  | unsupportedVgaGain (gain : UInt32)
  | zeroBufferCount
  | zeroBufferSize
  | zeroQueueCapacity
  | zeroPollInterval
  deriving DecidableEq, Repr

/-- The text of a fault. -/
def ConfigFault.message : ConfigFault → String
  | blankHost => "host must not be empty"
  | zeroPort => "port must be non-zero"
  | zeroFrequency => "frequency must be positive"
  | negativeDescriptor fd => "invalid file descriptor: " ++ toString fd.toInt
  | emptyDevicePath => "device path must not be empty"
  | zeroSampleRate => "sample rate must be positive"
  | unsupportedSampleRate rate => "unsupported HackRF sample rate: " ++ toString rate.toNat
  | unsupportedLnaGain gain =>
    "unsupported LNA gain: " ++ toString gain.toNat ++ " (0-40 dB, 8 dB steps)"
  | unsupportedVgaGain gain =>
    "unsupported VGA gain: " ++ toString gain.toNat ++ " (0-62 dB, 2 dB steps)"
  | zeroBufferCount => "buffer count must be positive"
  | zeroBufferSize => "buffer size must be positive"
  | zeroQueueCapacity => "queue capacity must be positive"
  | zeroPollInterval => "poll interval must be positive"

/-- Fails with a fault unless a condition holds. -/
def ConfigFault.unless (fault : ConfigFault) (good : Bool) : Except ConfigFault Unit :=
  if good then .ok () else .error fault

/-- The frequency that a session is tuned to when none is given. -/
def defaultFrequency : UInt64 := 771181250

/-- The sample rate of a USB front end when none is given. -/
def defaultSampleRate : UInt32 := 2400000

/-- A tuner whose samples come over the network. A gain of zero is automatic. -/
structure NetworkTuning where
  host : String := "127.0.0.1"
  port : UInt16 := 1234
  frequency : UInt64 := defaultFrequency
  gain : Int32 := 48
  ppm : Int32 := 0
  biasTee : Bool := false
  deriving DecidableEq, Repr

/-- The host is not blank, and port and frequency are not zero. -/
def NetworkTuning.validate (t : NetworkTuning) : Except ConfigFault Unit := do
  ConfigFault.blankHost.unless (!Text.isBlank t.host)
  ConfigFault.zeroPort.unless (t.port ≠ 0)
  ConfigFault.zeroFrequency.unless (t.frequency ≠ 0)

/-- An RTL-SDR dongle, given by the file descriptor of its open USB connection. -/
structure RtlUsbTuning where
  fd : Int32 := -1
  devicePath : String := ""
  frequency : UInt64 := defaultFrequency
  sampleRate : UInt32 := defaultSampleRate
  gain : Int32 := 0
  ppm : Int32 := 0
  biasTee : Bool := false
  deriving DecidableEq, Repr

/-- The descriptor is not negative, the path is not empty and the rate is not zero. -/
def RtlUsbTuning.validate (t : RtlUsbTuning) : Except ConfigFault Unit := do
  (ConfigFault.negativeDescriptor t.fd).unless (0 ≤ t.fd.toInt)
  ConfigFault.emptyDevicePath.unless (t.devicePath ≠ "")
  ConfigFault.zeroSampleRate.unless (t.sampleRate ≠ 0)

/-- A HackRF in receive mode. -/
structure HackRfTuning where
  frequency : UInt64 := defaultFrequency
  sampleRate : UInt32 := defaultSampleRate
  lnaGain : UInt32 := 16
  vgaGain : UInt32 := 16
  deriving DecidableEq, Repr

namespace HackRfTuning

/-- The greatest sample rate that the hardware supports. -/
def maxSampleRate : Nat := 20000000

/-- Whether the hardware supports a sample rate. -/
def supportsRate (rate : UInt32) : Bool :=
  rate.toNat ≠ 0 && rate.toNat ≤ maxSampleRate

/-- The LNA gain is at most 40 dB and moves in steps of 8 dB. -/
def validateLnaGain (gain : UInt32) : Except ConfigFault Unit :=
  (ConfigFault.unsupportedLnaGain gain).unless (gain.toNat ≤ 40 && gain.toNat % 8 = 0)

/-- The VGA gain is at most 62 dB and moves in steps of 2 dB. -/
def validateVgaGain (gain : UInt32) : Except ConfigFault Unit :=
  (ConfigFault.unsupportedVgaGain gain).unless (gain.toNat ≤ 62 && gain.toNat % 2 = 0)

/-- The sample rate and both gains are supported. -/
def validate (t : HackRfTuning) : Except ConfigFault Unit := do
  (ConfigFault.unsupportedSampleRate t.sampleRate).unless (supportsRate t.sampleRate)
  validateLnaGain t.lnaGain
  validateVgaGain t.vgaGain

end HackRfTuning

/-- The kinds of front end that a session can run on. -/
inductive BackendKind where
  | network
  | rtlUsb
  | hackRf
  deriving DecidableEq, Repr

namespace BackendKind

/-- The name that a kind has in sentences. -/
def name : BackendKind → String
  | network => "Network"
  | rtlUsb => "RtlUsb"
  | hackRf => "HackRf"

/-- The tag that a kind has in records. -/
def tag : BackendKind → String
  | network => "network"
  | rtlUsb => "rtlUsb"
  | hackRf => "hackRf"

/-- The kind with the given tag. -/
def ofTag? (s : String) : Option BackendKind :=
  if s = "network" then some network
  else if s = "rtlUsb" then some rtlUsb
  else if s = "hackRf" then some hackRf
  else none

end BackendKind

/-- What a session is asked to connect to. -/
inductive Backend where
  | network (tuning : NetworkTuning)
  | rtlUsb (tuning : RtlUsbTuning)
  | hackRf (tuning : HackRfTuning)
  deriving DecidableEq, Repr

namespace Backend

/-- The kind of front end. -/
def kind : Backend → BackendKind
  | network _ => .network
  | rtlUsb _ => .rtlUsb
  | hackRf _ => .hackRf

/-- A backend is as valid as its tuning. -/
def validate : Backend → Except ConfigFault Unit
  | network t => t.validate
  | rtlUsb t => t.validate
  | hackRf t => t.validate

end Backend

end TunerControl
