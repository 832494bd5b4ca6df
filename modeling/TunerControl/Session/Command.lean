import TunerControl.FilterMode
import TunerControl.Json.Printer
import TunerControl.Request
import TunerControl.Samples.Plant
import TunerControl.Tuning.Json

/-! The commands that the decoder engine and the transceiver's driver are given. -/

namespace TunerControl.Session

open Json (Value)
open Samples (Activity Bytes Plant)

/-- A command to the decoder engine. -/
inductive Command where
  | connectNetwork (tuning : NetworkTuning)
  | start
  | stop
  | cleanup
  | setAudioEnabled (enabled : Bool)
  | openRtlUsb (tuning : RtlUsbTuning)
  | closeRtlUsb
  | setRtlFrequency (frequency : UInt64)
  | setRtlGain (gain : Int32)
  | startHackRfMode (frequency : UInt64) (sampleRate : UInt32)
  | feedSamples (samples : Bytes)
  | stopHackRfMode
  | setFilterMode (mode : Int32)
  | setFilterTalkgroups (talkgroups : List Int32)
  | addFilterTalkgroup (talkgroup : Int32)
  | removeFilterTalkgroup (talkgroup : Int32)
  | clearFilterTalkgroups
  | setCustomArgs (args : String)
  | setRetuneFrozen (frozen : Bool)
  | retune (frequency : UInt64)
  | resetP25State
  | setBiasTee (enabled : Bool)
  | setEventHandler
  | clearEventHandler
  deriving DecidableEq, Repr

namespace Command

/-- The word for a command. -/
def word : Command → String
  | connectNetwork _ => "connect_network"
  | start => "start"
  | stop => "stop"
  | cleanup => "cleanup"
  | setAudioEnabled _ => "set_audio_enabled"
  | openRtlUsb _ => "open_rtl_usb"
  | closeRtlUsb => "close_rtl_usb"
  | setRtlFrequency _ => "set_rtl_frequency"
  | setRtlGain _ => "set_rtl_gain"
  | startHackRfMode _ _ => "start_hackrf_mode"
  | feedSamples _ => "feed_samples"
  | stopHackRfMode => "stop_hackrf_mode"
  | setFilterMode _ => "set_filter_mode"
  | setFilterTalkgroups _ => "set_filter_talkgroups"
  | addFilterTalkgroup _ => "add_filter_talkgroup"
  | removeFilterTalkgroup _ => "remove_filter_talkgroup"
  | clearFilterTalkgroups => "clear_filter_talkgroups"
  | setCustomArgs _ => "set_custom_args"
  | setRetuneFrozen _ => "set_retune_frozen"
  | retune _ => "retune"
  | resetP25State => "reset_p25_state"
  | setBiasTee _ => "set_bias_tee"
  | setEventHandler => "set_event_handler"
  | clearEventHandler => "clear_event_handler"

/-- The arguments of a command in words. -/
def arguments : Command → List String
  | connectNetwork t => [t.toJson.render]
  | openRtlUsb t => [t.toJson.render]
  | setAudioEnabled b | setRetuneFrozen b | setBiasTee b => [toString b]
  | setRtlFrequency f | retune f => [toString f.toNat]
  | setRtlGain g => [toString g.toInt]
  | startHackRfMode f r => [toString f.toNat, toString r.toNat]
  | setFilterMode m => [toString m.toInt]
  | setFilterTalkgroups ts => [(Value.list (fun t => .int t.toInt) ts).render]
  | addFilterTalkgroup t | removeFilterTalkgroup t => [toString t.toInt]
  | setCustomArgs args => [args]
  | _ => []

/-- A command with its arguments on one line. -/
def line (c : Command) : String :=
  " ".intercalate (c.word :: c.arguments)

end Command

/-- A command that was given: whether the engine accepted it, and how many calls the USB service
had had by then. -/
structure Issued where
  command : Command
  accepted : Bool
  hostCalls : Nat
  deriving DecidableEq, Repr

/-- The decoder engine in a state of its own, which commands may change. -/
class Engine (G : Type) where
  /-- How a command is answered. -/
  issue : G → Command → Outcome Unit × G
  /-- Whether RTL-SDR dongles can be opened in the engine. -/
  supportsRtlUsb : G → Bool
  /-- The number of the filter mode in force. -/
  filterMode : G → Int32
  /-- The write end of the sample pipe. -/
  pipeFd : G → Int32
  /-- What goes on at the plant while a caller waits for a worker of it to end. -/
  meanwhile : G → Plant → List Activity × G

/-- A command to the driver of a HackRF. -/
inductive DriverCall where
  | init
  | setFrequency (frequency : UInt64)
  | setSampleRate (rate : UInt32)
  | setLnaGain (gain : UInt32)
  | setVgaGain (gain : UInt32)
  | startRx
  | stop
  deriving DecidableEq, Repr

namespace DriverCall

/-- The word for a command. -/
def word : DriverCall → String
  | init => "init"
  | setFrequency _ => "set_frequency"
  | setSampleRate _ => "set_sample_rate"
  | setLnaGain _ => "set_lna_gain"
  | setVgaGain _ => "set_vga_gain"
  | startRx => "start_rx"
  | stop => "stop"

/-- A command with its arguments on one line. -/
def line (c : DriverCall) : String :=
  " ".intercalate <| c.word :: match c with
    | setFrequency f => [toString f.toNat]
    | setSampleRate r => [toString r.toNat]
    | setLnaGain g | setVgaGain g => [toString g.toNat]
    | _ => []

end DriverCall

/-- What comes of asking a driver to initialise: its report, if it is there before the call
returns, and the failure of the call, if it fails. -/
structure InitReply where
  report : Option (Except String Unit)
  failure : Option Failure

/-- What comes of asking a driver to receive: what it does with its producer before the call
returns, and how the call ends. -/
structure ReceiveReply where
  activities : List Activity
  outcome : Outcome Unit

/-- The driver of a HackRF in a state of its own, which commands may change. A session's number
stands for the callback that reports on its initialisation. -/
class HackRfDriver (D : Type) where
  /-- How a command other than the following two is answered. -/
  issue : D → DriverCall → Outcome Unit × D
  /-- Begins to initialise the hardware for a session. -/
  begin : D → Nat → InitReply × D
  /-- Begins to receive into buffers of a run. -/
  receive : D → Nat → Plant → ReceiveReply × D

end TunerControl.Session
