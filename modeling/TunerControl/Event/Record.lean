import TunerControl.Binary.Interchange
import TunerControl.Calendar
import TunerControl.Event.Kind

/-! The records that subscribers are given. -/

namespace TunerControl.Event

open Binary (Binary32 Binary64)

/-- What part of a call an event is about. -/
inductive Phase where
  | start
  | update
  | stop
  | unknown (code : Int32)
  deriving DecidableEq, Repr

namespace Phase

/-- The phase with the given code. -/
def ofCode (code : Int32) : Phase :=
  if code = 0 then start else if code = 1 then update else if code = 2 then stop else unknown code

/-- The code of a phase. -/
def code : Phase → Int32
  | start => 0
  | update => 1
  | stop => 2
  | unknown code => code

/-- The name of a phase. -/
def name : Phase → String
  | start => "Start"
  | update => "Update"
  | stop => "End"
  | unknown code => "Unknown(" ++ toString code.toInt ++ ")"

end Phase

/-- What a call event tells besides its phase. -/
structure CallDetails where
  talkgroup : Int32
  sourceId : Int32
  nac : Int32
  callType : String
  isEncrypted : Bool
  isEmergency : Bool
  algName : String
  slot : Int32
  frequency : Binary64
  systemName : String
  groupName : String
  sourceName : String
  deriving DecidableEq, Repr

/-- A call. -/
structure Call where
  phase : Phase
  details : CallDetails
  deriving DecidableEq, Repr

/-- The site that the decoder listens to. -/
structure Site where
  wacn : Int64
  siteId : Int64
  rfssId : Int64
  systemId : Int64
  nac : Int32
  deriving DecidableEq, Repr

/-- Counts of good and bad control blocks, and the state of reception. -/
structure Signal where
  tsbkOk : Int32
  tsbkErr : Int32
  syncType : Int32
  hasCarrier : Bool
  hasSync : Bool
  deriving DecidableEq, Repr

/-- A 32-bit sum that left its range. -/
inductive Overflow where
  | addition
  deriving DecidableEq, Repr

/-- The text of an overflow. -/
def Overflow.message : Overflow → String
  | addition => "attempt to add with overflow"

/-- The number that a count stands for: a negative one stands for none. -/
def countOf (n : Int32) : Nat :=
  n.toInt.toNat

/-- The share of bad control blocks among all, and zero when there are none. The total is formed
in 32 bits. -/
def Signal.errorRatio (s : Signal) : Except Overflow Binary32 :=
  let total := countOf s.tsbkOk + countOf s.tsbkErr
  if Int32.maxValue.toInt < total then .error .addition
  else if total = 0 then .ok .zero
  else .ok (.ofQuotient (countOf s.tsbkErr) total)

/-- The neighbours of a site: the frequency of each, and when it was last seen. -/
structure Network where
  neighborCount : Nat
  neighborFreqs : List Int64
  neighborLastSeen : List Int64
  deriving DecidableEq, Repr

/-- The neighbours, each with its frequency and the time it was last seen. -/
def Network.neighbors (n : Network) : List (Int64 × Int64) :=
  n.neighborFreqs.zip n.neighborLastSeen

/-- A patched supergroup. The member counts may exceed the members that are listed. -/
structure PatchEntry where
  sgid : Int32
  isPatch : Bool
  active : Bool
  lastUpdate : Int64
  wgidCount : Nat
  wgids : List Int32
  wuidCount : Nat
  wuids : List Int64
  key : Int32
  alg : Int32
  keyValid : Bool
  deriving DecidableEq, Repr

/-- When the entry was last updated. -/
def PatchEntry.lastUpdateAt (e : PatchEntry) : Option Calendar.Moment :=
  Calendar.momentOfEpoch? e.lastUpdate.toInt

/-- The table of patches. -/
structure Patch where
  patchCount : Nat
  patches : List PatchEntry
  deriving DecidableEq, Repr

/-- A radio attached to a talkgroup. -/
structure Attachment where
  rid : Int64
  tg : Int32
  lastSeen : Int64
  deriving DecidableEq, Repr

/-- When the attachment was last seen. -/
def Attachment.lastSeenAt (a : Attachment) : Option Calendar.Moment :=
  Calendar.momentOfEpoch? a.lastSeen.toInt

/-- The table of group attachments. -/
structure GroupAttachment where
  gaCount : Nat
  attachments : List Attachment
  deriving DecidableEq, Repr

/-- A radio affiliated with a site. -/
structure Radio where
  rid : Int64
  lastSeen : Int64
  deriving DecidableEq, Repr

/-- When the radio was last seen. -/
def Radio.lastSeenAt (r : Radio) : Option Calendar.Moment :=
  Calendar.momentOfEpoch? r.lastSeen.toInt

/-- The table of affiliations. -/
structure Affiliation where
  affCount : Nat
  affiliations : List Radio
  deriving DecidableEq, Repr

/-- A record with its kind. -/
inductive Record where
  | output (line : String)
  | call (call : Call)
  | site (site : Site)
  | signal (signal : Signal)
  | network (network : Network)
  | patch (patch : Patch)
  | groupAttachment (table : GroupAttachment)
  | affiliation (table : Affiliation)
  deriving DecidableEq, Repr

/-- The kind of a record. -/
def Record.kind : Record → Kind
  | output _ => .output
  | call _ => .call
  | site _ => .site
  | signal _ => .signal
  | network _ => .network
  | patch _ => .patch
  | groupAttachment _ => .groupAttachment
  | affiliation _ => .affiliation

end TunerControl.Event
