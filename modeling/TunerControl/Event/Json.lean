import TunerControl.Event.Record
import TunerControl.Json.Float
import TunerControl.Json.Printer

/-! Records as JSON. -/

namespace TunerControl.Event

open Json (Value)

/-- The call as JSON. -/
def Call.toJson (c : Call) : Value :=
  let d := c.details
  .record [("eventType", .int c.phase.code.toInt), ("talkgroup", .int d.talkgroup.toInt),
    ("sourceId", .int d.sourceId.toInt), ("nac", .int d.nac.toInt), ("callType", .text d.callType),
    ("isEncrypted", .bool d.isEncrypted), ("isEmergency", .bool d.isEmergency),
    ("algName", .text d.algName), ("slot", .int d.slot.toInt),
    ("frequency", .binary64 d.frequency), ("systemName", .text d.systemName),
    ("groupName", .text d.groupName), ("sourceName", .text d.sourceName)]

/-- The site as JSON. -/
def Site.toJson (s : Site) : Value :=
  .record [("wacn", .int s.wacn.toInt), ("siteId", .int s.siteId.toInt),
    ("rfssId", .int s.rfssId.toInt), ("systemId", .int s.systemId.toInt), ("nac", .int s.nac.toInt)]

/-- The state of reception as JSON. -/
def Signal.toJson (s : Signal) : Value :=
  .record [("tsbkOk", .int s.tsbkOk.toInt), ("tsbkErr", .int s.tsbkErr.toInt),
    ("synctype", .int s.syncType.toInt), ("hasCarrier", .bool s.hasCarrier),
    ("hasSync", .bool s.hasSync)]

/-- The neighbours as JSON. -/
def Network.toJson (n : Network) : Value :=
  .record [("neighborCount", .int n.neighborCount),
    ("neighborFreqs", .list (fun x => .int x.toInt) n.neighborFreqs),
    ("neighborLastSeen", .list (fun x => .int x.toInt) n.neighborLastSeen)]

/-- The entry as JSON. -/
def PatchEntry.toJson (e : PatchEntry) : Value :=
  .record [("sgid", .int e.sgid.toInt), ("isPatch", .bool e.isPatch), ("active", .bool e.active),
    ("lastUpdate", .int e.lastUpdate.toInt), ("wgidCount", .int e.wgidCount),
    ("wgids", .list (fun x => .int x.toInt) e.wgids), ("wuidCount", .int e.wuidCount),
    ("wuids", .list (fun x => .int x.toInt) e.wuids), ("key", .int e.key.toInt),
    ("alg", .int e.alg.toInt), ("keyValid", .bool e.keyValid)]

/-- The table of patches as JSON. -/
def Patch.toJson (p : Patch) : Value :=
  .record [("patchCount", .int p.patchCount), ("patches", .list PatchEntry.toJson p.patches)]

/-- The attachment as JSON. -/
def Attachment.toJson (a : Attachment) : Value :=
  .record [("rid", .int a.rid.toInt), ("tg", .int a.tg.toInt), ("lastSeen", .int a.lastSeen.toInt)]

/-- The table of group attachments as JSON. -/
def GroupAttachment.toJson (t : GroupAttachment) : Value :=
  .record [("gaCount", .int t.gaCount), ("attachments", .list Attachment.toJson t.attachments)]

/-- The radio as JSON. -/
def Radio.toJson (r : Radio) : Value :=
  .record [("rid", .int r.rid.toInt), ("lastSeen", .int r.lastSeen.toInt)]

/-- The table of affiliations as JSON. -/
def Affiliation.toJson (t : Affiliation) : Value :=
  .record [("affCount", .int t.affCount), ("affiliations", .list Radio.toJson t.affiliations)]

namespace Record

/-- The record as JSON. -/
def toJson : Record → Value
  | output line => .text line
  | call c => c.toJson
  | site s => s.toJson
  | signal s => s.toJson
  | network n => n.toJson
  | patch p => p.toJson
  | groupAttachment t => t.toJson
  | affiliation t => t.toJson

/-- The JSON text of the record. -/
def payload (r : Record) : String :=
  r.toJson.render

end Record

end TunerControl.Event
