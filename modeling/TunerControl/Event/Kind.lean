/-! The kinds of decoder events and the channels they travel on. -/

namespace TunerControl.Event

/-- One kind for lines of output, and one for each sort of record. -/
inductive Kind where
  | output
  | call
  | site
  | signal
  | network
  | patch
  | groupAttachment
  | affiliation
  deriving DecidableEq, Repr

namespace Kind

/-- All kinds. -/
def all : List Kind :=
  [output, call, site, signal, network, patch, groupAttachment, affiliation]

/-- The name of a kind. -/
def name : Kind → String
  | output => "Output"
  | call => "Call"
  | site => "Site"
  | signal => "Signal"
  | network => "Network"
  | patch => "Patch"
  | groupAttachment => "GroupAttachment"
  | affiliation => "Affiliation"

/-- The channel of a kind. -/
def channel : Kind → String
  | output => "dsd_flutter/output"
  | call => "dsd_flutter/call_events"
  | site => "dsd_flutter/site_events"
  | signal => "dsd_flutter/signal_events"
  | network => "dsd_flutter/network_events"
  | patch => "dsd_flutter/patch_events"
  | groupAttachment => "dsd_flutter/group_attachment_events"
  | affiliation => "dsd_flutter/affiliation_events"

end Kind

end TunerControl.Event
