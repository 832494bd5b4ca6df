import TunerControl.Event.Json
import TunerControl.Proofs.Console.Dongle
import TunerControl.Proofs.Request.Settlement
import TunerControl.Proofs.Samples.Delivery
import TunerControl.Proofs.Samples.Recovery
import TunerControl.Proofs.Session.Balance
import TunerControl.Proofs.Session.Initialisation
import TunerControl.Proofs.Usb.Connections
import TunerControl.Simulated.Bench
import TunerControl.Simulated.Engine
import TunerControl.Simulated.Host
import TunerControl.Usb.Step
import TunerControl.Proofs.Usb.Steps
import TunerControl.Proofs.Usb.Vetting
import TunerControl.Proofs.Usb.Completions
import TunerControl.Proofs.Usb.Superseding
import TunerControl.Proofs.Session.Acquiring
import TunerControl.Proofs.Console.Denial
import TunerControl.Proofs.Usb.Phases
import TunerControl.Session.Report
import TunerControl.Proofs.Session.Reports
import TunerControl.Event.Journal
import TunerControl.Proofs.Event.Handling
import TunerControl.Proofs.Event.Recipients
import TunerControl.Proofs.Configuration
import TunerControl.Event.Agreement
import TunerControl.Proofs.Event.Payloads
import TunerControl.Proofs.Console.Shutdown
import TunerControl.Proofs.Samples.Wiring
import TunerControl.Samples.Account
import TunerControl.Proofs.Samples.Repayment
import TunerControl.Proofs.Samples.Retirement
import TunerControl.Proofs.Samples.Detachment
import TunerControl.Proofs.Session.Vetting
import TunerControl.Proofs.Session.Connecting
import TunerControl.Proofs.Session.Refusals
import TunerControl.Proofs.Session.Attempts
import TunerControl.Event.Column
import TunerControl.Proofs.Event.Rows
import TunerControl.Proofs.Event.Members
import TunerControl.Proofs.Samples.Occupancy
import TunerControl.Proofs.Samples.Submissions
import TunerControl.Proofs.Samples.Upkeep
import TunerControl.Proofs.Session.Working
import TunerControl.Proofs.Session.Receiving
import TunerControl.Event.Account
import TunerControl.Proofs.Event.Paths
import TunerControl.Proofs.Event.Accounting
import TunerControl.Samples.Edit
import TunerControl.Proofs.Samples.Content
import TunerControl.Proofs.Samples.Recycling
import TunerControl.Binary.Value
import TunerControl.Proofs.Binary.Nearest
import TunerControl.Proofs.Binary.Quotient
import TunerControl.Proofs.Event.ErrorRatio
import TunerControl.Calendar.Clock
import TunerControl.Proofs.Event.Times
