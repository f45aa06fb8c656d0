import HostFleet.Event
import HostFleet.Main
import HostFleet.Registry.Operation
import HostFleet.Report.Interleaving
import HostFleet.Rehearsal.Double
import HostFleet.Rehearsal.Reports
import HostFleet.Rehearsal.Talk
import HostFleet.Proofs.Registry.Frame
import HostFleet.Proofs.Registry.Consistent
import HostFleet.Proofs.Registry.Records
import HostFleet.Proofs.Report.Effect
import HostFleet.Proofs.Gossip.Datagram
import HostFleet.Proofs.History
import HostFleet.Proofs.Gossip.Membership
import HostFleet.Proofs.Report.LastReport
import HostFleet.Proofs.Report.Acceptable
import HostFleet.Proofs.Report.Framing
import HostFleet.Proofs.Report.Acknowledgement
import HostFleet.Proofs.Registry.Selection
import HostFleet.Proofs.Registry.Fairness
import HostFleet.Proofs.Registry.Sweep
import HostFleet.Proofs.Report.Conversation
import HostFleet.Proofs.Http.Word
import HostFleet.Proofs.Http.Authority
import HostFleet.Proofs.Http.Framing
import HostFleet.Proofs.Proxy.Contact
import HostFleet.Proofs.Proxy.Path
import HostFleet.Proofs.Proxy.Retarget
import HostFleet.Proofs.Http.Host
import HostFleet.Proofs.Proxy.Lead
import HostFleet.Proofs.Proxy.Destination
import HostFleet.Proofs.Report.Stream
import HostFleet.Proofs.Route.Resolution
import HostFleet.Proofs.Report.Writes
import HostFleet.Proofs.Report.Independence
import HostFleet.Proofs.Report.Ownership
import HostFleet.Proofs.Text.Utf8
import HostFleet.Proofs.Decimal.Digits
import HostFleet.Proofs.Gossip.Codec
import HostFleet.Proofs.Gossip.Language
import HostFleet.Proofs.Gossip.Sender
import HostFleet.Proofs.Settings.Start
import HostFleet.Proofs.Gossip.Announcement
import HostFleet.Proofs.Proxy.Placement
import HostFleet.Proofs.Proxy.Transparency
import HostFleet.Proofs.Json.Lexing
import HostFleet.Proofs.Json.Reread
import HostFleet.Proofs.Json.Kept
import HostFleet.Proofs.Json.Whole
import HostFleet.Proofs.Json.Parts
import HostFleet.Proofs.Record.Faithful
import HostFleet.Proofs.Json.Strings
import HostFleet.Proofs.Report.Deletion
import HostFleet.Proofs.Report.Batch
import HostFleet.Proofs.Envelope
import HostFleet.Proofs.Endpoint.Staleness
import HostFleet.Proofs.Text.Occurrence
import HostFleet.Proofs.Route.Order
import HostFleet.Proofs.Logging.Cleanup
import HostFleet.Proofs.Report.Listing
import HostFleet.Proofs.Http.Grouped
import HostFleet.Proofs.Proxy.Opening
import HostFleet.Proofs.Address.Literal
import HostFleet.Proofs.Report.Attribution
import HostFleet.Proofs.Http.Settled
import HostFleet.Proofs.Proxy.Passage
import HostFleet.Proofs.Report.Closing
import HostFleet.Proofs.Provision
import HostFleet.Proofs.Text.Fields
import HostFleet.Proofs.Http.Upgrade
