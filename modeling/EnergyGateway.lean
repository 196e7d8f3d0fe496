import EnergyGateway.Main
import EnergyGateway.Transport.Link
import EnergyGateway.Transport.Supervision
import EnergyGateway.Proofs.Session.Course
import EnergyGateway.Proofs.Session.Atomicity
import EnergyGateway.Proofs.Inventory
import EnergyGateway.Proofs.Session.Target
import EnergyGateway.Transport.Traffic
import EnergyGateway.Proofs.Transport.Ledger
import EnergyGateway.Proofs.Transport.Orphans
import EnergyGateway.Proofs.Transport.Pairing
import EnergyGateway.Proofs.Json.Extent
import EnergyGateway.Proofs.Listing.Page
import EnergyGateway.Proofs.Store
import EnergyGateway.Proofs.Text.Percent
import EnergyGateway.Proofs.Form.Encoding
import EnergyGateway.Proofs.Form.Fields
import EnergyGateway.Proofs.Form.Draft
import EnergyGateway.Proofs.Configuration.Forms
import EnergyGateway.Transport.Supervisors
import EnergyGateway.Proofs.ComponentId
import EnergyGateway.Proofs.Transport.Supervision
import EnergyGateway.Proofs.Session.Addition
import EnergyGateway.Proofs.KeyMap
import EnergyGateway.Proofs.Session.Room
import EnergyGateway.Proofs.Session.Ids
import EnergyGateway.Proofs.Session.Manageable
import EnergyGateway.Proofs.Decision
import EnergyGateway.Proofs.Digest
import EnergyGateway.Proofs.Decimal
import EnergyGateway.Proofs.Session.Account
import EnergyGateway.Proofs.Configuration.Reading
import EnergyGateway.Proofs.Settings
import EnergyGateway.Proofs.Json.OpenRecord
import EnergyGateway.Proofs.Records
import EnergyGateway.Proofs.Json.Compact
import EnergyGateway.Proofs.Json.ClosedRecord
import EnergyGateway.Proofs.ClosedRecords
import EnergyGateway.Proofs.Inventory.Exact
import EnergyGateway.Proofs.Installation.Limit
import EnergyGateway.Proofs.Session.Limit
import EnergyGateway.Proofs.Session.Rating
import EnergyGateway.Proofs.Session.Roles
import EnergyGateway.Proofs.Session.Ports
import EnergyGateway.Proofs.Store.Failures
import EnergyGateway.Proofs.Form.Property
import EnergyGateway.Proofs.Session.Properties
import EnergyGateway.Proofs.Session.Controller
import EnergyGateway.Proofs.Session.Place
import EnergyGateway.Proofs.PowerLimit
import EnergyGateway.Proofs.Quantity.Numbers
import EnergyGateway.Proofs.Session.Power
import EnergyGateway.Session.Refreshing
import EnergyGateway.Proofs.Session.Refresh
import EnergyGateway.Proofs.Session.Tries
import EnergyGateway.Proofs.Form.Edits
import EnergyGateway.Proofs.CommandLine.Watching
import EnergyGateway.Proofs.Http.Url
import EnergyGateway.Proofs.Session.Entries
