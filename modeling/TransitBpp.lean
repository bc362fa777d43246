import TransitBpp.Interleave
import TransitBpp.Table
import TransitBpp.Js
import TransitBpp.Gregorian
import TransitBpp.Types
import TransitBpp.Catalogue
import TransitBpp.Calendar
import TransitBpp.Pricing
import TransitBpp.Ranking
import TransitBpp.Seats
import TransitBpp.SoldSets
import TransitBpp.GenderLocks
import TransitBpp.Wire
import TransitBpp.Manifest
import TransitBpp.Manifests
import TransitBpp.Refusals
import TransitBpp.Redaction
import TransitBpp.Stripping
import TransitBpp.Store
import TransitBpp.Server
import TransitBpp.Handlers
import TransitBpp.Knowledge
import TransitBpp.Operations
import TransitBpp.Effects
import TransitBpp.Moves
import TransitBpp.Ledger
import TransitBpp.Runs
import TransitBpp.LiveHolds
import TransitBpp.Uniform
import TransitBpp.Availability
import TransitBpp.Reads
import TransitBpp.Deadlines
import TransitBpp.Acquiring
import TransitBpp.Slabs
import TransitBpp.Refunds
import TransitBpp.Settlement
import TransitBpp.Orders
import TransitBpp.Clearable
import TransitBpp.Rewrites
import TransitBpp.StoredOrders
import TransitBpp.Serial
import TransitBpp.Commitments
import TransitBpp.Retention
import TransitBpp.Quotes
import TransitBpp.Cancelling
import TransitBpp.Retries
import TransitBpp.StoredRefunds
import TransitBpp.Charges
import TransitBpp.BuyerApps
import TransitBpp.Isolation
import TransitBpp.Dates
import TransitBpp.ItemIds
import TransitBpp.Reconnecting
import TransitBpp.Outages
import TransitBpp.Atomicity
import TransitBpp.Queue
import TransitBpp.Bookkeeping
import TransitBpp.Bits
import TransitBpp.Passes
import TransitBpp.Base32
import TransitBpp.Totp
import TransitBpp.Concessions
import TransitBpp.TransitOrders
import TransitBpp.Journeys
import TransitBpp.Confirmations
import TransitBpp.PassRides
import TransitBpp.HttpSource
import TransitBpp.FleetManifest
import TransitBpp.Conservation
import TransitBpp.Convergence
import TransitBpp.Migrations
import TransitBpp.Publication
import TransitBpp.Selecting
import TransitBpp.Fulfillments
import TransitBpp.PassWindows
import TransitBpp.Quoting
import TransitBpp.Sales
import TransitBpp.QuotedHolds
import TransitBpp.Agreement
import TransitBpp.Desk
import TransitBpp.Progress
import TransitBpp.InFlight
import TransitBpp.Schema
import TransitBpp.Schemas
import TransitBpp.Requests
import TransitBpp.Answering
import TransitBpp.Exchanges
import TransitBpp.Circulation
import TransitBpp.Confirming
import TransitBpp.TransitCatalogues
import TransitBpp.TransitDesk
import TransitBpp.TransitFailures
import TransitBpp.TransitFitting
import TransitBpp.TransitTickets
import TransitBpp.TransitPublishing
import TransitBpp.TransitStanding
import TransitBpp.TransitCallbacks
import TransitBpp.TransitExchanges
import TransitBpp.TransitProgress
import TransitBpp.TransitAgreement
