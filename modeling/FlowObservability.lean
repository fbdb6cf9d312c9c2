import FlowObservability.Library.Budget
import FlowObservability.Library.Json
import FlowObservability.Library.JsonFields
import FlowObservability.Library.JsonText
import FlowObservability.Library.Packing
import FlowObservability.Library.Runs
import FlowObservability.Library.Table
import FlowObservability.Library.Tally
import FlowObservability.Library.Text
import FlowObservability.Library.Transaction
import FlowObservability.Library.Words
import FlowObservability.Model
import FlowObservability.Envelope
import FlowObservability.EnvelopeText
import FlowObservability.Packet
import FlowObservability.PacketReads
import FlowObservability.PacketTruncation
import FlowObservability.PacketLink
import FlowObservability.PacketFragments
import FlowObservability.PacketFrames
import FlowObservability.PacketChecked
import FlowObservability.Aggregate
import FlowObservability.AggregateSplit
import FlowObservability.Sqlite
import FlowObservability.Spool
import FlowObservability.SpoolSteps
import FlowObservability.SpoolHistory
import FlowObservability.SpoolAccount
import FlowObservability.SpoolBudget
import FlowObservability.SpoolGrowth
import FlowObservability.SpoolEviction
import FlowObservability.SpoolNeedless
import FlowObservability.SpoolLimits
import FlowObservability.SpoolPages
import FlowObservability.SpoolPending
import FlowObservability.SpoolGaps
import FlowObservability.Capture
import FlowObservability.CaptureConservation
import FlowObservability.CaptureCounters
import FlowObservability.CaptureLoss
import FlowObservability.CaptureRounds
import FlowObservability.CaptureSteps
import FlowObservability.Control
import FlowObservability.ControlLedger
import FlowObservability.ControlRefinement
import FlowObservability.ControlHistory
import FlowObservability.ControlRetention
import FlowObservability.ControlQueries
import FlowObservability.ControlConfluence
import FlowObservability.ControlIsolation
import FlowObservability.ControlConflicts
import FlowObservability.SeriesConservation
import FlowObservability.QueryAgreement
import FlowObservability.ControlSums
import FlowObservability.Upload
import FlowObservability.Routes
import FlowObservability.Admission
import FlowObservability.SpoolRoundTrip
import FlowObservability.Delivery
import FlowObservability.DeliverySafety
import FlowObservability.DeliveryOrder
import FlowObservability.DeliveryCompleteness
import FlowObservability.DeliveryDrained
import FlowObservability.UploadOnce
import FlowObservability.UploadPasses
import FlowObservability.UploadRefinement
import FlowObservability.Fleet
import FlowObservability.FleetRefinement
import FlowObservability.FleetPackets
import FlowObservability.FleetTotals
import FlowObservability.Dashboard
import FlowObservability.DashboardSteps
import FlowObservability.DashboardSelection
import FlowObservability.DashboardSources
import FlowObservability.DashboardSettling
import FlowObservability.Observed
import FlowObservability.DashboardTable
import FlowObservability.Deployment
