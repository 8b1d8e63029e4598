import Reconciler.Alert
import Reconciler.Api.Collection
import Reconciler.Api.Exchange
import Reconciler.Api.Listing
import Reconciler.Api.PhasePatch
import Reconciler.Backoff
import Reconciler.Bell
import Reconciler.Cache
import Reconciler.Capacity
import Reconciler.Configuration
import Reconciler.Decimal.Positional
import Reconciler.Decimal.Scientific
import Reconciler.Decimal.Shortest
import Reconciler.Dictionary
import Reconciler.Duration
import Reconciler.Exposition
import Reconciler.Failure
import Reconciler.Handler
import Reconciler.Http.Head
import Reconciler.Http.Response
import Reconciler.Http.Status
import Reconciler.Http.Target
import Reconciler.Journal
import Reconciler.Json.Cursor
import Reconciler.Json.Decode
import Reconciler.Json.Document
import Reconciler.Json.Fault
import Reconciler.Json.Printer
import Reconciler.Json.Reader
import Reconciler.Json.Value
import Reconciler.Key
import Reconciler.Main
import Reconciler.Metadata
import Reconciler.Net.Address
import Reconciler.Net.Reader
import Reconciler.Node
import Reconciler.Node.Reader
import Reconciler.Pod
import Reconciler.Pod.Reader
import Reconciler.Program
import Reconciler.Quantity
import Reconciler.Queue
import Reconciler.Reporter
import Reconciler.Resource
import Reconciler.Service
import Reconciler.Settings
import Reconciler.Simulation.Bench
import Reconciler.Simulation.Offline
import Reconciler.Simulation.Rehearsal
import Reconciler.Simulation.Schedule
import Reconciler.Simulation.Trial
import Reconciler.System.Action
import Reconciler.System.Basic
import Reconciler.System.Relay
import Reconciler.System.Round
import Reconciler.Table
import Reconciler.Text.Blank
import Reconciler.Text.Numeral
import Reconciler.Text.Printable
import Reconciler.Text.Quoted
import Reconciler.VirtualMachine.Basic
import Reconciler.VirtualMachine.Codec
import Reconciler.VirtualMachine.Schema
import Reconciler.Work
import Reconciler.Proofs.Mailbox
import Reconciler.Proofs.QueueRefinement
import Reconciler.Proofs.Run
import Reconciler.Proofs.Turn
import Reconciler.Proofs.Custody
import Reconciler.Proofs.Adoption
import Reconciler.Proofs.Convergence
import Reconciler.Proofs.ChangeStream
import Reconciler.Proofs.Addressing
import Reconciler.Proofs.Summary
import Reconciler.Proofs.Failing
import Reconciler.Proofs.Ledger
import Reconciler.Proofs.RetryBudget
import Reconciler.Proofs.LateReturn
import Reconciler.Proofs.Lobby
import Reconciler.Proofs.Wakefulness
import Reconciler.Proofs.Conduct
import Reconciler.Proofs.SyncBarrier
import Reconciler.Proofs.Course
import Reconciler.Proofs.Shutdown
import Reconciler.Proofs.FailureCount
import Reconciler.Proofs.PendingAlerts
import Reconciler.Proofs.AlertDelivery
import Reconciler.Proofs.NodeNotices
import Reconciler.Proofs.AlertTrail
import Reconciler.Proofs.AlertBudget
import Reconciler.Proofs.LostNodes
import Reconciler.Proofs.Settlement
import Reconciler.Proofs.WatchResults
import Reconciler.Proofs.Observed
import Reconciler.Proofs.Bookkeeping
import Reconciler.Proofs.PhaseWrites
import Reconciler.Proofs.PhaseBudget
import Reconciler.Proofs.FailureStreaks
import Reconciler.Proofs.Relisting
import Reconciler.Proofs.Timetable
import Reconciler.Proofs.Docket
import Reconciler.Proofs.Itinerary
import Reconciler.Proofs.RetrySchedule
import Reconciler.Proofs.CountedCapacity
import Reconciler.Proofs.SignedNumerals
import Reconciler.Proofs.TextualKey
import Reconciler.Proofs.QuantityGrammar
import Reconciler.Proofs.DocumentValues
import Reconciler.Proofs.RecordDecoding
import Reconciler.Proofs.MachineFormat
import Reconciler.Proofs.RadixNumerals
import Reconciler.Proofs.EndpointText
import Reconciler.Proofs.ListenAddress
