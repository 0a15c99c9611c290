import Backtest.Main
import Backtest.Proofs.Language.ReadTrees
import Backtest.Proofs.Language.RoundTrip
import Backtest.Proofs.Simulation.CallLog
import Backtest.Proofs.Simulation.LedgerNet
import Backtest.Proofs.Simulation.LookAhead
import Backtest.Proofs.Simulation.OrderHistory
import Backtest.Proofs.Trading.NetPosition
import Backtest.Proofs.Component.Visits
import Backtest.Proofs.Component.Calls
import Backtest.Proofs.Component.LoadReport
import Backtest.Proofs.Component.StrictLoad
import Backtest.Proofs.Component.Initialization
import Backtest.Proofs.Component.RegistryChanges
import Backtest.Proofs.Component.Registrations
import Backtest.Proofs.Language.Literals
import Backtest.Proofs.Language.ScriptLines
import Backtest.Proofs.Language.ScriptRuns
import Backtest.Proofs.Language.DefinitionLists
import Backtest.Proofs.Language.Mentions
import Backtest.Proofs.Simulation.PriceAccess
import Backtest.Proofs.Language.Surroundings
import Backtest.Proofs.Language.Independence
import Backtest.Proofs.Language.DefinitionLine
import Backtest.Proofs.CommandLine.Overrides
import Backtest.Proofs.Files.Growth
import Backtest.Proofs.Run.Configuration
import Backtest.Proofs.Run.Events
import Backtest.Proofs.Run.Stages
import Backtest.Proofs.Run.DateRange
import Backtest.Proofs.CommandLine.Validation
import Backtest.Proofs.Simulation.OrderCounts
import Backtest.Proofs.Number.Shortest
import Backtest.Proofs.Format.NumberText
import Backtest.Proofs.Format.Documents
import Backtest.Proofs.Calendar.DateText
import Backtest.Proofs.Calendar.Sessions
import Backtest.Proofs.LookUps
import Backtest.Proofs.Metrics.SetReports
import Backtest.Proofs.Results.Document
import Backtest.Proofs.Run.Persistence
import Backtest.Proofs.Trading.OrderLifecycle
import Backtest.Proofs.Trading.SymbolHistory
import Backtest.Proofs.Number.Wholes
import Backtest.Proofs.Language.Integers
import Backtest.Proofs.Language.IntegerOrder
import Backtest.Proofs.Language.Reach
import Backtest.Proofs.Metrics.Restart
import Backtest.Proofs.Language.Assignments
import Backtest.Proofs.Language.HostFailures
import Backtest.Proofs.Simulation.FailedColumns
import Backtest.Proofs.Language.Cursor
import Backtest.Proofs.Language.Walks
import Backtest.Proofs.Language.WalkedLexemes
import Backtest.Proofs.Language.Boundaries
import Backtest.Proofs.Language.Margins
import Backtest.Proofs.Language.Caret
import Backtest.Proofs.Calendar.Parts
import Backtest.Proofs.Calendar.Easter
import Backtest.Proofs.Calendar.Holidays
import Backtest.Proofs.Language.CallTrace
import Backtest.Proofs.Language.CallDepth
import Backtest.Proofs.Market.PointInTime
import Backtest.Proofs.Text.UpperCase
import Backtest.Proofs.Market.Listings
import Backtest.Proofs.Market.Assets
import Backtest.Proofs.Calendar.Stamps
import Backtest.Proofs.Files.Paths
import Backtest.Proofs.Market.Ingestions
import Backtest.Proofs.Market.BenchmarkRows
import Backtest.Proofs.Number.Notation
import Backtest.Proofs.Language.NumberTokens
import Backtest.Proofs.Language.NumberFaults
