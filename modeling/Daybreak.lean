import Daybreak.Analytics.Acceptance
import Daybreak.Analytics.Performance
import Daybreak.Analytics.Trades
import Daybreak.Effect.FirstFault
import Daybreak.Effect.Grouping
import Daybreak.Effect.KeyedLog
import Daybreak.Effect.NumberedLog
import Daybreak.Effect.Table
import Daybreak.Evaluator.FailClosed
import Daybreak.Execution.Alpaca
import Daybreak.Execution.AlpacaBroker
import Daybreak.Execution.Authority
import Daybreak.Execution.BatchExposure
import Daybreak.Execution.Containment
import Daybreak.Execution.Encoding
import Daybreak.Execution.EventSequences
import Daybreak.Execution.Reconciliation
import Daybreak.Execution.ReservationEvents
import Daybreak.Execution.Reservations
import Daybreak.Execution.TradeUpdates
import Daybreak.Execution.WriteAhead
import Daybreak.Features.Chains
import Daybreak.Features.ContextHash
import Daybreak.Features.ContextText
import Daybreak.Features.Gates
import Daybreak.Features.Nearest
import Daybreak.Features.PointInTime
import Daybreak.Features.Ties
import Daybreak.Features.VolumeProfile
import Daybreak.Numeric.Drawdown
import Daybreak.Numeric.Quotient
import Daybreak.Numeric.Shortest
import Daybreak.Orchestration.Activations
import Daybreak.Orchestration.Fencing
import Daybreak.Orchestration.KillReason
import Daybreak.Orchestration.LeaseStores
import Daybreak.Orchestration.Reconstruction
import Daybreak.Orchestration.Remaining
import Daybreak.Orchestration.Suppression
import Daybreak.Order.Timeline
import Daybreak.Recorder.Events
import Daybreak.Recorder.Postgres
import Daybreak.Recorder.Repository
import Daybreak.Recorder.Shutdown
import Daybreak.Recorder.Submissions
import Daybreak.Release.Evidence
import Daybreak.Risk.Canonical
import Daybreak.Risk.Freshness
import Daybreak.Risk.Monotone
import Daybreak.Risk.Persistence
import Daybreak.Risk.Postgres
import Daybreak.Risk.Service
import Daybreak.Scanner.Discovery
import Daybreak.Scanner.Models
import Daybreak.Scanner.Outcomes
import Daybreak.Scanner.Scorecard
import Daybreak.Scanner.Signals
import Daybreak.Serial.DecimalText
import Daybreak.Serial.Decoded
import Daybreak.Serial.FloatText
import Daybreak.Serial.JsonText
import Daybreak.Serial.Jsonb
import Daybreak.Validation.Blockers
import Daybreak.Validation.Evidence
import Daybreak.Validation.PassingOrder
import Daybreak.Scanner.Checks
import Daybreak.Effect.Cursor
import Daybreak.Recorder.Replay
import Daybreak.Recorder.Consumers
import Daybreak.Recorder.Export
import Daybreak.Effect.KeyedInserts
import Daybreak.Execution.Claims
import Daybreak.Recorder.Capture
import Daybreak.Recorder.Completed
import Daybreak.Effect.Emitted
import Daybreak.Orchestration.PhaseLog
import Daybreak.Orchestration.FinalPhase
