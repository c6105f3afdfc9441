import TradeX.Lib.Runs
import TradeX.Lib.Interleaving
import TradeX.Lib.Dict
import TradeX.Lib.Text
import TradeX.Lib.Decimal
import TradeX.Lib.Numerals
import TradeX.Lib.KeyedFold
import TradeX.Lib.PairIndex
import TradeX.Lib.AverageCost
import TradeX.Lib.IsoTime
import TradeX.Lib.Json
import TradeX.Lib.Uuid
import TradeX.Lib.Binary64
import TradeX.V2.Domain
import TradeX.V2.Oms
import TradeX.V2.Risk
import TradeX.V2.Idempotency
import TradeX.V2.Engine
import TradeX.V2.EngineIdempotency
import TradeX.V2.FillSources
import TradeX.V2.PositionLimit
import TradeX.V2.IdempotencyCache
import TradeX.V2.OrdersAdapter
import TradeX.V2.CircuitBreaker
import TradeX.V2.Transport
import TradeX.V2.TransportResend
import TradeX.V2.Accounting
import TradeX.V2.FillFolding
import TradeX.V2.KillSwitch
import TradeX.V2.Submission
import TradeX.V2.ReplayParity
import TradeX.V2.PaperGateway
import TradeX.V2.MessageBus
import TradeX.V2.MessageLog
import TradeX.V2.InstrumentKeys
import TradeX.V2.InstrumentResolver
import TradeX.V2.InstrumentMaster
import TradeX.V2.BrokerWire
import TradeX.V2.DhanWire
import TradeX.V2.UpstoxWire
import TradeX.V1.DhanHttp
import TradeX.V1.UpstoxHttp
import TradeX.V1.IdempotencyCache
import TradeX.V1.OrderPlacement
import TradeX.V1.Orders
import TradeX.V1.FillReducer
import TradeX.V1.TradeRecorder
import TradeX.V1.OrderManager
import TradeX.V1.TerminalStatus
import TradeX.V1.PlacementOutcome
import TradeX.V1.Placement
import TradeX.V1.PlaceOrderOnce
import TradeX.V1.PlaceVersusFill
import TradeX.V1.OrderModification
import TradeX.V1.PositionManager
import TradeX.V1.PositionStates
import TradeX.V1.FillAtomicity
import TradeX.V1.LateTrades
import TradeX.V1.TradeConservation
import TradeX.V1.OrderStore
import TradeX.V1.RiskReservations
import TradeX.V1.SqliteLedger
import TradeX.V1.LossCircuitBreaker
import TradeX.V1.LedgerRecovery
import TradeX.V1.SimulationFills
import TradeX.V1.ProcessedTrades
import TradeX.V1.ExposureCaps
import TradeX.V1.EventBus
import TradeX.V1.AsyncEventBus
import TradeX.V2.ReservationSections
import TradeX.V1.EventReplay
import TradeX.V1.EventCodec
import TradeX.V1.EventRoundTrip
import TradeX.V1.EventLogWrites
import TradeX.V1.Accounting
import TradeX.V1.SimulationCash
import TradeX.V1.EngineParity
import TradeX.V1.GapDetector
import TradeX.V1.CandleAggregator
import TradeX.V1.QuotaScheduler
import TradeX.V1.StreamReconnect
import TradeX.V1.StreamSubscriptions
import TradeX.V1.TradingOrchestrator
import TradeX.V1.MassStatusDrift
import TradeX.V1.PaperAgreement
import TradeX.AccountingParity
import TradeX.V1.ReducingGate
import TradeX.V1.TradeDeliveries
import TradeX.V1.IdempotencyClaims
import TradeX.V2.Reconciliation
import TradeX.V2.InstrumentIdText
import TradeX.V2.StrikeForms
import TradeX.V2.InstrumentIdParse
import TradeX.V1.CorrelationIndex
import TradeX.V1.ParquetMerge
import TradeX.V1.HistoricalProvenance
import TradeX.V2.RateLimitRefusals
import TradeX.V2.RateLimitBounds
import TradeX.V1.RateRecovery
import TradeX.V2.CircuitEpisodes
import TradeX.V2.PaperOrderBook
import TradeX.V2.ComponentLifecycle
import TradeX.V1.TradePnl
import TradeX.V1.CandleAlignment
import TradeX.V1.ReplayStateAssertor
import TradeX.Lib.RingBuffer
import TradeX.Lib.Drawdown
import TradeX.Lib.Champions
import TradeX.Lib.Seen
import TradeX.Lib.Slicing
import TradeX.V1.ScheduledEvents
import TradeX.V1.ReplayWindow
import TradeX.V1.TickRouter
import TradeX.V1.MaxPain
import TradeX.V1.OptionChains
import TradeX.V1.ChainCodec
import TradeX.V1.InstrumentIds
import TradeX.V1.InstrumentIdText
import TradeX.V1.ExecutionPlan
import TradeX.V1.OrderSlicing
import TradeX.V1.PositionSizing
import TradeX.V1.SignalCoordinator
import TradeX.V1.Drawdown
import TradeX.Lib.Series
import TradeX.Lib.KeyClaims
import TradeX.V1.CorporateActions
import TradeX.V1.LiveBarSink
import TradeX.V1.LifecycleManager
import TradeX.V1.CircuitBreaker
import TradeX.V1.RetryExecutor
import TradeX.V1.QuotaAvailability
import TradeX.V1.VolumeTracker
import TradeX.V1.SwingDetection
import TradeX.V1.ExchangeSegments
import TradeX.V1.DhanSubscriptions
import TradeX.V1.UpstoxSubscriptions
import TradeX.V1.AlternateKeys
import TradeX.V1.DhanSymbolResolver
import TradeX.V1.UpstoxInstrumentResolver
import TradeX.V1.SymbolResolvers
import TradeX.Lib.Calendar
import TradeX.Lib.HoleRuns
import TradeX.V1.OptionFormat
import TradeX.V1.InternalGaps
import TradeX.V1.HistoryChunks
import TradeX.Lib.Frames
import TradeX.Lib.Edges
import TradeX.V1.ConnectionPool
import TradeX.V1.DownloadEngine
import TradeX.V1.DailyPnl
import TradeX.V1.BrokerHealth
import TradeX.V1.ConnectionAdmission
