import TradeX.V1.SimulationFills

/-! What the paper engine and the replay engine share: bars, signals, trading costs, sizing, the session
with its fill pipeline, and the processors of signals and exits, which either engine configures with its
hooks. Neither engine has an adapter to the order management here. Prices and cash are exact rationals. -/

namespace TradeX.V1

open Lib

/-- `DEFAULT_EXCHANGE`. -/
def defaultExchange : String := "NSE"

structure HistoricalBar where
  symbol : String
  timestamp : ℚ
  openPrice : ℚ
  high : ℚ
  low : ℚ
  close : ℚ
  volume : ℤ
  deriving DecidableEq, Repr

/-- The bar under the symbol of a run over one symbol. -/
def HistoricalBar.under (symbol : String) (bar : HistoricalBar) : HistoricalBar := { bar with symbol := symbol }

inductive SignalType where
  | STRONG_BUY
  | BUY
  | HOLD
  | SELL
  | STRONG_SELL
  deriving DecidableEq, Repr

structure Signal where
  symbol : String
  signalType : SignalType
  confidence : ℚ := 1 / 2
  strategy : String := ""
  stopLoss : Option ℚ := none
  target : Option ℚ := none
  reasons : List String := []
  deriving DecidableEq, Repr

namespace Signal

variable (signal : Signal)

def isActionable : Bool := decide (signal.signalType ≠ .HOLD)

def isBuy : Bool := decide (signal.signalType = .BUY ∨ signal.signalType = .STRONG_BUY)

def isSell : Bool := decide (signal.signalType = .SELL ∨ signal.signalType = .STRONG_SELL)

/-- The winner of the symbol after one more actionable signal. -/
def challenge (winners : Dict String Signal) : Dict String Signal :=
  match winners.get signal.symbol with
  | none => winners.set signal.symbol signal
  | some existing =>
    if existing.confidence < signal.confidence then winners.set signal.symbol signal
    else if signal.confidence = existing.confidence ∧ ¬ signal.strategy < existing.strategy then
      winners.set signal.symbol signal
    else winners

end Signal

/-- `coalesce_strategy_signals`. -/
def coalesceStrategySignals (signals : List Signal) : List Signal :=
  if signals.length ≤ 1 then signals
  else
    signals.filter (fun signal => !signal.isActionable) ++
      ((signals.filter Signal.isActionable).foldl (fun winners signal => Signal.challenge signal winners) ∅).values

inductive CommissionModel where
  | FLAT
  | INDIAN_EQUITY
  | INDIAN_FNO
  deriving DecidableEq, Repr

inductive SlippageModel where
  | FIXED_PCT
  | VOLUME_WEIGHTED
  deriving DecidableEq, Repr

structure IndianMarketFees where
  brokeragePct : ℚ := 3 / 100
  brokerageMax : ℚ := 20
  sttPctSellDelivery : ℚ := 1 / 10
  sttPctFno : ℚ := 1 / 20
  exchangeFeesPct : ℚ := 345 / 100000
  gstPct : ℚ := 18
  stampDutyPctBuy : ℚ := 15 / 1000
  sebiChargesPerCrore : ℚ := 10
  deriving DecidableEq, Repr

namespace IndianMarketFees

variable (fees : IndianMarketFees) (notional : ℚ) (side : OrderSide)

def brokerage : ℚ := min (notional * fees.brokeragePct / 100) fees.brokerageMax

/-- The brokerage, the exchange's charges, the tax on both, and the regulator's charges. -/
def charges : ℚ :=
  let exchange := notional * fees.exchangeFeesPct / 100
  let gst := (fees.brokerage notional + exchange) * fees.gstPct / 100
  let sebi := notional * fees.sebiChargesPerCrore / 100000000
  fees.brokerage notional + exchange + gst + sebi

/-- `compute_indian_equity_fees`. -/
def computeIndianEquityFees : ℚ :=
  let stt := if side = .SELL then notional * fees.sttPctSellDelivery / 100 else 0
  let stamp := if side = .BUY then notional * fees.stampDutyPctBuy / 100 else 0
  fees.charges notional + stt + stamp

/-- `compute_indian_fno_fees`. -/
def computeIndianFnoFees : ℚ :=
  let stt := if side = .SELL then notional * fees.sttPctFno / 100 else 0
  fees.charges notional + stt

end IndianMarketFees

/-- `compute_commission`. -/
def computeCommission (notional : ℚ) (side : OrderSide) (model : CommissionModel) (flatFee : ℚ)
    (fees : IndianMarketFees) : ℚ :=
  match model with
  | .FLAT => flatFee
  | .INDIAN_EQUITY => fees.computeIndianEquityFees notional side
  | .INDIAN_FNO => fees.computeIndianFnoFees notional side

/-- `compute_slippage_pct`. -/
def computeSlippagePct (model : SlippageModel) (baseSlippagePct : ℚ) (barVolume : ℤ) (avgVolume : ℚ) : ℚ :=
  match model with
  | .FIXED_PCT => baseSlippagePct
  | .VOLUME_WEIGHTED =>
    if avgVolume ≤ 0 ∨ barVolume ≤ 0 then baseSlippagePct else baseSlippagePct * (avgVolume / barVolume)

/-- `compute_order_quantity`. -/
def computeOrderQuantity (equity price maxPositionPct : ℚ) : ℤ :=
  if price ≤ 0 ∨ equity ≤ 0 ∨ maxPositionPct ≤ 0 then 0
  else max 0 (Decimal.toInt (equity * (maxPositionPct / 100) / price))

inductive FillModel where
  | CURRENT_CLOSE
  | NEXT_OPEN
  deriving DecidableEq, Repr

/-- The settings that both engines have. -/
structure SimConfig where
  initialCapital : ℚ := 100000
  maxPositionPct : ℚ := 25
  slippagePct : ℚ := 1 / 100
  commissionFlat : ℚ := 0
  commissionModel : CommissionModel := .FLAT
  indianMarketFees : IndianMarketFees := {}
  fillModel : FillModel := .NEXT_OPEN
  warmupBars : ℤ := 20
  windowSize : ℤ := 100
  deriving DecidableEq, Repr

def SimConfig.commission (config : SimConfig) (notional : ℚ) (side : OrderSide) : ℚ :=
  computeCommission notional side config.commissionModel config.commissionFlat config.indianMarketFees

/-- The feature pipeline and the strategies. The features of a window are none where the pipeline fails
closed; a strategy may keep a state from one evaluation to the next. -/
structure Research (σ φ : Type) where
  features : List HistoricalBar → Option φ
  /-- `evaluate_single` for the candidate of a symbol, with its reasons. -/
  evaluateSingle : σ → String → List String → φ → List Signal × σ

/-- The window before it becomes a frame: the last bars, or all of them. -/
def buildWindow (window : List HistoricalBar) (windowSize : ℤ) : List HistoricalBar :=
  if 0 < windowSize then window.drop (window.length - windowSize.toNat) else window

structure PositionMeta where
  entryTime : ℚ
  stopLoss : Option ℚ := none
  target : Option ℚ := none
  strategy : String := ""
  deriving DecidableEq, Repr

/-- An open position as the processors see it. Without metadata the entry time is the time of the
look. -/
structure PositionView where
  symbol : String
  long : Bool
  entryPrice : ℚ
  quantity : ℤ
  entryTime : Option ℚ
  stopLoss : Option ℚ
  target : Option ℚ
  strategy : String
  deriving DecidableEq, Repr

/-- A completed trade of the session; only the paper engine notes the costs with it. -/
structure SimulatedTrade where
  symbol : String
  side : OrderSide
  entryPrice : ℚ
  exitPrice : ℚ
  quantity : ℤ
  entryTime : Option ℚ
  exitTime : ℚ
  pnl : ℚ
  pnlPct : ℚ
  commission : Option ℚ := none
  slippageCost : Option ℚ := none
  strategy : String
  reasons : List String
  deriving DecidableEq, Repr

/-- What an engine tells of a fill. -/
structure SimulatedOrder where
  orderId : String
  symbol : String
  side : OrderSide
  quantity : ℤ
  price : ℚ
  timestamp : ℚ
  tradeTag : String
  deriving DecidableEq, Repr

def SimulatedOrder.toTrade (order : SimulatedOrder) : Trade where
  tradeId := order.orderId ++ ":" ++ order.tradeTag
  orderId := order.orderId
  symbol := order.symbol
  exchange := defaultExchange
  side := order.side
  quantity := order.quantity
  price := order.price
  timestamp := some order.timestamp

/-- `_record_session_fill` and `FillRecorder.record`, with the answer. -/
def SimulationFillPipeline.record (pipeline : SimulationFillPipeline) (order : SimulatedOrder) :
    SimulationFillPipeline × Bool :=
  if order.orderId = "" ∨ order.quantity ≤ 0 then (pipeline, false)
  else pipeline.feed { trade := order.toTrade, orderQuantity := some (order.quantity : ℚ) }

/-- `mark_ltp`. -/
def PortfolioProjector.markLtp (projector : PortfolioProjector) (symbol exchange : String) (ltp : ℚ) :
    PortfolioProjector :=
  match projector.positions.get (makePositionKey symbol exchange) with
  | none => projector
  | some position =>
    if position.quantity = 0 then projector
    else { positions := projector.positions.set (makePositionKey symbol exchange) (position.withLtp ltp) }

/-- A fill that has moved cash: what was told of it, the cash and the commission in it, the pipeline
before it, and the answer of the pipeline. -/
structure Booking where
  order : SimulatedOrder
  delta : ℚ
  commission : ℚ
  before : SimulationFillPipeline
  accepted : Bool

structure SimulationSession where
  capital : ℚ
  /-- The cash of the paper engine's ledger, which is the engine's and not the session's. -/
  ledger : ℚ := 0
  fillPipeline : SimulationFillPipeline := {}
  positionMeta : Dict String PositionMeta := ∅
  trades : List SimulatedTrade := []
  signals : List Signal := []
  equityCurve : List (ℚ × ℚ) := []
  barCount : Nat := 0
  peakEquity : ℚ := 0
  dailyPnl : ℚ := 0
  /-- All fills that have moved cash, the latest last. -/
  booked : List Booking := []

namespace SimulationSession

variable (session : SimulationSession)

/-- `get_position` at the default exchange. -/
def position (symbol : String) : Option Position :=
  session.fillPipeline.projector.positions.get (makePositionKey symbol defaultExchange)

def hasPosition (symbol : String) : Bool := (session.position symbol).any fun position => position.quantity ≠ 0

def openSymbols : List String :=
  (session.fillPipeline.projector.positions.values.filter fun position => position.quantity ≠ 0).map Position.symbol

def markSymbol (symbol : String) (price : ℚ) : SimulationSession :=
  { session with
    fillPipeline := { session.fillPipeline with
      projector := session.fillPipeline.projector.markLtp symbol defaultExchange price } }

/-- An open position is marked at the close of a bar. -/
def markOpen (bar : HistoricalBar) : SimulationSession :=
  if session.hasPosition bar.symbol then session.markSymbol bar.symbol bar.close else session

def clearPosition (symbol : String) : SimulationSession :=
  { session with positionMeta := session.positionMeta.pop symbol }

/-- `_to_paper_position` and `_to_simulated_position`. -/
def view (symbol : String) : Option PositionView :=
  ((session.position symbol).filter fun position => position.quantity ≠ 0).map fun position =>
    let kept := session.positionMeta.get symbol
    { symbol := symbol
      long := decide ((0 : ℤ) < position.quantity)
      entryPrice := position.avgPrice
      quantity := |position.quantity|
      entryTime := kept.map PositionMeta.entryTime
      stopLoss := kept.bind PositionMeta.stopLoss
      target := kept.bind PositionMeta.target
      strategy := (kept.map PositionMeta.strategy).getD "" }

/-- `total_equity` and `current_equity`. -/
def totalEquity : ℚ :=
  session.capital +
    ((session.fillPipeline.projector.positions.values.filter fun position => position.quantity ≠ 0).map
      fun position => position.ltp * (position.quantity : ℚ)).sum

/-- The equity behind a bar, and its peak. -/
def recordEquity (timestamp : ℚ) : SimulationSession :=
  { session with
    equityCurve := session.equityCurve ++ [(timestamp, session.totalEquity)]
    peakEquity := if session.peakEquity < session.totalEquity then session.totalEquity else session.peakEquity }

/-- The cash of a fill is moved, by way of the ledger where there is one, and the fill is recorded. The
answer of the record is not read. -/
def bookFill (viaLedger : Bool) (delta commission : ℚ) (order : SimulatedOrder) : SimulationSession :=
  let recorded := session.fillPipeline.record order
  let cash := if viaLedger then session.ledger + delta else session.capital + delta
  { session with
    capital := cash
    ledger := if viaLedger then cash else session.ledger
    fillPipeline := recorded.1
    booked := session.booked ++ [⟨order, delta, commission, session.fillPipeline, recorded.2⟩] }

end SimulationSession

/-- The order id of an opening on the bar of the count. -/
def simOpen (symbol : String) (barCount : Nat) : String := "sim-open:" ++ symbol ++ ":" ++ toString barCount

/-- The order id of a close on the bar of the count. -/
def simClose (symbol : String) (barCount : Nat) : String := "sim-close:" ++ symbol ++ ":" ++ toString barCount

/-- What differs between the engines when a signal is processed. -/
structure SignalProcessorHooks where
  equityForSizing : SimulationSession → ℚ
  slippagePct : HistoricalBar → ℚ
  sizeForSimulated : SimulationSession → ℚ → ℚ → ℤ
  entryGate : SimulationSession → Bool
  /-- The bar, the signal, the price, the quantity and the order id of an opening. -/
  bookBuyFill : SimulationSession → HistoricalBar → Signal → ℚ → ℤ → String → SimulationSession
  /-- The bar, the signal, the view, the price, the base price and the order id of a close. -/
  bookSellFill : SimulationSession → HistoricalBar → Signal → PositionView → ℚ → ℚ → String → SimulationSession

/-- `SignalProcessor.process`, which simulates where there is no adapter. -/
def SignalProcessorHooks.process (h : SignalProcessorHooks) (signal : Signal) (bar : HistoricalBar)
    (session : SimulationSession) (fillPrice : Option ℚ) : SimulationSession :=
  if signal.isActionable = false then session
  else
    let basePrice := fillPrice.getD bar.close
    if signal.isBuy ∧ session.hasPosition bar.symbol = false then
      if h.entryGate session then session
      else
        let price := basePrice * (1 + h.slippagePct bar / 100)
        let qty := h.sizeForSimulated session price (h.equityForSizing session)
        if qty ≤ 0 then session
        else h.bookBuyFill session bar signal price qty (simOpen bar.symbol session.barCount)
    else if signal.isSell ∧ session.hasPosition bar.symbol then
      match session.view bar.symbol with
      | none => session
      | some view =>
        if view.quantity ≤ 0 then session
        else
          let price := basePrice * (1 - h.slippagePct bar / 100)
          (h.bookSellFill session bar signal view price basePrice
            (simClose bar.symbol session.barCount)).clearPosition bar.symbol
    else session

/-- Signals in a row at one price. -/
def SignalProcessorHooks.processAll (h : SignalProcessorHooks) (signals : List Signal) (bar : HistoricalBar)
    (session : SimulationSession) (fillPrice : Option ℚ) : SimulationSession :=
  signals.foldl (fun reached signal => h.process signal bar reached fillPrice) session

/-- Behind the last bar, what is left pending for a symbol is filled at the open of its last bar. -/
def SignalProcessorHooks.flushPending (h : SignalProcessorHooks) (pending : Dict String (List Signal))
    (lastBars : Dict String HistoricalBar) (session : SimulationSession) : SimulationSession :=
  pending.entries.foldl (fun reached entry =>
    match lastBars.get entry.1 with
    | none => reached
    | some bar => h.processAll entry.2 bar reached (some bar.openPrice)) session

/-- What differs between the engines when a position is closed: the symbol, the view, the exit price,
the time, the reason and the order id. -/
structure PositionCloserHooks where
  bookCloseFill : SimulationSession → String → PositionView → ℚ → ℚ → String → String → SimulationSession

/-- `PositionCloser.close`, which books the price as it is where there is no adapter. -/
def PositionCloserHooks.close (h : PositionCloserHooks) (session : SimulationSession) (symbol : String)
    (price timestamp : ℚ) (reason : String) : SimulationSession :=
  match session.view symbol with
  | none => session
  | some view =>
    (h.bookCloseFill session symbol view price timestamp reason
      (simClose symbol session.barCount)).clearPosition symbol

/-- `PositionCloser.check_exits`. -/
def PositionCloserHooks.checkExits (h : PositionCloserHooks) (session : SimulationSession) (bar : HistoricalBar) :
    SimulationSession :=
  match session.view bar.symbol with
  | none => session
  | some view =>
    match view.stopLoss.filter fun stop => if view.long then bar.low ≤ stop else stop ≤ bar.high with
    | some stop => h.close session bar.symbol stop bar.timestamp "Stop-loss hit"
    | none =>
      match view.target.filter fun target => if view.long then target ≤ bar.high else bar.low ≤ target with
      | some target => h.close session bar.symbol target bar.timestamp "Take-profit hit"
      | none => session

end TradeX.V1
