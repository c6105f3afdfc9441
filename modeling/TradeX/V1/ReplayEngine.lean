import TradeX.V1.SimulationBookings

/-! The replay engine without an adapter: its hooks, the two loops over the bars, the close of what is
left open, and behind it the flush of what is left pending. A window is the list of its bars, where the
source keeps the last of them in a ring of the window's size. -/

namespace TradeX.V1

open Lib

structure ReplayConfig extends SimConfig where
  maxPositionPct := 100
  slippagePct := 0
  warmupBars := 0
  windowSize := 0
  slippageModel : SlippageModel := .FIXED_PCT
  avgVolume : ℚ := 0
  slippage_nonneg : 0 ≤ slippagePct
  position_pos : 0 < maxPositionPct
  warmup_nonneg : 0 ≤ warmupBars
  commission_nonneg : 0 ≤ commissionFlat

namespace ReplayConfig

-- The settings of a replay without slippage, commission or warm-up.
theorem no_cost : (0 : ℚ) ≤ 0 := le_rfl

theorem no_warmup : (0 : ℤ) ≤ 0 := le_rfl

variable (config : ReplayConfig)

/-- `FillRecorder.compute_slippage_pct`. -/
def slippageFor (barVolume : ℤ) : ℚ :=
  computeSlippagePct config.slippageModel config.slippagePct barVolume config.avgVolume

/-- The loop of `_size_with_affordability`, downwards to the first quantity that the cash pays for. -/
def affordable (price capital : ℚ) : Nat → Nat
  | 0 => 0
  | n + 1 =>
    if price * (n + 1 : Nat) + config.commission (price * (n + 1 : Nat)) .BUY ≤ capital then n + 1
    else affordable price capital n

/-- `_size_with_affordability`. -/
def sizeWithAffordability (session : SimulationSession) (price equity : ℚ) : ℤ :=
  config.affordable price session.capital (computeOrderQuantity equity price config.maxPositionPct).toNat

/-- `_book_buy_fill`. -/
def bookBuyFill (session : SimulationSession) (bar : HistoricalBar) (signal : Signal) (price : ℚ) (quantity : ℤ)
    (orderId : String) : SimulationSession :=
  let commission := config.commission (price * quantity) .BUY
  let recorded := session.bookFill false (-(price * quantity + commission)) commission
    { orderId := orderId
      symbol := bar.symbol
      side := .BUY
      quantity := quantity
      price := price
      timestamp := bar.timestamp
      tradeTag := "open" }
  let marked := recorded.markSymbol bar.symbol price
  { marked with
    positionMeta := marked.positionMeta.set bar.symbol
      { entryTime := bar.timestamp
        stopLoss := signal.stopLoss
        target := signal.target
        strategy := signal.strategy } }

/-- What `_book_sell_fill` and `_book_close_fill` book, which tag it and give its reason differently. -/
def bookSale (session : SimulationSession) (view : PositionView) (price timestamp : ℚ)
    (orderId tradeTag reason : String) : SimulationSession :=
  let commission := config.commission (price * view.quantity) .SELL
  let recorded := session.bookFill false (price * view.quantity - commission) commission
    { orderId := orderId
      symbol := view.symbol
      side := .SELL
      quantity := view.quantity
      price := price
      timestamp := timestamp
      tradeTag := tradeTag }
  { recorded with
    trades := recorded.trades ++ [
      { symbol := view.symbol
        side := if view.long then .BUY else .SELL
        entryPrice := view.entryPrice
        exitPrice := price
        quantity := view.quantity
        entryTime := view.entryTime
        exitTime := timestamp
        pnl := (price - view.entryPrice) * view.quantity - commission
        pnlPct := if 0 < view.entryPrice then (price / view.entryPrice - 1) * 100 else 0
        strategy := view.strategy
        reasons := [reason] }] }

/-- `_book_sell_fill`. -/
def bookSellFill (session : SimulationSession) (bar : HistoricalBar) (_signal : Signal) (view : PositionView)
    (price _basePrice : ℚ) (orderId : String) : SimulationSession :=
  config.bookSale session view price bar.timestamp orderId "close" "simulated_signal"

/-- `_book_close_fill`. -/
def bookCloseFill (session : SimulationSession) (_symbol : String) (view : PositionView)
    (exitPrice timestamp : ℚ) (reason orderId : String) : SimulationSession :=
  config.bookSale session view exitPrice timestamp orderId reason reason

def signalHooks : SignalProcessorHooks where
  equityForSizing := SimulationSession.totalEquity
  slippagePct bar := config.slippageFor bar.volume
  sizeForSimulated := config.sizeWithAffordability
  entryGate _ := false
  bookBuyFill := config.bookBuyFill
  bookSellFill := config.bookSellFill

def closerHooks : PositionCloserHooks where
  bookCloseFill := config.bookCloseFill

/-- `PositionCloser.close` of the replay engine, at the close of the bar less the slippage. -/
def closePosition (session : SimulationSession) (bar : HistoricalBar) (reason : String) : SimulationSession :=
  config.closerHooks.close session bar.symbol (bar.close * (1 - config.slippageFor bar.volume / 100))
    bar.timestamp reason

end ReplayConfig

/-- The stop or the target of an open position that the bar has hit, the stop first, and the reason. -/
def SimulationSession.exitHit (session : SimulationSession) (bar : HistoricalBar) : Option (ℚ × String) :=
  if session.hasPosition bar.symbol then
    (session.positionMeta.get bar.symbol).bind fun kept =>
      match kept.stopLoss.filter fun stop => bar.low ≤ stop with
      | some stop => some (stop, "Stop-loss hit")
      | none => (kept.target.filter fun target => target ≤ bar.high).map fun target => (target, "Target hit")
  else none

/-- The state of the loop over one symbol. -/
structure ReplayStream (σ : Type) where
  session : SimulationSession
  research : σ
  window : List HistoricalBar := []
  warmupDone : Bool := false
  pendingSignals : List Signal := []

/-- The state of the loop over several symbols, with what it keeps for each. -/
structure MultiReplayStream (σ : Type) where
  session : SimulationSession
  research : σ
  windowStates : Dict String (List HistoricalBar) := ∅
  symbolBarCounts : Dict String Nat := ∅
  warmupDone : Dict String Bool := ∅
  pendingSignals : Dict String (List Signal) := ∅
  lastBars : Dict String HistoricalBar := ∅

structure ReplayEngine (σ φ : Type) where
  config : ReplayConfig
  research : Research σ φ

namespace ReplayEngine

variable {σ φ : Type} (engine : ReplayEngine σ φ)

/-- The signals of a bar, at once or at the next open: the session, and what is left pending. -/
def takeSignals (session : SimulationSession) (bar : HistoricalBar) (signals : List Signal) :
    SimulationSession × List Signal :=
  let noted := { session with signals := session.signals ++ signals }
  match engine.config.fillModel with
  | .NEXT_OPEN => (noted, signals)
  | .CURRENT_CLOSE => (engine.config.signalHooks.processAll signals bar noted none, [])

/-- What a bar behind the warmup does: the exit, or else the strategies and their signals. The last
result is what is left pending. -/
def evaluate (session : SimulationSession) (state : σ) (bar : HistoricalBar) (window : List HistoricalBar) :
    SimulationSession × σ × List Signal :=
  match engine.research.features (buildWindow window engine.config.windowSize) with
  | none => (session.recordEquity bar.timestamp, state, [])
  | some features =>
    match session.exitHit bar with
    | some (price, reason) =>
      -- The signals of this bar are skipped, and the strategies do not see it.
      ((engine.config.closerHooks.close session bar.symbol price bar.timestamp reason).recordEquity bar.timestamp,
        state, [])
    | none =>
      let evaluated := engine.research.evaluateSingle state bar.symbol ["replay"] features
      let taken := engine.takeSignals session bar (coalesceStrategySignals evaluated.1)
      ((taken.1.markOpen bar).recordEquity bar.timestamp, evaluated.2, taken.2)

/-- What is pending is filled at the open of the bar, and the bar is counted. -/
def flush (session : SimulationSession) (pending : List Signal) (bar : HistoricalBar) : SimulationSession :=
  let flushed := engine.config.signalHooks.processAll pending bar session (some bar.openPrice)
  { flushed with barCount := flushed.barCount + 1 }

/-- One bar of `run_single`. -/
def processBar (stream : ReplayStream σ) (bar : HistoricalBar) : ReplayStream σ :=
  let counted := engine.flush stream.session stream.pendingSignals bar
  let window := stream.window ++ [bar]
  if stream.warmupDone = false ∧ 0 < engine.config.warmupBars ∧
      (counted.barCount : ℤ) < engine.config.warmupBars then
    { stream with session := counted, window := window, pendingSignals := [] }
  else
    let evaluated := engine.evaluate counted stream.research bar window
    { session := evaluated.1
      research := evaluated.2.1
      window := window
      warmupDone := true
      pendingSignals := evaluated.2.2 }

/-- One bar of `run_multi_symbol`. -/
def processBarMulti (stream : MultiReplayStream σ) (bar : HistoricalBar) : MultiReplayStream σ :=
  let counted := engine.flush stream.session ((stream.pendingSignals.get bar.symbol).getD []) bar
  let window := (stream.windowStates.get bar.symbol).getD [] ++ [bar]
  let count := (stream.symbolBarCounts.get bar.symbol).getD 0 + 1
  let stream := { stream with
    session := counted
    windowStates := stream.windowStates.set bar.symbol window
    symbolBarCounts := stream.symbolBarCounts.set bar.symbol count
    pendingSignals := stream.pendingSignals.set bar.symbol []
    lastBars := stream.lastBars.set bar.symbol bar }
  if (stream.warmupDone.get bar.symbol).getD false = false ∧ 0 < engine.config.warmupBars ∧
      (count : ℤ) < engine.config.warmupBars then
    stream
  else
    let evaluated := engine.evaluate counted stream.research bar window
    { stream with
      session := evaluated.1
      research := evaluated.2.1
      warmupDone := stream.warmupDone.set bar.symbol true
      pendingSignals := stream.pendingSignals.set bar.symbol evaluated.2.2 }

/-- A new session, whose equity curve starts at the first bar. -/
def newSession (first : HistoricalBar) : SimulationSession where
  capital := engine.config.initialCapital
  equityCurve := [(first.timestamp, engine.config.initialCapital)]
  peakEquity := engine.config.initialCapital

def closeLast (session : SimulationSession) (bar : HistoricalBar) : SimulationSession :=
  if session.hasPosition bar.symbol then engine.config.closePosition session bar "End of replay" else session

/-- The loop of `run_single` over a new session, from a state of the strategies. -/
def processBars (state : σ) (first : HistoricalBar) (bars : List HistoricalBar) : ReplayStream σ :=
  bars.foldl engine.processBar { session := engine.newSession first, research := state }

/-- `run_single`, with the session right behind the close of what was left open. -/
def runSingleClosed (state : σ) (symbol : String) (bars : List HistoricalBar) :
    SimulationSession × SimulationSession :=
  match bars.map (HistoricalBar.under symbol) with
  | [] => ({ capital := 0 }, { capital := 0 })
  | first :: rest =>
    let last := rest.getLastD first
    let stream := engine.processBars state first (first :: rest)
    let closed := engine.closeLast stream.session last
    (closed, engine.config.signalHooks.processAll stream.pendingSignals last closed (some last.openPrice))

/-- `run_single`. -/
def runSingle (state : σ) (symbol : String) (bars : List HistoricalBar) : SimulationSession :=
  (engine.runSingleClosed state symbol bars).2

/-- The loop of `run_multi_symbol` over a new session. -/
def processBarsMulti (state : σ) (first : HistoricalBar) (bars : List HistoricalBar) : MultiReplayStream σ :=
  bars.foldl engine.processBarMulti { session := engine.newSession first, research := state }

/-- `run_multi_symbol`, with the session right behind the close of what was left open. -/
def runMultiSymbolClosed (state : σ) (bars : List HistoricalBar) : SimulationSession × SimulationSession :=
  match bars with
  | [] => ({ capital := 0 }, { capital := 0 })
  | first :: rest =>
    let stream := engine.processBarsMulti state first (first :: rest)
    let closed := stream.lastBars.values.foldl engine.closeLast stream.session
    (closed, engine.config.signalHooks.flushPending stream.pendingSignals stream.lastBars closed)

/-- `run_multi_symbol`. -/
def runMultiSymbol (state : σ) (bars : List HistoricalBar) : SimulationSession :=
  (engine.runMultiSymbolClosed state bars).2

end ReplayEngine

end TradeX.V1
