import TradeX.V1.SimulationBookings

/-! The paper engine without an adapter: its hooks, the loop over the bars, the flush of what is left
pending, and the close of what is left open. -/

namespace TradeX.V1

open Lib

structure PaperConfig extends SimConfig where
  maxPositions : ℤ := 5

namespace PaperConfig

variable (config : PaperConfig)

/-- `_book_buy_fill`. -/
def bookBuyFill (session : SimulationSession) (bar : HistoricalBar) (signal : Signal) (price : ℚ) (quantity : ℤ)
    (orderId : String) : SimulationSession :=
  let commission := config.commission (price * quantity) .BUY
  let recorded := session.bookFill true (-(price * quantity + commission)) commission
    { orderId := orderId
      symbol := bar.symbol
      side := .BUY
      quantity := quantity
      price := price
      timestamp := bar.timestamp
      tradeTag := "open" }
  let marked := recorded.markSymbol bar.symbol bar.close
  { marked with
    positionMeta := marked.positionMeta.set bar.symbol
      { entryTime := bar.timestamp
        stopLoss := signal.stopLoss
        target := signal.target
        strategy := signal.strategy } }

/-- `_book_sell_fill`. -/
def bookSellFill (session : SimulationSession) (bar : HistoricalBar) (signal : Signal) (view : PositionView)
    (price basePrice : ℚ) (orderId : String) : SimulationSession :=
  let commission := config.commission (price * view.quantity) .SELL
  let netPnl := (price - view.entryPrice) * view.quantity - commission
  let recorded := session.bookFill true (price * view.quantity - commission) commission
    { orderId := orderId
      symbol := bar.symbol
      side := .SELL
      quantity := view.quantity
      price := price
      timestamp := bar.timestamp
      tradeTag := "close" }
  { recorded with
    dailyPnl := recorded.dailyPnl + netPnl
    trades := recorded.trades ++ [
      { symbol := bar.symbol
        side := .BUY
        entryPrice := view.entryPrice
        exitPrice := price
        quantity := view.quantity
        entryTime := view.entryTime
        exitTime := bar.timestamp
        pnl := netPnl
        pnlPct := if 0 < view.entryPrice then (price / view.entryPrice - 1) * 100 else 0
        commission := some commission
        slippageCost := some (view.quantity * basePrice * (config.slippagePct / 100))
        strategy := if view.strategy = "" then signal.strategy else view.strategy
        reasons := if signal.reasons = [] then ["paper_signal"] else signal.reasons }] }

/-- `_book_close_fill`; the exit price is the requested one where there is no adapter. -/
def bookCloseFill (session : SimulationSession) (symbol : String) (view : PositionView) (exitPrice timestamp : ℚ)
    (reason orderId : String) : SimulationSession :=
  let closeSide : OrderSide := if view.long then .SELL else .BUY
  let pnl := (if view.long then exitPrice - view.entryPrice else view.entryPrice - exitPrice) * view.quantity
  let pnlPct := if 0 < view.entryPrice then (exitPrice / view.entryPrice - 1) * 100 else 0
  let commission := config.commission (exitPrice * view.quantity) closeSide
  let netPnl := pnl - commission
  let recorded := session.bookFill true (exitPrice * view.quantity - commission) commission
    { orderId := orderId
      symbol := symbol
      side := closeSide
      quantity := view.quantity
      price := exitPrice
      timestamp := timestamp
      tradeTag := "close" }
  { recorded with
    dailyPnl := recorded.dailyPnl + netPnl
    trades := recorded.trades ++ [
      { symbol := symbol
        side := if view.long then .BUY else .SELL
        entryPrice := view.entryPrice
        exitPrice := exitPrice
        quantity := view.quantity
        entryTime := view.entryTime
        exitTime := timestamp
        pnl := netPnl
        pnlPct := if view.long then pnlPct else -pnlPct
        commission := some commission
        slippageCost := some (view.quantity * exitPrice * (config.slippagePct / 100))
        strategy := view.strategy
        reasons := [reason] }] }

/-- `_size_for_simulated`: all of the quantity, or nothing where the equity does not pay for it. -/
def sizeForSimulated (price equity : ℚ) : ℤ :=
  let qty := computeOrderQuantity equity price config.maxPositionPct
  if qty ≤ 0 then 0
  else if equity < price * qty + config.commission (price * qty) .BUY then 0
  else qty

def signalHooks : SignalProcessorHooks where
  equityForSizing := SimulationSession.capital
  slippagePct _ := config.slippagePct
  sizeForSimulated _ price equity := config.sizeForSimulated price equity
  entryGate session := decide (config.maxPositions ≤ session.openSymbols.length)
  bookBuyFill := config.bookBuyFill
  bookSellFill := config.bookSellFill

def closerHooks : PositionCloserHooks where
  bookCloseFill := config.bookCloseFill

end PaperConfig

/-- The state of the loop. -/
structure PaperStream (σ : Type) where
  session : SimulationSession
  research : σ
  window : List HistoricalBar := []
  warmupDone : Bool := false
  signalsAll : List Signal := []
  /-- The signals of a symbol that wait for its next open. -/
  pendingBySymbol : Dict String (List Signal) := ∅
  lastBars : Dict String HistoricalBar := ∅

/-- The engine with the cash of its ledger, which starts at the initial capital and goes on from one
run to the next. -/
structure PaperTradingEngine (σ φ : Type) where
  config : PaperConfig := {}
  research : Research σ φ
  portfolioTracker : ℚ := config.initialCapital

namespace PaperTradingEngine

variable {σ φ : Type} (engine : PaperTradingEngine σ φ)

/-- What a bar with features does: the strategies, and their signals, at once or at the next open. -/
def evaluate (stream : PaperStream σ) (bar : HistoricalBar) (session : SimulationSession) (features : φ) :
    PaperStream σ :=
  let evaluated := engine.research.evaluateSingle stream.research bar.symbol ["paper"] features
  let signals := coalesceStrategySignals evaluated.1
  let stream := { stream with research := evaluated.2, signalsAll := stream.signalsAll ++ signals }
  match engine.config.fillModel with
  | .NEXT_OPEN =>
    { stream with
      session := session.recordEquity bar.timestamp
      pendingBySymbol := stream.pendingBySymbol.set bar.symbol signals }
  | .CURRENT_CLOSE =>
    { stream with
      session := (engine.config.signalHooks.processAll signals bar session none).recordEquity bar.timestamp }

/-- The bar is counted, and what waits for the open of its symbol is filled there. -/
def flush (stream : PaperStream σ) (bar : HistoricalBar) : SimulationSession :=
  engine.config.signalHooks.processAll ((stream.pendingBySymbol.get bar.symbol).getD []) bar
    { stream.session with barCount := stream.session.barCount + 1 } (some bar.openPrice)

/-- The stops and targets of a bar, and its mark. -/
def exitAndMark (session : SimulationSession) (bar : HistoricalBar) : SimulationSession :=
  (engine.config.closerHooks.checkExits session bar).markOpen bar

/-- The bar is taken in, behind the flush. -/
def takeBar (stream : PaperStream σ) (bar : HistoricalBar) : PaperStream σ :=
  { stream with
    session := engine.flush stream bar
    window := stream.window ++ [bar]
    pendingBySymbol := stream.pendingBySymbol.set bar.symbol []
    lastBars := stream.lastBars.set bar.symbol bar }

/-- One bar of `_process_bar_stream`. -/
def processBar (stream : PaperStream σ) (bar : HistoricalBar) : PaperStream σ :=
  let taken := engine.takeBar stream bar
  if taken.warmupDone = false ∧ 0 < engine.config.warmupBars ∧
      (taken.session.barCount : ℤ) < engine.config.warmupBars then
    taken
  else
    let marked := engine.exitAndMark taken.session bar
    match engine.research.features (buildWindow taken.window engine.config.windowSize) with
    | none => { taken with warmupDone := true, session := marked.recordEquity bar.timestamp }
    | some features => engine.evaluate { taken with warmupDone := true } bar marked features

/-- A new session, whose equity curve starts at the first bar. -/
def newSession (first : HistoricalBar) : SimulationSession where
  capital := engine.config.initialCapital
  ledger := engine.portfolioTracker
  equityCurve := [(first.timestamp, engine.config.initialCapital)]
  peakEquity := engine.config.initialCapital

/-- The loop of `_process_bar_stream` over a new session, from a state of the strategies. -/
def processBars (state : σ) (first : HistoricalBar) (bars : List HistoricalBar) : PaperStream σ :=
  bars.foldl engine.processBar { session := engine.newSession first, research := state }

/-- `_process_bar_stream`, with the flush of what is left pending. -/
def processBarStream (state : σ) (first : HistoricalBar) (bars : List HistoricalBar) : SimulationSession :=
  let stream := engine.processBars state first bars
  engine.config.signalHooks.flushPending stream.pendingBySymbol stream.lastBars stream.session

/-- `_run_single`: every bar is of the symbol, and what is open is closed at the last close. -/
def runSingle (state : σ) (symbol : String) (bars : List HistoricalBar) : SimulationSession :=
  match bars.map (HistoricalBar.under symbol) with
  | [] => { capital := 0, ledger := engine.portfolioTracker }
  | first :: rest =>
    let last := rest.getLastD first
    let streamed := engine.processBarStream state first (first :: rest)
    streamed.openSymbols.foldl (fun session sym =>
      engine.config.closerHooks.close session sym last.close last.timestamp "End of paper trading") streamed

/-- `_run_multi_symbol`: what is open is closed at the last close of its symbol. -/
def runMultiSymbol (state : σ) (bars : List HistoricalBar) : SimulationSession :=
  match bars with
  | [] => { capital := 0, ledger := engine.portfolioTracker }
  | first :: rest =>
    let streamed := engine.processBarStream state first (first :: rest)
    streamed.openSymbols.foldl (fun session sym =>
      match (first :: rest).reverse.find? fun bar => bar.symbol = sym with
      | none => session
      | some last =>
        engine.config.closerHooks.close session sym last.close last.timestamp "End of paper trading") streamed

end PaperTradingEngine

end TradeX.V1
