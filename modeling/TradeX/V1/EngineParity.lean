import TradeX.V1.SimulationParity

/-! The paper engine and the replay engine over the bars of one symbol. The replay engine skips the
strategies on a bar that hits a stop or a target, and closes the last position before it flushes what is
left pending; the paper engine does neither. Where a bar of the paper run is in step, both loops stay in
parity over it, and at the end both have accepted the same fills. -/

namespace TradeX.V1

open Lib SimulationSession

namespace SignalProcessorHooks

variable {h : SignalProcessorHooks} {bar : HistoricalBar} {session : SimulationSession} {fillPrice : Option ℚ}

end SignalProcessorHooks

namespace SimulationSession

variable {symbols : List String} {symbol : String} {start session : SimulationSession} {bar : HistoricalBar}

theorem InParity.exitHit {paperStart replayStart paper replay : SimulationSession}
    (parity : InParity symbol paperStart replayStart paper replay) (bar : HistoricalBar) :
    paper.exitHit bar = replay.exitHit bar := by
  simp only [SimulationSession.exitHit, parity.hasPosition, parity.kept]

end SimulationSession

variable {σ φ : Type}

namespace PaperTradingEngine

variable (engine : PaperTradingEngine σ φ) (stream : PaperStream σ) (bar : HistoricalBar)

/-- The bar is one of the warmup. -/
def Warming : Prop :=
  stream.warmupDone = false ∧ 0 < engine.config.warmupBars ∧
    ((engine.flush stream bar).barCount : ℤ) < engine.config.warmupBars

/-- The features of the window with the bar. -/
def featuresAt : Option φ :=
  engine.research.features (buildWindow (stream.window ++ [bar]) engine.config.windowSize)

/-- The bar is in step: every buy is of one size; where it hits a stop or a target there are features,
the strategies stay as they are and do not buy; and elsewhere they answer both engines alike. -/
structure InStep : Prop where
  flush : engine.config.BuysAlike bar (some bar.openPrice) ((stream.pendingBySymbol.get bar.symbol).getD [])
    { stream.session with barCount := stream.session.barCount + 1 }
  exits : ¬ engine.Warming stream bar → (engine.flush stream bar).exitHit bar ≠ none → ∃ features,
    engine.featuresAt stream bar = some features ∧
    (engine.research.evaluateSingle stream.research bar.symbol ["paper"] features).2 = stream.research ∧
    ∀ signal ∈ coalesceStrategySignals
      (engine.research.evaluateSingle stream.research bar.symbol ["paper"] features).1, signal.isBuy = false
  signals : ¬ engine.Warming stream bar → (engine.flush stream bar).exitHit bar = none →
    ∀ features, engine.featuresAt stream bar = some features →
      engine.research.evaluateSingle stream.research bar.symbol ["replay"] features =
        engine.research.evaluateSingle stream.research bar.symbol ["paper"] features ∧
      (engine.config.fillModel = .CURRENT_CLOSE → engine.config.BuysAlike bar none
        (coalesceStrategySignals (engine.research.evaluateSingle stream.research bar.symbol ["paper"] features).1)
        ((engine.flush stream bar).markOpen bar))

end PaperTradingEngine

/-- What is pending in both: the same, or, behind an exit, what the paper engine will not act on. -/
def PendingAlike (symbol : String) (session : SimulationSession) (paper replay : List Signal) : Prop :=
  paper = replay ∨ replay = [] ∧ (∀ signal ∈ paper, signal.isBuy = false) ∧ session.hasPosition symbol = false

/-- The two loops stand at the same bar, in parity. -/
structure StreamsInParity (symbol : String) (paperStart replayStart : SimulationSession) (paper : PaperStream σ)
    (replay : ReplayStream σ) : Prop where
  session : InParity symbol paperStart replayStart paper.session replay.session
  barCount : paper.session.barCount = replay.session.barCount
  research : paper.research = replay.research
  window : paper.window = replay.window
  warmupDone : paper.warmupDone = replay.warmupDone
  pending : PendingAlike symbol paper.session ((paper.pendingBySymbol.get symbol).getD []) replay.pendingSignals

/-- The two engines have the same pipelines and match in their settings. -/
structure PaperTradingEngine.Matches (paper : PaperTradingEngine σ φ) (replay : ReplayEngine σ φ) : Prop where
  research : replay.research = paper.research
  config : paper.config.Matches replay.config

namespace PaperTradingEngine

variable {paper : PaperTradingEngine σ φ} {replay : ReplayEngine σ φ} {bar : HistoricalBar}
  {paperStart replayStart : SimulationSession} {stream : PaperStream σ} {stream' : ReplayStream σ}

theorem Matches.featuresAt (same : paper.Matches replay)
    (streams : StreamsInParity bar.symbol paperStart replayStart stream stream') :
    replay.research.features (buildWindow (stream'.window ++ [bar]) replay.config.windowSize) =
      paper.featuresAt stream bar := by
  have size : replay.config.windowSize = paper.config.windowSize := congrArg SimConfig.windowSize same.config.settings
  rw [PaperTradingEngine.featuresAt, same.research, streams.window, size]

variable (engine : PaperTradingEngine σ φ)

variable {symbol : String} {engine}

/-- Buys on the first bar and sells on the second. -/
def roundTrip (symbol : String) (timestamp : ℚ) : List Signal :=
  if timestamp = 1 then [{ symbol := symbol, signalType := .BUY }] else [{ symbol := symbol, signalType := .SELL }]

end PaperTradingEngine

end TradeX.V1
