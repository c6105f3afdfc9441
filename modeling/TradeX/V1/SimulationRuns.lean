import TradeX.V1.PaperEngine
import TradeX.V1.ReplayEngine

/-! The runs of both engines, and what holds of the session behind a run. A property that the hooks of an
engine keep, and every step that moves neither cash nor fills nor trades, holds from the new session to the
last. -/

namespace TradeX.V1

open Lib

namespace PaperTradingEngine

open SimulationSession

variable {σ φ : Type} {engine : PaperTradingEngine σ φ} {symbols : List String} {P : SimulationSession → Prop}
  (signals : engine.config.signalHooks.Keeps symbols P) (closer : engine.config.closerHooks.Keeps symbols P)

include signals

theorem evaluate_keeps (stream : PaperStream σ) {bar : HistoricalBar} (known : bar.symbol ∈ symbols)
    {session : SimulationSession} (features : φ) (held : P session) :
    P (engine.evaluate stream bar session features).session := by
  simp only [evaluate]
  split
  · exact signals.quiet held (recordEquity_quiet _ _) rfl
  · exact signals.quiet (signals.processAll _ bar none known held) (recordEquity_quiet _ _) rfl

theorem flush_keeps {stream : PaperStream σ} {bar : HistoricalBar} (known : bar.symbol ∈ symbols)
    (held : P stream.session) : P (engine.flush stream bar) :=
  signals.processAll _ bar _ known (signals.quiet held ⟨rfl, rfl, rfl, rfl, rfl, fun _ => rfl⟩ rfl)

include closer

omit signals in
theorem exitAndMark_keeps {session : SimulationSession} {bar : HistoricalBar} (known : bar.symbol ∈ symbols)
    (held : P session) : P (engine.exitAndMark session bar) :=
  closer.quiet (closer.checkExits bar known held) (markOpen_quiet _ bar) (markOpen_trades _ bar)

theorem behindFlush_keeps (stream : PaperStream σ) {bar : HistoricalBar} (known : bar.symbol ∈ symbols)
    (held : P (engine.flush stream bar)) : P (engine.processBar stream bar).session := by
  simp only [processBar]
  split
  · exact held
  · have marked := exitAndMark_keeps closer known held
    split
    · exact closer.quiet marked (recordEquity_quiet _ _) rfl
    · exact evaluate_keeps signals _ known _ marked

theorem processBar_keeps {stream : PaperStream σ} {bar : HistoricalBar} (known : bar.symbol ∈ symbols)
    (held : P stream.session) : P (engine.processBar stream bar).session :=
  behindFlush_keeps signals closer stream known (flush_keeps signals known held)

theorem processBars_keeps {bars : List HistoricalBar} (known : ∀ bar ∈ bars, bar.symbol ∈ symbols)
    (stream : PaperStream σ) (held : P stream.session) : P (bars.foldl engine.processBar stream).session :=
  List.foldlRecOn bars engine.processBar (motive := fun stream => P stream.session) held fun _ kept bar member =>
    processBar_keeps signals closer (known bar member) kept

omit signals closer

theorem processBar_lastBars (engine : PaperTradingEngine σ φ) (stream : PaperStream σ) (bar : HistoricalBar) :
    (engine.processBar stream bar).lastBars = stream.lastBars.set bar.symbol bar := by
  simp only [processBar, evaluate]
  split
  · rfl
  · split
    · rfl
    · split
      · rfl
      · rfl

theorem processBars_known (engine : PaperTradingEngine σ φ) (bars : List HistoricalBar)
    (known : ∀ bar ∈ bars, bar.symbol ∈ symbols) (stream : PaperStream σ)
    (last : ∀ key bar, stream.lastBars.get key = some bar → bar.symbol ∈ symbols) (key : String) (bar : HistoricalBar) :
    (bars.foldl engine.processBar stream).lastBars.get key = some bar → bar.symbol ∈ symbols := by
  induction bars generalizing stream with
  | nil => exact last key bar
  | cons next rest ih =>
    apply ih (fun other member => known other (List.mem_cons_of_mem _ member))
    intro key other found
    rw [processBar_lastBars, Dict.get_set] at found
    split at found
    · cases found
      exact known next List.mem_cons_self
    · exact last key other found

include signals closer

theorem processBarStream_keeps (state : σ) {first : HistoricalBar} {bars : List HistoricalBar}
    (known : ∀ bar ∈ bars, bar.symbol ∈ symbols) (held : P (engine.newSession first)) :
    P (engine.processBarStream state first bars) := by
  have last := engine.processBars_known bars known { session := engine.newSession first, research := state }
    (by rintro _ _ ⟨⟩)
  have streamed : P (engine.processBars state first bars).session := processBars_keeps signals closer known _ held
  exact signals.flushPending _ last streamed

end PaperTradingEngine

namespace ReplayEngine

open SimulationSession

variable {σ φ : Type} {engine : ReplayEngine σ φ} {symbols : List String} {P : SimulationSession → Prop}
  (signals : engine.config.signalHooks.Keeps symbols P) (closer : engine.config.closerHooks.Keeps symbols P)

theorem exitHit_plain {session : SimulationSession} {bar : HistoricalBar} {price : ℚ} {reason : String}
    (hit : session.exitHit bar = some (price, reason)) : ':' ∉ reason.toList := by
  simp only [exitHit] at hit
  split at hit
  · obtain ⟨kept, -, hit⟩ := Option.bind_eq_some_iff.mp hit
    split at hit
    · cases hit
      decide
    · obtain ⟨target, -, same⟩ := Option.map_eq_some_iff.mp hit
      cases same
      decide
  · cases hit

include signals

theorem takeSignals_keeps {session : SimulationSession} {bar : HistoricalBar} (known : bar.symbol ∈ symbols)
    (taken : List Signal) (held : P session) : P (engine.takeSignals session bar taken).1 := by
  have noted : P { session with signals := session.signals ++ taken } :=
    signals.quiet held ⟨rfl, rfl, rfl, rfl, rfl, fun _ => rfl⟩ rfl
  simp only [takeSignals]
  split
  · exact noted
  · exact signals.processAll taken bar none known noted

theorem flush_keeps {session : SimulationSession} (pending : List Signal) {bar : HistoricalBar}
    (known : bar.symbol ∈ symbols) (held : P session) : P (engine.flush session pending bar) :=
  signals.quiet (signals.processAll pending bar _ known held) ⟨rfl, rfl, rfl, rfl, rfl, fun _ => rfl⟩ rfl

include closer

theorem evaluate_keeps {session : SimulationSession} (state : σ) {bar : HistoricalBar} (known : bar.symbol ∈ symbols)
    (window : List HistoricalBar) (held : P session) : P (engine.evaluate session state bar window).1 := by
  simp only [evaluate]
  split
  · exact closer.quiet held (recordEquity_quiet _ _) rfl
  · next features _ =>
    split
    · next price reason hit =>
      have closed := closer.close bar.symbol price bar.timestamp known (exitHit_plain hit) held
      exact closer.quiet closed (recordEquity_quiet _ _) rfl
    · have taken := takeSignals_keeps signals known
        (coalesceStrategySignals (engine.research.evaluateSingle state bar.symbol ["replay"] features).1) held
      have marked := closer.quiet taken (markOpen_quiet _ bar) (markOpen_trades _ bar)
      exact closer.quiet marked (recordEquity_quiet _ _) rfl

theorem behindFlush_keeps (stream : ReplayStream σ) {bar : HistoricalBar} (known : bar.symbol ∈ symbols)
    (held : P (engine.flush stream.session stream.pendingSignals bar)) : P (engine.processBar stream bar).session := by
  simp only [processBar]
  split
  · exact held
  · exact evaluate_keeps signals closer _ known _ held

theorem processBar_keeps {stream : ReplayStream σ} {bar : HistoricalBar} (known : bar.symbol ∈ symbols)
    (held : P stream.session) : P (engine.processBar stream bar).session :=
  behindFlush_keeps signals closer stream known (flush_keeps signals _ known held)

theorem processBars_keeps {bars : List HistoricalBar} (known : ∀ bar ∈ bars, bar.symbol ∈ symbols)
    (stream : ReplayStream σ) (held : P stream.session) : P (bars.foldl engine.processBar stream).session :=
  List.foldlRecOn bars engine.processBar (motive := fun stream => P stream.session) held fun _ kept bar member =>
    processBar_keeps signals closer (known bar member) kept

theorem processBarMulti_keeps {stream : MultiReplayStream σ} {bar : HistoricalBar} (known : bar.symbol ∈ symbols)
    (held : P stream.session) : P (engine.processBarMulti stream bar).session := by
  have flushed := flush_keeps signals ((stream.pendingSignals.get bar.symbol).getD []) known held
  simp only [processBarMulti]
  split
  · exact flushed
  · exact evaluate_keeps signals closer _ known _ flushed

theorem processBarsMulti_keeps {bars : List HistoricalBar} (known : ∀ bar ∈ bars, bar.symbol ∈ symbols)
    (stream : MultiReplayStream σ) (held : P stream.session) :
    P (bars.foldl engine.processBarMulti stream).session :=
  List.foldlRecOn bars engine.processBarMulti (motive := fun stream => P stream.session) held fun _ kept bar member =>
    processBarMulti_keeps signals closer (known bar member) kept

omit signals in
theorem closeLast_keeps {session : SimulationSession} {bar : HistoricalBar} (known : bar.symbol ∈ symbols)
    (held : P session) : P (engine.closeLast session bar) := by
  simp only [closeLast]
  split
  · exact closer.close bar.symbol _ _ known (by decide) held
  · exact held

omit signals closer

theorem processBarMulti_lastBars (engine : ReplayEngine σ φ) (stream : MultiReplayStream σ) (bar : HistoricalBar) :
    (engine.processBarMulti stream bar).lastBars = stream.lastBars.set bar.symbol bar := by
  simp only [processBarMulti]
  split
  · rfl
  · rfl

/-- Behind the bars the last bar of each of their symbols is kept under it. -/
theorem processBarsMulti_last (engine : ReplayEngine σ φ) (bars : List HistoricalBar)
    (known : ∀ bar ∈ bars, bar.symbol ∈ symbols) (stream : MultiReplayStream σ)
    (last : ∀ key bar, stream.lastBars.get key = some bar → bar.symbol = key ∧ key ∈ symbols) :
    (∀ key bar, (bars.foldl engine.processBarMulti stream).lastBars.get key = some bar →
        bar.symbol = key ∧ key ∈ symbols) ∧
      ∀ key, stream.lastBars.get key ≠ none ∨ key ∈ bars.map HistoricalBar.symbol →
        (bars.foldl engine.processBarMulti stream).lastBars.get key ≠ none := by
  induction bars generalizing stream with
  | nil =>
    refine ⟨last, ?_⟩
    intro key claim
    exact claim.resolve_right List.not_mem_nil
  | cons bar rest ih =>
    have here := known bar List.mem_cons_self
    obtain ⟨later, covers⟩ := ih (fun next member => known next (List.mem_cons_of_mem _ member))
      (engine.processBarMulti stream bar) (by
        intro key other found
        rw [processBarMulti_lastBars, Dict.get_set] at found
        split at found
        · next same =>
          cases found
          exact ⟨same.symm, same ▸ here⟩
        · exact last key other found)
    refine ⟨later, ?_⟩
    intro key claim
    apply covers
    rw [processBarMulti_lastBars, Dict.get_set]
    split
    · exact .inl (Option.some_ne_none _)
    · next apart =>
      rcases claim with kept | member
      · exact .inl kept
      · rcases List.mem_cons.mp member with same | member
        · exact absurd same apart
        · exact .inr member

end ReplayEngine

/-- The runs of the engines without an adapter. -/
inductive SimulationRun (σ φ : Type) where
  | paperSingle (engine : PaperTradingEngine σ φ) (state : σ) (symbol : String) (bars : List HistoricalBar)
  | paperMulti (engine : PaperTradingEngine σ φ) (state : σ) (bars : List HistoricalBar)
  | replaySingle (engine : ReplayEngine σ φ) (state : σ) (symbol : String) (bars : List HistoricalBar)
  | replayMulti (engine : ReplayEngine σ φ) (state : σ) (bars : List HistoricalBar)

namespace SimulationRun

variable {σ φ : Type}

def signalHooks : SimulationRun σ φ → SignalProcessorHooks
  | paperSingle engine _ _ _ | paperMulti engine _ _ => engine.config.signalHooks
  | replaySingle engine _ _ _ | replayMulti engine _ _ => engine.config.signalHooks

def closerHooks : SimulationRun σ φ → PositionCloserHooks
  | paperSingle engine _ _ _ | paperMulti engine _ _ => engine.config.closerHooks
  | replaySingle engine _ _ _ | replayMulti engine _ _ => engine.config.closerHooks

def initialCapital : SimulationRun σ φ → ℚ
  | paperSingle engine _ _ _ | paperMulti engine _ _ => engine.config.initialCapital
  | replaySingle engine _ _ _ | replayMulti engine _ _ => engine.config.initialCapital

/-- The paper engine moves its cash by way of a ledger. -/
def viaLedger : SimulationRun σ φ → Bool
  | paperSingle _ _ _ _ | paperMulti _ _ _ => true
  | replaySingle _ _ _ _ | replayMulti _ _ _ => false

def symbols : SimulationRun σ φ → List String
  | paperSingle _ _ symbol _ | replaySingle _ _ symbol _ => [symbol]
  | paperMulti _ _ bars | replayMulti _ _ bars => bars.map HistoricalBar.symbol

/-- The session before the first bar. Without bars the answer is a session without capital. -/
def start : SimulationRun σ φ → SimulationSession
  | paperSingle engine _ _ [] | paperMulti engine _ [] => { capital := 0, ledger := engine.portfolioTracker }
  | paperSingle engine _ symbol (first :: _) => engine.newSession (first.under symbol)
  | paperMulti engine _ (first :: _) => engine.newSession first
  | replaySingle _ _ _ [] | replayMulti _ _ [] => { capital := 0 }
  | replaySingle engine _ symbol (first :: _) => engine.newSession (first.under symbol)
  | replayMulti engine _ (first :: _) => engine.newSession first

/-- The session that the run answers. -/
def final : SimulationRun σ φ → SimulationSession
  | paperSingle engine state symbol bars => engine.runSingle state symbol bars
  | paperMulti engine state bars => engine.runMultiSymbol state bars
  | replaySingle engine state symbol bars => engine.runSingle state symbol bars
  | replayMulti engine state bars => engine.runMultiSymbol state bars

theorem under_known {symbol : String} (bars : List HistoricalBar) :
    ∀ bar ∈ bars.map (HistoricalBar.under symbol), bar.symbol ∈ [symbol] := by
  intro bar member
  obtain ⟨original, -, rfl⟩ := List.mem_map.mp member
  exact List.mem_singleton_self symbol

theorem last_known {symbol : String} (first : HistoricalBar) (rest : List HistoricalBar) :
    ((rest.map (HistoricalBar.under symbol)).getLastD (first.under symbol)).symbol ∈ [symbol] := by
  apply under_known (first :: rest)
  rw [List.map_cons]
  exact List.getLastD_mem_cons ..

/-- What the hooks of a run keep, and what tells that its positions are of its symbols, holds of the session that
it answers. -/
theorem keeps {run : SimulationRun σ φ} {P : SimulationSession → Prop} (signals : run.signalHooks.Keeps run.symbols P)
    (closer : run.closerHooks.Keeps run.symbols P)
    (known : ∀ session, P session → ∀ sym ∈ session.openSymbols, sym ∈ run.symbols) (held : P run.start) :
    P run.final := by
  cases run with
  | paperSingle engine state symbol bars =>
    cases bars with
    | nil => exact held
    | cons first rest =>
      have streamed := PaperTradingEngine.processBarStream_keeps signals closer state (under_known (first :: rest)) held
      refine List.foldlRecOn _ _ streamed fun session held sym member => ?_
      exact closer.close sym _ _ (known _ streamed sym member) (by decide) held
  | paperMulti engine state bars =>
    cases bars with
    | nil => exact held
    | cons first rest =>
      have streamed := PaperTradingEngine.processBarStream_keeps signals closer state
        (fun bar member => List.mem_map_of_mem member) held
      refine List.foldlRecOn _ _ streamed fun session held sym member => ?_
      split
      · exact held
      · exact closer.close sym _ _ (known _ streamed sym member) (by decide) held
  | replaySingle engine state symbol bars =>
    cases bars with
    | nil => exact held
    | cons first rest =>
      have streamed := ReplayEngine.processBars_keeps signals closer (under_known (first :: rest))
        { session := engine.newSession (first.under symbol), research := state } held
      have closed := ReplayEngine.closeLast_keeps closer (last_known first rest) streamed
      exact signals.processAll _ _ _ (last_known first rest) closed
  | replayMulti engine state bars =>
    cases bars with
    | nil => exact held
    | cons first rest =>
      have inside : ∀ bar ∈ first :: rest, bar.symbol ∈ (first :: rest).map HistoricalBar.symbol :=
        fun bar member => List.mem_map_of_mem member
      have streamed := ReplayEngine.processBarsMulti_keeps signals closer inside
        { session := engine.newSession first, research := state } held
      have last := engine.processBarsMulti_last (first :: rest) inside
        { session := engine.newSession first, research := state } (by rintro _ _ ⟨⟩)
      have ofSymbol : ∀ key (bar : HistoricalBar),
          (engine.processBarsMulti state first (first :: rest)).lastBars.get key = some bar →
            bar.symbol ∈ (first :: rest).map HistoricalBar.symbol := by
        intro key bar found
        obtain ⟨same, here⟩ := last.1 key bar found
        exact same ▸ here
      refine signals.flushPending _ ofSymbol (List.foldlRecOn _ _ streamed fun session held bar member => ?_)
      obtain ⟨⟨key, value⟩, entry, rfl⟩ := List.mem_map.mp member
      exact ReplayEngine.closeLast_keeps closer (ofSymbol key value (Dict.get_eq_some.mpr entry)) held

end SimulationRun

end TradeX.V1
