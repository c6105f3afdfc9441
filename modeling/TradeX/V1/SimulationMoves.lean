import TradeX.V1.SimulationCash

/-! What an engine does to a session in one step. It opens a position, or sells all of one and tells of it in a
trade, or touches neither cash nor fills nor trades. What every step keeps holds of the session that a run
answers. -/

namespace TradeX.V1

open Lib

namespace SimulationSession

/-- One step of an engine. The order ids are those of openings and closes; the positions are long. -/
inductive Moves (viaLedger : Bool) (symbols : List String) (session after : SimulationSession) : Prop where
  | rests (quiet : Quiet session after) (trades : after.trades = session.trades)
  | opens {order : SimulatedOrder} {delta commission : ℚ} (bookable : Bookable symbols session order delta commission)
      (flat : session.hasPosition order.symbol = false) (side : order.side = .BUY)
      (named : ∃ barCount, order.orderId = simOpen order.symbol barCount)
      (quiet : Quiet (session.bookFill viaLedger delta commission order) after) (trades : after.trades = session.trades)
  | sells {order : SimulatedOrder} {delta commission : ℚ} {view : PositionView} {trade : SimulatedTrade}
      (bookable : Bookable symbols session order delta commission) (seen : session.view order.symbol = some view)
      (quantity : order.quantity = view.quantity) (side : order.side = .SELL)
      (named : ∃ barCount, order.orderId = simClose order.symbol barCount)
      (quiet : Quiet (session.bookFill viaLedger delta commission order) after)
      (trades : after.trades = session.trades ++ [trade])
      (pnl : trade.pnl = (order.price - view.entryPrice) * order.quantity - commission) (long : trade.side = .BUY)

variable {viaLedger : Bool} {symbols : List String} {start session after : SimulationSession}

theorem Sound.moves (sound : Sound viaLedger symbols start session) (moves : Moves viaLedger symbols session after) :
    Sound viaLedger symbols start after := by
  cases moves with
  | rests quiet _ => exact sound.quiet quiet
  | opens bookable _ _ _ quiet _ => exact (sound.book bookable).quiet quiet
  | sells bookable _ _ _ _ quiet _ _ _ => exact (sound.book bookable).quiet quiet

/-- A property that every step of a sound session keeps. -/
def Kept (viaLedger : Bool) (symbols : List String) (start : SimulationSession) (Q : SimulationSession → Prop) : Prop :=
  ∀ session after, Sound viaLedger symbols start session → Q session → Moves viaLedger symbols session after → Q after

/-- The session is sound and has the property. -/
def Holds (viaLedger : Bool) (symbols : List String) (start : SimulationSession) (Q : SimulationSession → Prop)
    (session : SimulationSession) : Prop := Sound viaLedger symbols start session ∧ Q session

theorem Kept.step {Q : SimulationSession → Prop} (kept : Kept viaLedger symbols start Q)
    (holds : Holds viaLedger symbols start Q session) (moves : Moves viaLedger symbols session after) :
    Holds viaLedger symbols start Q after :=
  ⟨holds.1.moves moves, kept session after holds.1 holds.2 moves⟩

end SimulationSession

open SimulationSession

namespace PaperConfig

variable (config : PaperConfig) {symbols : List String} {start : SimulationSession} {Q : SimulationSession → Prop}

theorem signalHooks_keeps (kept : Kept true symbols start Q) :
    config.signalHooks.Keeps symbols (Holds true symbols start Q) where
  quiet holds quiet trades := kept.step holds (.rests quiet trades)
  buys session bar signal price quantity barCount holds known positive flat := by
    have bookable := bookable_opening known positive flat price bar.timestamp
      (config.commission (price * quantity) .BUY) barCount
    exact kept.step holds (.opens bookable flat rfl ⟨_, rfl⟩ (opened_quiet _ _ _ _) rfl)
  sells session bar signal view price basePrice barCount holds known seen := by
    have plain : ':' ∉ "close".toList := by decide
    have bookable := bookable_sale known seen plain .SELL (fun _ => rfl) price bar.timestamp
      (config.commission (price * view.quantity) .SELL) barCount
    exact kept.step holds
      (.sells bookable seen rfl rfl ⟨_, rfl⟩ ⟨rfl, rfl, rfl, rfl, rfl, fun _ => rfl⟩ rfl rfl rfl)

theorem closerHooks_keeps (kept : Kept true symbols start Q) :
    config.closerHooks.Keeps symbols (Holds true symbols start Q) where
  quiet holds quiet trades := kept.step holds (.rests quiet trades)
  closes _ _ view price timestamp _ barCount holds known _ seen := by
    have plain : ':' ∉ "close".toList := by decide
    have long := (holds.1.view_long seen).1
    have bookable := bookable_sale known seen plain .SELL (fun _ => rfl) price timestamp
      (config.commission (price * view.quantity) .SELL) barCount
    simp only [PaperConfig.closerHooks, PaperConfig.bookCloseFill, long, if_true]
    exact kept.step holds
      (.sells bookable seen rfl rfl ⟨_, rfl⟩ ⟨rfl, rfl, rfl, rfl, rfl, fun _ => rfl⟩ rfl rfl rfl)

end PaperConfig

namespace ReplayConfig

variable (config : ReplayConfig) {symbols : List String} {start session : SimulationSession}
  {Q : SimulationSession → Prop}

theorem bookSale_keeps (kept : Kept false symbols start Q) (holds : Holds false symbols start Q session)
    {symbol : String} {view : PositionView} (known : symbol ∈ symbols) (seen : session.view symbol = some view)
    (price timestamp : ℚ) (barCount : Nat) {tradeTag : String} (plain : ':' ∉ tradeTag.toList) (reason : String) :
    Holds false symbols start Q
      (config.bookSale session view price timestamp (simClose symbol barCount) tradeTag reason) := by
  obtain rfl := view_symbol seen
  have bookable := bookable_sale known seen plain .SELL (fun _ => rfl) price timestamp
    (config.commission (price * view.quantity) .SELL) barCount
  have long := (holds.1.view_long seen).1
  exact kept.step holds
    (.sells bookable seen rfl rfl ⟨_, rfl⟩ ⟨rfl, rfl, rfl, rfl, rfl, fun _ => rfl⟩ rfl rfl (if_pos long))

theorem signalHooks_keeps (kept : Kept false symbols start Q) :
    config.signalHooks.Keeps symbols (Holds false symbols start Q) where
  quiet holds quiet trades := kept.step holds (.rests quiet trades)
  buys session bar signal price quantity barCount holds known positive flat := by
    have bookable := bookable_opening known positive flat price bar.timestamp
      (config.commission (price * quantity) .BUY) barCount
    exact kept.step holds (.opens bookable flat rfl ⟨_, rfl⟩ (opened_quiet _ _ _ _) rfl)
  sells session bar signal view price basePrice barCount holds known seen := by
    have plain : ':' ∉ "close".toList := by decide
    exact config.bookSale_keeps kept holds known seen price bar.timestamp barCount plain _

theorem closerHooks_keeps (kept : Kept false symbols start Q) :
    config.closerHooks.Keeps symbols (Holds false symbols start Q) where
  quiet holds quiet trades := kept.step holds (.rests quiet trades)
  closes _ _ _ price timestamp reason barCount holds known plain seen :=
    config.bookSale_keeps kept holds known seen price timestamp barCount plain reason

end ReplayConfig

namespace SimulationRun

variable {σ φ : Type} (run : SimulationRun σ φ) {Q : SimulationSession → Prop}

/-- Before the first bar the session is a new one. -/
theorem start_new : ∃ capital ledger curve peak,
    run.start = { capital := capital, ledger := ledger, equityCurve := curve, peakEquity := peak } := by
  cases run with
  | paperSingle engine state symbol bars => cases bars <;> exact ⟨_, _, _, _, rfl⟩
  | paperMulti engine state bars => cases bars <;> exact ⟨_, _, _, _, rfl⟩
  | replaySingle engine state symbol bars => cases bars <;> exact ⟨_, _, _, _, rfl⟩
  | replayMulti engine state bars => cases bars <;> exact ⟨_, _, _, _, rfl⟩

/-- What every step keeps holds of the session that the run answers, where it holds of new sessions. -/
theorem final_kept (kept : Kept run.viaLedger run.symbols run.start Q)
    (started : ∀ capital ledger curve peak,
      Q { capital := capital, ledger := ledger, equityCurve := curve, peakEquity := peak }) :
    Holds run.viaLedger run.symbols run.start Q run.final := by
  have start : Holds run.viaLedger run.symbols run.start Q run.start := by
    obtain ⟨capital, ledger, curve, peak, new⟩ := run.start_new
    rw [new]
    exact ⟨sound_new .., started ..⟩
  refine keeps ?_ ?_ (fun _ holds _ member => holds.1.openSymbols_known member) start
  · cases run with
    | paperSingle engine state symbol bars => exact engine.config.signalHooks_keeps kept
    | paperMulti engine state bars => exact engine.config.signalHooks_keeps kept
    | replaySingle engine state symbol bars => exact engine.config.signalHooks_keeps kept
    | replayMulti engine state bars => exact engine.config.signalHooks_keeps kept
  · cases run with
    | paperSingle engine state symbol bars => exact engine.config.closerHooks_keeps kept
    | paperMulti engine state bars => exact engine.config.closerHooks_keeps kept
    | replaySingle engine state symbol bars => exact engine.config.closerHooks_keeps kept
    | replayMulti engine state bars => exact engine.config.closerHooks_keeps kept

end SimulationRun

end TradeX.V1
