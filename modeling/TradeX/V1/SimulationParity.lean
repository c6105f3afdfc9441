import TradeX.V1.SimulationCash

/-! Two sessions in parity: one of the paper engine and one of the replay engine, over bars of one symbol.
They have the same cash, the same positions and metadata, and have accepted the same fills. A booking of
both, a signal that both process and a close of both keep them in parity, as long as no order id is used
again and the sizes agree. -/

namespace TradeX.V1

open Lib

namespace Position

variable (position : Position)

theorem unmarked_withFill (fillQty : ℤ) (fillPrice : ℚ) :
    position.unmarked.withFill fillQty fillPrice = position.withFill fillQty fillPrice := by
  simp only [unmarked]
  split
  · rfl
  · rfl

theorem projectTrade_congr {position other : Position} (same : position.unmarked = other.unmarked) {trade trade' : Trade}
    (delta : trade.delta = trade'.delta) (price : trade.price = trade'.price) :
    projectTrade position trade = projectTrade other trade' := by
  simp only [projectTrade]
  rw [← position.unmarked_withFill, ← other.unmarked_withFill, same, delta, price]

end Position

/-- What is compared of a fill; the time is that of its bar. -/
structure FillFacts where
  side : OrderSide
  quantity : ℤ
  price : ℚ
  timestamp : ℚ
  deriving DecidableEq, Repr

def SimulatedOrder.facts (order : SimulatedOrder) : FillFacts :=
  ⟨order.side, order.quantity, order.price, order.timestamp⟩

/-- The projector sees no more of a fill than its facts. -/
theorem SimulatedOrder.toTrade_congr {order order' : SimulatedOrder} (facts : order.facts = order'.facts) :
    order.toTrade.delta = order'.toTrade.delta ∧ order.toTrade.price = order'.toTrade.price := by
  have side : order.side = order'.side := congrArg FillFacts.side facts
  have quantity : order.quantity = order'.quantity := congrArg FillFacts.quantity facts
  have price : order.price = order'.price := congrArg FillFacts.price facts
  refine ⟨?_, price⟩
  rw [toTrade_delta, toTrade_delta, signed, signed, side, quantity]

namespace SimulationSession

/-- The fills that the pipeline has accepted, in their order. -/
def acceptedFills (session : SimulationSession) : List FillFacts :=
  (session.booked.filter Booking.accepted).map fun booking => booking.order.facts

/-- No fill is booked under an order id that the pipeline has counted. -/
def Once (session : SimulationSession) : Prop := ∀ booking ∈ session.booked, booking.Unused

instance (session : SimulationSession) : Decidable session.Once := inferInstanceAs (Decidable (∀ _ ∈ _, _))

/-- The two sessions agree on all but marks, ids and curves. -/
structure InParity (symbol : String) (paperStart replayStart paper replay : SimulationSession) : Prop where
  paperSound : Sound true [symbol] paperStart paper
  replaySound : Sound false [symbol] replayStart replay
  cash : paper.ledger = paper.capital
  capital : paper.capital = replay.capital
  positions : ∀ key, (paper.fillPipeline.projector.positions.get key).map Position.unmarked =
    (replay.fillPipeline.projector.positions.get key).map Position.unmarked
  kept : ∀ sym, paper.positionMeta.get sym = replay.positionMeta.get sym
  fills : paper.acceptedFills = replay.acceptedFills

variable {viaLedger : Bool} {symbols : List String} {symbol : String} {start session after : SimulationSession}
  {paperStart replayStart paper replay : SimulationSession} {order order' : SimulatedOrder} {delta commission : ℚ}

theorem Once.earlier (once : Once after) (books : Books viaLedger symbols session after) : Once session :=
  fun booking member => once booking (books.earlier.subset member)

theorem bookFill_unused (once : Once (session.bookFill viaLedger delta commission order)) :
    session.fillPipeline.filledByOrder.get order.orderId = none :=
  once ⟨order, delta, commission, session.fillPipeline, (session.fillPipeline.record order).2⟩
    (List.mem_append_right _ List.mem_cons_self)

theorem Quiet.acceptedFills (quiet : Quiet session after) : after.acceptedFills = session.acceptedFills := by
  simp only [SimulationSession.acceptedFills, quiet.booked]

theorem InParity.quiet (parity : InParity symbol paperStart replayStart paper replay)
    {paper' replay' : SimulationSession} (paperQuiet : Quiet paper paper') (replayQuiet : Quiet replay replay')
    (kept : ∀ sym, paper'.positionMeta.get sym = replay'.positionMeta.get sym) :
    InParity symbol paperStart replayStart paper' replay' where
  paperSound := parity.paperSound.quiet paperQuiet
  replaySound := parity.replaySound.quiet replayQuiet
  cash := by rw [paperQuiet.ledger, paperQuiet.capital, parity.cash]
  capital := by rw [paperQuiet.capital, replayQuiet.capital, parity.capital]
  positions := by
    intro key
    rw [paperQuiet.positions, replayQuiet.positions, parity.positions]
  kept := kept
  fills := by rw [paperQuiet.acceptedFills, replayQuiet.acceptedFills, parity.fills]

/-- A booking of an unused order id is accepted, and moves the position of its symbol. -/
theorem bookFill_positions (sound : Sound viaLedger symbols start session)
    (bookable : Bookable symbols session order delta commission)
    (once : Once (session.bookFill viaLedger delta commission order)) (key : String) :
    (session.bookFill viaLedger delta commission order).fillPipeline.projector.positions.get key =
      if key = makePositionKey order.symbol defaultExchange then
        some (projectTrade ((session.position order.symbol).getD order.toTrade.opening) order.toTrade)
      else session.fillPipeline.projector.positions.get key := by
  obtain ⟨fill, recorded, -⟩ := sound.tracks.record_unused bookable.named (bookFill_unused once)
  simp only [bookFill, recorded]
  exact Dict.get_set _ _ _ _

theorem bookFill_acceptedFills (sound : Sound viaLedger symbols start session)
    (bookable : Bookable symbols session order delta commission)
    (once : Once (session.bookFill viaLedger delta commission order)) :
    (session.bookFill viaLedger delta commission order).acceptedFills = session.acceptedFills ++ [order.facts] := by
  have accepted := (sound.tracks.record_accepted bookable.named).mpr (bookFill_unused once)
  simp only [acceptedFills, bookFill, List.filter_append, List.map_append, accepted, List.filter_cons, if_true,
    List.filter_nil, List.map_cons, List.map_nil]

theorem InParity.position_unmarked (parity : InParity symbol paperStart replayStart paper replay) (sym : String)
    (opening : Position) : ((paper.position sym).getD opening).unmarked = ((replay.position sym).getD opening).unmarked := by
  have same := parity.positions (makePositionKey sym defaultExchange)
  simp only [position]
  cases held : paper.fillPipeline.projector.positions.get (makePositionKey sym defaultExchange) with
  | none =>
    rw [held, Option.map_none] at same
    rw [Option.map_eq_none_iff.mp same.symm]
  | some position =>
    rw [held, Option.map_some] at same
    obtain ⟨other, here, equal⟩ := Option.map_eq_some_iff.mp same.symm
    rw [here, Option.getD_some, Option.getD_some, equal]

/-- Both book one fill, each under an order id of its own. -/
theorem InParity.book (parity : InParity symbol paperStart replayStart paper replay)
    (bookable : Bookable [symbol] paper order delta commission)
    (bookable' : Bookable [symbol] replay order' delta commission) (facts : order.facts = order'.facts)
    (once : Once (paper.bookFill true delta commission order))
    (once' : Once (replay.bookFill false delta commission order')) :
    InParity symbol paperStart replayStart (paper.bookFill true delta commission order)
      (replay.bookFill false delta commission order') where
  paperSound := parity.paperSound.book bookable
  replaySound := parity.replaySound.book bookable'
  cash := rfl
  capital := by
    change paper.ledger + delta = replay.capital + delta
    rw [parity.cash, parity.capital]
  positions := by
    intro key
    have same : order'.symbol = order.symbol :=
      (List.mem_singleton.mp bookable'.symbol).trans (List.mem_singleton.mp bookable.symbol).symm
    rw [bookFill_positions parity.paperSound bookable once, bookFill_positions parity.replaySound bookable' once', same]
    split
    · have opening : order'.toTrade.opening = order.toTrade.opening := by
        simp only [Trade.opening, SimulatedOrder.toTrade, same]
      obtain ⟨signed, price⟩ := SimulatedOrder.toTrade_congr facts
      rw [opening]
      rw [Position.projectTrade_congr (parity.position_unmarked order.symbol order.toTrade.opening) signed price]
    · exact parity.positions key
  kept := parity.kept
  fills := by
    rw [bookFill_acceptedFills parity.paperSound bookable once,
      bookFill_acceptedFills parity.replaySound bookable' once', parity.fills, facts]

/-- Both sell all of the position at one price, and forget its metadata. -/
theorem InParity.sale (parity : InParity symbol paperStart replayStart paper replay) {view : PositionView}
    (seen : paper.view symbol = some view) (seen' : replay.view symbol = some view) {tradeTag tradeTag' : String}
    (plain : ':' ∉ tradeTag.toList) (plain' : ':' ∉ tradeTag'.toList) {price timestamp : ℚ} {barCount barCount' : Nat}
    {paper' replay' : SimulationSession}
    (quiet : Quiet (paper.bookFill true (price * view.quantity - commission) commission
      ⟨simClose symbol barCount, symbol, .SELL, view.quantity, price, timestamp, tradeTag⟩) paper')
    (quiet' : Quiet (replay.bookFill false (price * view.quantity - commission) commission
      ⟨simClose symbol barCount', symbol, .SELL, view.quantity, price, timestamp, tradeTag'⟩) replay')
    (kept : paper'.positionMeta = paper.positionMeta.pop symbol)
    (kept' : replay'.positionMeta = replay.positionMeta.pop symbol) (once : Once paper') (once' : Once replay') :
    InParity symbol paperStart replayStart paper' replay' := by
  have known : symbol ∈ [symbol] := List.mem_singleton_self _
  rw [Once, quiet.booked] at once
  rw [Once, quiet'.booked] at once'
  have sold := parity.book
    (bookable_sale known seen plain .SELL (fun _ => rfl) price timestamp commission barCount)
    (bookable_sale known seen' plain' .SELL (fun _ => rfl) price timestamp commission barCount') rfl once once'
  refine sold.quiet quiet quiet' ?_
  intro sym
  rw [kept, kept', Dict.get_pop, Dict.get_pop, parity.kept sym]

theorem InParity.view (parity : InParity symbol paperStart replayStart paper replay) (sym : String) :
    paper.view sym = replay.view sym := by
  have same := parity.positions (makePositionKey sym defaultExchange)
  simp only [SimulationSession.view, position, parity.kept sym]
  cases held : paper.fillPipeline.projector.positions.get (makePositionKey sym defaultExchange) with
  | none =>
    rw [held, Option.map_none] at same
    rw [Option.map_eq_none_iff.mp same.symm]
  | some position =>
    rw [held, Option.map_some] at same
    obtain ⟨other, here, equal⟩ := Option.map_eq_some_iff.mp same.symm
    have quantity := congrArg Position.quantity equal
    have avgPrice := congrArg Position.avgPrice equal
    rw [Position.unmarked_quantity, Position.unmarked_quantity] at quantity
    rw [Position.unmarked_avgPrice, Position.unmarked_avgPrice] at avgPrice
    rw [here]
    simp only [Option.filter_some, quantity]
    split
    · simp only [Option.map_some, quantity, avgPrice]
    · rfl

theorem hasPosition_eq_view : session.hasPosition symbol = (session.view symbol).isSome := by
  cases seen : session.view symbol with
  | none => exact flat_of_view_none seen
  | some view => exact hasPosition_of_view (seen ▸ Option.some_ne_none _)

theorem InParity.hasPosition (parity : InParity symbol paperStart replayStart paper replay) (sym : String) :
    paper.hasPosition sym = replay.hasPosition sym := by
  rw [hasPosition_eq_view, hasPosition_eq_view, parity.view]

/-- Over bars of one symbol nothing is open where the symbol has no position. -/
theorem Sound.openSymbols_nil (sound : Sound viaLedger [symbol] start session)
    (flat : session.hasPosition symbol = false) : session.openSymbols = [] := by
  apply List.eq_nil_iff_forall_not_mem.mpr
  intro sym member
  obtain ⟨position, kept, rfl⟩ := List.mem_map.mp member
  obtain ⟨inside, opened⟩ := List.mem_filter.mp kept
  obtain ⟨⟨key, value⟩, entry, rfl⟩ := List.mem_map.mp inside
  have found := Dict.get_eq_some.mpr entry
  obtain ⟨here, same⟩ := sound.keyed key value found
  rw [List.mem_singleton.mp same] at here
  have held : session.hasPosition symbol = true := by
    refine hasPosition_iff.mpr ⟨value, ?_, of_decide_eq_true opened⟩
    rw [position, here]
    exact found
  rw [flat] at held
  cases held

theorem Sound.totalEquity_flat (sound : Sound viaLedger [symbol] start session)
    (flat : session.hasPosition symbol = false) : session.totalEquity = session.capital := by
  have nothing := List.map_eq_nil_iff.mp (sound.openSymbols_nil flat)
  simp only [totalEquity, nothing, List.map_nil, List.sum_nil, add_zero]

end SimulationSession

/-- The two engines have the same settings, slippage is a fixed percentage, and a position may be opened. -/
structure PaperConfig.Matches (config : PaperConfig) (other : ReplayConfig) : Prop where
  settings : other.toSimConfig = config.toSimConfig
  slippage : other.slippageModel = .FIXED_PCT
  room : 0 < config.maxPositions

/-- At the price, the cash pays for all of the quantity of a buy, or for no part of it. -/
def PaperConfig.SizesAlike (config : PaperConfig) (price capital : ℚ) : Prop :=
  let qty := computeOrderQuantity capital price config.maxPositionPct
  price * qty + config.commission (price * qty) .BUY ≤ capital ∨
    ∀ n : Nat, 0 < n → (n : ℤ) ≤ qty → capital < price * n + config.commission (price * n) .BUY

namespace ReplayConfig

variable (config : ReplayConfig) {price capital : ℚ}

theorem affordable_full {n : Nat} (pays : price * n + config.commission (price * n) .BUY ≤ capital) :
    config.affordable price capital n = n := by
  cases n with
  | zero => rfl
  | succ n => rw [affordable, if_pos pays]

theorem affordable_none {n : Nat}
    (short : ∀ m : Nat, 0 < m → m ≤ n → capital < price * m + config.commission (price * m) .BUY) :
    config.affordable price capital n = 0 := by
  induction n with
  | zero => rfl
  | succ n ih =>
    rw [affordable, if_neg (not_le.mpr (short (n + 1) n.succ_pos le_rfl))]
    exact ih fun m positive within => short m positive (Nat.le_succ_of_le within)

theorem affordable_zero {n : Nat} (nothing : config.affordable price capital n = 0) (m : Nat) (positive : 0 < m)
    (within : m ≤ n) : capital < price * m + config.commission (price * m) .BUY := by
  induction n with
  | zero => omega
  | succ n ih =>
    rw [affordable] at nothing
    split at nothing
    · cases nothing
    · next short =>
      rcases Nat.lt_or_eq_of_le within with earlier | rfl
      · exact ih nothing (Nat.le_of_lt_succ earlier)
      · exact not_le.mp short

end ReplayConfig

theorem computeOrderQuantity_nonneg (equity price maxPositionPct : ℚ) :
    0 ≤ computeOrderQuantity equity price maxPositionPct := by
  simp only [computeOrderQuantity]
  split
  · exact le_rfl
  · exact le_max_left _ _

namespace PaperConfig

open SimulationSession

variable {config : PaperConfig} {other : ReplayConfig}

theorem Matches.commission_eq (same : config.Matches other) (notional : ℚ) (side : OrderSide) :
    other.commission notional side = config.commission notional side := by
  rw [same.settings]

theorem Matches.slippageFor_eq (same : config.Matches other) (barVolume : ℤ) :
    other.slippageFor barVolume = config.slippagePct := by
  have slippage : other.slippagePct = config.slippagePct := congrArg SimConfig.slippagePct same.settings
  simp only [ReplayConfig.slippageFor, same.slippage, computeSlippagePct, slippage]

/-- The sizes of a buy agree exactly when all of the quantity is paid for, or no part of it. -/
theorem sizesAlike_iff (same : config.Matches other) {session : SimulationSession} {price equity : ℚ}
    (cash : session.capital = equity) :
    config.SizesAlike price equity ↔
      config.sizeForSimulated price equity = other.sizeWithAffordability session price equity := by
  have percent : other.maxPositionPct = config.maxPositionPct := congrArg SimConfig.maxPositionPct same.settings
  simp only [SizesAlike, sizeForSimulated, ReplayConfig.sizeWithAffordability, percent, cash]
  have nonneg := computeOrderQuantity_nonneg equity price config.maxPositionPct
  generalize computeOrderQuantity equity price config.maxPositionPct = qty at nonneg
  obtain ⟨n, rfl⟩ := Int.eq_ofNat_of_zero_le nonneg
  simp only [Int.toNat_natCast, Int.cast_natCast, Nat.cast_le]
  simp only [← same.commission_eq]
  constructor
  · rintro (pays | short)
    · rw [other.affordable_full pays, if_neg (not_lt.mpr pays)]
      split
      · omega
      · rfl
    · rw [other.affordable_none short]
      split
      · rfl
      · next some =>
        have positive : 0 < n := by omega
        rw [if_pos (short n positive le_rfl)]
        rfl
  · intro agree
    by_cases pays : price * n + other.commission (price * n) .BUY ≤ equity
    · exact .inl pays
    · right
      rw [if_pos (not_le.mp pays), ite_self] at agree
      have nothing : other.affordable price equity n = 0 := by exact_mod_cast agree.symm
      exact other.affordable_zero nothing

variable {bar : HistoricalBar} {symbol : String} {paperStart replayStart paper replay : SimulationSession}

/-- Both open the same position. -/
theorem Matches.buy (same : config.Matches other) (parity : InParity bar.symbol paperStart replayStart paper replay)
    (flat : paper.hasPosition bar.symbol = false) {quantity : ℤ} (positive : 0 < quantity) (signal : Signal) (price : ℚ)
    (barCount barCount' : Nat)
    (once : Once (config.bookBuyFill paper bar signal price quantity (simOpen bar.symbol barCount)))
    (once' : Once (other.bookBuyFill replay bar signal price quantity (simOpen bar.symbol barCount'))) :
    InParity bar.symbol paperStart replayStart
      (config.bookBuyFill paper bar signal price quantity (simOpen bar.symbol barCount))
      (other.bookBuyFill replay bar signal price quantity (simOpen bar.symbol barCount')) := by
  have known : bar.symbol ∈ [bar.symbol] := List.mem_singleton_self _
  have flat' : replay.hasPosition bar.symbol = false := parity.hasPosition bar.symbol ▸ flat
  simp only [ReplayConfig.bookBuyFill, same.commission_eq] at once' ⊢
  have opened := parity.book
    (bookable_opening known positive flat price bar.timestamp (config.commission (price * quantity) .BUY) barCount)
    (bookable_opening known positive flat' price bar.timestamp (config.commission (price * quantity) .BUY) barCount')
    rfl once once'
  refine opened.quiet (opened_quiet _ bar.symbol bar.close _) (opened_quiet _ bar.symbol price _) ?_
  intro sym
  change (paper.positionMeta.set bar.symbol _).get sym = (replay.positionMeta.set bar.symbol _).get sym
  rw [Dict.get_set, Dict.get_set]
  split
  · rfl
  · exact parity.kept sym

/-- Both sell their position on a signal. -/
theorem Matches.sell (same : config.Matches other) (parity : InParity bar.symbol paperStart replayStart paper replay)
    {view : PositionView} (seen : paper.view bar.symbol = some view) (signal : Signal) (price basePrice : ℚ)
    (barCount barCount' : Nat)
    (once : Once ((config.bookSellFill paper bar signal view price basePrice
      (simClose bar.symbol barCount)).clearPosition bar.symbol))
    (once' : Once ((other.bookSellFill replay bar signal view price basePrice
      (simClose bar.symbol barCount')).clearPosition bar.symbol)) :
    InParity bar.symbol paperStart replayStart
      ((config.bookSellFill paper bar signal view price basePrice (simClose bar.symbol barCount)).clearPosition
        bar.symbol)
      ((other.bookSellFill replay bar signal view price basePrice (simClose bar.symbol barCount')).clearPosition
        bar.symbol) := by
  have seen' : replay.view bar.symbol = some view := parity.view bar.symbol ▸ seen
  have named : view.symbol = bar.symbol := view_symbol seen
  simp only [ReplayConfig.bookSellFill, ReplayConfig.bookSale, same.commission_eq, named] at once' ⊢
  exact parity.sale seen seen' (by decide : ':' ∉ "close".toList) (by decide : ':' ∉ "close".toList)
    ⟨rfl, rfl, rfl, rfl, rfl, fun _ => rfl⟩ ⟨rfl, rfl, rfl, rfl, rfl, fun _ => rfl⟩ rfl rfl once once'

/-- Both close their position at one price, each for its own reason. -/
theorem Matches.close (same : config.Matches other) {symbol : String}
    (parity : InParity symbol paperStart replayStart paper replay) (price timestamp : ℚ) (reason : String)
    {reason' : String} (plain : ':' ∉ reason'.toList)
    (once : Once (config.closerHooks.close paper symbol price timestamp reason))
    (once' : Once (other.closerHooks.close replay symbol price timestamp reason')) :
    InParity symbol paperStart replayStart (config.closerHooks.close paper symbol price timestamp reason)
      (other.closerHooks.close replay symbol price timestamp reason') := by
  simp only [PositionCloserHooks.close, ← parity.view symbol] at once once' ⊢
  cases seen : paper.view symbol with
  | none => exact parity
  | some view =>
    have seen' : replay.view symbol = some view := parity.view symbol ▸ seen
    have named : view.symbol = symbol := view_symbol seen
    have long : view.long = true := (parity.paperSound.view_long seen).1
    simp only [seen, closerHooks, bookCloseFill, ReplayConfig.closerHooks, ReplayConfig.bookCloseFill,
      ReplayConfig.bookSale, same.commission_eq, named, long, if_true] at once once' ⊢
    exact parity.sale seen seen' (by decide : ':' ∉ "close".toList) plain ⟨rfl, rfl, rfl, rfl, rfl, fun _ => rfl⟩
      ⟨rfl, rfl, rfl, rfl, rfl, fun _ => rfl⟩ rfl rfl once once'

/-- A signal that both process, whose buy is of the same size in both. -/
theorem Matches.process (same : config.Matches other)
    (parity : InParity bar.symbol paperStart replayStart paper replay) (signal : Signal) (fillPrice : Option ℚ)
    (sized : signal.isBuy = true → paper.hasPosition bar.symbol = false →
      config.SizesAlike (fillPrice.getD bar.close * (1 + config.slippagePct / 100)) paper.capital)
    (once : Once (config.signalHooks.process signal bar paper fillPrice))
    (once' : Once (other.signalHooks.process signal bar replay fillPrice)) :
    InParity bar.symbol paperStart replayStart (config.signalHooks.process signal bar paper fillPrice)
      (other.signalHooks.process signal bar replay fillPrice) := by
  have held := parity.hasPosition bar.symbol
  simp only [SignalProcessorHooks.process, ← held, ← parity.view bar.symbol] at once once' ⊢
  by_cases idle : signal.isActionable = false
  · simp only [if_pos idle]
    exact parity
  · simp only [if_neg idle] at once once' ⊢
    by_cases buys : signal.isBuy = true ∧ paper.hasPosition bar.symbol = false
    · -- The gate is open, and the equity for sizing is the cash, as nothing is open.
      have gate : config.signalHooks.entryGate paper = false := by
        simp only [signalHooks, parity.paperSound.openSymbols_nil buys.2, List.length_nil, Nat.cast_zero]
        exact decide_eq_false (not_le.mpr same.room)
      have gate' : other.signalHooks.entryGate replay = false := rfl
      have flat' : replay.hasPosition bar.symbol = false := held ▸ buys.2
      have equity : other.signalHooks.equityForSizing replay = paper.capital :=
        (parity.replaySound.totalEquity_flat flat').trans parity.capital.symm
      have slippage : other.signalHooks.slippagePct bar = config.slippagePct := same.slippageFor_eq bar.volume
      have slippage' : config.signalHooks.slippagePct bar = config.slippagePct := rfl
      have sizes := (sizesAlike_iff same parity.capital.symm).mp (sized buys.1 buys.2)
      have size : config.signalHooks.sizeForSimulated paper
          (fillPrice.getD bar.close * (1 + config.slippagePct / 100)) (config.signalHooks.equityForSizing paper) =
        other.signalHooks.sizeForSimulated replay (fillPrice.getD bar.close * (1 + config.slippagePct / 100))
          paper.capital := sizes
      simp only [if_pos buys, gate, gate', equity, slippage, slippage', size, Bool.false_eq_true, if_false]
        at once once' ⊢
      split
      · exact parity
      · next sizeable =>
        rw [if_neg sizeable] at once once'
        exact same.buy parity buys.2 (not_le.mp sizeable) signal _ _ _ once once'
    · simp only [if_neg buys] at once once' ⊢
      by_cases sells : signal.isSell = true ∧ paper.hasPosition bar.symbol = true
      · simp only [if_pos sells] at once once' ⊢
        cases seen : paper.view bar.symbol with
        | none => exact parity
        | some view =>
          have something : ¬ view.quantity ≤ 0 := not_le.mpr (parity.paperSound.view_long seen).2
          have slippage : other.signalHooks.slippagePct bar = config.signalHooks.slippagePct bar :=
            same.slippageFor_eq bar.volume
          simp only [seen, if_neg something, slippage] at once once' ⊢
          exact same.sell parity seen signal _ _ _ _ once once'
      · simp only [if_neg sells]
        exact parity

/-- Each buy of the signals that finds nothing open is of the same size in both engines. -/
def BuysAlike (config : PaperConfig) (bar : HistoricalBar) (fillPrice : Option ℚ) :
    List Signal → SimulationSession → Prop
  | [], _ => True
  | signal :: rest, session =>
    (signal.isBuy = true → session.hasPosition bar.symbol = false →
      config.SizesAlike (fillPrice.getD bar.close * (1 + config.slippagePct / 100)) session.capital) ∧
    BuysAlike config bar fillPrice rest (config.signalHooks.process signal bar session fillPrice)

theorem Matches.processAll (same : config.Matches other)
    (parity : InParity bar.symbol paperStart replayStart paper replay) (fillPrice : Option ℚ) {signals : List Signal}
    (sized : config.BuysAlike bar fillPrice signals paper)
    (once : Once (config.signalHooks.processAll signals bar paper fillPrice))
    (once' : Once (other.signalHooks.processAll signals bar replay fillPrice)) :
    InParity bar.symbol paperStart replayStart (config.signalHooks.processAll signals bar paper fillPrice)
      (other.signalHooks.processAll signals bar replay fillPrice) := by
  have known : bar.symbol ∈ [bar.symbol] := List.mem_singleton_self _
  induction signals generalizing paper replay with
  | nil => exact parity
  | cons signal rest ih =>
    have first := same.process parity signal fillPrice sized.1
      (once.earlier (processAll_books config.signalHooks_settles rest bar fillPrice known _))
      (once'.earlier (processAll_books other.signalHooks_settles rest bar fillPrice known _))
    exact ih first sized.2 once once'

end PaperConfig

end TradeX.V1
