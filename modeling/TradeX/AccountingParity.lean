import TradeX.V1.Accounting
import TradeX.V1.LedgerRecovery
import TradeX.V2.Accounting

/-! The books of the two engines. Folded from the same trades in whole shares, the v1 projector and
the v2 position manager hold the same quantities and the same realized profits, at the same cost. -/

namespace TradeX

open Lib

/-- A trade of the one engine is that of the other, where an instrument has the given key. -/
structure SameTrade (names : V2.InstrumentId → String) (old : V1.Trade) (new : V2.Trade) : Prop where
  key : old.positionKey = names new.instrumentId
  side : old.side = .BUY ↔ new.side = .BUY
  quantity : old.quantity = new.quantity
  price : old.price = new.price
  whole : Decimal.Whole new.quantity

/-- The same quantity and realized profit, and the same cost of what is held. -/
structure SameBooks (old : V1.Position) (new : V2.Position) : Prop where
  quantity : (old.quantity : ℚ) = new.quantity
  realizedPnl : old.realizedPnl = new.realizedPnl
  avgPrice : new.quantity ≠ 0 → old.avgPrice = new.avgPrice

/-- The figures of the two positions are equal. -/
def EqualBooks (old : V1.Position) (new : V2.Position) : Prop :=
  (old.quantity : ℚ) = new.quantity ∧ old.realizedPnl = new.realizedPnl ∧ old.avgPrice = new.avgPrice

/-- The trades of a key as fills. -/
def V1.fillsAt (trades : List V1.Trade) (key : String) : List (ℤ × ℚ) :=
  (trades.filter fun trade => trade.positionKey = key).map fun trade => (trade.delta, trade.price)

namespace SameTrade

variable {names : V2.InstrumentId → String} {old : V1.Trade} {new : V2.Trade} {olds : List V1.Trade} {news : List V2.Trade}

theorem delta (same : SameTrade names old new) : (old.delta : ℚ) = new.signed := by
  have whole : (Decimal.toInt old.quantity : ℚ) = new.quantity := by
    rw [same.quantity]
    exact same.whole
  have side := same.side
  unfold V1.Trade.delta V2.Trade.signed
  cases oldSide : old.side with
  | BUY =>
    rw [side.mp oldSide]
    exact whole
  | SELL =>
    have sells : new.side = .SELL := by
      cases newSide : new.side with
      | BUY => exact absurd (side.mpr newSide) (by rw [oldSide]; rintro ⟨⟩)
      | SELL => rfl
    rw [sells]
    dsimp only
    rw [Int.cast_neg, whole]
    rfl

/-- Instruments with keys of their own have the same fills in both engines. -/
theorem flow (injective : Function.Injective names) (same : List.Forall₂ (SameTrade names) olds news)
    (instrumentId : V2.InstrumentId) :
    V1.Position.flow (V1.fillsAt olds (names instrumentId)) = V2.PositionManager.flow news instrumentId := by
  induction same with
  | nil => rfl
  | @cons old new olds news first others ih =>
    have here : old.positionKey = names instrumentId ↔ new.instrumentId = instrumentId := by
      rw [first.key]
      exact injective.eq_iff
    unfold V1.Position.flow V1.fillsAt V2.PositionManager.flow at ih ⊢
    by_cases own : new.instrumentId = instrumentId
    · rw [List.filter_cons_of_pos (by simpa using here.mpr own), List.filter_cons_of_pos (by simpa using own)]
      simp only [List.map_cons]
      rw [ih, first.delta, first.price]
      rfl
    · rw [List.filter_cons_of_neg (by simpa using fun key => own (here.mp key)),
        List.filter_cons_of_neg (by simpa using own)]
      exact ih

end SameTrade

namespace V1

theorem foldl_projectTrade (trades : List Trade) (position : Position) :
    trades.foldl projectTrade position = position.withFills (trades.map fun trade => (trade.delta, trade.price)) := by
  unfold Position.withFills
  rw [List.foldl_map]
  rfl

/-- The projector has the position of the fills of a key, where there are any. -/
theorem PortfolioProjector.fold_position (trades : List Trade) (key : String) :
    match (fold trades).positions.get key with
    | some position => fillsAt trades key ≠ [] ∧
        ∃ symbol exchange, position = (Position.unfilled symbol exchange 1).withFills (fillsAt trades key)
    | none => fillsAt trades key = [] := by
  have got := fold_get trades key
  unfold fillsAt
  cases own : trades.filter fun trade => trade.positionKey = key with
  | nil =>
    rw [own] at got
    rw [got]
    rfl
  | cons first rest =>
    rw [own, List.head?_cons, Option.map_some] at got
    rw [got]
    exact ⟨List.cons_ne_nil _ _, first.symbol, first.exchange, foldl_projectTrade _ _⟩

end V1

namespace V2.PositionManager

variable {cache : TradingCache} {trades : List Trade} {instrumentId : InstrumentId}

/-- An instrument without trades keeps what it has. -/
theorem applyTrades_other (keyed : Keyed cache) (others : ∀ trade ∈ trades, trade.instrumentId ≠ instrumentId) :
    (applyTrades cache trades).getPosition instrumentId = cache.getPosition instrumentId := by
  induction trades generalizing cache with
  | nil => rfl
  | cons trade trades ih =>
    obtain ⟨first, rest⟩ := List.forall_mem_cons.mp others
    have here : (applyTrade cache trade).getPosition instrumentId = cache.getPosition instrumentId := by
      simp only [applyTrade, TradingCache.getPosition_setPosition, keyed_start keyed, if_neg first.symm]
    rw [← here]
    exact ih (applyTrade_keyed keyed trade) rest

/-- The position manager has the position of the trades of an instrument, where there are any. -/
theorem applyTrades_position (trades : List Trade) (instrumentId : InstrumentId) :
    match (applyTrades {} trades).getPosition instrumentId with
    | some position => flow trades instrumentId ≠ [] ∧ position.holding = Holding.flat.fills (flow trades instrumentId)
    | none => flow trades instrumentId = [] := by
  have keyed : Keyed {} := by
    intro instrumentId position found
    cases found
  have none_iff : flow trades instrumentId = [] ↔ ∀ trade ∈ trades, trade.instrumentId ≠ instrumentId := by
    unfold flow
    rw [List.map_eq_nil_iff, List.filter_eq_nil_iff]
    simp only [decide_eq_true_eq, ne_eq]
  have books := applyTrades_holding keyed trades instrumentId
  have start : holding {} instrumentId = Holding.flat := rfl
  rw [start] at books
  split
  · next position found =>
    constructor
    · intro empty
      rw [applyTrades_other keyed (none_iff.mp empty)] at found
      cases found
    · rw [← books]
      unfold holding
      rw [found, Option.getD_some]
  · next absent => exact none_iff.mpr (applyTrades_absent trades absent keyed).2

end V2.PositionManager

variable {names : V2.InstrumentId → String} {olds : List V1.Trade} {news : List V2.Trade}

/-- The fill of a trade that is not empty is not. -/
theorem V2.PositionManager.flow_filled (filled : ∀ trade ∈ news, trade.quantity ≠ 0) (instrumentId : V2.InstrumentId) :
    ∀ fill ∈ flow news instrumentId, fill.1 ≠ 0 := by
  intro fill member
  obtain ⟨trade, own, rfl⟩ := List.mem_map.mp member
  have quantity := filled trade (List.mem_of_mem_filter own)
  intro empty
  have size := V2.OrderSide.abs_signed trade.side trade.quantity
  rw [show trade.side.signed trade.quantity = 0 from empty, abs_zero] at size
  exact quantity (abs_eq_zero.mp size.symm)

theorem V1.Position.holding_unit {position : V1.Position} (unit : position.mult = 1) :
    position.holding = ⟨position.quantity, position.avgPrice, position.realizedPnl⟩ := by
  unfold holding
  rw [unit, div_one]

/-- The two engines have the same books of an instrument, and equal ones where no trade is empty. -/
theorem same_books (injective : Function.Injective names) (same : List.Forall₂ (SameTrade names) olds news)
    (instrumentId : V2.InstrumentId) :
    Option.Rel SameBooks ((V1.PortfolioProjector.fold olds).positions.get (names instrumentId))
        ((V2.PositionManager.applyTrades {} news).getPosition instrumentId) ∧
      ((∀ trade ∈ news, trade.quantity ≠ 0) →
        Option.Rel EqualBooks ((V1.PortfolioProjector.fold olds).positions.get (names instrumentId))
          ((V2.PositionManager.applyTrades {} news).getPosition instrumentId)) := by
  have flows := SameTrade.flow injective same instrumentId
  have old := V1.PortfolioProjector.fold_position olds (names instrumentId)
  have new := V2.PositionManager.applyTrades_position news instrumentId
  cases oldFound : (V1.PortfolioProjector.fold olds).positions.get (names instrumentId) with
  | none =>
    rw [oldFound] at old
    cases newFound : (V2.PositionManager.applyTrades {} news).getPosition instrumentId with
    | none => exact ⟨.none, fun _ => .none⟩
    | some position =>
      rw [newFound, ← flows, old] at new
      exact absurd rfl new.1
  | some position =>
    rw [oldFound] at old
    obtain ⟨fills, symbol, exchange, rfl⟩ := old
    cases newFound : (V2.PositionManager.applyTrades {} news).getPosition instrumentId with
    | none =>
      rw [newFound, ← flows] at new
      exact absurd (List.map_eq_nil_iff.mp new) fills
    | some held =>
      rw [newFound, ← flows] at new
      obtain ⟨-, books⟩ := new
      have start : (V1.Position.unfilled symbol exchange 1).holding = Holding.flat := by
        simp [V1.Position.unfilled, V1.Position.holding, Holding.flat]
      have unit : ((V1.Position.unfilled symbol exchange 1).withFills (V1.fillsAt olds (names instrumentId))).mult = 1 := by
        rw [V1.Position.withFills_mult]
        exact if_pos one_pos
      have unscaled := V1.Position.holding_unit unit
      refine ⟨.some ?_, fun filled => .some ?_⟩
      · have agree := @V1.Position.withFills_agree (V1.Position.unfilled symbol exchange 1) _
          (V1.fillsAt olds (names instrumentId)) (Holding.Agree.refl _)
        rw [start, ← books, unscaled] at agree
        exact ⟨agree.quantity, agree.realized, agree.average⟩
      · have wholeFilled : ∀ fill ∈ V1.fillsAt olds (names instrumentId), fill.1 ≠ 0 := by
          intro fill member empty
          have exact : ((fill.1 : ℚ), fill.2) ∈ V2.PositionManager.flow news instrumentId := by
            rw [← flows]
            exact List.mem_map.mpr ⟨fill, member, rfl⟩
          exact V2.PositionManager.flow_filled filled instrumentId _ exact (Int.cast_eq_zero.mpr empty)
        have equal := @V1.Position.withFills_holding (V1.Position.unfilled symbol exchange 1) _ wholeFilled
        rw [start, ← books, unscaled] at equal
        exact ⟨congrArg Holding.quantity equal, congrArg Holding.realized equal, congrArg Holding.average equal⟩

/-- The v1 books of any fills balance and come to no division by zero. Folded from the same trades in
whole shares, the two engines have the same quantity and realized profit, the same price of what is
held, and the same price of nothing where no trade is empty. -/
theorem books_balance_and_agree (symbol exchange : String) {multiplier : ℚ} (positive : 0 < multiplier)
    (fills : List (ℤ × ℚ)) (injective : Function.Injective names)
    (same : List.Forall₂ (SameTrade names) olds news) (instrumentId : V2.InstrumentId) :
    (∃ position, (V1.Position.unfilled symbol exchange multiplier).tryFills fills = some position ∧
        position.Balanced multiplier fills) ∧
      Option.Rel SameBooks ((V1.PortfolioProjector.fold olds).positions.get (names instrumentId))
        ((V2.PositionManager.applyTrades {} news).getPosition instrumentId) ∧
      ((∀ trade ∈ news, trade.quantity ≠ 0) →
        Option.Rel EqualBooks ((V1.PortfolioProjector.fold olds).positions.get (names instrumentId))
          ((V2.PositionManager.applyTrades {} news).getPosition instrumentId)) := by
  refine ⟨⟨_, V1.Position.tryFills_eq _ fills, ?_⟩, same_books injective same instrumentId⟩
  exact V1.Position.withFills_balanced fills symbol exchange positive

/-- A trade in an instrument, as the one engine has it. -/
def oldTrade (symbol : String) (side : V1.OrderSide) (quantity price : ℚ) : V1.Trade where
  tradeId := "T1"
  orderId := "220901"
  symbol := symbol
  exchange := "NSE"
  side := side
  quantity := quantity
  price := price

/-- The trade as the other engine has it. -/
def newTrade (symbol : String) (side : V2.OrderSide) (quantity price : ℚ) : V2.Trade where
  tradeId := "T1"
  orderId := ⟨"220901"⟩
  instrumentId := ⟨symbol ++ ":NSE"⟩
  price := price
  quantity := quantity
  side := side

/-- A long position is opened, added to, reduced and turned, with another instrument between. -/
theorem books_balance_and_agree_turned :
    (∃ position, (V1.Position.unfilled "NIFTY" "NFO" (5 / 2)).tryFills [(10, 100), (10, 110), (-25, 120), (5, 90)] =
        some position ∧ position.Balanced (5 / 2) [(10, 100), (10, 110), (-25, 120), (5, 90)]) ∧
      Option.Rel EqualBooks
        ((V1.PortfolioProjector.fold [oldTrade "INFY" .BUY 10 1500, oldTrade "SBIN" .BUY 5 800,
          oldTrade "INFY" .SELL 15 1520]).positions.get "INFY:NSE")
        ((V2.PositionManager.applyTrades {} [newTrade "INFY" .BUY 10 1500, newTrade "SBIN" .BUY 5 800,
          newTrade "INFY" .SELL 15 1520]).getPosition ⟨"INFY:NSE"⟩) := by
  have injective : Function.Injective V2.InstrumentId.value := by
    rintro ⟨first⟩ ⟨second⟩ same
    exact congrArg V2.InstrumentId.mk same
  have same : List.Forall₂ (SameTrade V2.InstrumentId.value)
      [oldTrade "INFY" .BUY 10 1500, oldTrade "SBIN" .BUY 5 800, oldTrade "INFY" .SELL 15 1520]
      [newTrade "INFY" .BUY 10 1500, newTrade "SBIN" .BUY 5 800, newTrade "INFY" .SELL 15 1520] := by
    refine .cons ?_ (.cons ?_ (.cons ?_ .nil)) <;>
      exact ⟨by decide +kernel, by decide, rfl, rfl, by decide +kernel⟩
  have both := books_balance_and_agree "NIFTY" "NFO" (by norm_num : (0 : ℚ) < 5 / 2)
    [(10, 100), (10, 110), (-25, 120), (5, 90)] injective same ⟨"INFY:NSE"⟩
  exact ⟨both.1, both.2.2 (by decide +kernel)⟩

/-- An empty trade leaves its price in the one book only, and half a share is cut to none there. -/
theorem books_differ :
    ((V1.PortfolioProjector.fold [oldTrade "INFY" .BUY 0 1500]).positions.get "INFY:NSE").map V1.Position.figures =
      some ⟨0, 1500, 0⟩ ∧
    ((V2.PositionManager.applyTrades {} [newTrade "INFY" .BUY 0 1500]).getPosition ⟨"INFY:NSE"⟩).map
      V2.Position.holding = some ⟨0, 0, 0⟩ ∧
    ((V1.PortfolioProjector.fold [oldTrade "INFY" .BUY (1 / 2) 1500]).positions.get "INFY:NSE").map
      V1.Position.figures = some ⟨0, 1500, 0⟩ ∧
    ((V2.PositionManager.applyTrades {} [newTrade "INFY" .BUY (1 / 2) 1500]).getPosition ⟨"INFY:NSE"⟩).map
      V2.Position.holding = some ⟨1 / 2, 1500, 0⟩ := by
  decide +kernel

end TradeX
