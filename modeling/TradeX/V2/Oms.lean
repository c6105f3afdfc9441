import TradeX.V2.Domain

/-! Order and position state of the v2 engine: the trading cache, the order
manager over it, and the projection of fills into positions. -/

namespace TradeX.V2

open Lib

/-- `TradingCache`, without the quotes. -/
structure TradingCache where
  orders : Dict OrderId Order := ∅
  positions : Dict InstrumentId Position := ∅

namespace TradingCache

def setOrder (cache : TradingCache) (order : Order) : TradingCache :=
  { cache with orders := cache.orders.set order.orderId order }

def getOrder (cache : TradingCache) (orderId : OrderId) : Option Order := cache.orders.get orderId

def setPosition (cache : TradingCache) (position : Position) : TradingCache :=
  { cache with positions := cache.positions.set position.instrumentId position }

def getPosition (cache : TradingCache) (instrumentId : InstrumentId) : Option Position :=
  cache.positions.get instrumentId

/-- The signed quantity of an instrument; an absent position is flat. -/
def held (cache : TradingCache) (instrumentId : InstrumentId) : ℚ :=
  ((cache.getPosition instrumentId).map Position.quantity).getD 0

variable (cache : TradingCache) (order : Order) (position : Position) (instrumentId : InstrumentId)

theorem getPosition_setPosition :
    (cache.setPosition position).getPosition instrumentId =
      if instrumentId = position.instrumentId then some position else cache.getPosition instrumentId :=
  Dict.get_set ..

theorem held_setPosition :
    (cache.setPosition position).held instrumentId =
      if instrumentId = position.instrumentId then position.quantity else cache.held instrumentId := by
  unfold held
  rw [getPosition_setPosition]
  split <;> rfl

end TradingCache

namespace OrderManager

/-- `OrderManager.upsert`. -/
def upsert (cache : TradingCache) (order : Order) : TradingCache := cache.setOrder order

def getOrder (cache : TradingCache) (orderId : OrderId) : Except Failure Order :=
  match cache.getOrder orderId with
  | none => .error (.orderNotFound orderId)
  | some order => .ok order

/-- `OrderManager.apply_fill`. -/
def applyFill (cache : TradingCache) (orderId : OrderId) (filledQty : ℚ) :
    Except Failure (TradingCache × Order) := do
  let order ← getOrder cache orderId
  let newFilled := order.filledQuantity + filledQty
  if newFilled > order.quantity then
    throw (.fillExceeds newFilled order.quantity)
  let target := if newFilled = order.quantity then OrderStatus.FILLED else .PARTIALLY_FILLED
  let moved ← order.transitionTo target
  let filled := { moved with filledQuantity := newFilled }
  return (cache.setOrder filled, filled)

end OrderManager

namespace PositionManager

/-- The position `apply_trade` starts from when the cache has none. -/
def flat (instrumentId : InstrumentId) : Position where
  instrumentId := instrumentId
  quantity := 0
  avgPrice := 0
  realizedPnl := 0
  unrealizedPnl := 0

/-- The average price and the realized PnL after a signed quantity at a price. -/
def project (pos : Position) (signed price : ℚ) : ℚ × ℚ :=
  let oldQty := pos.quantity
  let newQty := oldQty + signed
  if oldQty = 0 ∨ (oldQty > 0 ∧ signed > 0) ∨ (oldQty < 0 ∧ signed < 0) then
    -- opening or increasing the same side: weighted average
    let avg := if newQty = 0 then 0 else (pos.avgPrice * |oldQty| + price * |signed|) / |newQty|
    (avg, pos.realizedPnl)
  else
    -- reducing or flipping: the closed quantity is realized
    let closed := min |oldQty| |signed|
    let pnl := if oldQty > 0 then (price - pos.avgPrice) * closed else (pos.avgPrice - price) * closed
    let avg :=
      if newQty = 0 then 0
      else if (decide (oldQty > 0)) ≠ (decide (newQty > 0)) then price
      else pos.avgPrice
    (avg, pos.realizedPnl + pnl)

/-- `PositionManager.apply_trade`. -/
def applyTrade (cache : TradingCache) (trade : Trade) : TradingCache :=
  let pos := (cache.getPosition trade.instrumentId).getD (flat trade.instrumentId)
  let signed := trade.side.signed trade.quantity
  let projected := project pos signed trade.price
  cache.setPosition { pos with
    quantity := pos.quantity + signed
    avgPrice := projected.1
    realizedPnl := projected.2 }

/-- `PositionManager.apply`: the trade of a filled order. -/
def apply (cache : TradingCache) (order : Order) : TradingCache :=
  applyTrade cache {
    tradeId := order.orderId.value
    orderId := order.orderId
    instrumentId := order.instrumentId
    price := order.price.getD 0
    quantity := order.filledQuantity
    side := order.side }

/-- Every cached position sits under its own instrument. -/
def Keyed (cache : TradingCache) : Prop :=
  ∀ instrumentId position, cache.getPosition instrumentId = some position →
    position.instrumentId = instrumentId

variable {cache : TradingCache}

theorem keyed_start (keyed : Keyed cache) (instrumentId : InstrumentId) :
    ((cache.getPosition instrumentId).getD (flat instrumentId)).instrumentId = instrumentId := by
  cases found : cache.getPosition instrumentId with
  | none => rfl
  | some position => exact keyed _ _ found

theorem applyTrade_keyed (keyed : Keyed cache) (trade : Trade) : Keyed (applyTrade cache trade) := by
  intro instrumentId position found
  simp only [applyTrade, TradingCache.getPosition_setPosition] at found
  split at found
  · next same =>
    cases found
    exact same.symm
  · exact keyed _ _ found

/-- A trade moves its own instrument by its signed quantity and no other one. -/
theorem applyTrade_held (keyed : Keyed cache) (trade : Trade) (instrumentId : InstrumentId) :
    (applyTrade cache trade).held instrumentId =
      cache.held instrumentId +
        if instrumentId = trade.instrumentId then trade.side.signed trade.quantity else 0 := by
  simp only [applyTrade, TradingCache.held_setPosition, keyed_start keyed]
  by_cases same : instrumentId = trade.instrumentId
  · subst same
    simp only [if_true, TradingCache.held]
    cases cache.getPosition trade.instrumentId <;> rfl
  · simp only [if_neg same, add_zero]

theorem apply_keyed (keyed : Keyed cache) (order : Order) : Keyed (apply cache order) :=
  applyTrade_keyed keyed _

theorem apply_held (keyed : Keyed cache) (order : Order) (instrumentId : InstrumentId) :
    (apply cache order).held instrumentId =
      cache.held instrumentId +
        if instrumentId = order.instrumentId then order.side.signed order.filledQuantity else 0 :=
  applyTrade_held keyed _ instrumentId

end PositionManager

end TradeX.V2
