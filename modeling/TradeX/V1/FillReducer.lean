import TradeX.V1.Orders

/-! Identity of a trade and the reducer that accepts its fill: no fill id twice, no
cumulative decrease, no overfill. -/

namespace TradeX.V1

open Lib

/-- `not text or not str(text).strip()`. -/
def blank (text : String) : Bool := decide (Text.strip text = "")

/-- The canonical identifier of a trade; a `Trade` carries no broker trade id. -/
structure TradeIdKey where
  tradeId : String
  brokerTradeId : Option String := none
  orderId : Option String := none
  deriving DecidableEq, Repr

/-- `TradeIdKey.from_trade`. -/
def TradeIdKey.fromTrade (trade : Trade) : TradeIdKey where
  tradeId := Text.strip trade.tradeId
  orderId := if trade.orderId = "" then none else some (Text.strip trade.orderId)

structure FillEvent where
  fillId : String
  orderId : String
  quantity : ℚ
  cumulativeQuantity : ℚ
  price : ℚ
  fillId_present : blank fillId = false
  orderId_present : blank orderId = false
  quantity_nonneg : 0 ≤ quantity
  cumulative_nonneg : 0 ≤ cumulativeQuantity

inductive FillRejection where
  | duplicate (fillId : String)
  | decreased (cumulative baseline : ℚ)
  | exceeds (cumulative orderQuantity : ℚ)
  deriving DecidableEq, Repr

structure FillReducer where
  seenFillIds : List String := []
  cumulativeByOrder : Dict String ℚ := ∅

namespace FillReducer

/-- `FillReducer.fill_from_trade`, with the checks of the event it builds. -/
def fillFromTrade (tradeId orderId : String) (quantity priorFilled price : ℚ) : Except OmsError FillEvent :=
  if fillId : blank tradeId = false then
    if ordered : blank orderId = false then
      if nonneg : 0 ≤ quantity then
        if cumulative : 0 ≤ priorFilled + quantity then
          .ok ⟨tradeId, orderId, quantity, priorFilled + quantity, price, fillId, ordered, nonneg, cumulative⟩
        else .error (.valueError "cumulative_quantity cannot be negative")
      else .error (.valueError "fill quantity cannot be negative")
    else .error (.valueError "order_id is required")
  else .error (.valueError "fill_id is required")

/-- The cumulative quantity that a fill of the order may not fall below. -/
def baseline (reducer : FillReducer) (orderId : String) (priorCumulative : ℚ) : ℚ :=
  max priorCumulative ((reducer.cumulativeByOrder.get orderId).getD 0)

/-- `FillReducer.validate`: the reason for a rejection, if there is one. -/
def validate (reducer : FillReducer) (fill : FillEvent) (orderQuantity priorCumulative : ℚ) :
    Option FillRejection :=
  if fill.fillId ∈ reducer.seenFillIds then some (.duplicate fill.fillId)
  else if fill.cumulativeQuantity < reducer.baseline fill.orderId priorCumulative then
    some (.decreased fill.cumulativeQuantity (reducer.baseline fill.orderId priorCumulative))
  else if fill.cumulativeQuantity > orderQuantity then some (.exceeds fill.cumulativeQuantity orderQuantity)
  else none

/-- `FillReducer.commit`. -/
def commit (reducer : FillReducer) (fill : FillEvent) : FillReducer where
  seenFillIds := fill.fillId :: reducer.seenFillIds
  cumulativeByOrder := reducer.cumulativeByOrder.set fill.orderId fill.cumulativeQuantity

variable {reducer : FillReducer} {fill : FillEvent} {tradeId orderId : String}
  {quantity priorFilled price orderQuantity priorCumulative : ℚ} {rejection : FillRejection}

theorem fillFromTrade_ok (built : fillFromTrade tradeId orderId quantity priorFilled price = .ok fill) :
    fill.fillId = tradeId ∧ fill.orderId = orderId ∧ fill.quantity = quantity ∧
      fill.cumulativeQuantity = priorFilled + quantity ∧ 0 ≤ quantity := by
  unfold fillFromTrade at built
  split at built
  · split at built
    · split at built
      · next nonneg =>
        split at built
        · cases built
          exact ⟨rfl, rfl, rfl, rfl, nonneg⟩
        · cases built
      · cases built
    · cases built
  · cases built

theorem validate_accepted (accepted : reducer.validate fill orderQuantity priorCumulative = none) :
    fill.fillId ∉ reducer.seenFillIds ∧ priorCumulative ≤ fill.cumulativeQuantity ∧
      fill.cumulativeQuantity ≤ orderQuantity := by
  unfold validate at accepted
  split at accepted
  · cases accepted
  · next fresh =>
    split at accepted
    · cases accepted
    · next grown =>
      split at accepted
      · cases accepted
      · next fits =>
        exact ⟨fresh, (le_max_left ..).trans (not_lt.mp grown), not_lt.mp fits⟩

/-- Only an id the reducer has seen is called a duplicate. -/
theorem validate_duplicate {fillId : String}
    (rejected : reducer.validate fill orderQuantity priorCumulative = some (.duplicate fillId)) :
    fill.fillId ∈ reducer.seenFillIds := by
  unfold validate at rejected
  split at rejected
  · next seen => exact seen
  · split at rejected
    · cases rejected
    · split at rejected <;> cases rejected

end FillReducer

end TradeX.V1
