import TradeX.V1.RiskManager

/-! The trading-state gate of the v1 risk manager while the state is `REDUCING`: what the gate answers
when it is asked with a side and quantities, and what the policy of the risk manager, which asks it with
none, makes of it. -/

namespace TradeX.V1

open Lib

/-- What an order adds to the signed position. -/
def Order.signedQuantity (order : Order) : ℚ :=
  match order.side with
  | .BUY => order.quantity
  | .SELL => -order.quantity

/-- The order strictly reduces the absolute position and does not flip its sign. -/
def Order.Reduces (order : Order) (currentQty : ℤ) : Prop :=
  |(currentQty : ℚ) + order.signedQuantity| < |(currentQty : ℚ)| ∧
    0 ≤ (currentQty : ℚ) * (currentQty + order.signedQuantity)

instance (order : Order) (currentQty : ℤ) : Decidable (order.Reduces currentQty) :=
  inferInstanceAs (Decidable (_ ∧ _))

theorem Order.reduces_iff_sell {order : Order} {currentQty : ℤ} (sell : order.side = .SELL)
    (positive : 0 < order.quantity) :
    order.Reduces currentQty ↔ 0 < currentQty ∧ order.quantity ≤ currentQty := by
  simp only [Reduces, signedQuantity, sell]
  constructor
  · rintro ⟨reduced, kept⟩
    have long : (0 : ℚ) < currentQty := by
      by_contra short
      rw [not_lt] at short
      rw [abs_of_nonpos short, abs_of_nonpos (by linarith)] at reduced
      linarith
    exact ⟨by exact_mod_cast long, by linarith [nonneg_of_mul_nonneg_right kept long]⟩
  · rintro ⟨long, within⟩
    have longer : (0 : ℚ) < currentQty := by exact_mod_cast long
    constructor
    · rw [abs_of_pos longer, abs_of_nonneg (by linarith)]
      linarith
    · exact mul_nonneg longer.le (by linarith)

theorem Order.reduces_iff_buy {order : Order} {currentQty : ℤ} (buy : order.side = .BUY)
    (positive : 0 < order.quantity) :
    order.Reduces currentQty ↔ currentQty < 0 ∧ order.quantity ≤ -currentQty := by
  simp only [Reduces, signedQuantity, buy]
  constructor
  · rintro ⟨reduced, kept⟩
    have short : (currentQty : ℚ) < 0 := by
      by_contra long
      rw [not_lt] at long
      rw [abs_of_nonneg long, abs_of_nonneg (by linarith)] at reduced
      linarith
    have within : (currentQty : ℚ) + order.quantity ≤ 0 := nonpos_of_mul_nonneg_right kept short
    exact ⟨by exact_mod_cast short, by linarith⟩
  · rintro ⟨short, within⟩
    have shorter : (currentQty : ℚ) < 0 := by exact_mod_cast short
    constructor
    · rw [abs_of_neg shorter, abs_of_nonpos (by linarith)]
      linarith
    · exact mul_nonneg_of_nonpos_of_nonpos shorter.le (by linarith)

def OrderSide.value : OrderSide → String
  | .BUY => "BUY"
  | .SELL => "SELL"

/-- Asked with the side and the quantities of an order, the gate is right for every sale. -/
theorem TradingState.allowsNewOrder_sell {order : Order} {currentQty newQty : ℤ} (sell : order.side = .SELL)
    (whole : order.quantity = newQty) (positive : 0 < order.quantity) :
    TradingState.REDUCING.allowsNewOrder order.side.value currentQty newQty = true ↔ order.Reduces currentQty := by
  rw [Order.reduces_iff_sell sell positive, whole]
  simp only [allowsNewOrder, sell, OrderSide.value]
  norm_cast
  split
  · next flat => simp [flat]
  · simp

/-- For a purchase its comparison points the other way: it admits the order that covers the whole short
position or more. -/
theorem TradingState.allowsNewOrder_buy {order : Order} {currentQty newQty : ℤ} (buy : order.side = .BUY)
    (whole : order.quantity = newQty) (positive : 0 < order.quantity) :
    (TradingState.REDUCING.allowsNewOrder order.side.value currentQty newQty = true ↔ order.Reduces currentQty) ↔
      (currentQty < 0 → newQty = -currentQty) := by
  rw [Order.reduces_iff_buy buy positive, whole]
  simp only [allowsNewOrder, buy, OrderSide.value]
  norm_cast
  rcases lt_trichotomy currentQty 0 with short | flat | long
  · rw [if_neg short.ne, abs_of_neg short]
    simp [short]
    omega
  · simp [flat]
  · simp [long.ne', long.le]

namespace RiskManager

variable {manager : RiskManager} {order : Order} {context : RiskContext}

/-- The trading-state policy, the third of `_pre_trade_policies`, has nothing against the order. -/
def PassesTradingState (manager : RiskManager) (order : Order) (context : RiskContext) : Prop :=
  ((preTradePolicies order context).get ⟨2, by simp [preTradePolicies]⟩ manager).2 = none

instance : Decidable (manager.PassesTradingState order context) := inferInstanceAs (Decidable (_ = _))

theorem passesTradingState_iff :
    manager.PassesTradingState order context ↔ manager.tradingState.allowsNewOrder "" 0 0 = true := by
  simp only [PassesTradingState, preTradePolicies, List.get_eq_getElem, List.getElem_cons_succ,
    List.getElem_cons_zero]
  split
  · next allowed => simp only [allowed]
  · next refused => simp only [refused, reduceCtorEq]

theorem not_passesTradingState (reducing : manager.tradingState = .REDUCING) :
    ¬ manager.PassesTradingState order context := by
  rw [passesTradingState_iff, reducing]
  simp only [TradingState.allowsNewOrder, if_true, Bool.false_eq_true, not_false_eq_true]

theorem preTradePolicies_reducing (reducing : manager.tradingState = .REDUCING) :
    ∃ reason, runPolicyChain (preTradePolicies order context) manager = (manager, some reason) := by
  by_cases killed : manager.killSwitch = true ∨ manager.domainKillSwitch = true
  · exact ⟨.killSwitch, by simp only [preTradePolicies, runPolicyChain, if_pos killed]⟩
  · have spared : ¬ manager.domainKillSwitch = true := (not_or.mp killed).2
    have halted : (if manager.tradingState.allowsNewOrder "" 0 0 = true then none
        else some (RiskReason.tradingHalted manager.tradingState)) = some (.tradingHalted .REDUCING) := by
      rw [reducing]
      rfl
    refine ⟨.tradingHalted .REDUCING, ?_⟩
    simp only [preTradePolicies, runPolicyChain, if_neg killed, if_neg spared, halted]

/-- While the state is `REDUCING` the whole check refuses every order. -/
theorem checkOrder_reducing (reducing : manager.tradingState = .REDUCING) :
    (manager.checkOrder order context).2 ≠ none := by
  obtain ⟨reason, refused⟩ := @preTradePolicies_reducing manager order context reducing
  simp only [checkOrder, refused, ne_eq, reduceCtorEq, not_false_eq_true]

end RiskManager

/-- The signed quantity of the position that the order is about. -/
def RiskContext.currentQty (context : RiskContext) (order : Order) : ℤ :=
  ((context.current order).map Position.quantity).getD 0

namespace RiskManager

/-- The gate lets the orders through that reduce the position, and no others, exactly for the orders that
do not reduce it: it lets none through. -/
theorem tradingState_gates_reducing_orders (manager : RiskManager) (order : Order) (context : RiskContext)
    (reducing : manager.tradingState = .REDUCING) :
    (manager.PassesTradingState order context ↔ order.Reduces (context.currentQty order)) ↔
      ¬ order.Reduces (context.currentQty order) := by
  simp only [not_passesTradingState reducing, false_iff]

private def marketOrder (side : OrderSide) : Order where
  orderId := "O1"
  symbol := "RELIANCE"
  exchange := "NSE"
  side := side
  orderType := .MARKET
  quantity := 50

private def longPosition : RiskContext where
  capital := 1000000
  positions := Dict.empty.set "RELIANCE:NSE"
    { symbol := "RELIANCE", exchange := "NSE", quantity := 100, avgPrice := 2500 }

theorem tradingState_gates_purchase :
    ({ tradingState := .REDUCING } : RiskManager).PassesTradingState (marketOrder .BUY) longPosition ↔
      (marketOrder .BUY).Reduces (longPosition.currentQty (marketOrder .BUY)) :=
  (tradingState_gates_reducing_orders _ _ _ rfl).mpr (by decide +kernel)

theorem tradingState_refuses_sale_to_close :
    ¬ (({ tradingState := .REDUCING } : RiskManager).PassesTradingState (marketOrder .SELL) longPosition ↔
      (marketOrder .SELL).Reduces (longPosition.currentQty (marketOrder .SELL))) := by
  decide +kernel

end RiskManager

end TradeX.V1
