import TradeX.Lib.Dict

/-! Domain layer of the v2 engine: enumerations, the order state machine, orders,
positions, trades and the place command. Decimals are exact rationals, and the
identifiers are their canonical text. -/

namespace TradeX.V2

inductive OrderSide where
  | BUY
  | SELL
  deriving DecidableEq, Repr

theorem OrderSide.forall_iff {p : OrderSide → Prop} : (∀ side, p side) ↔ p .BUY ∧ p .SELL :=
  ⟨fun all => ⟨all .BUY, all .SELL⟩, fun both side => by cases side <;> simp only [both]⟩

instance (p : OrderSide → Prop) [DecidablePred p] : Decidable (∀ side, p side) :=
  decidable_of_iff _ OrderSide.forall_iff.symm

instance (p : OrderSide → Prop) [DecidablePred p] : Decidable (∃ side, p side) :=
  decidable_of_iff (¬ ∀ side, ¬ p side) (by simp only [not_forall, not_not])

inductive OrderType where
  | MARKET
  | LIMIT
  | STOP
  | STOP_LIMIT
  deriving DecidableEq, Repr

inductive TimeInForce where
  | DAY
  | IOC
  | GTC
  deriving DecidableEq, Repr

inductive OrderStatus where
  | PENDING
  | SUBMITTED
  | PARTIALLY_FILLED
  | FILLED
  | CANCELLED
  | REJECTED
  | UNKNOWN
  deriving DecidableEq, Repr

structure InstrumentId where
  value : String
  deriving DecidableEq, Repr

structure OrderId where
  value : String
  deriving DecidableEq, Repr

structure CorrelationId where
  value : String
  deriving DecidableEq, Repr

/-- `_LEGAL`: the statuses an order may move to. -/
def OrderStatus.legal : OrderStatus → List OrderStatus
  | PENDING => [SUBMITTED]
  | SUBMITTED => [PARTIALLY_FILLED, FILLED, CANCELLED, REJECTED, UNKNOWN]
  | PARTIALLY_FILLED => [FILLED, CANCELLED, UNKNOWN]
  | FILLED => []
  | CANCELLED => []
  | REJECTED => []
  | UNKNOWN => []

/-- The quantity as the position sees it: sells count negative. -/
def OrderSide.signed : OrderSide → ℚ → ℚ
  | BUY, quantity => quantity
  | SELL, quantity => -quantity

theorem OrderSide.abs_signed (side : OrderSide) (quantity : ℚ) : |side.signed quantity| = |quantity| := by
  cases side with
  | BUY => rfl
  | SELL => exact abs_neg quantity

theorem OrderSide.signed_add (side : OrderSide) (a b : ℚ) :
    side.signed (a + b) = side.signed a + side.signed b := by
  cases side with
  | BUY => rfl
  | SELL => exact neg_add a b

@[simp] theorem OrderSide.signed_zero (side : OrderSide) : side.signed 0 = 0 := by
  cases side with
  | BUY => rfl
  | SELL => exact neg_zero

/-- What the v2 code raises, with the values its message shows. -/
inductive Failure where
  | illegalTransition (status newStatus : OrderStatus)
  | orderNotFound (orderId : OrderId)
  | fillExceeds (newFilled quantity : ℚ)
  | fillRequiresPrice
  | adapterRequired
  | noRecordedFill (correlationId : CorrelationId)
  | notReserved (correlationId : CorrelationId)
  | noneAttribute
  | venue (message : String)
  deriving DecidableEq, Repr

structure Order where
  orderId : OrderId
  instrumentId : InstrumentId
  side : OrderSide
  orderType : OrderType
  quantity : ℚ
  price : Option ℚ
  timeInForce : TimeInForce
  status : OrderStatus
  correlationId : CorrelationId
  filledQuantity : ℚ := 0
  deriving DecidableEq, Repr

/-- `Order.transition_to`. -/
def Order.transitionTo (order : Order) (newStatus : OrderStatus) : Except Failure Order :=
  if newStatus ∈ order.status.legal then .ok { order with status := newStatus }
  else .error (.illegalTransition order.status newStatus)

structure Position where
  instrumentId : InstrumentId
  quantity : ℚ
  avgPrice : ℚ
  realizedPnl : ℚ
  unrealizedPnl : ℚ
  deriving DecidableEq, Repr

structure Trade where
  tradeId : String
  orderId : OrderId
  instrumentId : InstrumentId
  price : ℚ
  quantity : ℚ
  side : OrderSide
  deriving DecidableEq, Repr

structure PlaceOrderCommand where
  instrumentId : InstrumentId
  side : OrderSide
  orderType : OrderType
  quantity : ℚ
  price : Option ℚ
  timeInForce : TimeInForce
  correlationId : CorrelationId
  deriving DecidableEq, Repr

def PlaceOrderCommand.signedQuantity (command : PlaceOrderCommand) : ℚ :=
  command.side.signed command.quantity

end TradeX.V2
