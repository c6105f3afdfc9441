import TradeX.Lib.Dict
import TradeX.Lib.Text

/-! Orders and trades of the v1 order management: enumerations, the status table,
orders with their guarded status change, and the two indexes of the order book.
`Money` and `Quantity` are exact rationals. -/

namespace TradeX.V1

open Lib

inductive OrderSide where
  | BUY
  | SELL
  deriving DecidableEq, Repr

inductive OrderType where
  | MARKET
  | LIMIT
  | STOP
  | STOP_LIMIT
  | STOP_LOSS
  | STOP_LOSS_MARKET
  deriving DecidableEq, Repr

inductive ProductType where
  | INTRADAY
  | DELIVERY
  | CNC
  | MARGIN
  | MTF
  deriving DecidableEq, Repr

inductive OrderStatus where
  | OPEN
  | PENDING
  | SUBMITTED
  | PARTIALLY_FILLED
  | FILLED
  | CANCELLED
  | PARTIALLY_CANCELLED
  | REJECTED
  | EXPIRED
  | UNKNOWN
  deriving DecidableEq, Repr

namespace OrderStatus

/-- `ORDER_STATUS_TRANSITIONS`. -/
def transitions : OrderStatus → Option (List OrderStatus)
  | OPEN => some [PARTIALLY_FILLED, FILLED, CANCELLED, PARTIALLY_CANCELLED, REJECTED, EXPIRED, UNKNOWN]
  | PARTIALLY_FILLED => some [FILLED, CANCELLED, PARTIALLY_CANCELLED, REJECTED]
  | FILLED => some []
  | CANCELLED => some []
  | PARTIALLY_CANCELLED => some []
  | REJECTED => some []
  | EXPIRED => some []
  | UNKNOWN => some [OPEN, REJECTED, CANCELLED]
  | PENDING => none
  | SUBMITTED => none

/-- `.get(status, frozenset())`. -/
def successors (status : OrderStatus) : List OrderStatus := status.transitions.getD []

/-- The table gives the status no successor. -/
def isTerminal (status : OrderStatus) : Bool := decide (status.transitions = some [])

variable {status other : OrderStatus}

theorem not_mem_successors (terminal : status.isTerminal = true) : other ∉ status.successors := by
  rw [successors, of_decide_eq_true terminal]
  exact List.not_mem_nil

end OrderStatus

inductive OmsError where
  | valueError (message : String)
  | illegalTransition (fromState toState : OrderStatus)
  | ledger (message : String)
  | attributeError (message : String)
  deriving DecidableEq, Repr

/-- `status.is_terminal`, which the enumeration does not have. -/
def OrderStatus.readIsTerminal (_ : OrderStatus) : Except OmsError Bool :=
  .error (.attributeError "'OrderStatus' object has no attribute 'is_terminal'")

structure Order where
  orderId : String
  symbol : String
  exchange : String
  side : OrderSide
  orderType : OrderType
  quantity : ℚ
  filledQuantity : ℚ := 0
  price : ℚ := 0
  status : OrderStatus := .OPEN
  productType : ProductType := .INTRADAY
  avgPrice : ℚ := 0
  correlationId : Option String := none
  deriving DecidableEq, Repr

namespace Order

/-- `Order.with_status`. -/
def withStatus (order : Order) (status : OrderStatus) : Except OmsError Order :=
  if status ≠ order.status ∧ status ∉ order.status.successors then
    .error (.illegalTransition order.status status)
  else .ok { order with status := status }

def withFill (order : Order) (filledQuantity avgPrice : ℚ) : Order :=
  { order with filledQuantity := filledQuantity, avgPrice := avgPrice }

def withPrice (order : Order) (price : ℚ) : Order := { order with price := price }

def withQuantity (order : Order) (quantity : ℚ) : Order := { order with quantity := quantity }

def withOrderType (order : Order) (orderType : OrderType) : Order := { order with orderType := orderType }

/-- The correlation id, when it is one to file the order under. -/
def filedUnder (order : Order) : Option String := order.correlationId.filter fun cid => cid ≠ ""

variable {order updated : Order} {status : OrderStatus}

theorem withStatus_ok (changed : order.withStatus status = .ok updated) :
    updated = { order with status := status } ∧ (status = order.status ∨ status ∈ order.status.successors) := by
  unfold withStatus at changed
  split at changed
  · cases changed
  · next allowed =>
    cases changed
    refine ⟨rfl, ?_⟩
    by_cases same : status = order.status
    · exact .inl same
    · exact .inr (not_not.mp fun absent => allowed ⟨same, absent⟩)

/-- The table lets the order take the status. -/
def allows (order : Order) (status : OrderStatus) : Bool :=
  decide (status = order.status ∨ status ∈ order.status.successors)

theorem withStatus_allowed (allowed : order.allows status = true) :
    order.withStatus status = .ok { order with status := status } := by
  unfold withStatus
  refine if_neg fun refused => ?_
  rcases of_decide_eq_true allowed with same | successor
  · exact refused.1 same
  · exact refused.2 successor

theorem withStatus_refused (refused : order.allows status = false) :
    order.withStatus status = .error (.illegalTransition order.status status) := by
  unfold withStatus
  obtain ⟨differs, absent⟩ := not_or.mp (of_decide_eq_false refused)
  exact if_pos ⟨differs, absent⟩

end Order

structure Trade where
  tradeId : String
  orderId : String
  symbol : String
  exchange : String
  side : OrderSide
  quantity : ℚ
  price : ℚ := 0
  timestamp : Option ℚ := none
  deriving DecidableEq, Repr

theorem OrderBook.keyed_empty (id : String) (order : Order) (found : (∅ : Dict String Order).get id = some order) :
    order.orderId = id := by
  cases found

/-- The two indexes of the book. Every order is filed under its own id. -/
structure OrderBook where
  orders : Dict String Order := ∅
  byCorrelation : Dict String Order := ∅
  keyed : ∀ id order, orders.get id = some order → order.orderId = id := by
    exact OrderBook.keyed_empty

namespace OrderBook

variable (book : OrderBook)

theorem keyed_set (order : Order) (id : String) (other : Order)
    (found : (book.orders.set order.orderId order).get id = some other) : other.orderId = id := by
  rw [Dict.get_set] at found
  split at found
  · next same =>
    cases found
    exact same.symm
  · exact book.keyed id other found

theorem keyed_pop (dropped id : String) (other : Order)
    (found : (book.orders.pop dropped).get id = some other) : other.orderId = id := by
  rw [Dict.get_pop] at found
  split at found
  · cases found
  · exact book.keyed id other found

/-- `orders[order.order_id] = order`. -/
def put (order : Order) : OrderBook :=
  ⟨book.orders.set order.orderId order, book.byCorrelation, book.keyed_set order⟩

/-- `orders_by_correlation[correlation_id] = order`. -/
def fileUnder (correlationId : String) (order : Order) : OrderBook :=
  { book with byCorrelation := book.byCorrelation.set correlationId order }

/-- `store_order`. -/
def store (order : Order) : OrderBook :=
  match order.filedUnder with
  | none => book.put order
  | some correlationId => (book.put order).fileUnder correlationId order

/-- `orders.pop(order_id, None)`. -/
def drop (orderId : String) : OrderBook :=
  ⟨book.orders.pop orderId, book.byCorrelation, book.keyed_pop orderId⟩

def status (orderId : String) : Option OrderStatus := (book.orders.get orderId).map Order.status

/-- The filled quantity the book holds for the id, zero where it holds no order. -/
def filled (orderId : String) : ℚ := ((book.orders.get orderId).map Order.filledQuantity).getD 0

variable {book} {order : Order} {orderId correlationId : String}

theorem put_filled (book : OrderBook) : (book.put order).filled orderId =
    if orderId = order.orderId then order.filledQuantity else book.filled orderId := by
  unfold filled put
  rw [Dict.get_set]
  split <;> rfl

@[simp] theorem store_orders : (book.store order).orders = book.orders.set order.orderId order := by
  unfold store
  split <;> rfl

theorem store_get : (book.store order).orders.get orderId =
    if orderId = order.orderId then some order else book.orders.get orderId := by
  rw [store_orders, Dict.get_set]

theorem store_status : (book.store order).status orderId =
    if orderId = order.orderId then some order.status else book.status orderId := by
  unfold status
  rw [store_get]
  split <;> rfl

theorem store_filled : (book.store order).filled orderId =
    if orderId = order.orderId then order.filledQuantity else book.filled orderId := by
  unfold filled
  rw [store_get]
  split <;> rfl

theorem status_of_get (found : book.orders.get orderId = some order) : book.status orderId = some order.status := by
  rw [status, found, Option.map_some]

theorem filled_of_get (found : book.orders.get orderId = some order) :
    book.filled orderId = order.filledQuantity := by
  rw [filled, found, Option.map_some, Option.getD_some]

end OrderBook

end TradeX.V1
