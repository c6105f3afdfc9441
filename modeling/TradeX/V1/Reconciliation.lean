import TradeX.Lib.KeyedFold
import TradeX.Lib.Numerals
import TradeX.V1.PositionManager

/-! `ReconciliationEngine`: the drift between the local books and what a broker reports. An item's
`details` repeat its payload in a sentence and are left out. -/

namespace TradeX.V1

open Lib

inductive DriftKind where
  | missingLocalOrder
  | missingBrokerOrder
  | orderStatusMismatch
  | fillQuantityMismatch
  | avgPriceMismatch
  | missingLocalPosition
  | missingBrokerPosition
  | positionQuantityMismatch
  | positionAvgPriceMismatch
  deriving DecidableEq, Repr

inductive Severity where
  | HIGH
  | MEDIUM
  | LOW
  deriving DecidableEq, Repr

inductive DriftPayload where
  | order (orderId symbol : String)
  | filled (orderId symbol : String) (localFilled brokerFilled : ℚ)
  | average (orderId symbol : String) (localAvg brokerAvg tolerance : ℚ)
  | position (symbol exchange : String)
  | quantity (symbol exchange : String) (localQty brokerQty : ℤ)
  | positionAverage (symbol exchange : String) (localAvg brokerAvg tolerance : ℚ)
  deriving DecidableEq, Repr

structure DriftItem where
  kind : DriftKind
  severity : Severity
  symbol : String
  payload : DriftPayload
  deriving DecidableEq, Repr

/-- `_PRICE_TOLERANCE`. -/
def priceTolerance : ℚ := 1 / 100

/-- A price of a position that a broker reports: `Money`, or a value known by its text. -/
inductive ReportedPrice where
  | money (amount : ℚ)
  | plain (text : String)
  deriving DecidableEq, Repr

namespace ReportedPrice

/-- `str(price)`. -/
def text : ReportedPrice → String
  | .money amount => Decimal.toFixed2 amount ++ " INR"
  | .plain text => text

/-- `_as_decimal`. -/
def asDecimal : ReportedPrice → ℚ
  | .money amount => amount
  | .plain text => (Decimal.ofText text).getD 0

end ReportedPrice

/-- A position as a broker reports it. -/
structure ReportedPosition where
  symbol : String
  exchange : String
  quantity : ℤ
  avgPrice : ReportedPrice
  ltp : ReportedPrice
  deriving DecidableEq, Repr

/-- `{o.order_id: o for o in orders if o.order_id}`. -/
def ordersById (orders : List Order) : Dict String Order :=
  Dict.latest Order.orderId (orders.filter fun order => order.orderId ≠ "")

/-- The status of an order that may still trade. -/
def OrderStatus.resting (status : OrderStatus) : Bool :=
  decide (status = .OPEN ∨ status = .PARTIALLY_FILLED)

namespace ReconciliationEngine

def missingLocalOrder (order : Order) : DriftItem where
  kind := .missingLocalOrder
  severity := .HIGH
  symbol := order.symbol
  payload := .order order.orderId order.symbol

def missingBrokerOrder (order : Order) : DriftItem where
  kind := .missingBrokerOrder
  severity := .HIGH
  symbol := order.symbol
  payload := .order order.orderId order.symbol

def statusDrift (localOrder brokerOrder : Order) : List DriftItem :=
  if localOrder.status ≠ brokerOrder.status then
    [{ kind := .orderStatusMismatch
       severity := .MEDIUM
       symbol := localOrder.symbol
       payload := .order localOrder.orderId localOrder.symbol }]
  else []

def fillDrift (localOrder brokerOrder : Order) : List DriftItem :=
  if localOrder.filledQuantity ≠ brokerOrder.filledQuantity then
    [{ kind := .fillQuantityMismatch
       severity := .HIGH
       symbol := localOrder.symbol
       payload := .filled localOrder.orderId localOrder.symbol localOrder.filledQuantity
         brokerOrder.filledQuantity }]
  else if localOrder.filledQuantity > 0 ∧ brokerOrder.filledQuantity > 0 ∧
      |localOrder.avgPrice - brokerOrder.avgPrice| > priceTolerance then
    [{ kind := .avgPriceMismatch
       severity := .HIGH
       symbol := localOrder.symbol
       payload := .average localOrder.orderId localOrder.symbol localOrder.avgPrice brokerOrder.avgPrice
         priceTolerance }]
  else []

/-- The second loop's round for a local order, with the broker's order of its id. -/
def localOrderDrift (localOrder : Order) : Option Order → List DriftItem
  | none => if localOrder.status.resting = true then [missingBrokerOrder localOrder] else []
  | some brokerOrder => statusDrift localOrder brokerOrder ++ fillDrift localOrder brokerOrder

/-- `ReconciliationEngine.compare_orders`. -/
def compareOrders (localOrders brokerOrders : List Order) : List DriftItem :=
  let brokerById := ordersById brokerOrders
  let localById := ordersById localOrders
  (brokerById.entries.flatMap fun entry =>
    if localById.contains entry.1 = true then [] else [missingLocalOrder entry.2]) ++
  localById.entries.flatMap fun entry => localOrderDrift entry.2 (brokerById.get entry.1)

def missingLocalPosition (position : ReportedPosition) : DriftItem where
  kind := .missingLocalPosition
  severity := .HIGH
  symbol := position.symbol
  payload := .position position.symbol position.exchange

def missingBrokerPosition (position : Position) : DriftItem where
  kind := .missingBrokerPosition
  severity := .HIGH
  symbol := position.symbol
  payload := .position position.symbol position.exchange

/-- The first loop's round for a reported position, with the local position of its names. -/
def brokerPositionDrift (brokerPos : ReportedPosition) : Option Position → List DriftItem
  | none => [missingLocalPosition brokerPos]
  | some localPos =>
    if localPos.quantity ≠ brokerPos.quantity then
      [{ kind := .positionQuantityMismatch
         severity := .HIGH
         symbol := brokerPos.symbol
         payload := .quantity brokerPos.symbol brokerPos.exchange localPos.quantity brokerPos.quantity }]
    else if localPos.quantity ≠ 0 ∧ |localPos.avgPrice - brokerPos.avgPrice.asDecimal| > priceTolerance then
      [{ kind := .positionAvgPriceMismatch
         severity := .HIGH
         symbol := brokerPos.symbol
         payload := .positionAverage brokerPos.symbol brokerPos.exchange localPos.avgPrice
           brokerPos.avgPrice.asDecimal priceTolerance }]
    else []

/-- The names under which a local position is compared. -/
def localNames (position : Position) : String × String := (position.exchange, position.symbol)

def brokerNames (position : ReportedPosition) : String × String := (position.exchange, position.symbol)

/-- `ReconciliationEngine.compare_positions`. -/
def comparePositions (localPositions : List Position) (brokerPositions : List ReportedPosition) : List DriftItem :=
  let brokerByKey := Dict.latest brokerNames brokerPositions
  let localByKey := Dict.latest localNames localPositions
  (brokerByKey.entries.flatMap fun entry => brokerPositionDrift entry.2 (localByKey.get entry.1)) ++
  localByKey.entries.flatMap fun entry =>
    if brokerByKey.contains entry.1 = false ∧ entry.2.quantity ≠ 0 then [missingBrokerPosition entry.2] else []

variable {orders localOrders brokerOrders : List Order} {order : Order} {orderId : String} {item : DriftItem}

variable {localPositions : List Position} {brokerPositions : List ReportedPosition}

end ReconciliationEngine

end TradeX.V1
