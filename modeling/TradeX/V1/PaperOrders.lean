import TradeX.Lib.Numerals
import TradeX.V1.LateTrades
import TradeX.V1.Placement
import TradeX.V1.PositionManager

/-! `PaperOrders`: the simulated orders of the paper gateway, whose placements go through the order
manager or fill an order that it is about to submit. A trigger price, a validity and the product
type of a position are not modelled. -/

namespace TradeX.V1

open Lib

/-- What the simulation reads of the market and of its settings when an order is placed. -/
structure PaperMarket where
  ltp : ℚ
  now : ℚ := 0
  fillsAllowed : Bool := true
  slippageBps : ℚ := 0
  partialFillRatio : ℚ := 1
  deriving DecidableEq

namespace PaperMarket

variable (market : PaperMarket)

/-- `apply_slippage`. -/
def applySlippage (price : ℚ) (side : OrderSide) : ℚ :=
  if market.slippageBps ≤ 0 ∨ price ≤ 0 then price
  else
    let adj := price * market.slippageBps / 10000
    match side with
    | .BUY => price + adj
    | .SELL => max 0 (price - adj)

/-- `paper_partial_fill_ratio`. -/
def ratio : ℚ :=
  if market.partialFillRatio ≤ 0 then 1
  else if market.partialFillRatio > 1 then 1
  else market.partialFillRatio

/-- `partial_fill_quantity`. -/
def partialFillQuantity (quantity : ℤ) : ℤ :=
  if market.ratio ≥ 1 then quantity
  else max 1 (min quantity (Decimal.toInt (quantity * market.ratio)))

variable {market}

theorem partialFillQuantity_bounds {quantity : ℤ} (positive : 0 < quantity) :
    0 < market.partialFillQuantity quantity ∧ market.partialFillQuantity quantity ≤ quantity := by
  unfold partialFillQuantity
  split
  · exact ⟨positive, le_refl quantity⟩
  · constructor
    · exact lt_of_lt_of_le Int.one_pos (le_max_left _ _)
    · exact max_le positive (min_le_left _ _)

end PaperMarket

/-- `f"PPR-{seq:06d}"`. -/
def paperOrderId (seq : ℕ) : String := "PPR-" ++ Decimal.zeroPadded 6 seq

/-- `f"PPR-T-{seq:06d}"`. -/
def paperTradeId (seq : ℕ) : String := "PPR-T-" ++ Decimal.zeroPadded 6 seq

/-- The arguments of `PaperOrders.place_order`. -/
structure PaperCall where
  symbol : String
  exchange : String := BrokerPosition.defaultExchange
  side : OrderSide := .BUY
  quantity : ℤ := 1
  price : ℚ := 0
  orderType : OrderType := .MARKET
  productType : ProductType := .INTRADAY
  correlationId : Option String := none
  deriving DecidableEq

namespace PaperCall

variable (call : PaperCall)

/-- The correlation id of the intent: the one given, or one of the gateway's own. -/
def correlation (seq : ℕ) (drawn : String) : String :=
  let given := (call.correlationId.filter fun id => id ≠ "").getD ("ppr:" ++ toString seq)
  if blank given = true then "intent:" ++ drawn else given

theorem correlation_visible (seq : ℕ) (drawn : String) : blank (call.correlation seq drawn) = false := by
  unfold correlation
  dsimp only
  split
  · apply decide_eq_false
    have letter : 'i' ∈ ("intent:" ++ drawn).toList := by
      rw [String.toList_append]
      exact List.mem_append_left _ List.mem_cons_self
    exact Text.strip_ne_empty letter (by decide)
  · next visible => exact Bool.eq_false_iff.mpr visible

theorem correlation_present (seq : ℕ) (drawn : String) : call.correlation seq drawn ≠ "" := by
  intro empty
  have visible := call.correlation_visible seq drawn
  rw [empty] at visible
  exact absurd visible (by decide)

/-- The `OrderIntent`, unless its checks raise. -/
def command (seq : ℕ) (drawn : String) : Except OmsError OmsOrderCommand :=
  if call.quantity ≤ 0 then .error (.valueError ("quantity must be positive, got " ++ toString call.quantity))
  else if normalize call.symbol = "" then .error (.valueError "symbol is required")
  else .ok {
    symbol := normalize call.symbol
    exchange := normalize call.exchange
    side := call.side
    quantity := call.quantity
    price := call.price
    orderType := call.orderType
    productType := call.productType
    correlationId := call.correlation seq drawn
    correlationId_present := call.correlation_present seq drawn }

/-- A market order fills while fills are allowed. -/
def fills (market : PaperMarket) : Prop := call.orderType = .MARKET ∧ market.fillsAllowed = true

instance (market : PaperMarket) : Decidable (call.fills market) := inferInstanceAs (Decidable (_ ∧ _))

def fillPrice (market : PaperMarket) : ℚ :=
  let price := if call.price > 0 ∧ call.orderType = .LIMIT then call.price else market.ltp
  if call.orderType = .MARKET then market.applySlippage price call.side else price

def fillQty (market : PaperMarket) : ℤ :=
  if call.orderType = .MARKET then market.partialFillQuantity call.quantity else call.quantity

/-- `_fill`. -/
def fill (market : PaperMarket) (seq : ℕ) (cmd : OmsOrderCommand) : Order :=
  let order : Order := {
    orderId := paperOrderId seq
    symbol := cmd.symbol
    exchange := cmd.exchange
    side := cmd.side
    orderType := cmd.orderType
    quantity := cmd.quantity
    price := cmd.price
    status := .OPEN
    productType := cmd.productType
    correlationId := some cmd.correlationId }
  if call.fills market then
    { order with
      filledQuantity := call.fillQty market
      status := if call.fillQty market < cmd.quantity then .PARTIALLY_FILLED else .FILLED
      avgPrice := call.fillPrice market }
  else order

/-- The order that stands for a placement which the order manager did not accept. -/
def rejected (seq : ℕ) : Order where
  orderId := paperOrderId seq
  symbol := call.symbol
  exchange := call.exchange
  side := call.side
  orderType := call.orderType
  quantity := call.quantity
  price := call.price
  status := .REJECTED
  correlationId := call.correlationId

/-- The trade of a simulated fill. -/
def trade (market : PaperMarket) (tradeSeq : ℕ) (order : Order) : Trade where
  tradeId := paperTradeId tradeSeq
  orderId := order.orderId
  symbol := call.symbol
  exchange := call.exchange
  side := call.side
  quantity := order.filledQuantity
  price := call.fillPrice market
  timestamp := some market.now

end PaperCall

/-- `order.status in (FILLED, PARTIALLY_FILLED)`. -/
def Order.traded (order : Order) : Prop := order.status = .FILLED ∨ order.status = .PARTIALLY_FILLED

instance (order : Order) : Decidable order.traded := inferInstanceAs (Decidable (_ ∨ _))

/-- `status.value`. -/
def OrderStatus.value : OrderStatus → String
  | OPEN => "OPEN"
  | PENDING => "PENDING"
  | SUBMITTED => "SUBMITTED"
  | PARTIALLY_FILLED => "PARTIALLY_FILLED"
  | FILLED => "FILLED"
  | CANCELLED => "CANCELLED"
  | PARTIALLY_CANCELLED => "PARTIALLY_CANCELLED"
  | REJECTED => "REJECTED"
  | EXPIRED => "EXPIRED"
  | UNKNOWN => "UNKNOWN"

structure PaperOrders where
  positions : Dict String Position := ∅
  orders : List Order := []
  trades : List Trade := []
  orderSeq : ℕ := 0
  tradeSeq : ℕ := 0

namespace PaperOrders

variable (gateway : PaperOrders)

/-- `_update_position`. -/
def updatePosition (trade : Trade) : Dict String Position :=
  let key := trade.symbol ++ ":" ++ trade.exchange
  let oldPos := (gateway.positions.get key).getD { symbol := trade.symbol, exchange := trade.exchange }
  gateway.positions.set key (oldPos.withFill trade.delta trade.price)

/-- The section that keeps a trade with the next number. -/
def keepTrade (trade : Trade) : PaperOrders :=
  { gateway with
    tradeSeq := gateway.tradeSeq + 1
    trades := gateway.trades ++ [trade]
    positions := gateway.updatePosition trade }

def keepOrder (order : Order) : PaperOrders := { gateway with orders := gateway.orders ++ [order] }

/-- The quote reaches the limit of a resting order. -/
def crosses (symbol exchange : String) (ltp : ℚ) (order : Order) : Prop :=
  order.status = .OPEN ∧ order.orderType = .LIMIT ∧ order.symbol = normalize symbol ∧
    order.exchange = normalize exchange ∧ 0 < order.price ∧
    (order.side = .BUY ∧ ltp ≤ order.price ∨ order.side = .SELL ∧ ltp ≥ order.price)

instance (symbol exchange : String) (ltp : ℚ) (order : Order) : Decidable (crosses symbol exchange ltp order) :=
  inferInstanceAs (Decidable (_ ∧ _ ∧ _ ∧ _ ∧ _ ∧ _))

/-- A resting order as the quote fills it. -/
def filledOnQuote (order : Order) : Order :=
  { order with
    filledQuantity := order.quantity
    status := .FILLED
    avgPrice := order.price }

def tradeOnQuote (tradeSeq : ℕ) (now : ℚ) (order : Order) : Trade where
  tradeId := paperTradeId tradeSeq
  orderId := order.orderId
  symbol := order.symbol
  exchange := order.exchange
  side := order.side
  quantity := order.quantity
  price := order.price
  timestamp := some now

/-- The loop of `try_fill_on_quote`: the orders it leaves, and the fills it has to report. -/
def fillCrossed (symbol exchange : String) (ltp now : ℚ) (gateway : PaperOrders) :
    List Order → PaperOrders × List Order × List (Order × Trade)
  | [] => (gateway, [], [])
  | order :: rest =>
    if crosses symbol exchange ltp order then
      let trade := tradeOnQuote (gateway.tradeSeq + 1) now order
      let others := fillCrossed symbol exchange ltp now (gateway.keepTrade trade) rest
      (others.1, filledOnQuote order :: others.2.1, (filledOnQuote order, trade) :: others.2.2)
    else
      let others := fillCrossed symbol exchange ltp now gateway rest
      (others.1, order :: others.2.1, others.2.2)

/-- The first order that passes the test, replaced. -/
def replaceFirst (test : Order → Bool) (change : Order → Order) : List Order → List Order
  | [] => []
  | order :: rest => if test order = true then change order :: rest else order :: replaceFirst test change rest

/-- `PaperOrders.cancel_order`, with what it returns. -/
def cancelOrder (orderId : String) : PaperOrders × Bool :=
  let test := fun order : Order => decide (order.orderId = orderId ∧ order.status = .OPEN)
  ({ gateway with orders := replaceFirst test (fun order => { order with status := .CANCELLED }) gateway.orders },
    gateway.orders.any test)

/-- `PaperOrders.modify_order`, with the reason of the risk manager. -/
def modifyOrder (request : OrderManager.ModifyOrderRequest) (risk : Option String) : PaperOrders × Except OmsError Order :=
  match gateway.orders.find? fun order => order.orderId = request.orderId with
  | none => (gateway, .error (.valueError ("Order " ++ request.orderId ++ " not found")))
  | some original =>
    if original.status ≠ .OPEN then
      (gateway, .error (.valueError ("Cannot modify order " ++ request.orderId ++ " with status " ++
        original.status.value ++ ". Only OPEN orders can be modified.")))
    else
      let modified : Order :=
        { original with
          orderType := request.orderType.getD original.orderType
          quantity := request.quantity.getD original.quantity
          price := request.price.getD original.price
          avgPrice := 0 }
      match risk with
      | some reason => (gateway, .error (.valueError reason))
      | none =>
        let orders := replaceFirst (fun order => order.orderId = request.orderId) (fun _ => modified) gateway.orders
        ({ gateway with orders := orders }, .ok modified)

end PaperOrders

/-- What `place_order` meets outside the gateway: the drawn ids and the answers of the order manager's
collaborators. -/
structure PaperAnswers where
  /-- The hexadecimal part of the order id that the order manager draws. -/
  drawn : String
  drawnIntent : String := drawn
  durable : DurableAnswer := .nothing
  gate : Option String := none
  risk : Option String := none
  blocked : Option String := none
  intentFails : Option String := none
  outcomeFails : Option String := none
  deriving DecidableEq

/-- `f"OM-{uuid.uuid4().hex[:12]}"`. -/
def omsOrderId (drawn : String) : String := "OM-" ++ drawn

/-- The answers of a placement whose `submit_fn` is the simulated fill. -/
def PaperAnswers.forFill (answers : PaperAnswers) (now : ℚ) (filled : Order) : OrderManager.PlaceAnswers where
  now := now
  durable := answers.durable
  orderId := omsOrderId answers.drawn
  gate := answers.gate
  risk := answers.risk
  blocked := answers.blocked
  submission := some {
    brokerCall := match answers.intentFails with
      | some failure => .error failure
      | none => .ok filled
    outcomeFails := answers.outcomeFails }

/-- How a call of the gateway ends. -/
inductive PaperEnd where
  | returned (order : Order)
  | raised (error : OmsError)
  deriving DecidableEq, Repr

/-- The gateway, the order manager and the position book behind its `TRADE_APPLIED` events, with the
correlation ids of the simulated fills and the accepted trades, the latest first, and the placements of
the order manager in progress, the innermost first. -/
structure PaperSession (cache : TTLCache.{0, v} Nat) where
  gateway : PaperOrders := {}
  manager : OrderManager cache := {}
  positions : PositionManager := {}
  /-- The order manager has a risk manager. -/
  riskManaged : Bool := false
  filledFor : List String := []
  accepted : List Trade := []
  placing : List (OmsOrderCommand × PlaceStage) := []

namespace PaperSession

variable {cache : TTLCache.{0, v} Nat} (session : PaperSession cache)

/-- `OrderManager.record_trade`: behind an accepted trade stands a read of `is_terminal` for the risk
manager. -/
def recordTrade (trade : Trade) (now : ℚ) : PaperSession cache × Option OmsError :=
  let recorded := session.manager.recordTrade trade now
  match recorded.2 with
  | .applied updated =>
    ({ session with
      manager := recorded.1
      positions := (session.positions.onTradeApplied trade).1
      accepted := trade :: session.accepted },
      match if session.riskManaged = true then updated.status.readIsTerminal else .ok false with
      | .error error => some error
      | .ok _ => none)
  | .raised error => ({ session with manager := recorded.1 }, some error)
  | _ => ({ session with manager := recorded.1 }, none)

/-- `OrderManager.upsert_order`, with the same read behind it. -/
def upsertOrder (order : Order) (now : ℚ) : PaperSession cache × Option OmsError :=
  let upserted := session.manager.upsertOrder order now
  ({ session with
    manager := upserted.1
    positions := upserted.2.1.foldl (fun positions trade => (positions.onTradeApplied trade).1) session.positions
    accepted := upserted.2.1.reverse ++ session.accepted },
    match upserted.2.2 with
    | some error => some error
    | none =>
      match if session.riskManaged = true then order.status.readIsTerminal else .ok false with
      | .error error => some error
      | .ok _ => none)

/-- The gateway keeps a filled order's trade and reports it. -/
def reportFill (call : PaperCall) (market : PaperMarket) (cmd : OmsOrderCommand) (order : Order) :
    PaperSession cache × PaperEnd :=
  let trade := call.trade market (session.gateway.tradeSeq + 1) order
  let kept := { session with
    gateway := session.gateway.keepTrade trade
    filledFor := cmd.correlationId :: session.filledFor }
  let recorded := kept.recordTrade trade market.now
  (recorded.1, match recorded.2 with
    | some error => .raised error
    | none => .returned order)

/-- The end of a placement that the order manager did not accept. -/
def rejectOrder (call : PaperCall) (now : ℚ) : PaperSession cache × PaperEnd :=
  let rejected := call.rejected session.gateway.orderSeq
  let upserted := ({ session with gateway := session.gateway.keepOrder rejected }).upsertOrder rejected now
  (upserted.1, match upserted.2 with
    | some error => .raised error
    | none => .returned rejected)

/-- An order that the order manager already has under the correlation id is filled only, under its id. -/
def fillExisting (call : PaperCall) (market : PaperMarket) (cmd : OmsOrderCommand) (existing : Order) :
    PaperSession cache × PaperEnd :=
  let filled := call.fill market session.gateway.orderSeq cmd
  let filled := if existing.orderId = "" then filled else { filled with orderId := existing.orderId }
  let kept := { session with gateway := session.gateway.keepOrder filled }
  if call.orderType = .MARKET ∧ filled.traded then kept.reportFill call market cmd filled
  else (kept, .returned filled)

/-- A new order is placed through the order manager. -/
def placeThrough (call : PaperCall) (market : PaperMarket) (answers : PaperAnswers) (cmd : OmsOrderCommand) :
    PaperSession cache × PaperEnd :=
  let placed := session.manager.placeOrder cmd
    (answers.forFill market.now (call.fill market session.gateway.orderSeq cmd))
  let after := { session with manager := placed.1 }
  match placed.2 with
  | .raised error => (after, .raised error)
  | .returned result =>
    match if result.success = true then result.order else none with
    | none => after.rejectOrder call market.now
    | some order =>
      let kept := { after with gateway := after.gateway.keepOrder order }
      if call.orderType = .MARKET ∧ order.traded then kept.reportFill call market cmd order
      else (kept, .returned order)

/-- `PaperOrders.place_order`. -/
def placeOrder (call : PaperCall) (market : PaperMarket) (answers : PaperAnswers) :
    PaperSession cache × PaperEnd :=
  let seq := session.gateway.orderSeq + 1
  let numbered := { session with gateway := { session.gateway with orderSeq := seq } }
  match call.command seq answers.drawnIntent with
  | .error error => (numbered, .raised error)
  | .ok cmd =>
    match session.manager.book.byCorrelation.get cmd.correlationId with
    | some existing => numbered.fillExisting call market cmd existing
    | none => numbered.placeThrough call market answers cmd

/-- The loop of `try_fill_on_quote` that reports the fills. An exception ends it. -/
def reportFills (session : PaperSession cache) (now : ℚ) :
    List (Order × Trade) → PaperSession cache × Option OmsError
  | [] => (session, none)
  | (order, trade) :: rest =>
    let upserted := session.upsertOrder order now
    match upserted.2 with
    | some error => (upserted.1, some error)
    | none =>
      let recorded := upserted.1.recordTrade trade now
      match recorded.2 with
      | some error => (recorded.1, some error)
      | none => recorded.1.reportFills now rest

/-- `PaperOrders.try_fill_on_quote`. -/
def tryFillOnQuote (symbol exchange : String) (ltp now : ℚ) : PaperSession cache × Option OmsError :=
  if ltp ≤ 0 then (session, none)
  else
    let swept := PaperOrders.fillCrossed symbol exchange ltp now session.gateway session.gateway.orders
    let filled := { session with
      gateway := { swept.1 with orders := swept.2.1 }
      filledFor := (swept.2.2.filterMap fun fill : Order × Trade => fill.1.correlationId).reverse ++ session.filledFor }
    filled.reportFills now swept.2.2

/-- A call of the gateway, or the next section of a placement of the order manager. -/
inductive Event where
  | place (call : PaperCall) (market : PaperMarket) (answers : PaperAnswers)
  | quote (symbol exchange : String) (ltp now : ℚ)
  | cancel (orderId : String)
  | modify (request : OrderManager.ModifyOrderRequest) (risk : Option String)
  | enter (request : OmsOrderCommand)
  | oms (step : PlaceStep)

/-- The gateway is called from outside, or from inside the `submit_fn` of a placement. -/
def callable : Bool :=
  match session.placing with
  | [] => true
  | (_, .submitting _) :: _ => true
  | _ => false

/-- One step of a session. -/
def step (session : PaperSession cache) : Event → Option (PaperSession cache)
  | .place call market answers =>
    if session.callable = true then some (session.placeOrder call market answers).1 else none
  | .quote symbol exchange ltp now =>
    if session.callable = true then some (session.tryFillOnQuote symbol exchange ltp now).1 else none
  | .cancel orderId =>
    if session.callable = true then some { session with gateway := (session.gateway.cancelOrder orderId).1 }
    else none
  | .modify request risk =>
    if session.callable = true then some { session with gateway := (session.gateway.modifyOrder request risk).1 }
    else none
  | .enter request =>
    if session.callable = true then some { session with placing := (request, .start) :: session.placing } else none
  | .oms step =>
    match session.placing with
    | [] => none
    | (request, stage) :: outer =>
      (OrderManager.act request session.manager stage step).map fun taken =>
        match taken.2 with
        | .ended _ => { session with manager := taken.1, placing := outer }
        | next => { session with manager := taken.1, placing := (request, next) :: outer }

end PaperSession

end TradeX.V1
