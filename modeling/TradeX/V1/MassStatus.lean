import TradeX.V1.OrderManager
import TradeX.V1.Reconciliation

/-! `ExecutionEngine.apply_mass_status`: a broker's snapshot of orders and positions is upserted
into the local books, entry by entry. What a failed upsert raises is logged and passed over. -/

namespace TradeX.V1

open Lib

inductive HealKind where
  | missingLocalOrder
  | orderStatusMismatch
  | missingLocalPosition
  | positionQuantityMismatch
  | positionUpdate
  deriving DecidableEq, Repr

/-- An item of the list that `apply_mass_status` returns, with the id of the order or the symbol. -/
structure HealItem where
  kind : HealKind
  name : String
  severity : Severity
  deriving DecidableEq, Repr

namespace OrderManager

variable {cache : TTLCache.{0, v} Nat} (manager : OrderManager cache)

end OrderManager

/-- `getattr(pos, "exchange", DEFAULT_EXCHANGE) or DEFAULT_EXCHANGE`. -/
def ReportedPosition.exchangeOrDefault (position : ReportedPosition) : String :=
  if position.exchange = "" then BrokerPosition.defaultExchange else position.exchange

/-- The key of the position in the local book. -/
def ReportedPosition.key (position : ReportedPosition) : String :=
  makePositionKey position.symbol position.exchangeOrDefault

def BrokerValue.ofText (text : String) : BrokerValue where
  text := text
  truthy := decide (text ≠ "")
  int := Decimal.readInteger (Text.strip text).toList
  decimal := Decimal.ofText text

def BrokerValue.ofInt (value : ℤ) : BrokerValue where
  text := toString value
  truthy := decide (value ≠ 0)
  int := some value
  decimal := some value

/-- The dictionary handed to `upsert_position`. -/
def ReportedPosition.payload (position : ReportedPosition) : List (String × BrokerValue) := [
  ("symbol", .ofText position.symbol),
  ("exchange", .ofText position.exchangeOrDefault),
  ("quantity", .ofInt position.quantity),
  ("avg_price", .ofText position.avgPrice.text),
  ("ltp", .ofText position.ltp.text)]

namespace PositionManager

variable (manager : PositionManager)

end PositionManager

/-- The books agree on the two fields that the heal reads. -/
structure Order.Agrees (localOrder brokerOrder : Order) : Prop where
  status : localOrder.status = brokerOrder.status
  filled : localOrder.filledQuantity = brokerOrder.filledQuantity

namespace OrderManager

variable {cache : TTLCache.{0, v} Nat} {manager : OrderManager cache} {order : Order} {orders : List Order}
  {orderId : String} {now : ℚ}

/-- The trades that wait for the order. -/
def awaiting (manager : OrderManager cache) (orderId : String) : List Trade :=
  (manager.recorder.pendingTradesByOrder.get orderId).getD []

/-- What one round makes of the order: it has none of an id, it agrees already, it is stored, or the
validator refuses its status. -/
inductive HealsOrder (manager : OrderManager cache) (order : Order) :
    OrderManager cache × List HealItem × List (String × OmsError) → Prop where
  | nameless : order.orderId = "" → HealsOrder manager order (manager, [], [])
  | agreed (existing : Order) : manager.book.orders.get order.orderId = some existing →
      existing.Agrees order → HealsOrder manager order (manager, [], [])
  | stored (after : OrderManager cache) (items : List HealItem) (failures : List (String × OmsError)) :
      order.orderId ≠ "" → after.book = manager.book.store order →
      (∀ existing, manager.book.orders.get order.orderId = some existing → ¬ existing.Agrees order) →
      (∀ id, manager.awaiting id = [] → after.awaiting id = []) →
      HealsOrder manager order (after, items, failures)
  | refused (after : OrderManager cache) (existing : Order) (items : List HealItem)
      (failures : List (String × OmsError)) : manager.book.orders.get order.orderId = some existing →
      existing.status ≠ order.status → after.book = manager.book → after.recorder = manager.recorder →
      (order.orderId, .illegalTransition existing.status order.status) ∈ failures →
      HealsOrder manager order (after, items, failures)

/-- A round touches no other order, and leaves nothing waiting that did not wait before. -/
theorem HealsOrder.frame {ends : OrderManager cache × List HealItem × List (String × OmsError)}
    (heals : HealsOrder manager order ends) :
    (orderId = "" ∨ orderId ≠ order.orderId →
        ends.1.book.orders.get orderId = manager.book.orders.get orderId) ∧
      (manager.awaiting orderId = [] → ends.1.awaiting orderId = []) := by
  cases heals with
  | nameless => exact ⟨fun _ => rfl, id⟩
  | agreed => exact ⟨fun _ => rfl, id⟩
  | stored after items failures named stored _ waits =>
    refine ⟨fun other => ?_, waits orderId⟩
    have differs : orderId ≠ order.orderId := by
      rcases other with rfl | differs
      · exact named.symm
      · exact differs
    dsimp only
    rw [stored, OrderBook.store_get, if_neg differs]
  | refused after existing items failures held differs sameBook sameRecorder =>
    refine ⟨fun _ => congrArg (fun book => book.orders.get orderId) sameBook, fun empty => ?_⟩
    exact (congrArg (fun recorder => (recorder.pendingTradesByOrder.get orderId).getD []) sameRecorder).trans empty

/-- No trade waits for an order of the snapshot. -/
def Settled (manager : OrderManager cache) (orders : List Order) : Prop :=
  ∀ order ∈ orders, manager.awaiting order.orderId = []

/-- What the heal makes of an order of the snapshot that has an id. -/
inductive Mended (before after : OrderBook) (failures : List (String × OmsError)) (order : Order) : Prop where
  | agreed (existing : Order) : before.orders.get order.orderId = some existing → existing.Agrees order →
      after.orders.get order.orderId = some existing → Mended before after failures order
  | stored : (∀ existing, before.orders.get order.orderId = some existing → ¬ existing.Agrees order) →
      after.orders.get order.orderId = some order → Mended before after failures order
  | refused (existing : Order) : before.orders.get order.orderId = some existing →
      existing.status ≠ order.status → after.orders.get order.orderId = some existing →
      (order.orderId, .illegalTransition existing.status order.status) ∈ failures →
      Mended before after failures order

theorem HealsOrder.mended {ends : OrderManager cache × List HealItem × List (String × OmsError)}
    (heals : HealsOrder manager order ends) (named : order.orderId ≠ "") :
    Mended manager.book ends.1.book ends.2.2 order := by
  cases heals with
  | nameless nameless => exact absurd nameless named
  | agreed existing held agrees => exact .agreed existing held agrees held
  | stored after items failures named stored differs waits =>
    apply Mended.stored differs
    dsimp only
    rw [stored, OrderBook.store_get, if_pos rfl]
  | refused after existing items failures held differs sameBook sameRecorder logged =>
    apply Mended.refused existing held differs _ logged
    dsimp only
    rw [sameBook]
    exact held

/-- What happened to an order stays when later rounds do not touch it. -/
theorem Mended.behind {before middle after : OrderBook} {failures others : List (String × OmsError)}
    (mended : Mended before middle failures order)
    (kept : after.orders.get order.orderId = middle.orders.get order.orderId) :
    Mended before after (failures ++ others) order := by
  cases mended with
  | agreed existing held agrees here => exact .agreed existing held agrees (kept.trans here)
  | stored differs here => exact .stored differs (kept.trans here)
  | refused existing held differs here logged =>
    exact .refused existing held differs (kept.trans here) (List.mem_append_left _ logged)

theorem Mended.ahead {before middle after : OrderBook} {failures others : List (String × OmsError)}
    (mended : Mended middle after others order)
    (kept : middle.orders.get order.orderId = before.orders.get order.orderId) :
    Mended before after (failures ++ others) order := by
  cases mended with
  | agreed existing held agrees here => exact .agreed existing (kept.symm.trans held) agrees here
  | stored differs here => exact .stored (fun existing held => differs existing (kept.trans held)) here
  | refused existing held differs here logged =>
    exact .refused existing (kept.symm.trans held) differs here (List.mem_append_right _ logged)

end OrderManager

end TradeX.V1
