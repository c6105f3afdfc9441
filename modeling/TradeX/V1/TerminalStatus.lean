import TradeX.Lib.Runs
import TradeX.V1.OrderManager

/-! Terminal orders over sequences of the public operations of the order manager. -/

namespace TradeX.V1

open Lib

inductive BookOperation where
  | placeOrder (request : OmsOrderCommand) (answers : OrderManager.PlaceAnswers)
  | upsertOrder (order : Order) (now : ℚ)
  | recordTrade (trade : Trade) (now : ℚ)
  | cancelOrder (orderId : String) (blocked : Option String) (answer : Option OrderManager.BrokerAnswer)
  | modifyOrder (request : OrderManager.ModifyOrderRequest) (blocked : Option String)
      (answer : Option OrderManager.BrokerAnswer)

namespace OrderManager

variable {cache : TTLCache.{0, v} Nat}

/-- One operation, whether it returns or raises. The id drawn for a placement is new. -/
def operate (manager : OrderManager cache) : BookOperation → Option (OrderManager cache)
  | .placeOrder request answers =>
    if manager.book.orders.contains answers.orderId = true then none
    else some (manager.placeOrder request answers).1
  | .upsertOrder order now => some (manager.upsertOrder order now).1
  | .recordTrade trade now => some (manager.recordTrade trade now).1
  | .cancelOrder orderId blocked answer => some (manager.cancelOrder orderId blocked answer).1
  | .modifyOrder request blocked answer => some (manager.modifyOrder request blocked answer).1

/-- The status in which a submission leaves the order that the broker answered with. -/
def Submission.leaves (submission : Submission) (placed : Order) : OrderStatus :=
  if submission.outcomeFails = none then placed.status else .UNKNOWN

/-- A terminal order of the book is not the answer to a placement, unless its status is
the same, and the machine of the order has no transition to the status of an upsert. -/
def settles (manager : OrderManager cache) : BookOperation → Prop
  | .placeOrder _ answers =>
    ∀ submission ∈ answers.submission, ∀ placed ∈ submission.brokerCall.toOption,
      ∀ status ∈ manager.book.status placed.orderId, status.isTerminal = true →
        submission.leaves placed = status
  | .upsertOrder order now =>
    ∀ status ∈ manager.book.status order.orderId, status.isTerminal = true → order.status ≠ status →
      order.status ∉ (manager.validator.machineState order.orderId now status).successors
  | _ => True

instance (manager : OrderManager cache) : (operation : BookOperation) → Decidable (manager.settles operation)
  | .placeOrder _ answers =>
    inferInstanceAs (Decidable (∀ submission ∈ answers.submission, ∀ placed ∈ submission.brokerCall.toOption,
      ∀ status ∈ manager.book.status placed.orderId, status.isTerminal = true →
        submission.leaves placed = status))
  | .upsertOrder order now =>
    inferInstanceAs (Decidable (∀ status ∈ manager.book.status order.orderId,
      status.isTerminal = true → order.status ≠ status →
        order.status ∉ (manager.validator.machineState order.orderId now status).successors))
  | .recordTrade .. | .cancelOrder .. | .modifyOrder .. => isTrue trivial

variable {manager after : OrderManager cache} {request : OmsOrderCommand} {answers : PlaceAnswers}
  {order : Order} {orderId : String} {status : OrderStatus} {now : ℚ} {operation : BookOperation}

theorem buildAndValidate_ok {gate risk : Option String}
    (built : buildAndValidate gate risk orderId request = .ok order) : order.orderId = orderId := by
  unfold buildAndValidate at built
  split at built
  · cases built
  · split at built
    · cases built
    · cases built
      rfl

theorem checkAndReserve_kept (manager : OrderManager cache) (correlationId : String) (now : ℚ) (durable : DurableAnswer) :
    (manager.checkAndReserve correlationId now durable).1.validator = manager.validator ∧
      (manager.checkAndReserve correlationId now durable).1.recorder = manager.recorder := by
  have looked : (manager.lookupDurableOrder durable).1.validator = manager.validator ∧
      (manager.lookupDurableOrder durable).1.recorder = manager.recorder := by
    unfold lookupDurableOrder
    split
    · exact ⟨rfl, rfl⟩
    · exact ⟨rfl, rfl⟩
    · split <;> exact ⟨rfl, rfl⟩
  unfold checkAndReserve
  split
  · exact ⟨rfl, rfl⟩
  · dsimp only
    split
    · exact looked
    · exact looked
    · split <;> exact looked

theorem Submits.kept {correlationId : String} {submission : Option Submission} {ends : SubmitEnd}
    (submits : Submits manager order correlationId submission after ends) :
    after.validator = manager.validator ∧ after.recorder = manager.recorder := by
  cases submits with
  | failed _ _ _ _ _ kept =>
    rcases kept with rfl | rfl
    · exact ⟨rfl, rfl⟩
    · exact ⟨rfl, rfl⟩
  | _ => exact ⟨rfl, rfl⟩

/-- A placement touches neither the validator nor the trade recorder. -/
theorem placeOrder_kept : (manager.placeOrder request answers).1.validator = manager.validator ∧
    (manager.placeOrder request answers).1.recorder = manager.recorder := by
  have checked := checkAndReserve_kept manager request.correlationId answers.now answers.durable
  unfold placeOrder
  dsimp only
  generalize manager.checkAndReserve request.correlationId answers.now answers.durable = check at checked ⊢
  split
  · exact checked
  · split
    · exact checked
    · next stub built =>
      have submits := submitToBroker_submits check.1 stub request answers.blocked answers.submission
      generalize check.1.submitToBroker stub request answers.blocked answers.submission = submitted at submits ⊢
      obtain ⟨reached, ends⟩ := submitted
      obtain ⟨validator, recorder⟩ := submits.kept
      have kept : reached.validator = manager.validator ∧ reached.recorder = manager.recorder :=
        ⟨validator.trans checked.1, recorder.trans checked.2⟩
      cases ends <;> exact kept

/-- A limit order for ten shares, with the given status and filled quantity. -/
def tenShares (status : OrderStatus) (filled : ℚ) : Order where
  orderId := "220901"
  symbol := "RELIANCE"
  exchange := "NSE"
  side := .BUY
  orderType := .LIMIT
  quantity := 10
  filledQuantity := filled
  price := 2500
  status := status
  correlationId := some "6f1c"

/-- A fill of the order. -/
def fillOf (tradeId : String) (quantity : ℚ) : Trade where
  tradeId := tradeId
  orderId := "220901"
  symbol := "RELIANCE"
  exchange := "NSE"
  side := .BUY
  quantity := quantity
  price := 2500

/-- The cache of the validator as the order manager builds it, empty. -/
def machineCache : TTLCache Nat := leastRecentlyUsed Nat 10000 86400

def newManager : OrderManager machineCache := { recorder := { processedTrades := some [] } }

end OrderManager

end TradeX.V1
