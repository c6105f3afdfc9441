import TradeX.V1.IdempotencyCache
import TradeX.V1.TradeRecorder

/-! `OrderManager` with its collaborators: the transition validator, the idempotency
guard and the lifecycle operations. Every definition is one section under the lock of
the book, or the sequence of them that a public operation is. What collaborators
outside the book answer (gate, risk manager, broker, ledger) is an argument. -/

namespace TradeX.V1

open Lib

/-- `OrderStateValidator`. The cache holds a reference to the machine of each order,
here its place in the list of machine states. -/
structure OrderStateValidator (cache : TTLCache.{0, v} Nat) where
  enforce : Bool := true
  stateMachines : cache.Store := cache.empty
  machines : List OrderStatus := []

namespace OrderStateValidator

variable {cache : TTLCache.{0, v} Nat} (validator : OrderStateValidator cache) (orderId : String)
  (oldStatus newStatus : OrderStatus) (now : ℚ)

/-- `_get_or_create_state_machine`. -/
def getOrCreateStateMachine (initial : OrderStatus) : OrderStateValidator cache × Nat :=
  let found := cache.getitem validator.stateMachines orderId now
  match found.2 with
  | some machine => ({ validator with stateMachines := found.1 }, machine)
  | none =>
    let machine := validator.machines.length
    ({ validator with
      stateMachines := cache.setitem found.1 orderId machine now
      machines := validator.machines ++ [initial] }, machine)

/-- The state of the machine that a validation from the given status consults. -/
def machineState (initial : OrderStatus) : OrderStatus :=
  let found := validator.getOrCreateStateMachine orderId now initial
  found.1.machines.getD found.2 initial

/-- `validate_transition`, with the exception it raises. -/
def validateTransition : OrderStateValidator cache × Option OmsError :=
  if oldStatus = newStatus then (validator, none)
  else
    let found := validator.getOrCreateStateMachine orderId now oldStatus
    if newStatus ∈ (validator.machineState orderId now oldStatus).successors then
      ({ found.1 with machines := found.1.machines.set found.2 newStatus }, none)
    else if validator.enforce = true then (found.1, some (.illegalTransition oldStatus newStatus))
    else (found.1, none)

variable {validator orderId oldStatus newStatus now} {initial : OrderStatus}

end OrderStateValidator

inductive SubmissionState where
  | ACCEPTED
  | REJECTED
  | UNKNOWN
  deriving DecidableEq, Repr

structure OrderResult where
  success : Bool
  order : Option Order := none
  error : Option String := none
  state : Option SubmissionState := none
  deriving DecidableEq, Repr

@[ext]
structure OmsOrderCommand where
  symbol : String
  exchange : String
  side : OrderSide
  quantity : Int
  price : ℚ := 0
  orderType : OrderType := .MARKET
  productType : ProductType := .INTRADAY
  correlationId : String
  correlationId_present : correlationId ≠ "" := by decide

instance : DecidableEq OmsOrderCommand := fun _ _ => decidable_of_iff _ OmsOrderCommand.ext_iff.symm

-- the correlation id of the sample requests
theorem sampleId_present : "6f1c" ≠ "" := by decide

/-- What the durable lookup makes of the execution ledger: nothing, the order rebuilt
from an intent and its outcome, or an exception. -/
inductive DurableAnswer where
  | nothing
  | recovered (order : Order)
  | raises (message : String)
  deriving DecidableEq, Repr

/-- The order that the lookup recovers. -/
def DurableAnswer.order : DurableAnswer → Option Order
  | .recovered order => some order
  | _ => none

/-- How an operation ends for its caller. -/
inductive OperationEnd where
  | returned (result : OrderResult)
  | raised (error : OmsError)
  deriving DecidableEq, Repr

/-- `_PENDING_TTL`, a day in seconds. -/
def pendingTtl : ℚ := 86400

structure OrderManager (cache : TTLCache.{0, v} Nat) where
  book : OrderBook := {}
  recorder : TradeRecorder := {}
  validator : OrderStateValidator cache := {}
  /-- The expiry of each correlation id in flight. -/
  pending : Dict String ℚ := ∅

namespace OrderManager

variable {cache : TTLCache.{0, v} Nat} (manager : OrderManager cache)

/-- `_lookup_durable_order`, after a miss of the index. -/
def lookupDurableOrder : DurableAnswer → OrderManager cache × Except OmsError (Option Order)
  | .nothing => (manager, .ok none)
  | .raises message => (manager, .error (.ledger message))
  | .recovered order =>
    match manager.book.orders.get order.orderId with
    | some existing => (manager, .ok (some existing))
    | none => ({ manager with book := manager.book.put order }, .ok (some order))

/-- What `check_and_reserve` answers for an order that exists. -/
def earlyResult (existing : Order) : OrderResult :=
  if existing.status = .UNKNOWN then
    { success := false
      order := some existing
      error := some "Order submission outcome is unknown; reconcile before retry"
      state := some .UNKNOWN }
  else { success := true, order := some existing, state := some .ACCEPTED }

/-- `_PendingStore.get`: an expired entry is none. -/
def inFlight (correlationId : String) (now : ℚ) : Bool :=
  match manager.pending.get correlationId with
  | none => false
  | some expires => decide (¬ expires < now)

/-- `IdempotencyGuard.check_and_reserve`; without an early end the caller holds the id. -/
def checkAndReserve (correlationId : String) (now : ℚ) (durable : DurableAnswer) :
    OrderManager cache × Option OperationEnd :=
  match manager.book.byCorrelation.get correlationId with
  | some existing => (manager, some (.returned (earlyResult existing)))
  | none =>
    let looked := manager.lookupDurableOrder durable
    match looked.2 with
    | .error error => (looked.1, some (.raised error))
    | .ok (some existing) =>
      ({ looked.1 with book := looked.1.book.fileUnder correlationId existing },
        some (.returned (earlyResult existing)))
    | .ok none =>
      if looked.1.inFlight correlationId now = true then
        (looked.1, some (.returned { success := false, error := some "Order already in-flight" }))
      else ({ looked.1 with pending := looked.1.pending.set correlationId (now + pendingTtl) }, none)

/-- `IdempotencyGuard.release_pending`. -/
def releasePending (correlationId : String) : OrderManager cache :=
  { manager with pending := manager.pending.pop correlationId }

/-- `build_and_validate`, with the reasons of the gate and of the risk manager. -/
def buildAndValidate (gate risk : Option String) (orderId : String) (request : OmsOrderCommand) :
    Except OrderResult Order :=
  match gate with
  | some reason => .error { success := false, error := some reason }
  | none =>
    match risk with
    | some reason => .error { success := false, error := some reason }
    | none => .ok {
        orderId := orderId
        symbol := request.symbol
        exchange := request.exchange
        side := request.side
        orderType := request.orderType
        quantity := request.quantity
        price := request.price
        productType := request.productType
        status := .OPEN
        correlationId := some request.correlationId }

/-- The section of `submit_to_broker` that writes the order into both indexes. -/
def register (order : Order) (correlationId : String) : OrderManager cache :=
  { manager with book := (manager.book.put order).fileUnder correlationId order }

/-- The book without the order filed under the id before, unless it is the same one. -/
def afterPrior (order : Order) (correlationId : String) : OrderBook :=
  match manager.book.byCorrelation.get correlationId with
  | none => manager.book
  | some prior => if prior.orderId = order.orderId then manager.book else manager.book.drop prior.orderId

/-- The section of `record_and_publish` under the lock. -/
def recordAndPublish (order : Order) (correlationId : String) : OrderManager cache :=
  let released := manager.releasePending correlationId
  { released with
    book := ((released.afterPrior order correlationId).put order).fileUnder correlationId order }

/-- How the part of `submit_to_broker` behind the registration ends: the intent's record
and `submit_fn` together, and whether the record of the outcome raises. -/
structure Submission where
  brokerCall : Except String Order
  outcomeFails : Option String := none
  deriving DecidableEq

inductive SubmitEnd where
  | placed (order : Order)
  | rejected (result : OrderResult)
  | raised (error : OmsError)
  deriving DecidableEq

/-- The result that reports an unknown outcome. -/
def unknownResult (order : Order) (error : String) : OrderResult :=
  { success := false, order := some order, error := some error, state := some .UNKNOWN }

/-- `submit_to_broker`, with the reason of the mutation guard; `none` for no `submit_fn`. -/
def submitToBroker (order : Order) (request : OmsOrderCommand) (blocked : Option String)
    (submission : Option Submission) : OrderManager cache × SubmitEnd :=
  match blocked with
  | some reason => (manager, .rejected { success := false, error := some reason })
  | none =>
    match submission with
    | none => (manager, .placed order)
    | some submission =>
      let registered := manager.register order request.correlationId
      match submission.brokerCall with
      | .error message =>
        match order.withStatus .UNKNOWN with
        | .error error => (registered, .raised error)
        | .ok unknown =>
          let marked := registered.register unknown request.correlationId
          match submission.outcomeFails with
          | some failure => (marked, .raised (.ledger failure))
          | none => (marked, .rejected (unknownResult unknown message))
      | .ok placed =>
        match submission.outcomeFails with
        | none => (registered, .placed placed)
        | some failure =>
          match placed.withStatus .UNKNOWN with
          | .error error => (registered, .raised error)
          | .ok unknown =>
            (registered.register unknown request.correlationId, .rejected (unknownResult unknown
              ("accepted broker order could not be durably recorded: " ++ failure)))

/-- What one call of `place_order` meets outside the book. -/
structure PlaceAnswers where
  now : ℚ
  durable : DurableAnswer := .nothing
  /-- The id drawn for the order. -/
  orderId : String
  gate : Option String := none
  risk : Option String := none
  blocked : Option String := none
  submission : Option Submission

/-- `OrderManager.place_order`. -/
def placeOrder (request : OmsOrderCommand) (answers : PlaceAnswers) : OrderManager cache × OperationEnd :=
  let checked := manager.checkAndReserve request.correlationId answers.now answers.durable
  match checked.2 with
  | some early => (checked.1, early)
  | none =>
    match buildAndValidate answers.gate answers.risk answers.orderId request with
    | .error rejection => (checked.1.releasePending request.correlationId, .returned rejection)
    | .ok order =>
      let submitted := checked.1.submitToBroker order request answers.blocked answers.submission
      match submitted.2 with
      | .rejected result => (submitted.1.releasePending request.correlationId, .returned result)
      | .raised error => (submitted.1.releasePending request.correlationId, .raised error)
      | .placed order => (submitted.1.recordAndPublish order request.correlationId,
          .returned { success := true, order := some order, state := some .ACCEPTED })

/-- The order is in the book with another status. -/
def changesStatus (order : Order) : Bool :=
  match manager.book.orders.get order.orderId with
  | none => false
  | some existing => decide (existing.status ≠ order.status)

/-- `upsert_order`, with the buffered trades it applies. Behind the audit of a changed status
stands a read of `is_terminal`, before the event and the flush. -/
def upsertOrder (order : Order) (now : ℚ) : OrderManager cache × List Trade × Option OmsError :=
  let validated := match manager.book.orders.get order.orderId with
    | none => (manager.validator, none)
    | some existing => manager.validator.validateTransition order.orderId existing.status order.status now
  match validated.2 with
  | some error => ({ manager with validator := validated.1 }, [], some error)
  | none =>
    let stored := manager.book.store order
    match if manager.changesStatus order = true then order.status.readIsTerminal else .ok false with
    | .error error => ({ manager with validator := validated.1, book := stored }, [], some error)
    | .ok _ =>
      let flushed := manager.recorder.flushPendingTradesLocked stored order.orderId now
      ({ manager with validator := validated.1, recorder := flushed.1, book := flushed.2.1 }, flushed.2.2)

/-- The validator lets the status of the snapshot pass. -/
def passes (order : Order) (now : ℚ) : Bool :=
  match manager.book.orders.get order.orderId with
  | none => true
  | some existing =>
    (manager.validator.validateTransition order.orderId existing.status order.status now).2.isNone

/-- `OrderManager.record_trade`. -/
def recordTrade (trade : Trade) (now : ℚ) : OrderManager cache × TradeOutcome :=
  let recorded := manager.recorder.recordTrade manager.book trade now
  ({ manager with recorder := recorded.1, book := recorded.2.1 }, recorded.2.2)

/-- How `cancel_fn` or `modify_fn` ends. -/
inductive BrokerAnswer where
  | succeeded
  | failed (error : String)
  deriving DecidableEq, Repr

/-- The order that an operation may change, or how the operation ends without one. -/
def openOrder (orderId : String) : Except OperationEnd Order :=
  match manager.book.orders.get orderId with
  | none => .error (.returned { success := false, error := some "Order not found" })
  | some order =>
    match order.status.readIsTerminal with
    | .error error => .error (.raised error)
    | .ok true => .error (.returned { success := false, error := some "Order already final" })
    | .ok false => .ok order

/-- The second section of `cancel_order`. -/
def storeCancelled (orderId : String) : OrderManager cache × OperationEnd :=
  match manager.openOrder orderId with
  | .error ending => (manager, ending)
  | .ok order =>
    match order.withStatus .CANCELLED with
    | .error error => (manager, .raised error)
    | .ok updated =>
      ({ manager with book := manager.book.store updated },
        .returned { success := true, order := some updated })

/-- `OrderManager.cancel_order`; `none` for no `cancel_fn`. -/
def cancelOrder (orderId : String) (blocked : Option String) (answer : Option BrokerAnswer) :
    OrderManager cache × OperationEnd :=
  match manager.openOrder orderId with
  | .error ending => (manager, ending)
  | .ok _ =>
    match blocked with
    | some reason => (manager, .returned { success := false, error := some reason })
    | none =>
      match answer with
      | some (.failed error) => (manager, .returned { success := false, error := some error })
      | _ => manager.storeCancelled orderId

structure ModifyOrderRequest where
  orderId : String
  quantity : Option ℚ := none
  price : Option ℚ := none
  orderType : Option OrderType := none
  deriving DecidableEq, Repr

/-- `apply_modify_fields`. -/
def applyModifyFields (order : Order) (request : ModifyOrderRequest) : Order :=
  let priced := (request.price.map order.withPrice).getD order
  let sized := (request.quantity.map priced.withQuantity).getD priced
  (request.orderType.map sized.withOrderType).getD sized

/-- The last section of `modify_order`, with the order read by the first. -/
def storeModified (order : Order) (request : ModifyOrderRequest) : OrderManager cache × OperationEnd :=
  let updated := applyModifyFields order request
  ({ manager with book := manager.book.store updated },
    .returned { success := true, order := some updated })

/-- `OrderManager.modify_order`; `none` for no `modify_fn`. -/
def modifyOrder (request : ModifyOrderRequest) (blocked : Option String) (answer : Option BrokerAnswer) :
    OrderManager cache × OperationEnd :=
  match manager.openOrder request.orderId with
  | .error ending => (manager, ending)
  | .ok order =>
    match blocked with
    | some reason => (manager, .returned { success := false, error := some reason })
    | none =>
      match answer with
      | some (.failed error) => (manager, .returned { success := false, error := some error })
      | _ => manager.storeModified order request

variable {manager} {order placed : Order} {request : OmsOrderCommand} {orderId correlationId : String}
  {status : OrderStatus} {now : ℚ} {durable : DurableAnswer}

theorem lookupDurableOrder_nothing : manager.lookupDurableOrder .nothing = (manager, .ok none) := rfl

theorem lookupDurableOrder_recovered : (manager.lookupDurableOrder (.recovered order)).2 =
    .ok (some ((manager.book.orders.get order.orderId).getD order)) := by
  unfold lookupDurableOrder
  dsimp only
  cases manager.book.orders.get order.orderId with
  | none => rfl
  | some existing => rfl

/-- The recovery touches neither the index of the correlation ids nor the reservations. -/
theorem lookupDurableOrder_index : (manager.lookupDurableOrder durable).1.book.byCorrelation =
      manager.book.byCorrelation ∧ (manager.lookupDurableOrder durable).1.pending = manager.pending := by
  unfold lookupDurableOrder
  split
  · exact ⟨rfl, rfl⟩
  · exact ⟨rfl, rfl⟩
  · split <;> exact ⟨rfl, rfl⟩

/-- An id with an order is answered with that order. -/
theorem checkAndReserve_filed (filed : manager.book.byCorrelation.get correlationId = some order) :
    manager.checkAndReserve correlationId now durable = (manager, some (.returned (earlyResult order))) := by
  unfold checkAndReserve
  rw [filed]

/-- A check that ends the call reserves nothing and keeps every entry of the index. -/
theorem checkAndReserve_early {ending : OperationEnd}
    (ends : (manager.checkAndReserve correlationId now durable).2 = some ending) :
    (manager.checkAndReserve correlationId now durable).1.pending = manager.pending ∧
      ∀ id order, manager.book.byCorrelation.get id = some order →
        (manager.checkAndReserve correlationId now durable).1.book.byCorrelation.get id = some order := by
  obtain ⟨index, pending⟩ : (manager.lookupDurableOrder durable).1.book.byCorrelation =
      manager.book.byCorrelation ∧ (manager.lookupDurableOrder durable).1.pending = manager.pending :=
    lookupDurableOrder_index
  unfold checkAndReserve at ends ⊢
  split
  · exact ⟨rfl, fun _ _ found => found⟩
  · next missed =>
    rw [missed] at ends
    dsimp only at ends ⊢
    split
    · exact ⟨pending, fun _ _ found => by rw [index]; exact found⟩
    · refine ⟨pending, fun id order found => ?_⟩
      have other : id ≠ correlationId := by
        rintro rfl
        rw [missed] at found
        cases found
      exact (Dict.get_set_other _ _ _ _ other).trans (by rw [index]; exact found)
    · next looked =>
      rw [looked] at ends
      dsimp only at ends
      split
      · exact ⟨pending, fun _ _ found => by rw [index]; exact found⟩
      · next idle =>
        rw [if_neg idle] at ends
        cases ends

/-- Without an early end the check leaves the book as it was, and the id had no order. -/
theorem checkAndReserve_none (free : (manager.checkAndReserve correlationId now durable).2 = none) :
    (manager.checkAndReserve correlationId now durable).1 =
        { manager with pending := manager.pending.set correlationId (now + pendingTtl) } ∧
      manager.book.byCorrelation.get correlationId = none ∧
      manager.inFlight correlationId now = false := by
  unfold checkAndReserve at free ⊢
  split at free
  · cases free
  · next missed =>
    dsimp only at free ⊢
    cases durable with
    | raises message => cases free
    | recovered order =>
      rw [lookupDurableOrder_recovered] at free
      cases free
    | nothing =>
      rw [lookupDurableOrder_nothing] at free ⊢
      dsimp only at free ⊢
      split
      · next flying =>
        rw [if_pos flying] at free
        cases free
      · next idle => exact ⟨rfl, missed, Bool.eq_false_iff.mpr idle⟩

theorem register_filled : (manager.register order correlationId).book.filled orderId =
    if orderId = order.orderId then order.filledQuantity else manager.book.filled orderId :=
  OrderBook.put_filled manager.book

theorem register_filed :
    (manager.register order correlationId).book.byCorrelation.get correlationId = some order :=
  Dict.get_set_self ..

theorem recordAndPublish_filed : (manager.recordAndPublish order correlationId).book.byCorrelation =
    manager.book.byCorrelation.set correlationId order := by
  have kept : ((manager.releasePending correlationId).afterPrior order correlationId).byCorrelation =
      manager.book.byCorrelation := by
    unfold afterPrior
    split
    · rfl
    · split <;> rfl
  exact congrArg (Dict.set · correlationId order) kept

/-- What an upsert can do: it is refused, it stores a change of status and raises behind it, or it
stores the snapshot and flushes. -/
inductive Upserts (manager : OrderManager cache) (order : Order) (now : ℚ) :
    OrderManager cache × List Trade × Option OmsError → Prop where
  | refused (validator : OrderStateValidator cache) (error : OmsError) : manager.passes order now = false →
      Upserts manager order now ({ manager with validator := validator }, [], some error)
  | changed (validator : OrderStateValidator cache) (error : OmsError) : manager.passes order now = true →
      manager.changesStatus order = true →
      Upserts manager order now
        ({ manager with validator := validator, book := manager.book.store order }, [], some error)
  | flushed (validator : OrderStateValidator cache) (recorder : TradeRecorder) (book : OrderBook)
      (ends : List Trade × Option OmsError) : manager.passes order now = true →
      manager.changesStatus order = false →
      manager.recorder.flushPendingTradesLocked (manager.book.store order) order.orderId now =
        (recorder, book, ends) →
      Upserts manager order now
        ({ manager with validator := validator, recorder := recorder, book := book }, ends)

theorem upsertOrder_upserts (manager : OrderManager cache) (order : Order) (now : ℚ) :
    Upserts manager order now (manager.upsertOrder order now) := by
  have passing := passes.eq_def manager order now
  have changing := changesStatus.eq_def manager order
  unfold upsertOrder
  cases found : manager.book.orders.get order.orderId with
  | none =>
    rw [found] at passing changing
    rw [changing]
    exact .flushed _ _ _ _ passing changing rfl
  | some existing =>
    rw [found] at passing changing
    dsimp only at passing changing ⊢
    split
    · next refused =>
      rw [refused] at passing
      exact .refused _ _ passing
    · next passed =>
      rw [passed] at passing
      cases changes : manager.changesStatus order with
      | true => exact .changed _ _ passing changes
      | false => exact .flushed _ _ _ _ passing changes rfl

/-- The upsert of an order for which nothing waits stores it, or leaves the book as it was. -/
theorem Upserts.silent {ends : OrderManager cache × List Trade × Option OmsError} (upserts : Upserts manager order now ends)
    (silent : ∀ id, (manager.recorder.pendingTradesByOrder.get id).getD [] = []) :
    ends.2.1 = [] ∧ (ends.1.book = manager.book ∨ ends.1.book = manager.book.store order) ∧
      ∃ pending, ends.1.recorder = { manager.recorder with pendingTradesByOrder := pending } ∧
        ∀ id, (pending.get id).getD [] = [] := by
  cases upserts with
  | refused validator error refused => exact ⟨rfl, .inl rfl, _, rfl, silent⟩
  | changed validator error passed changes => exact ⟨rfl, .inr rfl, _, rfl, silent⟩
  | flushed validator recorder book ends passed stays flushes =>
    have flushed := @TradeRecorder.flushPendingTradesLocked_silent manager.recorder (manager.book.store order) now
      order.orderId (silent order.orderId)
    rw [flushes] at flushed
    cases flushed
    exact ⟨rfl, .inr rfl, _, rfl, fun id => TradeRecorder.popped_silent (silent id)⟩

/-- A snapshot that passes is stored and the buffered trades are added; any other leaves the book. -/
theorem upsertOrder_book (manager : OrderManager cache) (order : Order) (now : ℚ) :
    (manager.passes order now = true ∧ FillsAll (manager.book.store order)
      (manager.upsertOrder order now).2.1 (manager.upsertOrder order now).1.book) ∨
    (manager.passes order now = false ∧ (manager.upsertOrder order now).1.book = manager.book ∧
      (manager.upsertOrder order now).2.1 = []) := by
  have upserts := manager.upsertOrder_upserts order now
  generalize manager.upsertOrder order now = upserted at upserts ⊢
  cases upserts with
  | refused validator error refused => exact .inr ⟨refused, rfl, rfl⟩
  | changed validator error passed => exact .inl ⟨passed, .nil _⟩
  | flushed validator recorder book ends passed stays flushes =>
    have fills := flushTrades_fills { manager.recorder with
      pendingTradesByOrder := manager.recorder.pendingTradesByOrder.pop order.orderId } (manager.book.store order)
      now ((manager.recorder.pendingTradesByOrder.get order.orderId).getD [])
    unfold TradeRecorder.flushPendingTradesLocked at flushes
    dsimp only at flushes
    rw [flushes] at fills
    exact .inl ⟨passed, fills⟩

theorem recordAndPublish_get :
    (manager.recordAndPublish order correlationId).book.orders.get order.orderId = some order :=
  Dict.get_set_self ..

/-- No order is ever found open. -/
theorem openOrder_error (manager : OrderManager cache) (orderId : String) :
    ∃ ending, manager.openOrder orderId = .error ending := by
  unfold openOrder
  cases manager.book.orders.get orderId with
  | none => exact ⟨_, rfl⟩
  | some order => exact ⟨_, rfl⟩

theorem cancelOrder_kept (manager : OrderManager cache) (orderId : String) (blocked : Option String)
    (answer : Option BrokerAnswer) : (manager.cancelOrder orderId blocked answer).1 = manager := by
  obtain ⟨ending, refused⟩ := manager.openOrder_error orderId
  unfold cancelOrder
  rw [refused]

theorem modifyOrder_kept (manager : OrderManager cache) (request : ModifyOrderRequest) (blocked : Option String)
    (answer : Option BrokerAnswer) : (manager.modifyOrder request blocked answer).1 = manager := by
  obtain ⟨ending, refused⟩ := manager.openOrder_error request.orderId
  unfold modifyOrder
  rw [refused]

/-- What `submit_to_broker` can do. -/
inductive Submits (manager : OrderManager cache) (order : Order) (correlationId : String) :
    Option Submission → OrderManager cache → SubmitEnd → Prop where
  | blocked (submission) (result : OrderResult) :
      Submits manager order correlationId submission manager (.rejected result)
  | direct : Submits manager order correlationId none manager (.placed order)
  | failed (submission : Submission) (after : OrderManager cache) (ends : SubmitEnd) :
      (∀ placed, submission.brokerCall = .ok placed → submission.outcomeFails ≠ none) →
      (∀ placed, ends ≠ .placed placed) →
      (after = manager.register order correlationId ∨ after =
        (manager.register order correlationId).register { order with status := .UNKNOWN } correlationId) →
      Submits manager order correlationId (some submission) after ends
  | placed (submission : Submission) (placed : Order) : submission.brokerCall = .ok placed →
      submission.outcomeFails = none →
      Submits manager order correlationId (some submission) (manager.register order correlationId)
        (.placed placed)
  | unrecorded (submission : Submission) (placed : Order) (result : OrderResult) :
      submission.brokerCall = .ok placed → submission.outcomeFails ≠ none →
      Submits manager order correlationId (some submission)
        ((manager.register order correlationId).register { placed with status := .UNKNOWN } correlationId)
        (.rejected result)

theorem submitToBroker_submits (manager : OrderManager cache) (order : Order) (request : OmsOrderCommand)
    (blocked : Option String) (submission : Option Submission) :
    Submits manager order request.correlationId submission
      (manager.submitToBroker order request blocked submission).1
      (manager.submitToBroker order request blocked submission).2 := by
  unfold submitToBroker
  split
  · exact .blocked _ _
  · split
    · exact .direct
    · next submission =>
      dsimp only
      split
      · next message raised =>
        have uncalled : ∀ placed, submission.brokerCall = .ok placed → submission.outcomeFails ≠ none := by
          intro placed called
          rw [raised] at called
          cases called
        split
        · exact .failed _ _ _ uncalled (by rintro _ ⟨⟩) (.inl rfl)
        · next unknown changed =>
          obtain ⟨rfl, -⟩ := Order.withStatus_ok changed
          split
          · exact .failed _ _ _ uncalled (by rintro _ ⟨⟩) (.inr rfl)
          · exact .failed _ _ _ uncalled (by rintro _ ⟨⟩) (.inr rfl)
      · next placed called =>
        split
        · next recorded => exact .placed _ _ called recorded
        · next failure fails =>
          split
          · exact .failed _ _ _ (fun _ _ => by rw [fails]; rintro ⟨⟩) (by rintro _ ⟨⟩) (.inl rfl)
          · next unknown changed =>
            obtain ⟨rfl, -⟩ := Order.withStatus_ok changed
            exact .unrecorded _ placed _ called (by rw [fails]; rintro ⟨⟩)

end OrderManager

end TradeX.V1
