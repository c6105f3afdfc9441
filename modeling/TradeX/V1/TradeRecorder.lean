import TradeX.V1.FillReducer

/-! `TradeRecorder`: a trade is checked against the processed trades, buffered while
its order is unknown, validated by the reducer, recorded in the ledger, applied to the
order, and only then marked. Trades of an order that becomes known later are flushed. -/

namespace TradeX.V1

open Lib

namespace OrderPositionUpdater

variable (order : Order) (trade : Trade)

/-- `_compute_avg_price`. -/
def computeAvgPrice : ℚ :=
  if trade.quantity = 0 then order.avgPrice
  else if order.filledQuantity = 0 then trade.price
  else
    let totalValue := order.avgPrice * order.filledQuantity + trade.price * trade.quantity
    let totalQty := order.filledQuantity + trade.quantity
    if totalQty = 0 then 0 else totalValue / totalQty

/-- `_derive_status`. -/
def deriveStatus (newFilled : ℚ) : OrderStatus :=
  if newFilled ≥ order.quantity then .FILLED else .PARTIALLY_FILLED

/-- `OrderPositionUpdater.apply_trade`. -/
def applyTrade : Except OmsError Order :=
  let newFilled := order.filledQuantity + trade.quantity
  (order.withFill newFilled (computeAvgPrice order trade)).withStatus (deriveStatus order newFilled)

/-- The status that the trade's fill gives to the order. -/
def filledStatus : OrderStatus :=
  deriveStatus order (order.filledQuantity + trade.quantity)

variable {order trade} {updated : Order}

theorem applyTrade_ok (applied : applyTrade order trade = .ok updated) :
    updated.orderId = order.orderId ∧ updated.correlationId = order.correlationId ∧
      updated.filledQuantity = order.filledQuantity + trade.quantity ∧
      updated.status = filledStatus order trade := by
  obtain ⟨rfl, -⟩ := Order.withStatus_ok applied
  exact ⟨rfl, rfl, rfl, rfl⟩

theorem applyTrade_quantity (applied : applyTrade order trade = .ok updated) : updated.quantity = order.quantity := by
  obtain ⟨rfl, -⟩ := Order.withStatus_ok applied
  rfl

theorem applyTrade_terms (applied : applyTrade order trade = .ok updated) :
    updated.price = order.price ∧ updated.orderType = order.orderType := by
  obtain ⟨rfl, -⟩ := Order.withStatus_ok applied
  exact ⟨rfl, rfl⟩

/-- A terminal order keeps its status. -/
theorem applyTrade_terminal (terminal : order.status.isTerminal = true)
    (applied : applyTrade order trade = .ok updated) : updated.status = order.status := by
  obtain ⟨rfl, same | successor⟩ := Order.withStatus_ok applied
  · exact same
  · exact absurd successor (OrderStatus.not_mem_successors terminal)

theorem applyTrade_allowed (allowed : order.allows (filledStatus order trade) = true) :
    ∃ updated, applyTrade order trade = .ok updated :=
  ⟨_, @Order.withStatus_allowed (order.withFill _ _) _ allowed⟩

theorem applyTrade_refused (refused : order.allows (filledStatus order trade) = false) :
    applyTrade order trade =
      .error (.illegalTransition order.status (filledStatus order trade)) :=
  @Order.withStatus_refused (order.withFill _ _) _ refused

end OrderPositionUpdater

structure LedgerFillRecord where
  fillId : String
  orderId : String
  symbol : String
  exchange : String
  side : OrderSide
  quantity : ℚ
  cumulativeQuantity : ℚ
  orderQuantity : ℚ
  price : ℚ
  eventTime : ℚ
  deriving DecidableEq, Repr

/-- The record of a trade's fill; the clock stands in for a missing timestamp. -/
def LedgerFillRecord.ofFill (fill : FillEvent) (order : Order) (trade : Trade) (now : ℚ) :
    LedgerFillRecord where
  fillId := trade.tradeId
  orderId := trade.orderId
  symbol := trade.symbol
  exchange := trade.exchange
  side := trade.side
  quantity := trade.quantity
  cumulativeQuantity := fill.cumulativeQuantity
  orderQuantity := order.quantity
  price := trade.price
  eventTime := trade.timestamp.getD now

/-- The fills of an execution ledger, and the records that its store raises for. -/
structure ExecutionLedger where
  fills : List LedgerFillRecord := []
  refuses : LedgerFillRecord → Bool

/-- `record_fill`, with the checks of the record: a fill id is stored once. -/
def ExecutionLedger.recordFill (ledger : ExecutionLedger) (fill : LedgerFillRecord) :
    Except OmsError ExecutionLedger :=
  if fill.fillId = "" ∨ fill.orderId = "" then .error (.valueError "ledger fill identifiers are required")
  else if fill.quantity ≤ 0 then .error (.valueError "ledger fill quantity must be positive")
  else if ledger.refuses fill then .error (.ledger fill.fillId)
  else if ledger.fills.any fun stored => stored.fillId = fill.fillId then .ok ledger
  else .ok { ledger with fills := ledger.fills ++ [fill] }

/-- The ledger stores a fill under the id. -/
def ExecutionLedger.holds (ledger : ExecutionLedger) (fillId : String) : Bool :=
  ledger.fills.any fun stored => stored.fillId = fillId

namespace ExecutionLedger

variable {ledger stored : ExecutionLedger} {fill : LedgerFillRecord}

theorem recordFill_ok (records : ledger.recordFill fill = .ok stored) :
    stored = if ledger.holds fill.fillId = true then ledger else { ledger with fills := ledger.fills ++ [fill] } := by
  unfold recordFill at records
  split at records
  · cases records
  · split at records
    · cases records
    · split at records
      · cases records
      · split at records
        · next held =>
          cases records
          exact (if_pos held).symm
        · next new =>
          cases records
          exact (if_neg new).symm

/-- The ledger takes a well-formed record that its store does not raise for. -/
theorem recordFill_takes (named : ¬ (fill.fillId = "" ∨ fill.orderId = "")) (positive : 0 < fill.quantity)
    (taken : ledger.refuses fill = false) : ∃ stored, ledger.recordFill fill = .ok stored := by
  unfold recordFill
  rw [taken, if_neg named, if_neg (not_le.mpr positive), if_neg Bool.false_ne_true]
  split
  · exact ⟨_, rfl⟩
  · exact ⟨_, rfl⟩

/-- A fill that the ledger took before is taken again, in whatever order it is offered. -/
theorem recordFill_again {again : LedgerFillRecord} (records : ledger.recordFill fill = .ok stored)
    (sameFill : again.fillId = fill.fillId) (sameOrder : again.orderId = fill.orderId)
    (sameQuantity : again.quantity = fill.quantity) (taken : ledger.refuses again = false) :
    ∃ after, stored.recordFill again = .ok after := by
  have kept : stored.refuses = ledger.refuses := by
    rw [recordFill_ok records]
    split <;> rfl
  unfold recordFill at records
  split at records
  · cases records
  · next named =>
    split at records
    · cases records
    · next positive =>
      apply recordFill_takes
      · rw [sameFill, sameOrder]
        exact named
      · rw [sameQuantity]
        exact not_le.mp positive
      · rw [kept, taken]

end ExecutionLedger

structure TradeRecorder where
  /-- The keys of the processed-trade repository, when one is attached. -/
  processedTrades : Option (List TradeIdKey) := none
  executionLedger : Option ExecutionLedger := none
  pendingTradesByOrder : Dict String (List Trade) := ∅
  fillReducer : FillReducer := {}

/-- What becomes of a trade. -/
inductive TradeOutcome where
  | duplicate
  | unknownOrder
  | rejected (reason : FillRejection)
  | applied (updated : Order)
  | raised (error : OmsError)
  deriving DecidableEq, Repr

/-- What `record_trade` returns. -/
def TradeOutcome.accepted : TradeOutcome → Bool
  | .applied _ => true
  | _ => false

namespace TradeRecorder

/-- `_pending_trades_max_per_order`. -/
def pendingTradesMaxPerOrder : Nat := 32

def isProcessed (recorder : TradeRecorder) (key : TradeIdKey) : Bool :=
  recorder.processedTrades.elim false fun keys => decide (key ∈ keys)

def markProcessed (recorder : TradeRecorder) (key : TradeIdKey) : TradeRecorder :=
  { recorder with processedTrades := recorder.processedTrades.map (key :: ·) }

def buffered (recorder : TradeRecorder) (trade : Trade) : TradeRecorder :=
  let buf := (recorder.pendingTradesByOrder.get trade.orderId).getD []
  let grown := if buf.length < pendingTradesMaxPerOrder then buf ++ [trade] else buf
  { recorder with pendingTradesByOrder := recorder.pendingTradesByOrder.set trade.orderId grown }

/-- `_persist_fill_to_ledger`. -/
def persistFillToLedger (recorder : TradeRecorder) (fill : FillEvent) (order : Order) (trade : Trade)
    (now : ℚ) : Except OmsError TradeRecorder :=
  match recorder.executionLedger with
  | none => .ok recorder
  | some ledger =>
    match ledger.recordFill (.ofFill fill order trade now) with
    | .error error => .error error
    | .ok stored => .ok { recorder with executionLedger := some stored }

/-- `TradeRecorder.record_trade`. -/
def recordTrade (recorder : TradeRecorder) (book : OrderBook) (trade : Trade) (now : ℚ) :
    TradeRecorder × OrderBook × TradeOutcome :=
  if blank trade.tradeId = true then
    (recorder, book, .raised (.valueError "OrderManager.record_trade requires a non-empty trade.trade_id"))
  else
    let key := TradeIdKey.fromTrade trade
    if recorder.isProcessed key = true then (recorder, book, .duplicate)
    else
      match book.orders.get trade.orderId with
      | none => (recorder.buffered trade, book, .unknownOrder)
      | some order =>
        match FillReducer.fillFromTrade trade.tradeId trade.orderId trade.quantity order.filledQuantity
            trade.price with
        | .error error => (recorder, book, .raised error)
        | .ok fill =>
          match recorder.fillReducer.validate fill order.quantity order.filledQuantity with
          | some reason => (recorder, book, .rejected reason)
          | none =>
            match recorder.persistFillToLedger fill order trade now with
            | .error error => (recorder, book, .raised error)
            | .ok persisted =>
              match OrderPositionUpdater.applyTrade order trade with
              | .error error => (persisted, book, .raised error)
              | .ok updated =>
                let marked := persisted.markProcessed key
                ({ marked with fillReducer := marked.fillReducer.commit fill }, book.store updated,
                  .applied updated)

/-- One round of the loop of `flush_pending_trades_locked`. The reducer is committed
before the fill is applied. -/
def flushTrade (recorder : TradeRecorder) (book : OrderBook) (trade : Trade) (now : ℚ) :
    TradeRecorder × OrderBook × TradeOutcome :=
  let key := TradeIdKey.fromTrade trade
  if recorder.isProcessed key = true then (recorder, book, .duplicate)
  else
    match book.orders.get trade.orderId with
    | none => (recorder, book, .unknownOrder)
    | some order =>
      match FillReducer.fillFromTrade trade.tradeId trade.orderId trade.quantity order.filledQuantity
          trade.price with
      | .error error => (recorder, book, .raised error)
      | .ok fill =>
        match recorder.fillReducer.validate fill order.quantity order.filledQuantity with
        | some reason => (recorder, book, .rejected reason)
        | none =>
          let committed := { recorder with fillReducer := recorder.fillReducer.commit fill }
          match committed.persistFillToLedger fill order trade now with
          | .error error => (committed, book, .raised error)
          | .ok persisted =>
            match OrderPositionUpdater.applyTrade order trade with
            | .error error => (persisted, book, .raised error)
            | .ok updated => (persisted.markProcessed key, book.store updated, .applied updated)

/-- The loop of `flush_pending_trades_locked`, with the trades it applies. An exception
ends it. -/
def flushTrades (recorder : TradeRecorder) (book : OrderBook) (now : ℚ) :
    List Trade → TradeRecorder × OrderBook × List Trade × Option OmsError
  | [] => (recorder, book, [], none)
  | trade :: rest =>
    let after := recorder.flushTrade book trade now
    match after.2.2 with
    | .raised error => (after.1, after.2.1, [], some error)
    | .applied _ =>
      let others := after.1.flushTrades after.2.1 now rest
      (others.1, others.2.1, trade :: others.2.2.1, others.2.2.2)
    | _ => after.1.flushTrades after.2.1 now rest

/-- `TradeRecorder.flush_pending_trades_locked`. -/
def flushPendingTradesLocked (recorder : TradeRecorder) (book : OrderBook) (orderId : String) (now : ℚ) :
    TradeRecorder × OrderBook × List Trade × Option OmsError :=
  let pending := (recorder.pendingTradesByOrder.get orderId).getD []
  let popped := { recorder with pendingTradesByOrder := recorder.pendingTradesByOrder.pop orderId }
  popped.flushTrades book now pending

end TradeRecorder

/-- The trade's fill is added to its order in the book. -/
structure Fills (book : OrderBook) (trade : Trade) (order updated : Order) (after : OrderBook) : Prop where
  known : book.orders.get trade.orderId = some order
  nonneg : 0 ≤ trade.quantity
  cumulative : 0 ≤ order.filledQuantity + trade.quantity
  room : order.filledQuantity + trade.quantity ≤ order.quantity
  applied : OrderPositionUpdater.applyTrade order trade = .ok updated
  stored : after = book.store updated

namespace Fills

variable {book after : OrderBook} {trade : Trade} {order updated : Order} {orderId : String}

theorem orderId_eq (fills : Fills book trade order updated after) : updated.orderId = trade.orderId :=
  (OrderPositionUpdater.applyTrade_ok fills.applied).1.trans (book.keyed _ _ fills.known)

theorem status_eq (fills : Fills book trade order updated after) :
    after.status orderId = if orderId = trade.orderId then some updated.status else book.status orderId := by
  rw [fills.stored, OrderBook.store_status, fills.orderId_eq]

theorem filled_eq (fills : Fills book trade order updated after) :
    after.filled orderId = book.filled orderId + if orderId = trade.orderId then trade.quantity else 0 := by
  rw [fills.stored, OrderBook.store_filled, fills.orderId_eq]
  split
  · next same =>
    subst same
    rw [OrderBook.filled_of_get fills.known, (OrderPositionUpdater.applyTrade_ok fills.applied).2.2.1]
  · exact (add_zero _).symm

end Fills

namespace TradeRecorder

variable {recorder persisted : TradeRecorder} {book : OrderBook} {trade : Trade} {fill : FillEvent}
  {order : Order} {key : TradeIdKey} {now : ℚ}

theorem persistFillToLedger_ok (persists : recorder.persistFillToLedger fill order trade now = .ok persisted) :
    persisted.processedTrades = recorder.processedTrades ∧
      persisted.pendingTradesByOrder = recorder.pendingTradesByOrder ∧
      persisted.fillReducer = recorder.fillReducer := by
  unfold persistFillToLedger at persists
  split at persists
  · cases persists
    exact ⟨rfl, rfl, rfl⟩
  · split at persists
    · cases persists
    · cases persists
      exact ⟨rfl, rfl, rfl⟩

/-- Every check in front of the application lets the trade pass, the record in the ledger too. -/
structure Reaches (recorder : TradeRecorder) (book : OrderBook) (trade : Trade) (now : ℚ) (order : Order)
    (fill : FillEvent) (persisted : TradeRecorder) : Prop where
  named : blank trade.tradeId = false
  unprocessed : recorder.isProcessed (.fromTrade trade) = false
  known : book.orders.get trade.orderId = some order
  built : FillReducer.fillFromTrade trade.tradeId trade.orderId trade.quantity order.filledQuantity
    trade.price = .ok fill
  accepted : recorder.fillReducer.validate fill order.quantity order.filledQuantity = none
  persists : recorder.persistFillToLedger fill order trade now = .ok persisted

theorem Reaches.raises (reaches : Reaches recorder book trade now order fill persisted)
    (refused : order.allows (OrderPositionUpdater.filledStatus order trade) = false) :
    recorder.recordTrade book trade now =
      (persisted, book, .raised (.illegalTransition order.status (OrderPositionUpdater.filledStatus order trade))) := by
  unfold recordTrade
  simp only [reaches.named, reaches.unprocessed, reaches.known, reaches.built, reaches.accepted, reaches.persists,
    OrderPositionUpdater.applyTrade_refused refused, Bool.false_eq_true, if_false]

/-- What the recorder keeps of a fill that was applied. -/
structure Keeps (recorder after : TradeRecorder) (trade : Trade) (fill : FillEvent) : Prop where
  processed : after.processedTrades = recorder.processedTrades.map (TradeIdKey.fromTrade trade :: ·)
  reducer : after.fillReducer = recorder.fillReducer.commit fill
  pending : after.pendingTradesByOrder = recorder.pendingTradesByOrder
  ledger : after.executionLedger.map ExecutionLedger.refuses = recorder.executionLedger.map ExecutionLedger.refuses

theorem persistFillToLedger_refuses (persists : recorder.persistFillToLedger fill order trade now = .ok persisted) :
    persisted.executionLedger.map ExecutionLedger.refuses = recorder.executionLedger.map ExecutionLedger.refuses := by
  unfold persistFillToLedger at persists
  cases attached : recorder.executionLedger with
  | none =>
    rw [attached] at persists
    cases persists
    rw [attached]
  | some before =>
    rw [attached] at persists
    dsimp only at persists
    split at persists
    · cases persists
    · next stored records =>
      cases persists
      dsimp only
      rw [Option.map_some, Option.map_some, ExecutionLedger.recordFill_ok records]
      split <;> rfl

/-- A trade that reaches an order which allows its status is applied and marked. -/
theorem Reaches.applies (reaches : Reaches recorder book trade now order fill persisted)
    (allowed : order.allows (OrderPositionUpdater.filledStatus order trade) = true) :
    ∃ after updated, recorder.recordTrade book trade now = (after, book.store updated, .applied updated) ∧
      OrderPositionUpdater.applyTrade order trade = .ok updated ∧ Keeps recorder after trade fill := by
  obtain ⟨updated, applied⟩ := OrderPositionUpdater.applyTrade_allowed allowed
  obtain ⟨processed, pending, reducer⟩ := persistFillToLedger_ok reaches.persists
  let marked := persisted.markProcessed (.fromTrade trade)
  have refuses := persistFillToLedger_refuses reaches.persists
  refine ⟨{ marked with fillReducer := marked.fillReducer.commit fill }, updated, ?_, applied, ?_, ?_, pending, refuses⟩
  · unfold recordTrade
    simp only [reaches.named, reaches.unprocessed, reaches.known, reaches.built, reaches.accepted,
      reaches.persists, applied, Bool.false_eq_true, if_false]
    rfl
  · exact congrArg (Option.map _) processed
  · exact congrArg (FillReducer.commit · fill) reducer

/-- A flushed trade that reaches such an order is applied and marked as well. -/
theorem Reaches.flushes (reaches : Reaches recorder book trade now order fill persisted)
    (allowed : order.allows (OrderPositionUpdater.filledStatus order trade) = true) :
    ∃ after updated, recorder.flushTrade book trade now = (after, book.store updated, .applied updated) ∧
      OrderPositionUpdater.applyTrade order trade = .ok updated ∧ Keeps recorder after trade fill := by
  obtain ⟨updated, applied⟩ := OrderPositionUpdater.applyTrade_allowed allowed
  obtain ⟨processed, pending, reducer⟩ := persistFillToLedger_ok reaches.persists
  have committed : ({ recorder with fillReducer := recorder.fillReducer.commit fill }).persistFillToLedger
      fill order trade now = .ok { persisted with fillReducer := recorder.fillReducer.commit fill } := by
    have persists := reaches.persists
    unfold persistFillToLedger at persists ⊢
    dsimp only
    cases attached : recorder.executionLedger with
    | none =>
      rw [attached] at persists
      cases persists
      rw [attached]
    | some ledger =>
      rw [attached] at persists
      dsimp only at persists ⊢
      split at persists
      · cases persists
      · next stored records =>
        cases persists
        rfl
  let flushed : TradeRecorder := { persisted with fillReducer := recorder.fillReducer.commit fill }
  have refuses := persistFillToLedger_refuses reaches.persists
  refine ⟨flushed.markProcessed (.fromTrade trade), updated, ?_, applied, ?_, rfl, pending, refuses⟩
  · unfold flushTrade
    simp only [reaches.unprocessed, reaches.known, reaches.built, reaches.accepted, committed, applied,
      Bool.false_eq_true, if_false]
    rfl
  · exact congrArg (Option.map _) processed

end TradeRecorder

/-- What `record_trade` can do: it leaves the book as it was, or it adds a new fill to
the trade's order and marks the trade. -/
inductive Records (recorder : TradeRecorder) (book : OrderBook) (trade : Trade) :
    TradeRecorder → OrderBook → TradeOutcome → Prop where
  | kept (after : TradeRecorder) (outcome : TradeOutcome) : outcome.accepted = false →
      after.processedTrades = recorder.processedTrades → after.fillReducer = recorder.fillReducer →
      (outcome = .duplicate → recorder.isProcessed (.fromTrade trade) = true) →
      (∀ id, outcome = .rejected (.duplicate id) →
        trade.tradeId ∈ recorder.fillReducer.seenFillIds ∧ book.orders.contains trade.orderId = true) →
      Records recorder book trade after book outcome
  | applied (after : TradeRecorder) (order updated : Order) (filled : OrderBook) :
      recorder.isProcessed (.fromTrade trade) = false →
      trade.tradeId ∉ recorder.fillReducer.seenFillIds →
      Fills book trade order updated filled →
      after.processedTrades = recorder.processedTrades.map (TradeIdKey.fromTrade trade :: ·) →
      after.fillReducer.seenFillIds = trade.tradeId :: recorder.fillReducer.seenFillIds →
      Records recorder book trade after filled (.applied updated)

theorem recordTrade_records (recorder : TradeRecorder) (book : OrderBook) (trade : Trade) (now : ℚ) :
    Records recorder book trade (recorder.recordTrade book trade now).1
      (recorder.recordTrade book trade now).2.1 (recorder.recordTrade book trade now).2.2 := by
  have raised : ∀ error, Records recorder book trade recorder book (.raised error) := fun _ =>
    .kept _ _ rfl rfl rfl (by rintro ⟨⟩) (by rintro _ ⟨⟩)
  unfold TradeRecorder.recordTrade
  split
  · exact raised _
  · dsimp only
    split
    · next processed => exact .kept _ _ rfl rfl rfl (fun _ => processed) (by rintro _ ⟨⟩)
    · next unprocessed =>
      split
      · exact .kept _ _ rfl rfl rfl (by rintro ⟨⟩) (by rintro _ ⟨⟩)
      · next order known =>
        split
        · exact raised _
        · next fill built =>
          obtain ⟨fillId, -, -, total, nonneg⟩ := FillReducer.fillFromTrade_ok built
          split
          · next reason rejected =>
            refine .kept _ _ rfl rfl rfl (by rintro ⟨⟩) fun id same => ?_
            cases same
            rw [← fillId, Dict.contains, known]
            exact ⟨FillReducer.validate_duplicate rejected, rfl⟩
          · next accepted =>
            split
            · exact raised _
            · next persisted persists =>
              obtain ⟨processed, -, reducer⟩ := TradeRecorder.persistFillToLedger_ok persists
              split
              · exact .kept _ _ rfl processed reducer (by rintro ⟨⟩) (by rintro _ ⟨⟩)
              · next updated applied =>
                obtain ⟨-, -, room⟩ := FillReducer.validate_accepted accepted
                rw [total] at room
                refine .applied _ order updated _ (Bool.eq_false_iff.mpr unprocessed) ?_
                  ⟨known, nonneg, total ▸ fill.cumulative_nonneg, room, applied, rfl⟩ ?_ ?_
                · rw [← fillId]
                  exact (FillReducer.validate_accepted accepted).1
                · exact congrArg (Option.map _) processed
                · rw [← fillId, ← reducer]
                  rfl

/-- What a flushed trade can do to the book. -/
theorem flushTrade_book (recorder : TradeRecorder) (book : OrderBook) (trade : Trade) (now : ℚ) :
    (∃ order updated, Fills book trade order updated (recorder.flushTrade book trade now).2.1 ∧
      (recorder.flushTrade book trade now).2.2 = .applied updated) ∨
    ((recorder.flushTrade book trade now).2.1 = book ∧
      (recorder.flushTrade book trade now).2.2.accepted = false) := by
  unfold TradeRecorder.flushTrade
  dsimp only
  split
  · exact .inr ⟨rfl, rfl⟩
  · split
    · exact .inr ⟨rfl, rfl⟩
    · next order known =>
      split
      · exact .inr ⟨rfl, rfl⟩
      · next fill built =>
        obtain ⟨-, -, -, total, nonneg⟩ := FillReducer.fillFromTrade_ok built
        split
        · exact .inr ⟨rfl, rfl⟩
        · next accepted =>
          obtain ⟨-, -, room⟩ := FillReducer.validate_accepted accepted
          rw [total] at room
          split
          · exact .inr ⟨rfl, rfl⟩
          · split
            · exact .inr ⟨rfl, rfl⟩
            · next updated applied => exact .inl ⟨order, updated, ⟨known, nonneg, total ▸ fill.cumulative_nonneg, room, applied, rfl⟩, rfl⟩

/-- The fills of the trades are added one after the other. -/
inductive FillsAll : OrderBook → List Trade → OrderBook → Prop where
  | nil (book : OrderBook) : FillsAll book [] book
  | cons {book middle after : OrderBook} {trade : Trade} {order updated : Order} {rest : List Trade} :
      Fills book trade order updated middle → FillsAll middle rest after →
      FillsAll book (trade :: rest) after

/-- What the trades add to the order. -/
def quantityFor (orderId : String) (trades : List Trade) : ℚ :=
  (trades.map fun trade => if orderId = trade.orderId then trade.quantity else 0).sum

@[simp] theorem quantityFor_nil (orderId : String) : quantityFor orderId [] = 0 := rfl

@[simp] theorem quantityFor_cons (orderId : String) (trade : Trade) (trades : List Trade) :
    quantityFor orderId (trade :: trades) =
      (if orderId = trade.orderId then trade.quantity else 0) + quantityFor orderId trades := by
  unfold quantityFor
  rw [List.map_cons, List.sum_cons]

section

variable {book after : OrderBook} {trade : Trade} {trades : List Trade} {order updated : Order}
  {orderId : String} {status : OrderStatus}

/-- A fill keeps the status of a terminal order. -/
theorem Fills.terminal (fills : Fills book trade order updated after)
    (held : book.status orderId = some status) (terminal : status.isTerminal = true) :
    after.status orderId = some status := by
  rw [fills.status_eq]
  split
  · next same =>
    subst same
    rw [OrderBook.status_of_get fills.known, Option.some.injEq] at held
    subst held
    rw [OrderPositionUpdater.applyTrade_terminal terminal fills.applied]
  · exact held

theorem FillsAll.terminal (fills : FillsAll book trades after)
    (held : book.status orderId = some status) (terminal : status.isTerminal = true) :
    after.status orderId = some status := by
  induction fills with
  | nil => exact held
  | cons first _ ih => exact ih (first.terminal held terminal)

theorem FillsAll.filled_eq (fills : FillsAll book trades after) :
    after.filled orderId = book.filled orderId + quantityFor orderId trades := by
  induction fills with
  | nil => rw [quantityFor_nil, add_zero]
  | cons first _ ih => rw [ih, first.filled_eq, quantityFor_cons, add_assoc]

theorem FillsAll.quantityFor_nonneg (fills : FillsAll book trades after) :
    0 ≤ quantityFor orderId trades := by
  induction fills with
  | nil => exact le_refl 0
  | cons first _ ih =>
    rw [quantityFor_cons]
    refine add_nonneg ?_ ih
    split
    · exact first.nonneg
    · exact le_refl 0

end

theorem flushTrades_fills (recorder : TradeRecorder) (book : OrderBook) (now : ℚ) (trades : List Trade) :
    FillsAll book (recorder.flushTrades book now trades).2.2.1 (recorder.flushTrades book now trades).2.1 := by
  induction trades generalizing recorder book with
  | nil => exact .nil book
  | cons trade rest ih =>
    have filled := flushTrade_book recorder book trade now
    unfold TradeRecorder.flushTrades
    dsimp only
    rcases filled with ⟨order, updated, fills, outcome⟩ | ⟨same, skipped⟩
    · rw [outcome]
      exact .cons fills (ih _ _)
    · split
      · rw [same]
        exact .nil book
      · next outcome =>
        rw [outcome] at skipped
        cases skipped
      · have rest := ih (recorder.flushTrade book trade now).1 (recorder.flushTrade book trade now).2.1
        rw [same] at rest
        rw [same]
        exact rest

namespace TradeRecorder

/-- The trade is passed over: it was processed, its order is unknown, or the reducer rejects its fill. -/
def skips (recorder : TradeRecorder) (book : OrderBook) (trade : Trade) : Bool :=
  recorder.isProcessed (.fromTrade trade) ||
    match book.orders.get trade.orderId with
    | none => true
    | some order =>
      match FillReducer.fillFromTrade trade.tradeId trade.orderId trade.quantity order.filledQuantity
          trade.price with
      | .error _ => false
      | .ok fill => (recorder.fillReducer.validate fill order.quantity order.filledQuantity).isSome

variable {recorder : TradeRecorder} {book : OrderBook} {trade : Trade} {now : ℚ}

/-- A trade that is passed over is not accepted and leaves the book as it was. -/
theorem recordTrade_skips (skipped : recorder.skips book trade = true) :
    (recorder.recordTrade book trade now).2.1 = book ∧
      (recorder.recordTrade book trade now).2.2.accepted = false := by
  unfold skips at skipped
  unfold recordTrade
  split
  · exact ⟨rfl, rfl⟩
  · dsimp only
    split
    · exact ⟨rfl, rfl⟩
    · next unprocessed =>
      rw [Bool.eq_false_iff.mpr unprocessed, Bool.false_or] at skipped
      split
      · exact ⟨rfl, rfl⟩
      · next order known =>
        rw [known] at skipped
        dsimp only at skipped
        split
        · exact ⟨rfl, rfl⟩
        · next fill built =>
          rw [built] at skipped
          obtain ⟨reason, rejected⟩ := Option.isSome_iff_exists.mp skipped
          rw [rejected]
          exact ⟨rfl, rfl⟩

theorem flushTrade_skips (skipped : recorder.skips book trade = true) :
    ∃ outcome, recorder.flushTrade book trade now = (recorder, book, outcome) ∧ outcome.accepted = false ∧
      ∀ error, outcome ≠ .raised error := by
  unfold skips at skipped
  unfold flushTrade
  dsimp only
  split
  · exact ⟨_, rfl, rfl, by rintro _ ⟨⟩⟩
  · next unprocessed =>
    rw [Bool.eq_false_iff.mpr unprocessed, Bool.false_or] at skipped
    split
    · exact ⟨_, rfl, rfl, by rintro _ ⟨⟩⟩
    · next order known =>
      rw [known] at skipped
      dsimp only at skipped
      split
      · next error failed =>
        rw [failed] at skipped
        cases skipped
      · next fill built =>
        rw [built] at skipped
        obtain ⟨reason, rejected⟩ := Option.isSome_iff_exists.mp skipped
        rw [rejected]
        exact ⟨_, rfl, rfl, by rintro _ ⟨⟩⟩

theorem flushTrades_skips {trades : List Trade} (skipped : ∀ trade ∈ trades, recorder.skips book trade = true) :
    recorder.flushTrades book now trades = (recorder, book, [], none) := by
  induction trades with
  | nil => rfl
  | cons trade rest ih =>
    obtain ⟨outcome, flushed, unaccepted, unraised⟩ := @flushTrade_skips _ _ _ now (skipped trade List.mem_cons_self)
    have others := ih fun trade member => skipped trade (List.mem_cons_of_mem _ member)
    unfold flushTrades
    rw [flushed]
    cases outcome with
    | applied updated => cases unaccepted
    | raised error => exact absurd rfl (unraised error)
    | _ => exact others

/-- A flush that passes over every buffered trade only empties the buffer. -/
theorem flushPendingTradesLocked_skips {orderId : String}
    (skipped : ∀ trade ∈ (recorder.pendingTradesByOrder.get orderId).getD [], recorder.skips book trade = true) :
    recorder.flushPendingTradesLocked book orderId now =
      ({ recorder with pendingTradesByOrder := recorder.pendingTradesByOrder.pop orderId }, book, [], none) :=
  flushTrades_skips skipped

/-- A flush for which nothing waits. -/
theorem flushPendingTradesLocked_silent {orderId : String}
    (silent : (recorder.pendingTradesByOrder.get orderId).getD [] = []) :
    recorder.flushPendingTradesLocked book orderId now =
      ({ recorder with pendingTradesByOrder := recorder.pendingTradesByOrder.pop orderId }, book, [], none) := by
  apply flushPendingTradesLocked_skips
  rw [silent]
  rintro trade ⟨⟩

theorem popped_silent {orderId id : String} (silent : (recorder.pendingTradesByOrder.get id).getD [] = []) :
    ((recorder.pendingTradesByOrder.pop orderId).get id).getD [] = [] := by
  rw [Dict.get_pop]
  split
  · rfl
  · exact silent

end TradeRecorder

end TradeX.V1
