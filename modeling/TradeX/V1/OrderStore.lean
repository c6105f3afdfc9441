import TradeX.Lib.Decimal
import TradeX.V1.PlacementOutcome

/-! The durable order store beside the order manager: which operations write to it, which
columns an upsert replaces, and when its rows agree with the book. -/

namespace TradeX.V1

open Lib

/-- An integer column holds 64 bits. -/
def Int64 (value : ℤ) : Prop := -(2 ^ 63) ≤ value ∧ value < 2 ^ 63

instance (value : ℤ) : Decidable (Int64 value) := inferInstanceAs (Decidable (_ ∧ _))

/-- A row of `orders`. The price columns hold the texts of exact decimals. -/
structure OrderRow where
  orderId : String
  correlationId : Option String
  symbol : String
  exchange : String
  side : OrderSide
  orderType : OrderType
  productType : ProductType
  quantity : ℤ
  filledQuantity : ℤ
  price : ℚ
  avgPrice : ℚ
  status : OrderStatus
  quantity_int64 : Int64 quantity
  filledQuantity_int64 : Int64 filledQuantity
  deriving DecidableEq

namespace OrderRow

/-- `_order_to_row`; the binding raises for an integer beyond 64 bits. -/
def ofOrder (order : Order) : Option OrderRow :=
  if quantity_int64 : Int64 (Decimal.toInt order.quantity) then
    if filledQuantity_int64 : Int64 (Decimal.toInt order.filledQuantity) then
      some {
        orderId := order.orderId
        correlationId := order.correlationId
        symbol := order.symbol
        exchange := order.exchange
        side := order.side
        orderType := order.orderType
        productType := order.productType
        quantity := Decimal.toInt order.quantity
        filledQuantity := Decimal.toInt order.filledQuantity
        price := order.price
        avgPrice := order.avgPrice
        status := order.status
        quantity_int64 := quantity_int64
        filledQuantity_int64 := filledQuantity_int64 }
    else none
  else none

/-- `_row_to_order`. -/
def toOrder (row : OrderRow) : Order where
  orderId := row.orderId
  correlationId := some (row.correlationId.getD "")
  symbol := row.symbol
  exchange := row.exchange
  side := row.side
  orderType := row.orderType
  productType := row.productType
  quantity := row.quantity
  filledQuantity := row.filledQuantity
  price := row.price
  avgPrice := row.avgPrice
  status := row.status

/-- The columns that `ON CONFLICT(order_id) DO UPDATE` takes from the new row. -/
def updated (row new : OrderRow) : OrderRow :=
  { row with
    correlationId := new.correlationId
    filledQuantity := new.filledQuantity
    avgPrice := new.avgPrice
    status := new.status
    filledQuantity_int64 := new.filledQuantity_int64 }

end OrderRow

/-- Every row is stored under its order id. -/
structure SqliteOrderStore where
  rows : Dict String OrderRow := ∅
  keyed : ∀ id row, rows.get id = some row → row.orderId = id := by intro _ _ found; cases found

namespace SqliteOrderStore

variable (store : SqliteOrderStore)

def write (row : OrderRow) : SqliteOrderStore where
  rows := store.rows.set row.orderId row
  keyed id other found := by
    rw [Dict.get_set] at found
    split at found
    · next same =>
      cases found
      exact same.symm
    · exact store.keyed id other found

/-- `upsert`. -/
def upsert (order : Order) : Option SqliteOrderStore :=
  (OrderRow.ofOrder order).map fun new =>
    store.write (((store.rows.get new.orderId).map fun row => row.updated new).getD new)

/-- `load_all`. -/
def loadAll : List Order := store.rows.values.map OrderRow.toOrder

/-- `_persist_order`: an exception of the store is logged and forgotten. -/
def persist (order : Order) : SqliteOrderStore := (store.upsert order).getD store

end SqliteOrderStore

/-- The persisted fields of an order that the store keeps for recovery. -/
structure PersistedFields where
  status : OrderStatus
  filledQuantity : ℚ
  quantity : ℚ
  price : ℚ
  orderType : OrderType
  avgPrice : ℚ
  deriving DecidableEq

def Order.persisted (order : Order) : PersistedFields where
  status := order.status
  filledQuantity := order.filledQuantity
  quantity := order.quantity
  price := order.price
  orderType := order.orderType
  avgPrice := order.avgPrice

namespace SqliteOrderStore

variable (store : SqliteOrderStore)

/-- The order that `load_all` returns under the id. -/
def loaded (orderId : String) : Option Order := store.loadAll.find? fun order => order.orderId = orderId

variable {store} {order : Order} {row : OrderRow} {orderId : String}

theorem loaded_eq : store.loaded orderId = (store.rows.get orderId).map OrderRow.toOrder := by
  unfold loaded loadAll
  rw [List.find?_map]
  exact congrArg (Option.map OrderRow.toOrder) (Dict.find_values store.keyed orderId)

theorem write_loaded : (store.write row).loaded orderId =
    if orderId = row.orderId then some row.toOrder else store.loaded orderId := by
  rw [loaded_eq, loaded_eq]
  refine (congrArg (Option.map OrderRow.toOrder) (Dict.get_set ..)).trans ?_
  split <;> rfl

end SqliteOrderStore

/-- The columns of a row hold the order's quantities unchanged. -/
def Order.Storable (order : Order) : Prop :=
  (Decimal.Whole order.quantity ∧ Int64 (Decimal.toInt order.quantity)) ∧
    Decimal.Whole order.filledQuantity ∧ Int64 (Decimal.toInt order.filledQuantity)

instance (order : Order) : Decidable order.Storable := inferInstanceAs (Decidable (_ ∧ _))

/-- The two orders agree on the columns that an update of the row leaves. -/
def Order.SameTerms (order known : Order) : Prop :=
  known.quantity = order.quantity ∧ known.price = order.price ∧ known.orderType = order.orderType

instance (order known : Order) : Decidable (order.SameTerms known) := inferInstanceAs (Decidable (_ ∧ _))

section

variable {store : SqliteOrderStore} {book written : OrderBook} {order : Order} {row : OrderRow} {orderId : String}

theorem OrderRow.ofOrder_storable (storable : order.Storable) :
    ∃ row, OrderRow.ofOrder order = some row ∧ row.orderId = order.orderId ∧
      row.toOrder.persisted = order.persisted := by
  obtain ⟨⟨quantityWhole, quantityFits⟩, filledWhole, filledFits⟩ := storable
  unfold OrderRow.ofOrder
  rw [dif_pos quantityFits, dif_pos filledFits]
  refine ⟨_, rfl, rfl, ?_⟩
  unfold Order.persisted OrderRow.toOrder
  dsimp only
  rw [quantityWhole, filledWhole]

theorem OrderRow.ofOrder_orderId (made : OrderRow.ofOrder order = some row) : row.orderId = order.orderId := by
  unfold OrderRow.ofOrder at made
  split at made
  · split at made
    · cases made
      rfl
    · cases made
  · cases made

/-- A loaded order is storable as it is. -/
theorem SqliteOrderStore.loaded_storable (loads : store.loaded orderId = some order) : order.Storable := by
  rw [loaded_eq] at loads
  obtain ⟨row, -, rfl⟩ := Option.map_eq_some_iff.mp loads
  refine ⟨⟨Decimal.whole_intCast _, ?_⟩, Decimal.whole_intCast _, ?_⟩
  · exact (congrArg Int64 (Decimal.toInt_intCast _)).mpr row.quantity_int64
  · exact (congrArg Int64 (Decimal.toInt_intCast _)).mpr row.filledQuantity_int64

theorem SqliteOrderStore.persist_other (other : orderId ≠ order.orderId) :
    (store.persist order).loaded orderId = store.loaded orderId := by
  unfold persist upsert
  cases made : OrderRow.ofOrder order with
  | none => rfl
  | some new =>
    have named := OrderRow.ofOrder_orderId made
    rw [Option.map_some, Option.getD_some, write_loaded, named]
    cases found : store.rows.get order.orderId with
    | none => exact if_neg fun same => other (same.trans named)
    | some row =>
      have rowId : (row.updated new).orderId = order.orderId := store.keyed order.orderId row found
      exact if_neg fun same => other (same.trans rowId)

/-- A storable order comes back as it was written, when an older row has the same terms. -/
theorem SqliteOrderStore.persist_self (storable : order.Storable)
    (terms : ∀ known ∈ store.loaded order.orderId, order.SameTerms known) :
    ((store.persist order).loaded order.orderId).map Order.persisted = some order.persisted := by
  obtain ⟨new, made, named, same⟩ := OrderRow.ofOrder_storable storable
  unfold persist upsert
  rw [made, Option.map_some, Option.getD_some, named]
  cases found : store.rows.get order.orderId with
  | none =>
    rw [Option.map_none, Option.getD_none, write_loaded, if_pos named.symm, Option.map_some, same]
  | some row =>
    have rowId := store.keyed _ _ found
    have known := terms row.toOrder (by rw [loaded_eq, found, Option.map_some]; rfl)
    have here : order.orderId = (row.updated new).orderId := rowId.symm
    rw [Option.map_some, Option.getD_some, write_loaded, if_pos here, Option.map_some]
    obtain ⟨quantity, price, orderType⟩ := known
    simp only [Order.persisted, OrderRow.toOrder, PersistedFields.mk.injEq] at same quantity price orderType ⊢
    obtain ⟨status, filledQuantity, -, -, -, avgPrice⟩ := same
    exact congrArg some
      (PersistedFields.mk.injEq .. ▸ ⟨status, filledQuantity, quantity, price, orderType, avgPrice⟩)

/-- What `load_all` returns agrees with the book on the persisted fields. -/
def Agrees (book : OrderBook) (store : SqliteOrderStore) : Prop :=
  ∀ orderId, (store.loaded orderId).map Order.persisted = (book.orders.get orderId).map Order.persisted

/-- The row of the order would hold it: its quantities fit, and an order known under its id has the
same terms. -/
def OrderBook.Persistable (book : OrderBook) (order : Order) : Prop :=
  order.Storable ∧ ∀ known ∈ book.orders.get order.orderId, order.SameTerms known

instance (book : OrderBook) (order : Order) : Decidable (book.Persistable order) :=
  inferInstanceAs (Decidable (_ ∧ _))

/-- Writing a persistable order to both sides keeps them in agreement. -/
theorem Agrees.write (agrees : Agrees book store) (persistable : book.Persistable order)
    (writes : ∀ id, written.orders.get id = if id = order.orderId then some order else book.orders.get id) :
    Agrees written (store.persist order) := by
  intro id
  rw [writes]
  by_cases here : id = order.orderId
  · subst here
    rw [if_pos rfl]
    refine SqliteOrderStore.persist_self persistable.1 fun known loads => ?_
    have same := agrees order.orderId
    rw [loads, Option.map_some] at same
    obtain ⟨held, found, fields⟩ := Option.map_eq_some_iff.mp same.symm
    obtain ⟨quantity, price, orderType⟩ := persistable.2 held found
    exact ⟨(congrArg PersistedFields.quantity fields).symm.trans quantity,
      (congrArg PersistedFields.price fields).symm.trans price,
      (congrArg PersistedFields.orderType fields).symm.trans orderType⟩
  · rw [if_neg here, SqliteOrderStore.persist_other here]
    exact agrees id

/-- An order that a stored book holds is storable. -/
theorem Agrees.storable (agrees : Agrees book store) (found : book.orders.get orderId = some order) :
    order.Storable := by
  have same := agrees orderId
  rw [found, Option.map_some] at same
  obtain ⟨row, loads, fields⟩ := Option.map_eq_some_iff.mp same
  have quantity : row.quantity = order.quantity := congrArg PersistedFields.quantity fields
  have filled : row.filledQuantity = order.filledQuantity := congrArg PersistedFields.filledQuantity fields
  have storable := SqliteOrderStore.loaded_storable loads
  unfold Order.Storable at storable ⊢
  rw [quantity, filled] at storable
  exact storable

end

/-- A whole fill leaves a storable order persistable. -/
theorem Fills.persistable {book after : OrderBook} {trade : Trade} {order updated : Order}
    (fills : Fills book trade order updated after) (storable : order.Storable) (whole : Decimal.Whole trade.quantity) :
    book.Persistable updated := by
  obtain ⟨⟨quantityWhole, quantityFits⟩, filledWhole, filledFits⟩ := storable
  have filled := (OrderPositionUpdater.applyTrade_ok fills.applied).2.2.1
  have quantity := OrderPositionUpdater.applyTrade_quantity fills.applied
  obtain ⟨price, orderType⟩ := OrderPositionUpdater.applyTrade_terms fills.applied
  have room := fills.room
  have nonneg := fills.nonneg
  unfold Decimal.Whole at quantityWhole filledWhole whole
  generalize Decimal.toInt order.quantity = total at quantityWhole quantityFits
  generalize Decimal.toInt order.filledQuantity = before at filledWhole filledFits
  generalize Decimal.toInt trade.quantity = taken at whole
  have sum : updated.filledQuantity = ((before + taken : ℤ) : ℚ) := by
    rw [filled, ← filledWhole, ← whole, Int.cast_add]
  have bounded : before + taken ≤ total := by
    rw [← filledWhole, ← whole, ← quantityWhole] at room
    exact_mod_cast room
  have grows : 0 ≤ taken := by
    rw [← whole] at nonneg
    exact_mod_cast nonneg
  obtain ⟨lower, -⟩ := filledFits
  obtain ⟨-, upper⟩ := quantityFits
  refine ⟨⟨⟨?_, ?_⟩, ?_, ?_⟩, ?_⟩
  · rw [quantity, ← quantityWhole]
    exact Decimal.whole_intCast total
  · rw [quantity, ← quantityWhole, Decimal.toInt_intCast]
    constructor <;> omega
  · rw [sum]
    exact Decimal.whole_intCast _
  · rw [sum, Decimal.toInt_intCast]
    constructor <;> omega
  · intro known found
    rw [fills.orderId_eq, fills.known] at found
    cases found
    exact ⟨quantity.symm, price.symm, orderType.symm⟩

/-- The book that `__init__` fills from `load_all`. -/
def hydrate (store : SqliteOrderStore) : OrderBook := store.loadAll.foldl OrderBook.store {}

theorem foldl_store_orders (orders : List Order) (book : OrderBook) :
    (orders.foldl OrderBook.store book).orders =
      orders.foldl (fun filed order => filed.set order.orderId order) book.orders := by
  induction orders generalizing book with
  | nil => rfl
  | cons order rest ih => rw [List.foldl_cons, List.foldl_cons, ih, OrderBook.store_orders]

theorem hydrate_agrees (store : SqliteOrderStore) : Agrees (hydrate store) store := by
  intro id
  have keyed : ∀ id order, (store.rows.mapValues OrderRow.toOrder).get id = some order → order.orderId = id := by
    intro id order found
    rw [Dict.get_mapValues] at found
    obtain ⟨row, here, rfl⟩ := Option.map_eq_some_iff.mp found
    exact store.keyed id row here
  have filed : (hydrate store).orders = (store.rows.mapValues OrderRow.toOrder).rekey Order.orderId := by
    unfold hydrate
    rw [foldl_store_orders]
    unfold Dict.rekey
    rw [Dict.values_mapValues]
    rfl
  rw [filed, Dict.get_rekey keyed, Dict.get_mapValues, SqliteOrderStore.loaded_eq]

/-- An order manager with its order store. -/
structure StoredManager (cache : TTLCache.{0, v} Nat) where
  manager : OrderManager cache
  store : SqliteOrderStore

namespace StoredManager

variable {cache : TTLCache.{0, v} Nat} (stored : StoredManager cache)

/-- The order that an operation hands to `_persist_order`. -/
def persists : BookOperation → Option Order
  | .placeOrder request answers => stored.manager.placedOrder request answers
  | .upsertOrder order now => if (stored.manager.upsertOrder order now).2.2 = none then some order else none
  | .recordTrade trade now =>
    let recorded := stored.manager.recordTrade trade now
    if recorded.2.accepted = true then recorded.1.book.orders.get trade.orderId else none
  | .cancelOrder .. => none
  | .modifyOrder .. => none

def step (operation : BookOperation) : Option (StoredManager cache) :=
  (stored.manager.operate operation).map fun after =>
    { manager := after
      store := (stored.persists operation).elim stored.store stored.store.persist }

/-- The operation writes to the book only what it hands to the store, and that unchanged. -/
def covers : BookOperation → Prop
  | .placeOrder request answers =>
    (stored.manager.book.byCorrelation.get request.correlationId = none →
      ∀ order ∈ answers.durable.order, stored.manager.book.orders.contains order.orderId = true) ∧
    (stored.manager.Admits request answers →
      ∃ order ∈ answers.accepted request, stored.manager.book.Persistable order)
  | .upsertOrder order now =>
    stored.manager.passes order now = true →
      stored.manager.changesStatus order = false ∧ stored.manager.book.Persistable order ∧
      ∀ trade ∈ (stored.manager.recorder.pendingTradesByOrder.get order.orderId).getD [],
        stored.manager.recorder.skips (stored.manager.book.store order) trade = true
  | .recordTrade trade _ =>
    stored.manager.recorder.skips stored.manager.book trade = false → Decimal.Whole trade.quantity
  | .cancelOrder .. => True
  | .modifyOrder .. => True

instance : (operation : BookOperation) → Decidable (stored.covers operation)
  | .placeOrder request answers =>
    inferInstanceAs (Decidable
      ((stored.manager.book.byCorrelation.get request.correlationId = none →
        ∀ order ∈ answers.durable.order, stored.manager.book.orders.contains order.orderId = true) ∧
      (stored.manager.Admits request answers →
        ∃ order ∈ answers.accepted request, stored.manager.book.Persistable order)))
  | .upsertOrder order now =>
    inferInstanceAs (Decidable (stored.manager.passes order now = true →
      stored.manager.changesStatus order = false ∧ stored.manager.book.Persistable order ∧
      ∀ trade ∈ (stored.manager.recorder.pendingTradesByOrder.get order.orderId).getD [],
        stored.manager.recorder.skips (stored.manager.book.store order) trade = true))
  | .recordTrade trade _ =>
    inferInstanceAs (Decidable (stored.manager.recorder.skips stored.manager.book trade = false →
      Decimal.Whole trade.quantity))
  | .cancelOrder .. => isTrue trivial
  | .modifyOrder .. => isTrue trivial

/-- The store agrees with the book. -/
def InStep : Prop := Agrees stored.manager.book stored.store

variable {stored} {after : StoredManager cache} {request : OmsOrderCommand} {answers : OrderManager.PlaceAnswers}
  {order : Order} {trade : Trade} {now : ℚ} {operation : BookOperation}

theorem InStep.placeOrder (inStep : stored.InStep) (covers : stored.covers (.placeOrder request answers))
    (taken : stored.step (.placeOrder request answers) = some after) : after.InStep := by
  obtain ⟨manager, operated, rfl⟩ := Option.map_eq_some_iff.mp taken
  unfold OrderManager.operate at operated
  dsimp only at operated
  split at operated
  · cases operated
  · next absent =>
    cases operated
    have fresh : stored.manager.book.orders.get answers.orderId = none := by
      rw [Bool.not_eq_true, Dict.contains, Option.isSome_eq_false_iff, Option.isNone_iff_eq_none] at absent
      exact absent
    have places : OrderManager.Places stored.manager request answers (stored.manager.placeOrder request answers).1
        (stored.manager.placedOrder request answers) := OrderManager.placeOrder_places fresh
    obtain ⟨recovers, reaches⟩ := covers
    change Agrees _ ((stored.manager.placedOrder request answers).elim stored.store stored.store.persist)
    generalize stored.manager.placedOrder request answers = placed at places ⊢
    dsimp only
    cases places with
    | kept kept =>
      intro id
      rw [kept]
      exact inStep id
    | known order existing missed durable found filed =>
      intro id
      rw [filed]
      exact inStep id
    | recovered order missed durable unknown written =>
      have known := recovers missed order (by rw [durable]; rfl)
      rw [Dict.contains, unknown] at known
      cases known
    | left admitted unaccepted =>
      obtain ⟨order, accepted, -⟩ := reaches admitted
      rw [unaccepted] at accepted
      cases accepted
    | recorded order admitted accepted written filed =>
      obtain ⟨other, same, persistable⟩ := reaches admitted
      rw [accepted] at same
      cases same
      exact inStep.write persistable written

theorem InStep.upsertOrder (inStep : stored.InStep) (covers : stored.covers (.upsertOrder order now))
    (taken : stored.step (.upsertOrder order now) = some after) : after.InStep := by
  cases taken
  have upserts := stored.manager.upsertOrder_upserts order now
  change Agrees (stored.manager.upsertOrder order now).1.book
    ((if (stored.manager.upsertOrder order now).2.2 = none then some order else none).elim stored.store
      stored.store.persist)
  generalize stored.manager.upsertOrder order now = upserted at upserts ⊢
  cases upserts with
  | refused validator error refused =>
    rw [if_neg (Option.some_ne_none error)]
    exact inStep
  | changed validator error passed changes =>
    obtain ⟨stays, -⟩ := covers passed
    rw [changes] at stays
    cases stays
  | flushed validator recorder book ends passed stays flushes =>
    obtain ⟨-, persistable, skips⟩ := covers passed
    have flushed := flushes.symm.trans (TradeRecorder.flushPendingTradesLocked_skips skips)
    cases flushed
    exact inStep.write persistable fun id => OrderBook.store_get

theorem step_recordTrade : stored.step (.recordTrade trade now) =
    let recorded := stored.manager.recorder.recordTrade stored.manager.book trade now
    some {
      manager := { stored.manager with recorder := recorded.1, book := recorded.2.1 }
      store := (if recorded.2.2.accepted = true then recorded.2.1.orders.get trade.orderId else none).elim
        stored.store stored.store.persist } := by
  rw [step, OrderManager.operate, persists, OrderManager.recordTrade, Option.map_some]

theorem InStep.recordTrade (inStep : stored.InStep) (covers : stored.covers (.recordTrade trade now))
    (taken : stored.step (.recordTrade trade now) = some after) : after.InStep := by
  have records := recordTrade_records stored.manager.recorder stored.manager.book trade now
  have skips := @TradeRecorder.recordTrade_skips stored.manager.recorder stored.manager.book trade now
  rw [step_recordTrade] at taken
  rw [← Option.some.inj taken]
  generalize stored.manager.recorder.recordTrade stored.manager.book trade now = recorded at records skips ⊢
  obtain ⟨recorder, book, outcome⟩ := recorded
  cases records with
  | kept =>
    have unaccepted : outcome.accepted = false := by assumption
    dsimp only
    rw [unaccepted]
    exact inStep
  | applied known updated _ _ _ fills =>
    have whole : Decimal.Whole trade.quantity := by
      apply covers
      rw [Bool.eq_false_iff]
      intro skipped
      cases (skips skipped).2
    have stores : book = stored.manager.book.store updated := fills.stored
    have found : book.orders.get trade.orderId = some updated := by
      rw [stores, OrderBook.store_get, if_pos fills.orderId_eq.symm]
    have persistable := fills.persistable (inStep.storable fills.known) whole
    change Agrees book ((book.orders.get trade.orderId).elim stored.store stored.store.persist)
    rw [found, stores]
    exact inStep.write persistable fun id => OrderBook.store_get

/-- One covered operation keeps the store in step with the book. -/
theorem InStep.step (inStep : stored.InStep) (covers : stored.covers operation)
    (taken : stored.step operation = some after) : after.InStep := by
  cases operation with
  | placeOrder request answers => exact inStep.placeOrder covers taken
  | upsertOrder order now => exact inStep.upsertOrder covers taken
  | recordTrade trade now => exact inStep.recordTrade covers taken
  | cancelOrder orderId blocked answer =>
    cases taken
    unfold InStep
    dsimp only
    rw [OrderManager.cancelOrder_kept]
    exact inStep
  | modifyOrder request blocked answer =>
    cases taken
    unfold InStep
    dsimp only
    rw [OrderManager.modifyOrder_kept]
    exact inStep

/-- A new order manager over the store: its book is what `load_all` returns. -/
def start (store : SqliteOrderStore) (processed : Option (List TradeIdKey)) (ledger : Option ExecutionLedger)
    (validator : OrderStateValidator cache) : StoredManager cache where
  manager := {
    book := hydrate store
    recorder := { processedTrades := processed, executionLedger := ledger }
    validator := validator }
  store := store

/-- Over every sequence of operations on an order manager with an order store, however it was started,
`load_all` agrees with the book on every persisted field after each operation, as long as every
operation is covered. -/
theorem order_store_agrees (store : SqliteOrderStore) (processed : Option (List TradeIdKey))
    (ledger : Option ExecutionLedger) (validator : OrderStateValidator cache) (operations : List BookOperation)
    (after : StoredManager cache) (run : exec step (start store processed ledger validator) operations = some after)
    (met : Meets step covers (start store processed ledger validator) operations) :
    after.InStep := by
  have initial : (start store processed ledger validator).InStep := hydrate_agrees store
  exact exec_invariant (fun _ _ _ inStep covers taken => inStep.step covers taken) initial met run

/-- A limit order for ten shares at the price, with the filled quantity. -/
def snapshotAt (price : ℚ) (filled : ℚ) : Order where
  orderId := "220901"
  symbol := "RELIANCE"
  exchange := "NSE"
  side := .BUY
  orderType := .LIMIT
  quantity := 10
  filledQuantity := filled
  price := price
  correlationId := some "6f1c"

/-- The broker accepts the order, a trade fills a part of it and a cancellation fails. -/
def coveredOperations : List BookOperation := [
  .placeOrder
    { symbol := "RELIANCE", exchange := "NSE", side := .BUY, quantity := 10, price := 2500, orderType := .LIMIT,
      correlationId := "6f1c", correlationId_present := sampleId_present }
    { now := 0, orderId := "OM-1", submission := some { brokerCall := .ok (snapshotAt 2500 0) } },
  .recordTrade
    { tradeId := "T1", orderId := "220901", symbol := "RELIANCE", exchange := "NSE", side := .BUY, quantity := 4,
      price := 2500 } 1,
  .cancelOrder "220901" none none]

theorem order_store_agrees_filled : ∃ after,
    exec step (start {} none none ({} : OrderStateValidator (leastRecentlyUsed Nat 10000 86400)))
      coveredOperations = some after ∧
    (after.store.loaded "220901").map Order.persisted = some {
      status := .PARTIALLY_FILLED, filledQuantity := 4, quantity := 10, price := 2500, orderType := .LIMIT,
      avgPrice := 2500 } ∧
    after.InStep := by
  have runs : (exec step (start {} none none ({} : OrderStateValidator (leastRecentlyUsed Nat 10000 86400)))
      coveredOperations).map (fun after => (after.store.loaded "220901").map Order.persisted) = some (some {
        status := .PARTIALLY_FILLED, filledQuantity := 4, quantity := 10, price := 2500, orderType := .LIMIT,
        avgPrice := 2500 }) := by decide +kernel
  obtain ⟨after, run, loads⟩ := Option.map_eq_some_iff.mp runs
  exact ⟨after, run, loads, order_store_agrees {} none none {} _ after run (by decide +kernel)⟩

/-- The broker reports the order, and reports it again at another price. -/
def repricedOperations : List BookOperation := [.upsertOrder (snapshotAt 2500 0) 0, .upsertOrder (snapshotAt 2510 0) 1]

theorem order_store_behind :
    (exec step (start {} none none ({} : OrderStateValidator (leastRecentlyUsed Nat 10000 86400)))
      repricedOperations).map (fun after =>
        ((after.store.loaded "220901").map Order.price, (after.manager.book.orders.get "220901").map Order.price)) =
      some (some 2500, some 2510) ∧
    ¬ ∀ (operations : List BookOperation) (after : StoredManager (leastRecentlyUsed Nat 10000 86400)),
      exec step (start {} none none {}) operations = some after → after.InStep := by
  have behind : (exec step (start {} none none ({} : OrderStateValidator (leastRecentlyUsed Nat 10000 86400)))
      repricedOperations).map (fun after =>
        ((after.store.loaded "220901").map Order.price, (after.manager.book.orders.get "220901").map Order.price)) =
      some (some 2500, some 2510) := by decide +kernel
  refine ⟨behind, fun claim => ?_⟩
  obtain ⟨after, run, ends⟩ := Option.map_eq_some_iff.mp behind
  have same := congrArg (Option.map PersistedFields.price) (claim _ after run "220901")
  rw [Option.map_map, Option.map_map] at same
  have stale : (after.store.loaded "220901").map Order.price = some 2500 := congrArg Prod.fst ends
  have fresh : (after.manager.book.orders.get "220901").map Order.price = some 2510 := congrArg Prod.snd ends
  have equal := stale.symm.trans (same.trans fresh)
  revert equal
  decide +kernel

end StoredManager

end TradeX.V1
