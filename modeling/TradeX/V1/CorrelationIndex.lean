import TradeX.Lib.SecondaryIndex
import TradeX.V1.EventReplay
import TradeX.V1.LateTrades

/-! The two indexes of the order book over sequences of operations. A placement and a snapshot file the order
under an id of their own, and a later write only under the one that the record carries. -/

namespace TradeX.V1

open Lib

namespace OrderBook

/-- Every entry of the correlation index is the order of the primary one under its id, and every order that
carries a correlation id is found under it. -/
def Coherent (book : OrderBook) : Prop :=
  CoherentIndex Order.orderId Order.filedUnder book.orders.get book.byCorrelation.get

/-- The order is filed under no other id than the one that its record carries. -/
def FiledAsOwn (book : OrderBook) (orderId : String) : Prop :=
  ∀ entry ∈ book.byCorrelation.entries, entry.2.orderId = orderId → entry.2.filedUnder = some entry.1

instance (book : OrderBook) (orderId : String) : Decidable (book.FiledAsOwn orderId) :=
  inferInstanceAs (Decidable (∀ entry ∈ book.byCorrelation.entries, _))

/-- The order may be stored: nothing else is filed for it, and its id is not that of another order. -/
structure Storable (book : OrderBook) (order : Order) : Prop where
  latest : ∀ entry ∈ book.byCorrelation.entries, entry.2.orderId = order.orderId →
    order.filedUnder = some entry.1 ∨ entry.2 = order
  owned : ∀ entry ∈ book.byCorrelation.entries, order.filedUnder = some entry.1 →
    entry.2.orderId = order.orderId ∨ entry.2.filedUnder ≠ some entry.1

instance (book : OrderBook) (order : Order) : Decidable (book.Storable order) :=
  decidable_of_iff (_ ∧ _) ⟨fun both => ⟨both.1, both.2⟩, fun storable => ⟨storable.latest, storable.owned⟩⟩

variable {book after : OrderBook} {order updated : Order} {orderId correlationId : String} {trade : Trade}
  {trades : List Trade}

theorem get_put : (book.put order).orders.get = Function.update book.orders.get order.orderId (some order) := by
  funext id
  rw [Function.update_apply]
  exact Dict.get_set ..

theorem get_fileUnder : (book.fileUnder correlationId order).byCorrelation.get =
    Function.update book.byCorrelation.get correlationId (some order) := by
  funext id
  rw [Function.update_apply]
  exact Dict.get_set ..

theorem get_drop : (book.drop orderId).orders.get = Function.update book.orders.get orderId none := by
  funext id
  rw [Function.update_apply]
  exact Dict.get_pop ..

theorem coherent_empty : Coherent {} := CoherentIndex.empty

/-- An order may be put into the book and filed under an id in these cases. -/
theorem Coherent.file_iff (coherent : book.Coherent) : ((book.put order).fileUnder correlationId order).Coherent ↔
    (∀ id other, id ≠ correlationId → book.byCorrelation.get id = some other → other.orderId = order.orderId →
        other = order) ∧
      (∀ other, book.byCorrelation.get correlationId = some other →
        other.orderId = order.orderId ∨ correlationId ∉ other.filedUnder) ∧
      ∀ id ∈ order.filedUnder, id = correlationId ∨ book.byCorrelation.get id = some order := by
  have both := CoherentIndex.file_iff coherent order correlationId
  have index : ((book.put order).fileUnder correlationId order).byCorrelation.get =
      Function.update book.byCorrelation.get correlationId (some order) := get_fileUnder
  rw [← get_put, ← index] at both
  exact both

theorem Coherent.store_iff (coherent : book.Coherent) : (book.store order).Coherent ↔ book.Storable order := by
  have entries := fun id other => @Dict.get_eq_some _ _ _ book.byCorrelation id other
  cases filed : order.filedUnder with
  | none =>
    have single := CoherentIndex.put_iff coherent order filed
    rw [← get_put] at single
    have stored : book.store order = book.put order := by rw [store, filed]
    rw [stored]
    refine Iff.trans single ⟨?_, ?_⟩
    · intro latest
      refine ⟨?_, ?_⟩
      · rintro ⟨id, other⟩ member same
        exact .inr (latest id other ((entries id other).mpr member) same)
      · intro entry member own
        rw [filed] at own
        cases own
    · intro storable id other found same
      rcases storable.latest (id, other) ((entries id other).mp found) same with own | equal
      · rw [filed] at own
        cases own
      · exact equal
  | some correlationId =>
    have stored : book.store order = (book.put order).fileUnder correlationId order := by rw [store, filed]
    rw [stored]
    refine Iff.trans coherent.file_iff ⟨?_, ?_⟩
    · rintro ⟨latest, owned, -⟩
      refine ⟨?_, ?_⟩
      · rintro ⟨id, other⟩ member same
        by_cases here : id = correlationId
        · exact .inl (by rw [filed, here])
        · exact .inr (latest id other here ((entries id other).mpr member) same)
      · rintro ⟨id, other⟩ member own
        rw [filed] at own
        cases own
        exact owned other ((entries id other).mpr member)
    · intro storable
      refine ⟨?_, ?_, ?_⟩
      · intro id other differs found same
        rcases storable.latest (id, other) ((entries id other).mp found) same with own | equal
        · rw [filed] at own
          exact absurd (Option.some.inj own).symm differs
        · exact equal
      · intro other found
        exact storable.owned (correlationId, other) ((entries _ other).mp found) filed
      · intro id own
        rw [filed] at own
        exact .inl (Option.some.inj own).symm

/-- An order that carries the id of each of its entries is filed as its own behind the store. -/
theorem store_filedAsOwn (filed : ∀ entry ∈ book.byCorrelation.entries, entry.2.orderId = order.orderId →
    order.filedUnder = some entry.1) : (book.store order).FiledAsOwn order.orderId := by
  rintro ⟨id, other⟩ member same
  cases carried : order.filedUnder with
  | none =>
    have kept : book.store order = book.put order := by rw [store, carried]
    rw [kept] at member
    have old := filed (id, other) member same
    rw [carried] at old
    cases old
  | some correlationId =>
    have found := Dict.get_eq_some.mpr member
    have kept : book.store order = (book.put order).fileUnder correlationId order := by rw [store, carried]
    rw [kept, get_fileUnder] at found
    by_cases here : id = correlationId
    · rw [here, Function.update_self] at found
      rw [← Option.some.inj found, carried, here]
    · rw [Function.update_of_ne here] at found
      have old := filed (id, other) (Dict.get_eq_some.mp found) same
      rw [carried] at old
      exact absurd (Option.some.inj old).symm here

/-- An order with its own id may be stored again, whatever else changes. -/
theorem Coherent.rewrite (coherent : book.Coherent) (held : book.orders.get updated.orderId = some order)
    (own : book.FiledAsOwn updated.orderId) (sameFiled : updated.filedUnder = order.filedUnder) :
    (book.store updated).Coherent ∧ (book.store updated).FiledAsOwn updated.orderId := by
  have filed : ∀ entry ∈ book.byCorrelation.entries, entry.2.orderId = updated.orderId →
      updated.filedUnder = some entry.1 := by
    rintro ⟨id, other⟩ member same
    have current := coherent.current id other (Dict.get_eq_some.mpr member)
    rw [same, held] at current
    rw [sameFiled, Option.some.inj current]
    exact own (id, other) member same
  constructor
  · apply coherent.store_iff.mpr
    refine ⟨fun entry member same => .inl (filed entry member same), ?_⟩
    rintro ⟨id, other⟩ member carried
    rw [sameFiled] at carried
    have found := coherent.tagged updated.orderId order held id carried
    rw [Dict.get_eq_some.mpr member] at found
    left
    rw [Option.some.inj found]
    exact book.keyed updated.orderId order held
  · exact store_filedAsOwn filed

end OrderBook

/-- A fill leaves the correlation id of its order. -/
theorem OrderPositionUpdater.applyTrade_filed {order updated : Order} {trade : Trade}
    (applied : OrderPositionUpdater.applyTrade order trade = .ok updated) : updated.filedUnder = order.filedUnder := by
  have changed := (Order.withStatus_ok applied).1
  rw [changed]
  rfl

namespace Fills

variable {book after : OrderBook} {order updated : Order} {trade : Trade}

/-- A fill of an order that is filed as its own. -/
theorem coherent (fills : Fills book trade order updated after) (before : book.Coherent)
    (own : book.FiledAsOwn trade.orderId) : after.Coherent ∧ after.FiledAsOwn trade.orderId := by
  have same := fills.orderId_eq
  rw [fills.stored, ← same]
  exact before.rewrite (same ▸ fills.known) (same ▸ own) (OrderPositionUpdater.applyTrade_filed fills.applied)

end Fills

theorem FillsAll.coherent {book after : OrderBook} {trades : List Trade} {orderId : String}
    (fills : FillsAll book trades after) (before : book.Coherent) (own : book.FiledAsOwn orderId)
    (all : ∀ trade ∈ trades, trade.orderId = orderId) : after.Coherent := by
  induction fills with
  | nil => exact before
  | cons first rest ih =>
    have here := all _ List.mem_cons_self
    obtain ⟨next, stays⟩ := first.coherent before (here ▸ own)
    exact ih next (here ▸ stays) fun trade member => all trade (List.mem_cons_of_mem _ member)

namespace TradeRecorder

variable {recorder : TradeRecorder} {book : OrderBook} {trade : Trade} {now : ℚ}

/-- The buffer of an order holds its own trades. -/
def Sorted (recorder : TradeRecorder) : Prop := ∀ id, ∀ trade ∈ recorder.waiting id, trade.orderId = id

/-- Every check in front of the application lets the trade pass, and the order allows its status. -/
def applies (recorder : TradeRecorder) (book : OrderBook) (trade : Trade) (now : ℚ) : Bool :=
  !blank trade.tradeId && !recorder.isProcessed (.fromTrade trade) &&
    match book.orders.get trade.orderId with
    | none => false
    | some order =>
      match FillReducer.fillFromTrade trade.tradeId trade.orderId trade.quantity order.filledQuantity trade.price with
      | .error _ => false
      | .ok fill => (recorder.fillReducer.validate fill order.quantity order.filledQuantity).isNone &&
          (recorder.persistFillToLedger fill order trade now).toOption.isSome &&
          order.allows (OrderPositionUpdater.filledStatus order trade)

/-- A trade that is recorded leaves the book, unless it is applied, and the buffers sorted. -/
theorem recordTrade_unapplied (unapplied : recorder.applies book trade now = false) :
    (recorder.recordTrade book trade now).2.1 = book := by
  simp only [applies] at unapplied
  simp only [recordTrade]
  split
  · rfl
  · next named =>
    split
    · rfl
    · next unprocessed =>
      rw [Bool.eq_false_iff.mpr named, Bool.eq_false_iff.mpr unprocessed] at unapplied
      split
      · rfl
      · next order known =>
        simp only [known, Bool.not_false, Bool.true_and] at unapplied
        split
        · rfl
        · next fill built =>
          simp only [built] at unapplied
          split
          · rfl
          · next accepted =>
            rw [accepted] at unapplied
            split
            · rfl
            · next persisted persists =>
              rw [persists] at unapplied
              split
              · rfl
              · next updated applied =>
                have refused : order.allows (OrderPositionUpdater.filledStatus order trade) = false := unapplied
                rw [OrderPositionUpdater.applyTrade_refused refused] at applied
                cases applied

theorem buffered_sorted (sorted : recorder.Sorted) : (recorder.buffered trade).Sorted := by
  intro id other waits
  rw [waiting, buffered_get] at waits
  split at waits
  · next here =>
    rcases List.mem_append.mp waits with old | new
    · exact sorted id other old
    · rw [List.mem_singleton.mp new, here.1]
  · exact sorted id other waits

theorem recordTrade_sorted (sorted : recorder.Sorted) : (recorder.recordTrade book trade now).1.Sorted := by
  simp only [recordTrade]
  split
  · exact sorted
  · split
    · exact sorted
    · split
      · exact buffered_sorted sorted
      · split
        · exact sorted
        · split
          · exact sorted
          · split
            · exact sorted
            · next persisted persists =>
              have pending := (persistFillToLedger_ok persists).2.1
              have kept : persisted.Sorted := by
                intro id other waits
                rw [waiting, pending] at waits
                exact sorted id other waits
              split <;> exact kept

theorem flushTrade_pending (recorder : TradeRecorder) (book : OrderBook) (trade : Trade) (now : ℚ) :
    (recorder.flushTrade book trade now).1.pendingTradesByOrder = recorder.pendingTradesByOrder := by
  simp only [flushTrade]
  split
  · rfl
  · split
    · rfl
    · split
      · rfl
      · split
        · rfl
        · split
          · rfl
          · next persisted persists =>
            have pending := (persistFillToLedger_ok persists).2.1
            split <;> exact pending

/-- A flush applies some of the trades and leaves the other buffers. -/
theorem flushTrades_some (recorder : TradeRecorder) (book : OrderBook) (now : ℚ) (trades : List Trade) :
    (recorder.flushTrades book now trades).2.2.1.Sublist trades ∧
      (recorder.flushTrades book now trades).1.pendingTradesByOrder = recorder.pendingTradesByOrder := by
  induction trades generalizing recorder book with
  | nil => exact ⟨.slnil, rfl⟩
  | cons trade rest ih =>
    have first := flushTrade_pending recorder book trade now
    obtain ⟨sub, pending⟩ := ih (recorder.flushTrade book trade now).1 (recorder.flushTrade book trade now).2.1
    simp only [flushTrades]
    split
    · exact ⟨List.nil_sublist _, first⟩
    · exact ⟨sub.cons_cons _, pending.trans first⟩
    · exact ⟨sub.cons _, pending.trans first⟩

theorem flushPendingTradesLocked_sorted {orderId : String} (sorted : recorder.Sorted) :
    (∀ trade ∈ (recorder.flushPendingTradesLocked book orderId now).2.2.1, trade.orderId = orderId) ∧
      (recorder.flushPendingTradesLocked book orderId now).1.Sorted := by
  obtain ⟨sub, pending⟩ := flushTrades_some
    { recorder with pendingTradesByOrder := recorder.pendingTradesByOrder.pop orderId } book now
    (recorder.waiting orderId)
  constructor
  · exact fun trade member => sorted orderId trade (sub.subset member)
  · intro id trade waits
    have same : (recorder.flushPendingTradesLocked book orderId now).1.pendingTradesByOrder =
        recorder.pendingTradesByOrder.pop orderId := pending
    rw [waiting, same, Dict.get_pop] at waits
    split at waits
    · cases waits
    · exact sorted id trade waits

end TradeRecorder

namespace OrderManager

variable {cache : TTLCache.{0, v} Nat} {manager after : OrderManager cache} {request : OmsOrderCommand}
  {answers : PlaceAnswers} {order placed : Order} {correlationId : String} {now : ℚ}

/-- The placement asks the broker: the id is new and nothing stands in its way. -/
def asks (manager : OrderManager cache) (request : OmsOrderCommand) (answers : PlaceAnswers) : Bool :=
  (manager.book.byCorrelation.get request.correlationId).isNone && decide (answers.durable = .nothing) &&
    !manager.inFlight request.correlationId answers.now && answers.gate.isNone && answers.risk.isNone &&
    answers.blocked.isNone

/-- The order that the broker answers with carries the id of the request or none, or is filed under its own
already, and is not filed for another placement; one whose acceptance is not recorded keeps the id that was
drawn for it, unless its status cannot become `UNKNOWN`. -/
def Answerable (manager : OrderManager cache) (request : OmsOrderCommand) (answers : PlaceAnswers)
    (submission : Submission) (placed : Order) : Prop :=
  match submission.outcomeFails with
  | none =>
    (∀ id ∈ placed.filedUnder, id = request.correlationId ∨ manager.book.byCorrelation.get id = some placed) ∧
      ∀ entry ∈ manager.book.byCorrelation.entries, entry.2.orderId = placed.orderId → entry.2 = placed
  | some _ => placed.allows .UNKNOWN = true →
    placed.orderId = answers.orderId ∧ ∀ id ∈ placed.filedUnder, id = request.correlationId

instance {submission : Submission} : Decidable (manager.Answerable request answers submission placed) :=
  match fails : submission.outcomeFails with
  | none => decidable_of_iff
      ((∀ id ∈ placed.filedUnder, id = request.correlationId ∨ manager.book.byCorrelation.get id = some placed) ∧
        ∀ entry ∈ manager.book.byCorrelation.entries, entry.2.orderId = placed.orderId → entry.2 = placed)
      (by simp only [Answerable, fails])
  | some _ => decidable_of_iff (placed.allows .UNKNOWN = true →
      placed.orderId = answers.orderId ∧ ∀ id ∈ placed.filedUnder, id = request.correlationId)
      (by simp only [Answerable, fails])

/-- What an operation writes leaves no older entry behind. A recovered order carries the id it was looked up
by. -/
def indexes (manager : OrderManager cache) : BookOperation → Prop
  | .placeOrder request answers =>
    (∀ recovered ∈ answers.durable.order, recovered.filedUnder = some request.correlationId) ∧
      (manager.asks request answers = true → ∀ submission ∈ answers.submission,
        ∀ placed ∈ submission.brokerCall.toOption, manager.Answerable request answers submission placed)
  | .upsertOrder order now => manager.passes order now = true → manager.book.Storable order ∧
      (manager.recorder.waiting order.orderId = [] ∨
        ∀ entry ∈ manager.book.byCorrelation.entries, entry.2.orderId = order.orderId → order.filedUnder = some entry.1)
  | .recordTrade trade now => manager.recorder.applies manager.book trade now = true →
      manager.book.FiledAsOwn trade.orderId
  | .cancelOrder .. | .modifyOrder .. => True

instance (manager : OrderManager cache) : (operation : BookOperation) → Decidable (manager.indexes operation)
  | .placeOrder _ answers => inferInstanceAs (Decidable (_ ∧ (_ → ∀ submission ∈ answers.submission,
      ∀ placed ∈ submission.brokerCall.toOption, _)))
  | .upsertOrder .. => inferInstanceAs (Decidable (_ → _ ∧ (_ ∨ _)))
  | .recordTrade .. => inferInstanceAs (Decidable (_ → _))
  | .cancelOrder .. | .modifyOrder .. => .isTrue trivial

theorem recordTrade_coherent {trade : Trade} (coherent : manager.book.Coherent)
    (indexed : manager.indexes (.recordTrade trade now)) : (manager.recordTrade trade now).1.book.Coherent := by
  cases applied : manager.recorder.applies manager.book trade now with
  | false =>
    have kept : (manager.recordTrade trade now).1.book = manager.book := by
      simp only [recordTrade]
      exact TradeRecorder.recordTrade_unapplied applied
    rw [kept]
    exact coherent
  | true =>
    have records := recordTrade_records manager.recorder manager.book trade now
    simp only [recordTrade]
    generalize manager.recorder.recordTrade manager.book trade now = recorded at records ⊢
    obtain ⟨recorder, book, outcome⟩ := recorded
    cases records with
    | kept => exact coherent
    | applied _ _ _ _ _ fills _ _ => exact (fills.coherent coherent (indexed applied)).1

/-- A snapshot whose entries all carry its id is stored, and the buffered trades are added behind it. -/
theorem flush_coherent {recorder : TradeRecorder} {book : OrderBook}
    (coherent : book.Coherent) (sorted : recorder.Sorted)
    (waits : recorder.waiting order.orderId = [] ∨ book.FiledAsOwn order.orderId) :
    (recorder.flushPendingTradesLocked book order.orderId now).2.1.Coherent := by
  rcases waits with silent | own
  · rw [TradeRecorder.flushPendingTradesLocked_silent silent]
    exact coherent
  · have fills := flushTrades_fills { recorder with
      pendingTradesByOrder := recorder.pendingTradesByOrder.pop order.orderId } book now
      (recorder.waiting order.orderId)
    exact fills.coherent coherent own (TradeRecorder.flushPendingTradesLocked_sorted sorted).1

theorem upsertOrder_coherent (coherent : manager.book.Coherent) (sorted : manager.recorder.Sorted)
    (indexed : manager.indexes (.upsertOrder order now)) :
    (manager.upsertOrder order now).1.book.Coherent ∧ (manager.upsertOrder order now).1.recorder.Sorted := by
  have upserts := manager.upsertOrder_upserts order now
  generalize manager.upsertOrder order now = upserted at upserts ⊢
  cases upserts with
  | refused => exact ⟨coherent, sorted⟩
  | changed _ _ passed => exact ⟨coherent.store_iff.mpr (indexed passed).1, sorted⟩
  | flushed validator recorder book ends passed stays flushes =>
    obtain ⟨storable, waits⟩ := indexed passed
    have flushed := @flush_coherent order now _ _ (coherent.store_iff.mpr storable) sorted
      (waits.imp_right OrderBook.store_filedAsOwn)
    have kept := (@TradeRecorder.flushPendingTradesLocked_sorted manager.recorder (manager.book.store order) now
      order.orderId sorted).2
    rw [flushes] at flushed kept
    exact ⟨flushed, kept⟩

/-- The check of a new id: it fails, files a recovered order, or changes no book. -/
theorem checkAndReserve_coherent {durable : DurableAnswer} (coherent : manager.book.Coherent)
    (recovers : ∀ recovered ∈ durable.order, recovered.filedUnder = some correlationId) :
    (manager.checkAndReserve correlationId now durable).1.book.Coherent := by
  simp only [checkAndReserve]
  split
  · exact coherent
  · next missed =>
    cases durable with
    | raises message => exact coherent
    | nothing =>
      rw [lookupDurableOrder_nothing]
      dsimp only
      split <;> exact coherent
    | recovered order =>
      have carried := recovers order rfl
      cases found : manager.book.orders.get order.orderId with
      | some existing =>
        have looked : manager.lookupDurableOrder (.recovered order) = (manager, .ok (some existing)) := by
          simp only [lookupDurableOrder, found]
        have filed := CoherentIndex.refile coherent existing correlationId found missed
        rw [← OrderBook.get_fileUnder] at filed
        rw [looked]
        exact filed
      | none =>
        have looked : manager.lookupDurableOrder (.recovered order) =
            ({ manager with book := manager.book.put order }, .ok (some order)) := by
          simp only [lookupDurableOrder, found]
        rw [looked]
        apply coherent.file_iff.mpr
        refine ⟨?_, ?_, ?_⟩
        · intro id other _ filed same
          exact absurd same (coherent.key_ne found filed)
        · intro other filed
          rw [missed] at filed
          cases filed
        · intro id own
          rw [carried] at own
          exact .inl (Option.some.inj own).symm

/-- Without an early end the durable store knew nothing of the id. -/
theorem checkAndReserve_durable {durable : DurableAnswer}
    (free : (manager.checkAndReserve correlationId now durable).2 = none) : durable = .nothing := by
  cases durable with
  | nothing => rfl
  | raises message =>
    simp only [checkAndReserve] at free
    split at free <;> cases free
  | recovered order =>
    simp only [checkAndReserve] at free
    split at free
    · cases free
    · rw [lookupDurableOrder_recovered] at free
      cases free

/-- A stub of a new id, or what replaces it under the same id, is written into both indexes. -/
theorem register_coherent (coherent : manager.book.Coherent) (fresh : manager.book.orders.get order.orderId = none)
    (unfiled : manager.book.byCorrelation.get correlationId = none)
    (carried : ∀ id ∈ order.filedUnder, id = correlationId) :
    (manager.register order correlationId).book.Coherent := by
  apply coherent.file_iff.mpr
  refine ⟨?_, ?_, fun id own => .inl (carried id own)⟩
  · intro id other _ filed same
    exact absurd same (coherent.key_ne fresh filed)
  · intro other filed
    rw [unfiled] at filed
    cases filed

theorem register_indexes : (manager.register order correlationId).book.orders.get =
      Function.update manager.book.orders.get order.orderId (some order) ∧
    (manager.register order correlationId).book.byCorrelation.get =
      Function.update manager.book.byCorrelation.get correlationId (some order) :=
  ⟨OrderBook.get_put, OrderBook.get_fileUnder⟩

/-- The second write of an order under the same id leaves what it alone would have written. -/
theorem register_twice {stub : Order} (same : order.orderId = stub.orderId) :
    ((manager.register stub correlationId).register order correlationId).book.orders.get =
        (manager.register order correlationId).book.orders.get ∧
      ((manager.register stub correlationId).register order correlationId).book.byCorrelation.get =
        (manager.register order correlationId).book.byCorrelation.get := by
  obtain ⟨orders, index⟩ := @register_indexes _ manager stub correlationId
  obtain ⟨orders', index'⟩ := @register_indexes _ (manager.register stub correlationId) order correlationId
  obtain ⟨orders'', index''⟩ := @register_indexes _ manager order correlationId
  rw [orders', index', orders'', index'', orders, index, same, Function.update_idem, Function.update_idem]
  exact ⟨rfl, rfl⟩

theorem register_twice_coherent {stub : Order} (coherent : manager.book.Coherent)
    (fresh : manager.book.orders.get stub.orderId = none)
    (unfiled : manager.book.byCorrelation.get correlationId = none) (same : order.orderId = stub.orderId)
    (carried : ∀ id ∈ order.filedUnder, id = correlationId) :
    ((manager.register stub correlationId).register order correlationId).book.Coherent := by
  obtain ⟨orders, index⟩ := @register_twice _ manager _ correlationId stub same
  rw [OrderBook.Coherent, orders, index]
  exact register_coherent coherent (same ▸ fresh) unfiled carried

/-- Behind the stub of a placement, the recorded order stands in the place of the stub in both indexes. -/
theorem recordAndPublish_indexes {stub : Order} (fresh : manager.book.orders.get stub.orderId = none) :
    ((manager.register stub correlationId).recordAndPublish placed correlationId).book.orders.get =
        Function.update manager.book.orders.get placed.orderId (some placed) ∧
      ((manager.register stub correlationId).recordAndPublish placed correlationId).book.byCorrelation.get =
        Function.update manager.book.byCorrelation.get correlationId (some placed) := by
  obtain ⟨orders, index⟩ := @register_indexes _ manager stub correlationId
  constructor
  · have dropped : Function.update (((manager.register stub correlationId).afterPrior placed correlationId).orders.get)
        placed.orderId (some placed) = Function.update manager.book.orders.get placed.orderId (some placed) := by
      simp only [afterPrior, register_filed]
      split
      · next same => rw [orders, same, Function.update_idem]
      · have absent : Function.update manager.book.orders.get stub.orderId none = manager.book.orders.get := by
          rw [Function.update_eq_self_iff, fresh]
        rw [OrderBook.get_drop, orders, Function.update_idem, absent]
    exact OrderBook.get_put.trans dropped
  · rw [recordAndPublish_filed]
    funext id
    rw [Dict.get_set, index, Function.update_apply, Function.update_apply]
    split <;> rfl

theorem Answerable.recorded {stub : Order} {submission : Submission}
    (answerable : manager.Answerable request answers submission placed) (recorded : submission.outcomeFails = none)
    (coherent : manager.book.Coherent) (fresh : manager.book.orders.get stub.orderId = none)
    (unfiled : manager.book.byCorrelation.get request.correlationId = none) :
    ((manager.register stub request.correlationId).recordAndPublish placed
      request.correlationId).book.Coherent := by
  simp only [Answerable, recorded] at answerable
  obtain ⟨carried, latest⟩ := answerable
  obtain ⟨orders, index⟩ := @recordAndPublish_indexes _ _ placed request.correlationId _ fresh
  rw [OrderBook.Coherent, orders, index]
  apply (CoherentIndex.file_iff coherent placed request.correlationId).mpr
  refine ⟨?_, ?_, carried⟩
  · exact fun id other _ filed same => latest (id, other) (Dict.get_eq_some.mp filed) same
  · intro other filed
    rw [unfiled] at filed
    cases filed

/-- What a submission leaves in the book. -/
theorem submitToBroker_coherent {stub : Order} {blocked : Option String} {submission : Option Submission}
    (coherent : manager.book.Coherent) (fresh : manager.book.orders.get stub.orderId = none)
    (unfiled : manager.book.byCorrelation.get request.correlationId = none)
    (drawn : stub.orderId = answers.orderId) (carried : stub.filedUnder = some request.correlationId)
    (answerable : blocked = none → ∀ given ∈ submission, ∀ placed ∈ given.brokerCall.toOption,
      manager.Answerable request answers given placed) :
    (manager.submitToBroker stub request blocked submission).1.book.Coherent ∧
      ∀ placed, (manager.submitToBroker stub request blocked submission).2 = .placed placed →
        ((manager.submitToBroker stub request blocked submission).1.recordAndPublish placed
          request.correlationId).book.Coherent := by
  have own : ∀ id ∈ stub.filedUnder, id = request.correlationId := by
    rintro id given
    rw [carried] at given
    exact (Option.some.inj given).symm
  have registered := register_coherent coherent fresh unfiled own
  have marked : ∀ {unknown : Order}, stub.withStatus .UNKNOWN = .ok unknown →
      ((manager.register stub request.correlationId).register unknown request.correlationId).book.Coherent := by
    intro unknown changed
    rw [(Order.withStatus_ok changed).1]
    exact register_twice_coherent coherent fresh unfiled rfl own
  have rejects : ∀ result placed, SubmitEnd.rejected result ≠ .placed placed := by
    intro result placed same
    cases same
  have raises : ∀ error placed, SubmitEnd.raised error ≠ .placed placed := by
    intro error placed same
    cases same
  simp only [submitToBroker]
  cases blocked with
  | some reason => exact ⟨coherent, fun placed ends => absurd ends (rejects _ placed)⟩
  | none =>
    cases submission with
    | none =>
      dsimp only
      refine ⟨coherent, ?_⟩
      intro placed ends
      have same : stub = placed := SubmitEnd.placed.inj ends
      have prior : (manager.releasePending request.correlationId).afterPrior stub request.correlationId =
          manager.book := by
        have filed : (manager.releasePending request.correlationId).book.byCorrelation.get request.correlationId =
            none := unfiled
        simp only [afterPrior, filed]
        rfl
      rw [← same]
      simp only [recordAndPublish, prior]
      exact registered
    | some given =>
      have answered := answerable rfl given rfl
      cases called : given.brokerCall with
      | error message =>
        simp only [called]
        cases changed : stub.withStatus .UNKNOWN with
        | error error => exact ⟨registered, fun placed ends => absurd ends (raises _ placed)⟩
        | ok unknown =>
          dsimp only
          split
          · exact ⟨marked changed, fun placed ends => absurd ends (raises _ placed)⟩
          · exact ⟨marked changed, fun placed ends => absurd ends (rejects _ placed)⟩
      | ok placed =>
        have accepted := answered placed (by rw [called]; rfl)
        simp only [called]
        cases recorded : given.outcomeFails with
        | none =>
          dsimp only
          refine ⟨registered, ?_⟩
          intro placed' ends
          rw [← SubmitEnd.placed.inj ends]
          exact accepted.recorded recorded coherent fresh unfiled
        | some failure =>
          dsimp only
          cases changed : placed.withStatus .UNKNOWN with
          | error error => exact ⟨registered, fun placed' ends => absurd ends (raises _ placed')⟩
          | ok unknown =>
            have allowed : placed.allows .UNKNOWN = true := by
              cases allows : placed.allows .UNKNOWN with
              | true => rfl
              | false =>
                rw [Order.withStatus_refused allows] at changed
                cases changed
            simp only [Answerable, recorded] at accepted
            obtain ⟨same, placedOwn⟩ := accepted allowed
            dsimp only
            refine ⟨?_, fun placed' ends => absurd ends (rejects _ placed')⟩
            rw [(Order.withStatus_ok changed).1]
            exact register_twice_coherent coherent fresh unfiled (same.trans drawn.symm) placedOwn

theorem placeOrder_coherent (coherent : manager.book.Coherent) (fresh : manager.book.orders.get answers.orderId = none)
    (indexed : manager.indexes (.placeOrder request answers)) :
    (manager.placeOrder request answers).1.book.Coherent := by
  obtain ⟨recovers, answerable⟩ := indexed
  have checked :=
    @checkAndReserve_coherent _ manager request.correlationId answers.now answers.durable coherent recovers
  have free := @checkAndReserve_none _ manager request.correlationId answers.now answers.durable
  have durable := @checkAndReserve_durable _ manager request.correlationId answers.now answers.durable
  simp only [placeOrder]
  generalize manager.checkAndReserve request.correlationId answers.now answers.durable = check at *
  split
  · exact checked
  · next unended =>
    obtain ⟨reserved, missed, idle⟩ := free unended
    split
    · exact checked
    · next stub built =>
      have book : check.1.book = manager.book := by rw [reserved]
      have stubId : stub.orderId = answers.orderId := buildAndValidate_ok built
      have carried : stub.filedUnder = some request.correlationId := by
        simp only [buildAndValidate] at built
        split at built
        · cases built
        · split at built
          · cases built
          · rw [← Except.ok.inj built, Order.filedUnder, Option.filter_some,
              if_pos (decide_eq_true request.correlationId_present)]
      have gates : answers.gate = none ∧ answers.risk = none := by
        simp only [buildAndValidate] at built
        split at built
        · cases built
        · next gate =>
          split at built
          · cases built
          · next risk => exact ⟨gate, risk⟩
      have answers_ : answers.blocked = none → ∀ given ∈ answers.submission, ∀ placed ∈ given.brokerCall.toOption,
          check.1.Answerable request answers given placed := by
        intro unblocked given attached placed called
        have asked : manager.asks request answers = true := by
          simp only [asks, missed, durable unended, idle, gates.1, gates.2, unblocked, Option.isNone_none, decide_true,
            Bool.not_false, Bool.and_self]
        have answerable := answerable asked given attached placed called
        simp only [Answerable] at answerable ⊢
        rw [book]
        exact answerable
      obtain ⟨submitted, recorded⟩ := @submitToBroker_coherent _ check.1 request answers stub answers.blocked
        answers.submission (book ▸ coherent) (by rw [book, stubId, fresh]) (by rw [book, missed]) stubId carried
        answers_
      split
      · exact submitted
      · exact submitted
      · next placed ends => exact recorded placed ends

/-- The two indexes agree, and every buffered trade waits for its own order. -/
structure Indexed (manager : OrderManager cache) : Prop where
  coherent : manager.book.Coherent
  sorted : manager.recorder.Sorted

/-- The operation that leaves no older entry behind keeps the indexes coherent. -/
theorem Indexed.operate {operation : BookOperation} (indexed : manager.Indexed)
    (indexes : manager.indexes operation) (run : manager.operate operation = some after) : after.Indexed := by
  cases operation with
  | placeOrder request answers =>
    simp only [OrderManager.operate] at run
    split at run
    · cases run
    · next fresh =>
      rw [← Option.some.inj run]
      have absent : manager.book.orders.get answers.orderId = none := by
        rw [Dict.contains, Option.isSome_iff_ne_none, not_not] at fresh
        exact fresh
      refine ⟨placeOrder_coherent indexed.coherent absent indexes, ?_⟩
      rw [placeOrder_kept.2]
      exact indexed.sorted
  | upsertOrder order now =>
    rw [← Option.some.inj run]
    obtain ⟨coherent, sorted⟩ := upsertOrder_coherent indexed.coherent indexed.sorted indexes
    exact ⟨coherent, sorted⟩
  | recordTrade trade now =>
    rw [← Option.some.inj run]
    refine ⟨recordTrade_coherent indexed.coherent indexes, ?_⟩
    simp only [OrderManager.recordTrade]
    exact TradeRecorder.recordTrade_sorted indexed.sorted
  | cancelOrder orderId blocked answer =>
    rw [← Option.some.inj run, cancelOrder_kept]
    exact indexed
  | modifyOrder request blocked answer =>
    rw [← Option.some.inj run, modifyOrder_kept]
    exact indexed

/-- Over every run whose operations leave no older entry behind, the two indexes agree. -/
theorem correlation_index_coherent (start final : OrderManager cache) (operations : List BookOperation)
    (indexed : start.Indexed) (run : exec operate start operations = some final)
    (met : Meets operate indexes start operations) : final.book.Coherent := by
  have preserved : ∀ (s : OrderManager cache) (e : BookOperation) (t : OrderManager cache), s.Indexed →
      s.indexes e → s.operate e = some t → t.Indexed := fun _ _ _ => Indexed.operate
  exact (exec_invariant preserved indexed met run).coherent

theorem newManager_indexed : newManager.Indexed where
  coherent := OrderBook.coherent_empty
  sorted := by rintro id trade ⟨⟩

/-- A placement of ten shares, answered by the broker with an order of its own id. -/
private def placement : BookOperation :=
  .placeOrder {
    symbol := "RELIANCE"
    exchange := "NSE"
    side := .BUY
    quantity := 10
    correlationId := "6f1c"
    correlationId_present := sampleId_present } {
    now := 0
    orderId := "OM-1"
    submission := some { brokerCall := .ok (tenShares .OPEN 0) } }

private def placedAndFilled : List BookOperation :=
  [placement, .recordTrade (fillOf "T1" 4) 1, .upsertOrder (tenShares .PARTIALLY_FILLED 4) 2]

theorem correlation_index_filled : ∃ final, exec operate newManager placedAndFilled = some final ∧
    final.book.Coherent ∧ (final.book.byCorrelation.get "6f1c").map Order.filledQuantity = some 4 := by
  have runs : (exec operate newManager placedAndFilled).map (fun final =>
      (final.book.byCorrelation.get "6f1c").map Order.filledQuantity) = some (some 4) := by
    decide +kernel
  obtain ⟨final, run, filled⟩ := Option.map_eq_some_iff.mp runs
  exact ⟨final, run, correlation_index_coherent newManager final _ newManager_indexed run (by decide +kernel), filled⟩

/-- A snapshot without the correlation id, as the broker's order stream sends it. -/
private def untracked : Order := { tenShares .OPEN 4 with correlationId := none }

/-- The snapshot is stored in the primary index alone. -/
theorem correlation_index_stale : ∃ final, exec operate newManager [placement, .upsertOrder untracked 1] = some final ∧
    (final.book.orders.get "220901").map Order.filledQuantity = some 4 ∧
    (final.book.byCorrelation.get "6f1c").map (fun order => (order.orderId, order.filledQuantity)) =
      some ("220901", 0) ∧
    ¬ final.book.Coherent := by
  have runs : (exec operate newManager [placement, .upsertOrder untracked 1]).map (fun final =>
      ((final.book.orders.get "220901").map Order.filledQuantity,
        (final.book.byCorrelation.get "6f1c").map fun order => (order.orderId, order.filledQuantity))) =
      some (some 4, some ("220901", 0)) := by
    decide +kernel
  obtain ⟨final, run, facts⟩ := Option.map_eq_some_iff.mp runs
  obtain ⟨held, filed⟩ := Prod.mk.inj facts
  refine ⟨final, run, held, filed, ?_⟩
  intro coherent
  obtain ⟨stale, found, same⟩ := Option.map_eq_some_iff.mp filed
  obtain ⟨sameId, unfilled⟩ := Prod.mk.inj same
  have current := coherent.current "6f1c" stale found
  rw [sameId] at current
  rw [current, Option.map_some, unfilled] at held
  revert held
  decide +kernel

end OrderManager

end TradeX.V1
