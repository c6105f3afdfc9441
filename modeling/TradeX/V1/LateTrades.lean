import TradeX.V1.PlacementOutcome

/-! Trades and their orders in any order of arrival. A trade whose order is unknown waits in
the buffer of the trade recorder, and the operation that introduces the order has to apply
it: every distinct trade of a known order is applied once. -/

namespace TradeX.V1

open Lib

section

variable {orderId : String} {trades others : List Trade}

theorem quantityFor_toFinset (distinct : trades.Nodup) : quantityFor orderId trades =
    trades.toFinset.sum fun trade => if orderId = trade.orderId then trade.quantity else 0 :=
  (List.sum_toFinset _ distinct).symm

/-- Fewer distinct trades add less. -/
theorem quantityFor_le (distinct : trades.Nodup) (distinctOthers : others.Nodup)
    (nonneg : ∀ trade ∈ others, 0 ≤ trade.quantity)
    (covered : ∀ trade ∈ trades, trade.orderId = orderId → trade ∈ others) :
    quantityFor orderId trades ≤ quantityFor orderId others := by
  rw [quantityFor_toFinset distinct, quantityFor_toFinset distinctOthers, ← Finset.sum_filter, ← Finset.sum_filter]
  apply Finset.sum_le_sum_of_subset_of_nonneg
  · intro trade member
    obtain ⟨listed, same⟩ := Finset.mem_filter.mp member
    have there := covered trade (List.mem_toFinset.mp listed) same.symm
    exact Finset.mem_filter.mpr ⟨List.mem_toFinset.mpr there, same⟩
  · intro trade member _
    exact nonneg trade (List.mem_toFinset.mp (Finset.mem_filter.mp member).1)

theorem quantityFor_absent (absent : ∀ trade ∈ trades, trade.orderId ≠ orderId) :
    quantityFor orderId trades = 0 := by
  induction trades with
  | nil => rfl
  | cons trade rest ih =>
    have other : orderId ≠ trade.orderId := (absent trade List.mem_cons_self).symm
    rw [quantityFor_cons, if_neg other, zero_add]
    exact ih fun later member => absent later (List.mem_cons_of_mem _ member)

/-- A trade adds to its order where every trade has a positive quantity. -/
theorem quantityFor_pos {trade : Trade} (positive : ∀ trade ∈ trades, 0 < trade.quantity) (member : trade ∈ trades) :
    0 < quantityFor trade.orderId trades := by
  induction trades with
  | nil => cases member
  | cons first rest ih =>
    have others : ∀ trade ∈ rest, 0 < trade.quantity := fun trade later => positive trade (List.mem_cons_of_mem _ later)
    have here := positive first List.mem_cons_self
    rw [quantityFor_cons]
    rcases List.mem_cons.mp member with rfl | later
    · rw [if_pos rfl]
      have nonneg : 0 ≤ quantityFor trade.orderId rest := by
        apply List.sum_nonneg
        intro quantity listed
        obtain ⟨other, there, rfl⟩ := List.mem_map.mp listed
        have := others other there
        split
        · exact this.le
        · exact le_refl 0
      linarith
    · have more := ih others later
      split
      · linarith
      · linarith

theorem quantityFor_reverse : quantityFor orderId trades.reverse = quantityFor orderId trades := by
  simp only [quantityFor, List.map_reverse, List.sum_reverse]

end

/-- Trades that are told apart by their raw ids and by their keys, each of them well formed.
A trade has a positive quantity where a durable ledger takes its fill. -/
structure Presentable (durable : Bool) (presented : List Trade) : Prop where
  distinct : presented.Nodup
  apart : ∀ trade ∈ presented, ∀ other ∈ presented, trade.tradeId = other.tradeId ∨
    TradeIdKey.fromTrade trade = .fromTrade other → trade = other
  named : ∀ trade ∈ presented, blank trade.tradeId = false
  ordered : ∀ trade ∈ presented, blank trade.orderId = false
  nonneg : ∀ trade ∈ presented, 0 ≤ trade.quantity
  positive : durable = true → ∀ trade ∈ presented, 0 < trade.quantity

/-- The recorder and the book agree on the trades that have been applied. -/
structure Applied (durable : Bool) (presented : List Trade) (recorder : TradeRecorder) (book : OrderBook)
    (applied : List Trade) : Prop where
  distinct : applied.Nodup
  presented : ∀ trade ∈ applied, trade ∈ presented
  known : ∀ trade ∈ applied, book.orders.contains trade.orderId = true
  seen : recorder.fillReducer.seenFillIds = applied.map Trade.tradeId
  processed : ∀ keys, recorder.processedTrades = some keys → keys = applied.map TradeIdKey.fromTrade
  cumulative : ∀ id, (recorder.fillReducer.cumulativeByOrder.get id).getD 0 ≤ quantityFor id applied
  filled : ∀ id order, book.orders.get id = some order →
    order.filledQuantity = quantityFor id applied ∧ order.filledQuantity ≤ order.quantity
  ledger : ∀ ledger ∈ recorder.executionLedger, durable = true ∧ ∀ record, ledger.refuses record = false

theorem Presentable.nil (durable : Bool) : Presentable durable [] where
  distinct := List.nodup_nil
  apart := by rintro trade ⟨⟩
  named := by rintro trade ⟨⟩
  ordered := by rintro trade ⟨⟩
  nonneg := by rintro trade ⟨⟩
  positive := by rintro - trade ⟨⟩

namespace Applied

variable {durable : Bool} {presented applied : List Trade} {recorder after : TradeRecorder} {book : OrderBook}
  {trade : Trade} {order updated : Order} {fill : FillEvent} {now : ℚ}

/-- A new recorder has applied nothing, with or without a repository of processed trades. -/
theorem nil (repository : Bool) {ledger : Option ExecutionLedger}
    (takes : ∀ attached ∈ ledger, ∀ record, attached.refuses record = false)
    (isDurable : ledger.isSome = true → durable = true) : Applied durable []
      { processedTrades := if repository = true then some [] else none, executionLedger := ledger } {} [] where
  distinct := List.nodup_nil
  presented := by rintro trade ⟨⟩
  known := by rintro trade ⟨⟩
  seen := rfl
  processed keys attached := by
    cases repository with
    | true => exact (Option.some.inj attached).symm
    | false => cases attached
  cumulative id := le_refl 0
  filled := by rintro id order ⟨⟩
  ledger attached present := ⟨isDurable (Option.isSome_of_mem present), takes attached present⟩

theorem unprocessed (held : Applied durable presented recorder book applied)
    (presentable : Presentable durable presented) (member : trade ∈ presented) (new : trade ∉ applied) :
    recorder.isProcessed (.fromTrade trade) = false := by
  unfold TradeRecorder.isProcessed
  cases attached : recorder.processedTrades with
  | none => rfl
  | some keys =>
    have kept := held.processed keys attached
    apply decide_eq_false
    intro present
    rw [kept] at present
    obtain ⟨earlier, listed, same⟩ := List.mem_map.mp present
    have equal := presentable.apart earlier (held.presented earlier listed) trade member (.inr same)
    rw [equal] at listed
    exact new listed

theorem unseen (held : Applied durable presented recorder book applied)
    (presentable : Presentable durable presented) (member : trade ∈ presented) (new : trade ∉ applied) :
    trade.tradeId ∉ recorder.fillReducer.seenFillIds := by
  intro present
  rw [held.seen] at present
  obtain ⟨earlier, listed, same⟩ := List.mem_map.mp present
  have equal := presentable.apart earlier (held.presented earlier listed) trade member (.inl same)
  rw [equal] at listed
  exact new listed

theorem filled_nonneg (held : Applied durable presented recorder book applied)
    (presentable : Presentable durable presented) (id : String) : 0 ≤ quantityFor id applied := by
  have none : quantityFor id ([] : List Trade) ≤ quantityFor id applied := by
    apply quantityFor_le List.nodup_nil held.distinct
    · intro trade listed
      exact presentable.nonneg trade (held.presented trade listed)
    · rintro trade ⟨⟩
  exact none

theorem built (held : Applied durable presented recorder book applied)
    (presentable : Presentable durable presented) (member : trade ∈ presented)
    (known : book.orders.get trade.orderId = some order) :
    ∃ fill, FillReducer.fillFromTrade trade.tradeId trade.orderId trade.quantity order.filledQuantity
      trade.price = .ok fill := by
  have nonneg := presentable.nonneg trade member
  obtain ⟨filled, -⟩ := held.filled _ _ known
  have cumulative : 0 ≤ order.filledQuantity + trade.quantity := by
    rw [filled]
    exact add_nonneg (held.filled_nonneg presentable _) nonneg
  unfold FillReducer.fillFromTrade
  rw [dif_pos (presentable.named trade member), dif_pos (presentable.ordered trade member), dif_pos nonneg,
    dif_pos cumulative]
  exact ⟨_, rfl⟩

/-- A new trade with room in its order reaches it. -/
theorem reaches (held : Applied durable presented recorder book applied)
    (presentable : Presentable durable presented) (member : trade ∈ presented) (new : trade ∉ applied)
    (known : book.orders.get trade.orderId = some order)
    (room : order.filledQuantity + trade.quantity ≤ order.quantity) (now : ℚ) :
    ∃ fill persisted, TradeRecorder.Reaches recorder book trade now order fill persisted := by
  have nonneg := presentable.nonneg trade member
  obtain ⟨filled, -⟩ := held.filled _ _ known
  obtain ⟨fill, built⟩ := held.built presentable member known
  obtain ⟨fillId, orderId, -, total, -⟩ := FillReducer.fillFromTrade_ok built
  have accepted : recorder.fillReducer.validate fill order.quantity order.filledQuantity = none := by
    have baseline : recorder.fillReducer.baseline trade.orderId order.filledQuantity ≤
        order.filledQuantity + trade.quantity := by
      apply max_le
      · exact le_add_of_nonneg_right nonneg
      · refine (held.cumulative trade.orderId).trans ?_
        rw [← filled]
        exact le_add_of_nonneg_right nonneg
    unfold FillReducer.validate
    rw [fillId, orderId, total, if_neg (held.unseen presentable member new), if_neg (not_lt.mpr baseline),
      if_neg (not_lt.mpr room)]
  obtain ⟨persisted, persists⟩ : ∃ persisted,
      recorder.persistFillToLedger fill order trade now = .ok persisted := by
    unfold TradeRecorder.persistFillToLedger
    cases attached : recorder.executionLedger with
    | none => exact ⟨_, rfl⟩
    | some ledger =>
      obtain ⟨isDurable, takes⟩ := held.ledger ledger attached
      have namedFill : ¬ (trade.tradeId = "" ∨ trade.orderId = "") := by
        rintro (empty | empty)
        · have named := presentable.named trade member
          rw [empty] at named
          exact absurd named (by decide)
        · have ordered := presentable.ordered trade member
          rw [empty] at ordered
          exact absurd ordered (by decide)
      have positive := presentable.positive isDurable trade member
      obtain ⟨stored, records⟩ : ∃ stored, ledger.recordFill (.ofFill fill order trade now) = .ok stored :=
        ExecutionLedger.recordFill_takes namedFill positive (takes _)
      dsimp only
      rw [records]
      exact ⟨_, rfl⟩
  exact ⟨fill, persisted, presentable.named trade member, held.unprocessed presentable member new, known, built,
    accepted, persists⟩

/-- An applied trade joins the others. -/
theorem add (held : Applied durable presented recorder book applied) (member : trade ∈ presented)
    (new : trade ∉ applied) (known : book.orders.get trade.orderId = some order)
    (built : FillReducer.fillFromTrade trade.tradeId trade.orderId trade.quantity order.filledQuantity
      trade.price = .ok fill)
    (room : order.filledQuantity + trade.quantity ≤ order.quantity)
    (applies : OrderPositionUpdater.applyTrade order trade = .ok updated)
    (keeps : TradeRecorder.Keeps recorder after trade fill) :
    Applied durable presented after (book.store updated) (trade :: applied) := by
  obtain ⟨fillId, orderId, -, total, nonneg⟩ := FillReducer.fillFromTrade_ok built
  obtain ⟨sameId, -, filled, -⟩ := OrderPositionUpdater.applyTrade_ok applies
  have here : updated.orderId = trade.orderId := sameId.trans (book.keyed _ _ known)
  obtain ⟨prior, -⟩ := held.filled _ _ known
  refine ⟨List.nodup_cons.mpr ⟨new, held.distinct⟩, ?_, ?_, ?_, ?_, ?_, ?_, ?_⟩
  · intro listed added
    rcases List.mem_cons.mp added with rfl | earlier
    · exact member
    · exact held.presented listed earlier
  · intro listed added
    rw [Dict.contains, OrderBook.store_get, here]
    split
    · rfl
    · next other =>
      rcases List.mem_cons.mp added with rfl | earlier
      · exact absurd rfl other
      · exact held.known listed earlier
  · rw [keeps.reducer, List.map_cons, ← held.seen, ← fillId]
    rfl
  · intro keys attached
    rw [keeps.processed] at attached
    obtain ⟨before, present, rfl⟩ := Option.map_eq_some_iff.mp attached
    rw [held.processed before present, List.map_cons]
  · intro id
    rw [keeps.reducer, quantityFor_cons]
    change ((recorder.fillReducer.cumulativeByOrder.set fill.orderId fill.cumulativeQuantity).get id).getD 0 ≤ _
    rw [Dict.get_set, orderId, total]
    split
    · next same =>
      rw [Option.getD_some, same, prior, add_comm]
    · rw [zero_add]
      exact held.cumulative id
  · intro id other found
    rw [OrderBook.store_get, here] at found
    rw [quantityFor_cons]
    split at found
    · next same =>
      cases found
      rw [same, if_pos rfl, filled, OrderPositionUpdater.applyTrade_quantity applies, prior]
      exact ⟨add_comm _ _, prior ▸ room⟩
    · next differs =>
      rw [if_neg differs, zero_add]
      exact held.filled id other found
  · intro ledger attached
    have kept := keeps.ledger
    rw [Option.mem_def.mp attached, Option.map_some] at kept
    obtain ⟨before, present, same⟩ := Option.map_eq_some_iff.mp kept.symm
    rw [← same]
    exact held.ledger before present

end Applied

/-- The order takes fills until it is full. -/
def Order.Fillable (order : Order) : Prop :=
  order.status = .OPEN ∨ order.status = .PARTIALLY_FILLED ∨
    order.status = .FILLED ∧ order.quantity ≤ order.filledQuantity

theorem Order.Fillable.allows {order : Order} {trade : Trade} (fillable : order.Fillable)
    (nonneg : 0 ≤ trade.quantity) : order.allows (OrderPositionUpdater.filledStatus order trade) = true := by
  unfold Order.allows OrderPositionUpdater.filledStatus OrderPositionUpdater.deriveStatus
  apply decide_eq_true
  rcases fillable with opened | partly | ⟨filled, full⟩
  · rw [opened]
    split <;> decide
  · rw [partly]
    split <;> decide
  · have grown : order.filledQuantity + trade.quantity ≥ order.quantity := by linarith
    rw [if_pos grown, filled]
    exact .inl rfl

theorem Order.Fillable.applied {order updated : Order} {trade : Trade}
    (applies : OrderPositionUpdater.applyTrade order trade = .ok updated) : updated.Fillable := by
  obtain ⟨-, -, filled, status⟩ := OrderPositionUpdater.applyTrade_ok applies
  unfold OrderPositionUpdater.filledStatus OrderPositionUpdater.deriveStatus at status
  split at status
  · next full =>
    right
    right
    rw [filled, OrderPositionUpdater.applyTrade_quantity applies]
    exact ⟨status, full⟩
  · exact .inr (.inl status)

namespace Applied

variable {durable : Bool} {presented applied : List Trade} {recorder : TradeRecorder} {book : OrderBook}
  {trade : Trade} {order : Order} {id : String}

/-- The fill of a trade that was applied before is a duplicate. -/
theorem duplicate (held : Applied durable presented recorder book applied) (presentable : Presentable durable presented)
    (before : trade ∈ applied) (known : book.orders.get trade.orderId = some order) :
    ∃ fill, FillReducer.fillFromTrade trade.tradeId trade.orderId trade.quantity order.filledQuantity trade.price =
        .ok fill ∧
      recorder.fillReducer.validate fill order.quantity order.filledQuantity = some (.duplicate fill.fillId) := by
  obtain ⟨fill, built⟩ := held.built presentable (held.presented trade before) known
  obtain ⟨fillId, -⟩ := FillReducer.fillFromTrade_ok built
  have seen : fill.fillId ∈ recorder.fillReducer.seenFillIds := by
    rw [fillId, held.seen]
    exact List.mem_map.mpr ⟨trade, before, rfl⟩
  exact ⟨fill, built, if_pos seen⟩

/-- A buffered trade that was applied before is skipped. -/
theorem skips (held : Applied durable presented recorder book applied) (presentable : Presentable durable presented)
    (before : trade ∈ applied) (known : book.orders.get trade.orderId = some order) (now : ℚ) :
    ∃ outcome, recorder.flushTrade book trade now = (recorder, book, outcome) ∧
      (outcome = .duplicate ∨ ∃ reason, outcome = .rejected reason) := by
  obtain ⟨fill, built, duplicate⟩ := held.duplicate presentable before known
  unfold TradeRecorder.flushTrade
  dsimp only
  split
  · exact ⟨_, rfl, .inl rfl⟩
  · rw [known]
    dsimp only
    rw [built]
    dsimp only
    rw [duplicate]
    exact ⟨_, rfl, .inr ⟨_, rfl⟩⟩

/-- A trade that was applied before is not recorded again. -/
theorem ignores (held : Applied durable presented recorder book applied) (presentable : Presentable durable presented)
    (before : trade ∈ applied) (now : ℚ) :
    ∃ outcome, recorder.recordTrade book trade now = (recorder, book, outcome) ∧ outcome.accepted = false := by
  obtain ⟨order, known⟩ := Option.isSome_iff_exists.mp (held.known trade before)
  obtain ⟨fill, built, duplicate⟩ := held.duplicate presentable before known
  unfold TradeRecorder.recordTrade
  rw [presentable.named trade (held.presented trade before), if_neg Bool.false_ne_true]
  dsimp only
  split
  · exact ⟨_, rfl, rfl⟩
  · rw [known]
    dsimp only
    rw [built]
    dsimp only
    rw [duplicate]
    exact ⟨_, rfl, rfl⟩

/-- There is room for a new trade where the order takes all that were presented for it. -/
theorem room (held : Applied durable presented recorder book applied) (presentable : Presentable durable presented)
    (member : trade ∈ presented) (new : trade ∉ applied) (known : book.orders.get trade.orderId = some order)
    (fits : quantityFor trade.orderId presented ≤ order.quantity) :
    order.filledQuantity + trade.quantity ≤ order.quantity := by
  obtain ⟨filled, -⟩ := held.filled _ _ known
  have more : quantityFor trade.orderId (trade :: applied) ≤ quantityFor trade.orderId presented := by
    apply quantityFor_le (List.nodup_cons.mpr ⟨new, held.distinct⟩) presentable.distinct presentable.nonneg
    intro listed added _
    rcases List.mem_cons.mp added with rfl | earlier
    · exact member
    · exact held.presented listed earlier
  rw [quantityFor_cons, if_pos rfl] at more
  rw [filled, add_comm]
  exact more.trans fits

/-- The flush of an order's buffer applies every trade in it that is new, and touches no
other order. -/
theorem flushes (presentable : Presentable durable presented) (now : ℚ) (trades : List Trade)
    (each : ∀ trade ∈ trades, trade ∈ presented ∧ trade.orderId = id)
    (held : Applied durable presented recorder book applied) (known : book.orders.get id = some order)
    (fillable : order.Fillable) (fits : quantityFor id presented ≤ order.quantity) :
    ∃ after flushed newly, recorder.flushTrades book now trades = (after, flushed, newly, none) ∧
      Applied durable presented after flushed (newly.reverse ++ applied) ∧
      (∀ trade ∈ trades, trade ∈ newly.reverse ++ applied) ∧
      after.pendingTradesByOrder = recorder.pendingTradesByOrder ∧
      after.executionLedger.isSome = recorder.executionLedger.isSome ∧
      ∀ other, flushed.orders.contains other = book.orders.contains other := by
  induction trades generalizing recorder book applied order with
  | nil => exact ⟨recorder, book, [], rfl, held, (by rintro trade ⟨⟩), rfl, rfl, fun _ => rfl⟩
  | cons trade rest ih =>
    obtain ⟨member, here⟩ := each trade List.mem_cons_self
    have others : ∀ later ∈ rest, later ∈ presented ∧ later.orderId = id :=
      fun later listed => each later (List.mem_cons_of_mem _ listed)
    subst here
    unfold TradeRecorder.flushTrades
    by_cases before : trade ∈ applied
    · obtain ⟨outcome, skipped, silent⟩ := held.skips presentable before known now
      rw [skipped]
      obtain ⟨after, flushed, newly, ran, stays, all, pending, attached, same⟩ := ih others held known fillable fits
      refine ⟨after, flushed, newly, ?_, stays, ?_, pending, attached, same⟩
      · rcases silent with rfl | ⟨reason, rfl⟩
        · exact ran
        · exact ran
      · intro listed present
        rcases List.mem_cons.mp present with rfl | later
        · exact List.mem_append_right _ before
        · exact all listed later
    · have room := held.room presentable member before known fits
      obtain ⟨fill, persisted, reaches⟩ := held.reaches presentable member before known room now
      obtain ⟨next, updated, flushedOne, applies, keeps⟩ :=
        reaches.flushes (fillable.allows (presentable.nonneg trade member))
      have added := held.add member before known reaches.built room applies keeps
      have sameId : updated.orderId = trade.orderId :=
        (OrderPositionUpdater.applyTrade_ok applies).1.trans (book.keyed _ _ known)
      have stored : (book.store updated).orders.get trade.orderId = some updated := by
        rw [OrderBook.store_get, sameId, if_pos rfl]
      obtain ⟨after, flushed, newly, ran, stays, all, pending, attached, same⟩ := ih others added stored
        (Order.Fillable.applied applies) (by rw [OrderPositionUpdater.applyTrade_quantity applies]; exact fits)
      have joined : (trade :: newly).reverse ++ applied = newly.reverse ++ trade :: applied := by simp
      have ledgers := congrArg Option.isSome keeps.ledger
      rw [Option.isSome_map, Option.isSome_map] at ledgers
      refine ⟨after, flushed, trade :: newly, ?_, joined ▸ stays, ?_, pending.trans keeps.pending,
        attached.trans ledgers, ?_⟩
      · rw [flushedOne]
        dsimp only
        rw [ran]
      · intro listed present
        rw [joined]
        rcases List.mem_cons.mp present with rfl | later
        · exact List.mem_append_right _ List.mem_cons_self
        · exact all listed later
      · intro other
        rw [same, Dict.contains, OrderBook.store_get, sameId]
        split
        · next equal =>
          rw [equal, Dict.contains, known]
          rfl
        · rfl

theorem mono {more : List Trade} (held : Applied durable presented recorder book applied)
    (wider : ∀ trade ∈ presented, trade ∈ more) : Applied durable more recorder book applied where
  distinct := held.distinct
  presented trade listed := wider trade (held.presented trade listed)
  known := held.known
  seen := held.seen
  processed := held.processed
  cumulative := held.cumulative
  filled := held.filled
  ledger := held.ledger

/-- The buffers do not matter. -/
theorem pended (held : Applied durable presented recorder book applied) (pending : Dict String (List Trade)) :
    Applied durable presented { recorder with pendingTradesByOrder := pending } book applied :=
  ⟨held.distinct, held.presented, held.known, held.seen, held.processed, held.cumulative, held.filled, held.ledger⟩

/-- The book holds what was applied, also for an order it does not know. -/
theorem book_filled (held : Applied durable presented recorder book applied) (id : String) :
    book.filled id = quantityFor id applied := by
  cases found : book.orders.get id with
  | some order => rw [OrderBook.filled_of_get found, (held.filled id order found).1]
  | none =>
    have absent : quantityFor id applied = 0 := by
      apply quantityFor_absent
      rintro trade listed rfl
      have known := held.known trade listed
      rw [Dict.contains, found] at known
      cases known
    rw [absent, OrderBook.filled, found]
    rfl

/-- Orders may be written with the filled quantity that the book holds for them. -/
theorem rewritten {written : OrderBook} (held : Applied durable presented recorder book applied)
    (writes : ∀ id, written.orders.get id = book.orders.get id ∨ ∃ order, written.orders.get id = some order ∧
      order.filledQuantity = book.filled id ∧ order.filledQuantity ≤ order.quantity) :
    Applied durable presented recorder written applied where
  distinct := held.distinct
  presented := held.presented
  known trade listed := by
    rcases writes trade.orderId with kept | ⟨order, found, -⟩
    · rw [Dict.contains, kept]
      exact held.known trade listed
    · rw [Dict.contains, found]
      rfl
  seen := held.seen
  processed := held.processed
  cumulative := held.cumulative
  filled id order found := by
    rcases writes id with kept | ⟨other, given, same, room⟩
    · rw [kept] at found
      exact held.filled id order found
    · rw [given] at found
      cases found
      exact ⟨same.trans (held.book_filled id), room⟩
  ledger := held.ledger

end Applied

theorem TradeRecorder.buffered_get (recorder : TradeRecorder) (trade : Trade) (id : String) :
    ((recorder.buffered trade).pendingTradesByOrder.get id).getD [] =
      if id = trade.orderId ∧ ((recorder.pendingTradesByOrder.get id).getD []).length < pendingTradesMaxPerOrder then
        (recorder.pendingTradesByOrder.get id).getD [] ++ [trade]
      else (recorder.pendingTradesByOrder.get id).getD [] := by
  unfold buffered
  dsimp only
  rw [Dict.get_set]
  by_cases same : id = trade.orderId
  · subst same
    rw [if_pos rfl, Option.getD_some]
    simp only [true_and]
  · rw [if_neg same, if_neg fun both => same both.1]

namespace OrderManager

variable {cache : TTLCache.{0, v} Nat} {manager after : OrderManager cache} {request : OmsOrderCommand}
  {answers : PlaceAnswers} {order : Order} {id correlationId : String}

/-- The orders that a placement takes over from outside: the recovered one and the broker's. -/
def PlaceAnswers.introduced (answers : PlaceAnswers) : List Order :=
  (match answers.durable with | .recovered order => [order] | _ => []) ++
    (answers.submission.bind fun submission => submission.brokerCall.toOption).toList

/-- The order as the placement introduces it: with the quantities of an order from outside, or as
the stub of the request. -/
def PlaceAnswers.Adopts (answers : PlaceAnswers) (request : OmsOrderCommand) (order : Order) : Prop :=
  (∃ outside ∈ answers.introduced, order.orderId = outside.orderId ∧
    order.filledQuantity = outside.filledQuantity ∧ order.quantity = outside.quantity) ∨
  (order.orderId = answers.orderId ∧ order.filledQuantity = 0 ∧ order.quantity = request.quantity)

/-- A placement writes orders only as it introduces them. -/
theorem placeOrder_get (fresh : manager.book.orders.get answers.orderId = none) (id : String) :
    (manager.placeOrder request answers).1.book.orders.get id = manager.book.orders.get id ∨
      ∃ order, (manager.placeOrder request answers).1.book.orders.get id = some order ∧ order.orderId = id ∧
        answers.Adopts request order := by
  have looked := checkAndReserve_get manager answers.now answers.durable request.correlationId id
  unfold placeOrder
  dsimp only
  split
  · rcases looked with kept | ⟨recovered, durable, -, same, found⟩
    · exact .inl kept
    · right
      refine ⟨recovered, found, same, .inl ⟨recovered, ?_, rfl, rfl, rfl⟩⟩
      rw [PlaceAnswers.introduced, durable]
      exact List.mem_append_left _ (List.mem_singleton_self _)
  · next free =>
    obtain ⟨reserved, missed, -⟩ := checkAndReserve_none free
    have same : (manager.checkAndReserve request.correlationId answers.now answers.durable).1.book = manager.book := by
      rw [reserved]
    generalize manager.checkAndReserve request.correlationId answers.now answers.durable = check at same ⊢
    split
    · exact .inl (congrArg (fun book => book.orders.get id) same)
    · next stub built =>
      have stubId := buildAndValidate_ok built
      have stubAdopts : ∀ status, answers.Adopts request { stub with status := status } := by
        intro status
        unfold buildAndValidate at built
        split at built
        · cases built
        · split at built
          · cases built
          · cases built
            exact .inr ⟨rfl, rfl, rfl⟩
      have unfiled : check.1.book.byCorrelation.get request.correlationId = none := by rw [same, missed]
      have before : ∀ id, check.1.book.orders.get id = manager.book.orders.get id := by
        intro id
        rw [same]
      have submits := submitToBroker_submits check.1 stub request answers.blocked answers.submission
      generalize check.1.submitToBroker stub request answers.blocked answers.submission = submitted at submits ⊢
      obtain ⟨after, ends⟩ := submitted
      have registered : (check.1.register stub request.correlationId).book.orders.get id =
          if id = answers.orderId then some stub else manager.book.orders.get id := by
        rw [register_get, stubId, before]
      have stubHere : id = answers.orderId → stub.orderId = id := fun here => stubId.trans here.symm
      generalize given : answers.submission = submission at submits
      have outside : ∀ placed submission, answers.submission = some submission → submission.brokerCall = .ok placed →
          ∀ status, answers.Adopts request { placed with status := status } := by
        intro placed submission given called status
        refine .inl ⟨placed, List.mem_append_right _ ?_, rfl, rfl, rfl⟩
        rw [given, Option.bind_some, called]
        exact List.mem_singleton_self _
      cases submits with
      | blocked => exact .inl (before id)
      | direct =>
        by_cases here : id = stub.orderId
        · subst here
          exact .inr ⟨stub, recordAndPublish_get, rfl, stubAdopts stub.status⟩
        · left
          rcases recordAndPublish_get_other here with kept | ⟨prior, filed, -⟩
          · exact kept.trans (before id)
          · rw [unfiled] at filed
            cases filed
      | failed submission _ _ _ unplaced kept =>
        have written : after.book.orders.get id = manager.book.orders.get id ∨
            ∃ order, after.book.orders.get id = some order ∧ order.orderId = id ∧
              answers.Adopts request order := by
          rcases kept with rfl | rfl
          · rw [registered]
            split
            · next here => exact .inr ⟨stub, rfl, stubHere here, stubAdopts stub.status⟩
            · exact .inl rfl
          · rw [register_get]
            split
            · next here => exact .inr ⟨_, rfl, here.symm, stubAdopts .UNKNOWN⟩
            · next other =>
              rw [registered, if_neg fun drawn => other (drawn.trans stubId.symm)]
              exact .inl rfl
        cases ends with
        | placed order => exact absurd rfl (unplaced order)
        | rejected result => exact written
        | raised error => exact written
      | placed submission placed called recorded =>
        by_cases here : id = placed.orderId
        · subst here
          exact .inr ⟨placed, recordAndPublish_get, rfl, outside placed submission given called placed.status⟩
        · rcases recordAndPublish_get_other here with kept | ⟨prior, filed, priorId, dropped⟩
          · have written := kept.trans registered
            by_cases drawn : id = answers.orderId
            · exact .inr ⟨stub, written.trans (if_pos drawn), stubHere drawn, stubAdopts stub.status⟩
            · exact .inl (written.trans (if_neg drawn))
          · rw [register_filed] at filed
            cases filed
            refine .inl (dropped.trans ?_)
            rw [← priorId, stubId, fresh]
      | unrecorded submission placed result called fails =>
        change ((check.1.register stub request.correlationId).register { placed with status := .UNKNOWN }
          request.correlationId).book.orders.get id = _ ∨ ∃ order, ((check.1.register stub
            request.correlationId).register { placed with status := .UNKNOWN }
              request.correlationId).book.orders.get id = some order ∧ _
        rw [register_get, registered]
        split
        · next here => exact .inr ⟨_, rfl, here.symm, outside placed submission given called .UNKNOWN⟩
        · split
          · next drawn => exact .inr ⟨stub, rfl, stubHere drawn, stubAdopts stub.status⟩
          · exact .inl rfl

end OrderManager

/-- An order manager, with the distinct trades that were presented to it and those it applied,
the latest first. -/
structure LateFeed (cache : TTLCache.{0, v} Nat) where
  manager : OrderManager cache
  presented : List Trade := []
  applied : List Trade := []

namespace LateFeed

variable {cache : TTLCache.{0, v} Nat} (feed : LateFeed cache)

/-- The trades that wait for the order. -/
def buffer (orderId : String) : List Trade :=
  (feed.manager.recorder.pendingTradesByOrder.get orderId).getD []

/-- The distinct trades with this one. -/
def present (trade : Trade) : List Trade :=
  if trade ∈ feed.presented then feed.presented else trade :: feed.presented

/-- One operation of the order manager, and the trades it presents and applies. -/
def step : BookOperation → Option (LateFeed cache)
  | .recordTrade trade now =>
    let recorded := feed.manager.recordTrade trade now
    some {
      manager := recorded.1
      presented := feed.present trade
      applied := if recorded.2.accepted = true then trade :: feed.applied else feed.applied }
  | .upsertOrder order now =>
    let upserted := feed.manager.upsertOrder order now
    some { feed with manager := upserted.1, applied := upserted.2.1.reverse ++ feed.applied }
  | operation => (feed.manager.operate operation).map fun manager => { feed with manager := manager }

/-- An order that no trade waits for, with the filled quantity that the book holds for its id. -/
def adopts (order : Order) : Prop :=
  feed.buffer order.orderId = [] ∧ order.filledQuantity = feed.manager.book.filled order.orderId ∧
    order.filledQuantity ≤ order.quantity

/-- A well-formed trade, told apart from the presented ones by its raw id and by its key. If it
is new, there is room in the buffer of its unknown order, or its known order takes it. -/
def takes (trade : Trade) : Prop :=
  (blank trade.tradeId = false ∧ blank trade.orderId = false ∧ 0 ≤ trade.quantity ∧
    (feed.manager.recorder.executionLedger.isSome = true → 0 < trade.quantity)) ∧
  (∀ earlier ∈ feed.presented, earlier.tradeId = trade.tradeId ∨
    TradeIdKey.fromTrade earlier = .fromTrade trade → earlier = trade) ∧
  (trade ∉ feed.presented →
    (feed.manager.book.orders.get trade.orderId = none →
      (feed.buffer trade.orderId).length < TradeRecorder.pendingTradesMaxPerOrder) ∧
    ∀ order ∈ feed.manager.book.orders.get trade.orderId,
      order.filledQuantity + trade.quantity ≤ order.quantity ∧
        order.allows (OrderPositionUpdater.filledStatus order trade) = true)

/-- A trade fits when it can be buffered or applied; a snapshot when it has the filled quantity
of the book and takes every trade presented for it, in a status that fills where trades wait; a
placement when no trade waits for an order that it introduces. -/
def fits : BookOperation → Prop
  | .recordTrade trade _ => feed.takes trade
  | .upsertOrder order now => feed.manager.passes order now = true →
      order.filledQuantity = feed.manager.book.filled order.orderId ∧
      quantityFor order.orderId feed.presented ≤ order.quantity ∧
      (feed.buffer order.orderId = [] ∨ order.status = .OPEN ∨ order.status = .PARTIALLY_FILLED)
  | .placeOrder request answers => 0 ≤ request.quantity ∧
      (∀ trade ∈ feed.presented, trade.orderId ≠ answers.orderId) ∧
      ∀ outside ∈ answers.introduced, feed.adopts outside
  | _ => True

/-- No trade was applied twice, every presented trade of a known order was applied, and the
order's filled quantity is the sum of its distinct trades, up to its quantity. -/
structure AppliedOnce : Prop where
  once : feed.applied.Nodup
  all : ∀ trade ∈ feed.presented, feed.manager.book.orders.contains trade.orderId = true → trade ∈ feed.applied
  filled : ∀ id order, feed.manager.book.orders.get id = some order →
    order.filledQuantity = min order.quantity (quantityFor id feed.presented)

/-- A trade that was presented waits for its unknown order, or has been applied; nothing else waits. -/
structure Settled (durable : Bool) : Prop where
  presentable : Presentable durable feed.presented
  held : Applied durable feed.presented feed.manager.recorder feed.manager.book feed.applied
  durable : feed.manager.recorder.executionLedger.isSome = durable
  waiting : ∀ trade ∈ feed.presented, trade ∉ feed.applied → trade ∈ feed.buffer trade.orderId
  buffered : ∀ id, ∀ trade ∈ feed.buffer id, trade ∈ feed.presented ∧ trade.orderId = id ∧
    feed.manager.book.orders.get id = none

variable {feed} {durable : Bool} {trade : Trade} {order : Order} {now : ℚ}

/-- A trade that is taken joins the presented ones. -/
theorem Settled.presentable_present (settled : feed.Settled durable) (takes : feed.takes trade) :
    Presentable durable (feed.present trade) := by
  obtain ⟨⟨named, ordered, nonneg, positive⟩, apart, -⟩ := takes
  have former := settled.presentable
  unfold present
  split
  · exact former
  · next new =>
    refine ⟨List.nodup_cons.mpr ⟨new, former.distinct⟩, ?_, ?_, ?_, ?_, ?_⟩
    · intro first firstListed second secondListed same
      rcases List.mem_cons.mp firstListed with rfl | earlier
      · rcases List.mem_cons.mp secondListed with rfl | other
        · rfl
        · exact (apart second other (same.imp Eq.symm Eq.symm)).symm
      · rcases List.mem_cons.mp secondListed with rfl | other
        · exact apart first earlier same
        · exact former.apart first earlier second other same
    · exact List.forall_mem_cons.mpr ⟨named, former.named⟩
    · exact List.forall_mem_cons.mpr ⟨ordered, former.ordered⟩
    · exact List.forall_mem_cons.mpr ⟨nonneg, former.nonneg⟩
    · intro isLedger
      exact List.forall_mem_cons.mpr ⟨positive (settled.durable.trans isLedger), former.positive isLedger⟩

theorem mem_present (feed : LateFeed cache) (trade : Trade) : trade ∈ feed.present trade := by
  unfold present
  split
  · next listed => exact listed
  · exact List.mem_cons_self

theorem present_mono (feed : LateFeed cache) (trade : Trade) : ∀ listed ∈ feed.presented, listed ∈ feed.present trade := by
  intro listed member
  unfold present
  split
  · exact member
  · exact List.mem_cons_of_mem _ member

theorem present_new (feed : LateFeed cache) {listed : Trade} (member : listed ∈ feed.present trade) :
    listed = trade ∨ listed ∈ feed.presented := by
  unfold present at member
  split at member
  · exact .inr member
  · exact List.mem_cons.mp member

/-- A trade of an unknown order waits in the buffer. -/
theorem Settled.buffer (settled : feed.Settled durable) (presentable : Presentable durable (feed.present trade))
    (takes : feed.takes trade) (unknown : feed.manager.book.orders.get trade.orderId = none) :
    Settled { feed with
      manager := { feed.manager with recorder := feed.manager.recorder.buffered trade }
      presented := feed.present trade } durable := by
  have held := settled.held.mono (feed.present_mono trade)
  have waits : ∀ id, LateFeed.buffer { feed with
      manager := { feed.manager with recorder := feed.manager.recorder.buffered trade }
      presented := feed.present trade } id =
      if id = trade.orderId ∧ (feed.buffer id).length < TradeRecorder.pendingTradesMaxPerOrder then
        feed.buffer id ++ [trade] else feed.buffer id :=
    fun id => TradeRecorder.buffered_get feed.manager.recorder trade id
  refine ⟨presentable, held.pended _, settled.durable, ?_, ?_⟩
  · intro listed member new
    rw [waits]
    rcases feed.present_new member with rfl | former
    · by_cases before : listed ∈ feed.presented
      · have there := settled.waiting listed before new
        split
        · exact List.mem_append_left _ there
        · exact there
      · have room := (takes.2.2 before).1 unknown
        rw [if_pos ⟨rfl, room⟩]
        exact List.mem_append_right _ (List.mem_singleton_self _)
    · have there := settled.waiting listed former new
      split
      · exact List.mem_append_left _ there
      · exact there
  · intro id listed member
    rw [waits] at member
    have former : ∀ listed ∈ feed.buffer id, listed ∈ feed.present trade ∧ listed.orderId = id ∧
        feed.manager.book.orders.get id = none := by
      intro listed member
      obtain ⟨presented, here, absent⟩ := settled.buffered id listed member
      exact ⟨feed.present_mono trade listed presented, here, absent⟩
    split at member
    · next here =>
      rcases List.mem_append.mp member with earlier | added
      · exact former listed earlier
      · rw [List.mem_singleton.mp added, here.1]
        exact ⟨feed.mem_present trade, rfl, unknown⟩
    · exact former listed member

/-- A new trade of a known order is applied. -/
theorem Settled.apply {after : TradeRecorder} {updated : Order} {fill : FillEvent}
    (settled : feed.Settled durable) (presentable : Presentable durable (feed.present trade))
    (new : trade ∉ feed.applied) (known : feed.manager.book.orders.get trade.orderId = some order)
    (built : FillReducer.fillFromTrade trade.tradeId trade.orderId trade.quantity order.filledQuantity
      trade.price = .ok fill)
    (room : order.filledQuantity + trade.quantity ≤ order.quantity)
    (applies : OrderPositionUpdater.applyTrade order trade = .ok updated)
    (keeps : TradeRecorder.Keeps feed.manager.recorder after trade fill) :
    Settled { feed with
      manager := { feed.manager with recorder := after, book := feed.manager.book.store updated }
      presented := feed.present trade
      applied := trade :: feed.applied } durable := by
  have held := settled.held.mono (feed.present_mono trade)
  have here : updated.orderId = trade.orderId :=
    (OrderPositionUpdater.applyTrade_ok applies).1.trans (feed.manager.book.keyed _ _ known)
  have waits : ∀ id, LateFeed.buffer { feed with
      manager := { feed.manager with recorder := after, book := feed.manager.book.store updated }
      presented := feed.present trade
      applied := trade :: feed.applied } id = feed.buffer id :=
    fun id => congrArg (fun pending => (pending.get id).getD []) keeps.pending
  refine ⟨presentable, held.add (feed.mem_present trade) new known built room applies keeps, ?_, ?_, ?_⟩
  · have kept := congrArg Option.isSome keeps.ledger
    rw [Option.isSome_map, Option.isSome_map] at kept
    exact kept.trans settled.durable
  · intro listed member unapplied
    rw [waits]
    obtain ⟨differs, later⟩ := not_or.mp fun either => unapplied (List.mem_cons.mpr either)
    rcases feed.present_new member with same | former
    · exact absurd same differs
    · exact settled.waiting listed former later
  · intro id listed member
    rw [waits] at member
    obtain ⟨former, sameId, unknown⟩ := settled.buffered id listed member
    refine ⟨feed.present_mono trade listed former, sameId, ?_⟩
    rw [OrderBook.store_get, here]
    split
    · next same =>
      rw [same, known] at unknown
      cases unknown
    · exact unknown

/-- A trade that was applied before changes nothing. -/
theorem Settled.ignore (settled : feed.Settled durable) (before : trade ∈ feed.applied) :
    feed.present trade = feed.presented :=
  if_pos (settled.held.presented trade before)

theorem Settled.recordTrade {after : LateFeed cache} (settled : feed.Settled durable)
    (takes : feed.takes trade) (taken : feed.step (.recordTrade trade now) = some after) :
    after.Settled durable := by
  have presentable := settled.presentable_present takes
  have held := settled.held.mono (feed.present_mono trade)
  have member := feed.mem_present trade
  unfold step OrderManager.recordTrade at taken
  dsimp only at taken
  rw [← Option.some.inj taken]
  by_cases before : trade ∈ feed.applied
  · obtain ⟨outcome, ignored, unaccepted⟩ := settled.held.ignores settled.presentable before now
    rw [ignored]
    dsimp only
    rw [unaccepted, settled.ignore before, if_neg Bool.false_ne_true]
    exact settled
  · cases known : feed.manager.book.orders.get trade.orderId with
    | none =>
      have buffered : feed.manager.recorder.recordTrade feed.manager.book trade now =
          (feed.manager.recorder.buffered trade, feed.manager.book, .unknownOrder) := by
        unfold TradeRecorder.recordTrade
        rw [takes.1.1, if_neg Bool.false_ne_true]
        dsimp only
        rw [held.unprocessed presentable member before, if_neg Bool.false_ne_true, known]
      rw [buffered]
      exact settled.buffer presentable takes known
    | some order =>
      have new : trade ∉ feed.presented := by
        intro listed
        obtain ⟨-, -, unknown⟩ := settled.buffered _ trade (settled.waiting trade listed before)
        rw [known] at unknown
        cases unknown
      obtain ⟨room, allowed⟩ := (takes.2.2 new).2 order known
      obtain ⟨fill, persisted, reaches⟩ := held.reaches presentable member before known room now
      obtain ⟨after, updated, recorded, applies, keeps⟩ := reaches.applies allowed
      rw [recorded]
      exact settled.apply presentable before known reaches.built room applies keeps

/-- The operation leaves the trades as they are, and writes orders with the filled quantities of
the book that no trade waits for. -/
theorem Settled.rewritten {manager : OrderManager cache} (settled : feed.Settled durable)
    (recorder : manager.recorder = feed.manager.recorder)
    (writes : ∀ id, manager.book.orders.get id = feed.manager.book.orders.get id ∨
      ∃ order, manager.book.orders.get id = some order ∧ feed.buffer id = [] ∧
        order.filledQuantity = feed.manager.book.filled id ∧ order.filledQuantity ≤ order.quantity) :
    Settled { feed with manager := manager } durable := by
  have waits : ∀ id, LateFeed.buffer { feed with manager := manager } id = feed.buffer id := by
    intro id
    unfold LateFeed.buffer
    rw [recorder]
  refine ⟨settled.presentable, ?_, ?_, ?_, ?_⟩
  · dsimp only
    rw [recorder]
    apply settled.held.rewritten
    intro id
    exact (writes id).imp_right fun ⟨order, found, _, filled, room⟩ => ⟨order, found, filled, room⟩
  · dsimp only
    rw [recorder]
    exact settled.durable
  · intro listed member new
    rw [waits]
    exact settled.waiting listed member new
  · intro id listed member
    rw [waits] at member
    obtain ⟨presented, here, unknown⟩ := settled.buffered id listed member
    refine ⟨presented, here, ?_⟩
    rcases writes id with kept | ⟨order, -, silent, -⟩
    · exact kept.trans unknown
    · rw [silent] at member
      cases member

theorem Settled.placeOrder {request : OmsOrderCommand} {answers : OrderManager.PlaceAnswers}
    (settled : feed.Settled durable) (fits : feed.fits (.placeOrder request answers))
    (fresh : feed.manager.book.orders.get answers.orderId = none) :
    Settled { feed with manager := (feed.manager.placeOrder request answers).1 } durable := by
  obtain ⟨nonneg, absent, adopted⟩ := fits
  apply settled.rewritten OrderManager.placeOrder_kept.2
  intro id
  rcases @OrderManager.placeOrder_get _ _ request _ fresh id with kept | ⟨order, found, here, adopts⟩
  · exact .inl kept
  · right
    refine ⟨order, found, ?_⟩
    rcases adopts with ⟨outside, given, sameId, sameFilled, sameQuantity⟩ | ⟨drawn, nothing, quantity⟩
    · obtain ⟨silent, filled, room⟩ := adopted outside given
      rw [← here, sameId, sameFilled, sameQuantity]
      exact ⟨silent, filled, room⟩
    · rw [← here, drawn, nothing, quantity]
      refine ⟨?_, ?_, by exact_mod_cast nonneg⟩
      · apply List.eq_nil_iff_forall_not_mem.mpr
        intro listed member
        obtain ⟨presented, same, -⟩ := settled.buffered _ listed member
        exact absent listed presented same
      · rw [OrderBook.filled, fresh]
        rfl

/-- The snapshot's filled quantity is that of the book, and it takes all that was presented. -/
theorem Settled.store_writes (settled : feed.Settled durable)
    (filled : order.filledQuantity = feed.manager.book.filled order.orderId)
    (room : quantityFor order.orderId feed.presented ≤ order.quantity) (id : String) :
    (feed.manager.book.store order).orders.get id = feed.manager.book.orders.get id ∨
      ∃ stored, (feed.manager.book.store order).orders.get id = some stored ∧ stored.orderId = id ∧
        order = stored ∧ stored.filledQuantity = feed.manager.book.filled id ∧
        stored.filledQuantity ≤ stored.quantity := by
  rw [OrderBook.store_get]
  split
  · next here =>
    subst here
    right
    refine ⟨order, rfl, rfl, rfl, filled, ?_⟩
    rw [filled, settled.held.book_filled]
    apply le_trans _ room
    apply quantityFor_le settled.held.distinct settled.presentable.distinct settled.presentable.nonneg
    intro trade listed _
    exact settled.held.presented trade listed
  · exact .inl rfl

/-- The flush behind a stored snapshot applies what waited for its order. -/
theorem Settled.flush (settled : feed.Settled durable)
    (filled : order.filledQuantity = feed.manager.book.filled order.orderId)
    (room : quantityFor order.orderId feed.presented ≤ order.quantity)
    (fillable : feed.buffer order.orderId = [] ∨ order.Fillable)
    (validator : OrderStateValidator cache) (now : ℚ) :
    Settled { feed with
      manager := { feed.manager with
        validator := validator
        recorder := (feed.manager.recorder.flushPendingTradesLocked (feed.manager.book.store order)
          order.orderId now).1
        book := (feed.manager.recorder.flushPendingTradesLocked (feed.manager.book.store order)
          order.orderId now).2.1 }
      applied := (feed.manager.recorder.flushPendingTradesLocked (feed.manager.book.store order)
        order.orderId now).2.2.1.reverse ++ feed.applied } durable := by
  have stored := settled.held.rewritten fun id => (settled.store_writes filled room id).imp_right
    fun ⟨other, found, _, _, same, fits⟩ => ⟨other, found, same, fits⟩
  have known : (feed.manager.book.store order).orders.get order.orderId = some order := by
    rw [OrderBook.store_get, if_pos rfl]
  let popped : TradeRecorder := { feed.manager.recorder with
    pendingTradesByOrder := feed.manager.recorder.pendingTradesByOrder.pop order.orderId }
  have held : Applied durable feed.presented popped (feed.manager.book.store order) feed.applied := stored.pended _
  have each : ∀ trade ∈ feed.buffer order.orderId, trade ∈ feed.presented ∧ trade.orderId = order.orderId := by
    intro trade member
    obtain ⟨presented, here, -⟩ := settled.buffered _ trade member
    exact ⟨presented, here⟩
  obtain ⟨after, flushed, newly, ran, stays, all, pending, attached, same⟩ :
      ∃ after flushed newly, popped.flushTrades (feed.manager.book.store order) now (feed.buffer order.orderId) =
          (after, flushed, newly, none) ∧
        Applied durable feed.presented after flushed (newly.reverse ++ feed.applied) ∧
        (∀ trade ∈ feed.buffer order.orderId, trade ∈ newly.reverse ++ feed.applied) ∧
        after.pendingTradesByOrder = popped.pendingTradesByOrder ∧
        after.executionLedger.isSome = popped.executionLedger.isSome ∧
        ∀ other, flushed.orders.contains other = (feed.manager.book.store order).orders.contains other := by
    rcases fillable with silent | fillable
    · rw [silent]
      exact ⟨popped, feed.manager.book.store order, [], rfl, held, (by rintro trade ⟨⟩), rfl, rfl, fun _ => rfl⟩
    · exact held.flushes settled.presentable now _ each known fillable room
  have flushes : feed.manager.recorder.flushPendingTradesLocked (feed.manager.book.store order) order.orderId now =
      (after, flushed, newly, none) := ran
  rw [flushes]
  have waits : ∀ id, LateFeed.buffer { feed with
      manager := { feed.manager with validator := validator, recorder := after, book := flushed }
      applied := newly.reverse ++ feed.applied } id = if id = order.orderId then [] else feed.buffer id := by
    intro id
    unfold LateFeed.buffer
    dsimp only
    rw [pending]
    dsimp only [popped]
    rw [Dict.get_pop]
    split <;> rfl
  refine ⟨settled.presentable, stays, attached.trans settled.durable, ?_, ?_⟩
  · intro listed member new
    rw [waits]
    have unapplied : listed ∉ feed.applied := fun before => new (List.mem_append_right _ before)
    have there := settled.waiting listed member unapplied
    split
    · next here =>
      rw [here] at there
      exact absurd (all listed there) new
    · exact there
  · intro id listed member
    rw [waits] at member
    split at member
    · cases member
    · next other =>
      obtain ⟨presented, here, unknown⟩ := settled.buffered id listed member
      refine ⟨presented, here, ?_⟩
      have contained := same id
      rw [Dict.contains, Dict.contains, OrderBook.store_get, if_neg other, unknown] at contained
      exact Option.isNone_iff_eq_none.mp (Option.isSome_eq_false_iff.mp contained)

theorem Settled.upsertOrder (settled : feed.Settled durable) (fits : feed.fits (.upsertOrder order now)) :
    Settled { feed with
      manager := (feed.manager.upsertOrder order now).1
      applied := (feed.manager.upsertOrder order now).2.1.reverse ++ feed.applied } durable := by
  have upserts := feed.manager.upsertOrder_upserts order now
  generalize feed.manager.upsertOrder order now = upserted at upserts ⊢
  cases upserts with
  | refused validator error refused => exact settled.rewritten rfl fun id => .inl rfl
  | changed validator error passed changes =>
    obtain ⟨filled, room, -⟩ := fits passed
    have kept : OrderManager.recorder { feed.manager with
        validator := validator
        book := feed.manager.book.store order } = feed.manager.recorder := rfl
    apply settled.rewritten kept
    intro id
    refine (settled.store_writes filled room id).imp_right ?_
    rintro ⟨stored, found, here, rfl, same, fits⟩
    refine ⟨order, found, here ▸ ?_, same, fits⟩
    -- a changed status is that of a known order, for which no trade waits
    apply List.eq_nil_iff_forall_not_mem.mpr
    intro trade member
    obtain ⟨-, -, unknown⟩ := settled.buffered _ trade member
    rw [OrderManager.changesStatus, unknown] at changes
    cases changes
  | flushed validator recorder book ends passed stays flushes =>
    obtain ⟨filled, room, silent⟩ := fits passed
    have flushed := settled.flush filled room (silent.imp_right (Or.imp_right .inl)) validator now
    rw [flushes] at flushed
    exact flushed

theorem Settled.step {operation : BookOperation} {after : LateFeed cache} (settled : feed.Settled durable)
    (fits : feed.fits operation) (taken : feed.step operation = some after) : after.Settled durable := by
  cases operation with
  | recordTrade trade now => exact settled.recordTrade fits taken
  | upsertOrder order now =>
    cases taken
    exact settled.upsertOrder fits
  | placeOrder request answers =>
    obtain ⟨manager, operated, rfl⟩ := Option.map_eq_some_iff.mp taken
    unfold OrderManager.operate at operated
    dsimp only at operated
    split at operated
    · cases operated
    · next absent =>
      cases operated
      rw [Bool.not_eq_true, Dict.contains, Option.isSome_eq_false_iff, Option.isNone_iff_eq_none] at absent
      exact settled.placeOrder fits absent
  | cancelOrder orderId blocked answer =>
    cases taken
    rw [OrderManager.cancelOrder_kept]
    exact settled
  | modifyOrder request blocked answer =>
    cases taken
    rw [OrderManager.modifyOrder_kept]
    exact settled

theorem Settled.appliedOnce (settled : feed.Settled durable) : feed.AppliedOnce := by
  have all : ∀ trade ∈ feed.presented, feed.manager.book.orders.contains trade.orderId = true →
      trade ∈ feed.applied := by
    intro trade member known
    by_contra new
    obtain ⟨-, -, unknown⟩ := settled.buffered _ trade (settled.waiting trade member new)
    rw [Dict.contains, unknown] at known
    cases known
  refine ⟨settled.held.distinct, all, ?_⟩
  intro id order found
  obtain ⟨filled, room⟩ := settled.held.filled id order found
  have whole : quantityFor id feed.applied = quantityFor id feed.presented := by
    apply le_antisymm
    · apply quantityFor_le settled.held.distinct settled.presentable.distinct settled.presentable.nonneg
      intro trade listed _
      exact settled.held.presented trade listed
    · apply quantityFor_le settled.presentable.distinct settled.held.distinct
      · intro trade listed
        exact settled.presentable.nonneg trade (settled.held.presented trade listed)
      · rintro trade listed rfl
        apply all trade listed
        rw [Dict.contains, found]
        rfl
  rw [← whole, ← filled, min_eq_right room]

/-- A new order manager, with or without a repository of processed trades and with any ledger. -/
def start (repository : Bool) (ledger : Option ExecutionLedger) (validator : OrderStateValidator cache) :
    LateFeed cache where
  manager := {
    recorder := { processedTrades := if repository = true then some [] else none, executionLedger := ledger }
    validator := validator }

/-- Over every sequence of operations on a new order manager, every distinct trade of a known
order is applied to it once, whenever and by whichever operation the order was introduced, as
long as every operation fits and an attached ledger takes every fill. -/
theorem late_trades_applied (repository : Bool) (ledger : Option ExecutionLedger)
    (validator : OrderStateValidator cache) (operations : List BookOperation) (after : LateFeed cache)
    (takes : ∀ attached ∈ ledger, ∀ record, attached.refuses record = false)
    (run : exec step (start repository ledger validator) operations = some after)
    (met : Meets step fits (start repository ledger validator) operations) : after.AppliedOnce := by
  have initial : (start repository ledger validator).Settled ledger.isSome := by
    refine ⟨.nil _, .nil repository takes id, rfl, ?_, ?_⟩
    · rintro trade ⟨⟩
    · rintro id trade ⟨⟩
  have preserved : ∀ (feed : LateFeed cache) operation next, feed.Settled ledger.isSome → feed.fits operation →
      feed.step operation = some next → next.Settled ledger.isSome :=
    fun _ _ _ settled fits taken => settled.step fits taken
  have settled := exec_invariant preserved initial met run
  exact settled.appliedOnce

instance (feed : LateFeed cache) (trade : Trade) : Decidable (feed.takes trade) :=
  inferInstanceAs (Decidable (_ ∧ _ ∧ (_ → _ ∧ _)))

instance (feed : LateFeed cache) : (operation : BookOperation) → Decidable (feed.fits operation)
  | .recordTrade trade _ => inferInstanceAs (Decidable (feed.takes trade))
  | .upsertOrder order now => inferInstanceAs (Decidable (feed.manager.passes order now = true →
      order.filledQuantity = feed.manager.book.filled order.orderId ∧
      quantityFor order.orderId feed.presented ≤ order.quantity ∧
      (feed.buffer order.orderId = [] ∨ order.status = .OPEN ∨ order.status = .PARTIALLY_FILLED)))
  | .placeOrder request answers => inferInstanceAs (Decidable (0 ≤ request.quantity ∧
      (∀ trade ∈ feed.presented, trade.orderId ≠ answers.orderId) ∧
      ∀ outside ∈ answers.introduced, feed.buffer outside.orderId = [] ∧
        outside.filledQuantity = feed.manager.book.filled outside.orderId ∧
        outside.filledQuantity ≤ outside.quantity))
  | .cancelOrder .. | .modifyOrder .. => isTrue trivial

def reportedOrder : Order where
  orderId := "220901"
  symbol := "RELIANCE"
  exchange := "NSE"
  side := .BUY
  orderType := .LIMIT
  quantity := 10

def partFill (tradeId : String) (quantity : ℚ) : Trade where
  tradeId := tradeId
  orderId := "220901"
  symbol := "RELIANCE"
  exchange := "NSE"
  side := .BUY
  quantity := quantity
  price := 2500

def validatorCache : TTLCache Nat := leastRecentlyUsed Nat 10000 86400

/-- Two fills before the snapshot that introduces their order, one of them twice, and one behind it. -/
def earlyFills : List BookOperation := [
  .recordTrade (partFill "T1" 4) 0, .recordTrade (partFill "T2" 3) 1, .recordTrade (partFill "T1" 4) 2,
  .upsertOrder reportedOrder 3, .recordTrade (partFill "T3" 3) 4, .recordTrade (partFill "T2" 3) 5]

theorem late_trades_applied_early : ∃ after,
    exec step (start true none ({} : OrderStateValidator validatorCache)) earlyFills = some after ∧
      after.manager.book.filled "220901" = 10 ∧ after.AppliedOnce := by
  have runs : (exec step (start true none ({} : OrderStateValidator validatorCache)) earlyFills).map
      (·.manager.book.filled "220901") = some 10 := by decide +kernel
  obtain ⟨after, run, ten⟩ := Option.map_eq_some_iff.mp runs
  exact ⟨after, run, ten, late_trades_applied true none {} _ after (by rintro attached ⟨⟩) run (by decide +kernel)⟩

/-- The answer of a placement that the broker accepts under the order's id. -/
def acceptedPlacement : BookOperation :=
  .placeOrder
    { symbol := "RELIANCE", exchange := "NSE", side := .BUY, quantity := 10, orderType := .LIMIT,
      correlationId := "6f1c", correlationId_present := sampleId_present }
    { now := 1, orderId := "OM-1", submission := some { brokerCall := .ok reportedOrder } }

/-- The fill arrives before the placement has introduced its order, which never flushes it. -/
def filledBeforePlaced : List BookOperation := [.recordTrade (partFill "T1" 4) 0, acceptedPlacement]

theorem late_trades_lost :
    (exec step (start true none ({} : OrderStateValidator validatorCache)) filledBeforePlaced).map
      (fun after => (after.manager.book.filled "220901", after.presented, after.applied)) =
        some (0, [partFill "T1" 4], []) ∧
    ¬ ∀ (operations : List BookOperation) (after : LateFeed validatorCache),
      exec step (start true none {}) operations = some after → after.AppliedOnce := by
  have lost : (exec step (start true none ({} : OrderStateValidator validatorCache)) filledBeforePlaced).map
      (fun after => (after.manager.book.filled "220901", after.presented, after.applied)) =
        some (0, [partFill "T1" 4], []) := by decide +kernel
  have contained : (exec step (start true none ({} : OrderStateValidator validatorCache)) filledBeforePlaced).map
      (fun after => after.manager.book.orders.contains "220901") = some true := by decide +kernel
  refine ⟨lost, fun claim => ?_⟩
  obtain ⟨after, run, ends⟩ := Option.map_eq_some_iff.mp lost
  rw [run] at contained
  have presented : after.presented = [partFill "T1" 4] := congrArg (·.2.1) ends
  have applied : after.applied = [] := congrArg (·.2.2) ends
  have member := (claim _ after run).all (partFill "T1" 4) (by rw [presented]; exact List.mem_singleton_self _)
    (Option.some.inj contained)
  rw [applied] at member
  cases member

end LateFeed

end TradeX.V1
